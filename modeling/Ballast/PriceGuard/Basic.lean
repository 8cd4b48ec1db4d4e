/-
`PriceGuard`: the median, band, staleness and halt rules between
published readings and a price the other contracts act on.

Readings are stored per (asset, source name), with the known names of
an asset in a list of their own. `evaluate` runs on every publish,
every removal and every read. It judges the fresh readings (`judge`)
and writes back what the verdict implies: a new baseline (`lastGood`,
and once per window `rollingReference`), or a halt latch that only
`confirmHaltCleared` opens again.

The sort is the source's: in place, in a buffer of eight (`SortBuf`).
The NAV signature check is the host's `ed25519_verify`, a predicate of
the environment here; what is signed is built byte for byte
(`buildNavMessage`).
-/
import Ballast.Common.Risk
import Ballast.Common.Access
import Ballast.Soroban.Machine

namespace Ballast.PriceGuard

open Soroban

-- ============================================================ constants

/-- `ISSUER_SOURCE`. -/
def issuerSource : Symbol := "issuer"

/-- `MAX_FUTURE_SKEW_S`. -/
def maxFutureSkewS : Nat := 60

-- ============================================================== storage

structure AssetGuardConfig where
  bandBps : Nat
  dailyMoveBandBps : Nat
  maxStalenessS : Nat
  windowSeconds : Nat
  windowMoveBandBps : Nat
  deriving DecidableEq, Repr

inductive ConfigChange where
  | bandBps (asset : Address) (val : Nat)
  | dailyMoveBandBps (asset : Address) (val : Nat)
  | windowSeconds (asset : Address) (val : Nat)
  | windowMoveBandBps (asset : Address) (val : Nat)
  | maxStalenessSeconds (asset : Address) (val : Nat)
  | asset (asset : Address) (band daily winSec winMove staleness : Nat)
  | issuerPubKey (asset : Address) (key : BytesN 32)
  | requireNavSignature (val : Bool)
  deriving DecidableEq, Repr

structure PendingConfigChange where
  change : ConfigChange
  executesAt : Nat
  deriving DecidableEq, Repr

structure NavRecord where
  value : Int
  ts : Nat
  sig : BytesN 64
  deriving DecidableEq, Repr

inductive Event where
  | statusChanged (asset : Address) (src dst : PriceStatus) (value : Int)
  | haltLatched (asset : Address) (held median : Int)
  | haltCleared (asset : Address) (lastGood : Int)
  | configureAsset (asset : Address) (config : AssetGuardConfig)
  | configureIssuerKey (asset : Address) (key : BytesN 32)
  | configureSignatureRequirement (required : Bool)
  | sourceRemoved (asset : Address) (name : Symbol)
  | navPublished (asset : Address) (name : Symbol) (value : Int) (ts : Nat)
  | sourcePublished (asset : Address) (name : Symbol) (value : Int)
      (ts : Nat)
  | configQueued (id : Nat) (change : ConfigChange) (executesAt : Nat)
  | configCancelled (id : Nat) (change : ConfigChange)
  | configExecuted (id : Nat) (change : ConfigChange)
  | queueUpgrade (id : Nat) (hash : BytesN 32) (executesAt : Nat)
  | cancelUpgrade (id : Nat)
  | executeUpgrade (id : Nat) (hash : BytesN 32)
  deriving DecidableEq, Repr

structure State where
  roles : Option Roles
  pendingAdmin : Option Address
  pendingRoleChange : Store Nat PendingRoleChange
  pendingUpgrade : Store Nat PendingUpgrade
  /-- the code an executed upgrade put in place of this one -/
  wasm : Option (BytesN 32)
  nextId : Nat
  config : Store Address AssetGuardConfig
  source : Store (Address × Symbol) PriceSource
  srcNames : Store Address (List Symbol)
  navRecord : Store Address NavRecord
  lastGood : Store Address Int
  rollingReference : Store Address Int
  rollingReferenceUpdated : Store Address Nat
  halted : Store Address Bool
  pendingHaltValue : Store Address Int
  issuerPubKey : Store Address (BytesN 32)
  requireNavSignature : Option Bool
  lastStatus : Store Address PriceStatus
  pendingConfig : Store Nat PendingConfigChange
  events : List Event

/-- A contract nothing has been written to. -/
def State.empty : State where
  roles := none
  pendingAdmin := none
  pendingRoleChange := Store.empty
  pendingUpgrade := Store.empty
  wasm := none
  nextId := 0
  config := Store.empty
  source := Store.empty
  srcNames := Store.empty
  navRecord := Store.empty
  lastGood := Store.empty
  rollingReference := Store.empty
  rollingReferenceUpdated := Store.empty
  halted := Store.empty
  pendingHaltValue := Store.empty
  issuerPubKey := Store.empty
  requireNavSignature := none
  lastStatus := Store.empty
  pendingConfig := Store.empty
  events := []

/-- What an invocation sees: the host, with its signature check. -/
structure GuardEnv extends HostEnv where
  ed25519Verify : BytesN 32 → Bytes → BytesN 64 → Bool

/-- The same transaction, run in the contract at `self`. -/
def GuardEnv.at (env : GuardEnv) (self : Address) : GuardEnv :=
  { env with self := self }

/-- `env.events().publish`. -/
def publish (s : State) (e : Event) : State :=
  { s with events := s.events ++ [e] }

/-- `admin.require_auth()` followed by `access::require_admin`: two
checks, of the argument and of the stored address. -/
def requireAdminCall (env : GuardEnv) (s : State) (admin : Address) :
    Call Unit := do
  env.requireAuth admin
  let _ ← requireAdmin env.toHostEnv s.roles
  return ()

/-- `require_nav_signature`. -/
def requireNavSignature (s : State) : Bool :=
  s.requireNavSignature.getD true

/-- `read_config`. -/
def readConfig (s : State) (asset : Address) : Call AssetGuardConfig :=
  expect (s.config.get asset) "price-guard: asset not configured"

-- ========================================================== the message

/-- The digit loop of `decimal_ascii`, filling a buffer of `room` bytes
from its end. -/
def digitLoop : Nat → Nat → Bytes → Bytes
  | 0, _, acc => acc
  | room + 1, n, acc =>
      if 0 < n then digitLoop room (n / 10) (UInt8.ofNat (48 + n % 10) :: acc)
      else acc

/-- The ASCII digits of a magnitude in a buffer of `room` bytes. -/
def digitBytes (room n : Nat) : Bytes :=
  if n = 0 then [48] else digitLoop room n []

/-- `decimal_ascii::u64_to_bytes`. -/
def u64ToBytes (n : Nat) : Bytes := digitBytes 20 n

/-- `decimal_ascii::i128_to_bytes`. -/
def i128ToBytes (n : Int) : Bytes :=
  if n < 0 then 45 :: digitBytes 39 n.natAbs else digitBytes 40 n.natAbs

/-- `build_nav_message`: `asset_code:ts:value`. -/
def buildNavMessage (assetCode : Bytes) (ts : Nat) (value : Int) : Bytes :=
  assetCode ++ [58] ++ u64ToBytes ts ++ [58] ++ i128ToBytes value

-- ============================================================== sources

/-- The tracked source names of an asset. -/
def sourceNames (s : State) (asset : Address) : List Symbol :=
  (s.srcNames.get asset).getD []

/-- `write_source`. -/
def writeSource (s : State) (asset : Address) (name : Symbol) (value : Int)
    (observedAt : Nat) : State :=
  { s with
    source := s.source.set (asset, name) ⟨name, value, observedAt, false⟩ }

/-- `track_source_name`. -/
def trackSourceName (s : State) (asset : Address) (name : Symbol) : State :=
  if name ∈ sourceNames s asset then s
  else { s with
    srcNames := s.srcNames.set asset (sourceNames s asset ++ [name]) }

/-- `remove_source_internal`: the first entry of that name, and the
reading. -/
def removeSourceInternal (s : State) (asset : Address) (name : Symbol) :
    State :=
  let s := if name ∈ sourceNames s asset then
      { s with
        srcNames := s.srcNames.set asset ((sourceNames s asset).erase name) }
    else s
  { s with source := s.source.remove (asset, name) }

/-- `read_all_sources`. -/
def readAllSources (s : State) (asset : Address) : List PriceSource :=
  (sourceNames s asset).filterMap fun name => s.source.get (asset, name)

/-- `is_fresh`. -/
def isFresh (env : HostEnv) (source : PriceSource) (maxStalenessS : Nat) :
    Bool :=
  !source.stale
    && decide (source.observedAt ≤ U64.satAdd env.timestamp maxFutureSkewS)
    && decide (env.timestamp - source.observedAt ≤ maxStalenessS)

/-- `require_sane_reading`. -/
def requireSaneReading (env : HostEnv) (value : Int) (ts : Nat) :
    Call Unit := do
  ensure (0 < value) "price-guard: price must be positive"
  ensure (ts ≤ U64.satAdd env.timestamp maxFutureSkewS)
    "price-guard: reading is dated in the future"

-- ============================================================= the sort

/-- `alloc_free_sort::SortBuf`: eight slots, the first `len` in use. -/
structure SortBuf where
  items : Vector Int 8
  len : Nat
  len_le : len ≤ 8

/-- `SortBuf::from`: zero-padded; more values than fit abort. -/
def SortBuf.from (values : List Int) : Call SortBuf :=
  if h : values.length ≤ 8 then
    .ok ⟨⟨(values ++ List.replicate (8 - values.length) 0).toArray, by
      simp; omega⟩, values.length, h⟩
  else .error ("price-guard: more than 8 fresh sources for one asset, raise "
      ++ "SortBuf capacity")

/-- The inner `while`: larger entries move up from `j - 1` down, and
`key` goes into the slot that is left. -/
def shiftIn (key : Int) : (j : Nat) → j < 8 → Vector Int 8 → Vector Int 8
  | 0, _, items => items.set 0 key
  | j + 1, h, items =>
      if key < items[j] then
        shiftIn key j (by omega) (items.set (j + 1) items[j])
      else items.set (j + 1) key

/-- The outer `for i in 1..n`. -/
def insertUpTo (items : Vector Int 8) : (n : Nat) → n ≤ 8 → Vector Int 8
  | 0, _ => items
  | 1, _ => items
  | n + 2, h =>
      let sorted := insertUpTo items (n + 1) (by omega)
      shiftIn sorted[n + 1] (n + 1) (by omega) sorted

/-- `SortBuf::sort`. -/
def SortBuf.sort (b : SortBuf) : SortBuf :=
  { b with items := insertUpTo b.items b.len b.len_le }

/-- The slots in use, as `evaluate` copies them out. -/
def SortBuf.used (b : SortBuf) : List Int := b.items.toList.take b.len

/-- The median rule of `evaluate`, on a sorted buffer. -/
def SortBuf.medianValue (b : SortBuf) : Call Int :=
  have hhi : b.len / 2 < 8 := by
    have h := b.len_le
    omega
  have hlo : b.len / 2 - 1 < 8 := by omega
  if b.len % 2 = 1 then .ok b.items[b.len / 2]
  else (I128.add b.items[b.len / 2 - 1] b.items[b.len / 2]).map
    fun sum => sum.tdiv 2

-- ============================================================ the rules

/-- `within_band`. -/
def withinBand (values : List Int) (bandBps : Nat) : Call Bool :=
  if values.length < 2 then return true
  else do
    let lo ← expect values.min? "called unwrap on a None value"
    let hi ← expect values.max? "called unwrap on a None value"
    if lo ≤ 0 then return false
    else do
      let spread ← I128.sub hi lo
      let scaled ← I128.mul spread 10000
      return decide (scaled.tdiv lo ≤ (bandBps : Int))

/-- The move checks: `value` is further from `reference` than `bandBps`
allows. No reference, or one that is not positive, allows anything. -/
def movedTooFar (reference : Option Int) (value : Int) (bandBps : Nat) :
    Call Bool :=
  match reference with
  | none => return false
  | some r =>
      if 0 < r then do
        let diff ← I128.sub value r
        let dist ← I128.checked "attempt to negate with overflow" |diff|
        let scaled ← I128.mul dist 10000
        return decide ((bandBps : Int) < scaled.tdiv r)
      else return false

/-- `check_and_emit_status_change`. -/
def checkAndEmitStatusChange (s : State) (asset : Address)
    (dst : PriceStatus) (value : Int) : State :=
  let prev := s.lastStatus.get asset
  if prev = some dst then s
  else publish { s with lastStatus := s.lastStatus.set asset dst }
    (.statusChanged asset (prev.getD .degraded) dst value)

/-- What the rules make of the fresh values. -/
inductive Verdict where
  /-- the halt latch is set -/
  | latched
  /-- too few fresh values, or they disagree -/
  | degraded
  /-- a move band was exceeded; `held` is what is reported -/
  | tripped (held median : Int)
  /-- the new price -/
  | agreed (median : Int)
  deriving DecidableEq, Repr

/-- The rules of `evaluate`, in their order. -/
def judge (s : State) (asset : Address) (config : AssetGuardConfig)
    (freshValues : List Int) : Call Verdict :=
  let lastGood := s.lastGood.get asset
  let rollingRef := s.rollingReference.get asset
  if (s.halted.get asset).getD false then return .latched
  else if freshValues.length < 2 then return .degraded
  else do
    let buf ← SortBuf.from freshValues
    let plainValues := buf.sort
    let medianValue ← plainValues.medianValue
    let agree ← withinBand plainValues.used config.bandBps
    if agree = false then return .degraded
    else do
      let daily ← movedTooFar lastGood medianValue config.dailyMoveBandBps
      if daily then return .tripped (lastGood.getD 0) medianValue
      else do
        let drift ← movedTooFar rollingRef medianValue
          config.windowMoveBandBps
        if drift then
          return .tripped (lastGood.getD (rollingRef.getD 0)) medianValue
        else return .agreed medianValue

/-- A halt: the latch, the value that caused it, and the event. -/
def latchHalt (s : State) (asset : Address) (held median : Int) : State :=
  publish { s with
      halted := s.halted.set asset true
      pendingHaltValue := s.pendingHaltValue.set asset median }
    (.haltLatched asset held median)

/-- The rolling reference moves at most once per window. -/
def refreshReference (env : HostEnv) (s : State) (asset : Address)
    (config : AssetGuardConfig) (median : Int) : State :=
  if ((s.rollingReferenceUpdated.get asset).elim true fun ts =>
      decide (config.windowSeconds ≤ env.timestamp - ts)) then
    { s with
      rollingReference := s.rollingReference.set asset median
      rollingReferenceUpdated :=
        s.rollingReferenceUpdated.set asset env.timestamp }
  else s

/-- What `evaluate` writes and reports for a verdict: the storage, the
status and the value. -/
def writeBack (env : HostEnv) (s : State) (asset : Address)
    (config : AssetGuardConfig) : Verdict → State × PriceStatus × Int
  | .latched => (s, .halted, (s.lastGood.get asset).getD 0)
  | .degraded => (s, .degraded, (s.lastGood.get asset).getD 0)
  | .tripped held median => (latchHalt s asset held median, .halted, held)
  | .agreed median =>
      let s := refreshReference env s asset config median
      ({ s with lastGood := s.lastGood.set asset median }, .ok, median)

/-- `evaluate`: the price, and the storage after. -/
def evaluate (env : HostEnv) (asset : Address) (s : State) :
    Call (GuardedPrice × State) := do
  let config ← readConfig s asset
  let freshSources := (readAllSources s asset).filter fun source =>
    isFresh env source config.maxStalenessS
  let verdict ← judge s asset config (freshSources.map (·.value))
  let (s, status, value) := writeBack env s asset config verdict
  return (⟨asset, value, status, env.timestamp, freshSources⟩,
    checkAndEmitStatusChange s asset status value)

-- ================================================================ roles

/-- `initialize`. -/
def initContract (admin pauser keeper pricePublisher risk : Address)
    (s : State) : Call State := do
  ensure (s.roles = none) "price-guard: already initialized"
  return { s with
    roles := some ⟨admin, pauser, keeper, pricePublisher, risk⟩ }

/-- `propose_admin`. -/
def proposeAdmin (env : GuardEnv) (newAdmin : Address) (s : State) :
    Call State := do
  let _ ← requireAdmin env.toHostEnv s.roles
  return { s with pendingAdmin := some newAdmin }

/-- `accept_admin`. -/
def acceptAdmin (env : GuardEnv) (s : State) : Call State := do
  let roles ← Ballast.acceptAdmin env.toHostEnv s.roles s.pendingAdmin
  return { s with roles := some roles, pendingAdmin := none }

/-- `queue_role_change`: the id minted, and the storage after. -/
def queueRoleChange (env : GuardEnv) (role : RoleKind)
    (newAddress : Address) (s : State) : Call (Nat × State) := do
  let _ ← requireAdmin env.toHostEnv s.roles
  let (id, next) ← nextId s.nextId
  let at' ← executesAt env.toHostEnv
  return (id, { s with
    nextId := next
    pendingRoleChange := s.pendingRoleChange.set id
      ⟨role, newAddress, at'⟩ })

/-- `execute_role_change`. -/
def executeRoleChange (env : GuardEnv) (id : Nat) (s : State) :
    Call State := do
  let roles ← Ballast.executeRoleChange env.toHostEnv s.roles
    s.pendingRoleChange id
  return { s with
    roles := some roles
    pendingRoleChange := s.pendingRoleChange.remove id }

/-- `queue_upgrade`: the id minted, and the storage after. -/
def queueUpgrade (env : GuardEnv) (admin : Address)
    (newWasmHash : BytesN 32) (s : State) : Call (Nat × State) := do
  requireAdminCall env s admin
  let (id, next) ← nextId s.nextId
  let at' ← executesAt env.toHostEnv
  return (id, publish { s with
      nextId := next
      pendingUpgrade := s.pendingUpgrade.set id ⟨newWasmHash, at'⟩ }
    (.queueUpgrade id newWasmHash at'))

/-- `cancel_upgrade`. -/
def cancelUpgrade (env : GuardEnv) (admin : Address) (id : Nat)
    (s : State) : Call State := do
  requireAdminCall env s admin
  let _ ← expect (s.pendingUpgrade.get id)
    "ballast-common: no such pending upgrade"
  return publish { s with pendingUpgrade := s.pendingUpgrade.remove id }
    (.cancelUpgrade id)

/-- `execute_upgrade`. -/
def executeUpgrade (env : GuardEnv) (id : Nat) (s : State) :
    Call State := do
  let pending ← expect (s.pendingUpgrade.get id)
    "ballast-common: no such pending upgrade"
  ensure (IsReady env.toHostEnv pending.executesAt)
    "ballast-common: timelock has not elapsed"
  return publish { s with
      wasm := some pending.newWasmHash
      pendingUpgrade := s.pendingUpgrade.remove id }
    (.executeUpgrade id pending.newWasmHash)

-- ======================================================== configuration

/-- `is_loosening` of `configure_asset`. -/
def IsLoosening (old new : AssetGuardConfig) : Prop :=
  old.bandBps < new.bandBps ∨ old.dailyMoveBandBps < new.dailyMoveBandBps
    ∨ old.windowMoveBandBps < new.windowMoveBandBps
    ∨ old.maxStalenessS < new.maxStalenessS
    ∨ new.windowSeconds < old.windowSeconds

instance (old new : AssetGuardConfig) : Decidable (IsLoosening old new) :=
  inferInstanceAs (Decidable (_ ∨ _))

/-- `configure_asset`. -/
def configureAsset (env : GuardEnv) (admin asset : Address)
    (bandBps dailyMoveBandBps windowSeconds windowMoveBandBps
      maxStalenessS : Nat) (s : State) : Call State := do
  requireAdminCall env s admin
  let config : AssetGuardConfig := ⟨bandBps, dailyMoveBandBps,
    maxStalenessS, windowSeconds, windowMoveBandBps⟩
  ensure (∀ old ∈ s.config.get asset, ¬ IsLoosening old config)
    "price-guard: loosening changes must be queued via queue_config"
  return publish { s with
      config := s.config.set asset config
      lastStatus := s.lastStatus.set asset .degraded }
    (.configureAsset asset config)

/-- `configure_issuer_key`. -/
def configureIssuerKey (env : GuardEnv) (admin asset : Address)
    (issuerPubkey : BytesN 32) (s : State) : Call State := do
  requireAdminCall env s admin
  ensure (∀ old ∈ s.issuerPubKey.get asset, old = issuerPubkey)
    "price-guard: rotating issuer key must be queued via queue_config"
  return publish { s with
      issuerPubKey := s.issuerPubKey.set asset issuerPubkey }
    (.configureIssuerKey asset issuerPubkey)

/-- `configure_signature_requirement`. -/
def configureSignatureRequirement (env : GuardEnv) (admin : Address)
    (required : Bool) (s : State) : Call State := do
  requireAdminCall env s admin
  ensure (s.requireNavSignature = some true → required = true)
    ("price-guard: disabling signature requirement must be queued via "
      ++ "queue_config")
  return publish { s with requireNavSignature := some required }
    (.configureSignatureRequirement required)

/-- `queue_config`: the id minted, and the storage after. -/
def queueConfig (env : GuardEnv) (admin : Address) (change : ConfigChange)
    (s : State) : Call (Nat × State) := do
  requireAdminCall env s admin
  let (id, next) ← nextId s.nextId
  let at' ← executesAt env.toHostEnv
  return (id, publish { s with
      nextId := next
      pendingConfig := s.pendingConfig.set id ⟨change, at'⟩ }
    (.configQueued id change at'))

/-- `cancel_config`. -/
def cancelConfig (env : GuardEnv) (admin : Address) (id : Nat)
    (s : State) : Call State := do
  requireAdminCall env s admin
  let pending ← expect (s.pendingConfig.get id)
    "price-guard: no such pending change"
  return publish { s with pendingConfig := s.pendingConfig.remove id }
    (.configCancelled id pending.change)

/-- One field of a stored configuration changes. -/
def updateConfig (s : State) (asset : Address)
    (f : AssetGuardConfig → AssetGuardConfig) : Call State := do
  let config ← readConfig s asset
  return { s with config := s.config.set asset (f config) }

/-- The `match` of `execute_config`. -/
def applyChange (s : State) : ConfigChange → Call State
  | .bandBps asset val =>
      updateConfig s asset fun c => { c with bandBps := val }
  | .dailyMoveBandBps asset val =>
      updateConfig s asset fun c => { c with dailyMoveBandBps := val }
  | .windowSeconds asset val =>
      updateConfig s asset fun c => { c with windowSeconds := val }
  | .windowMoveBandBps asset val =>
      updateConfig s asset fun c => { c with windowMoveBandBps := val }
  | .maxStalenessSeconds asset val =>
      updateConfig s asset fun c => { c with maxStalenessS := val }
  | .asset asset band daily winSec winMove staleness =>
      return { s with
        config := s.config.set asset
          ⟨band, daily, staleness, winSec, winMove⟩ }
  | .issuerPubKey asset key =>
      return { s with issuerPubKey := s.issuerPubKey.set asset key }
  | .requireNavSignature val =>
      return { s with requireNavSignature := some val }

/-- `execute_config`. -/
def executeConfig (env : GuardEnv) (id : Nat) (s : State) :
    Call State := do
  let pending ← expect (s.pendingConfig.get id)
    "price-guard: no such pending change"
  ensure (IsReady env.toHostEnv pending.executesAt)
    "price-guard: timelock has not elapsed"
  let s ← applyChange s pending.change
  return publish { s with pendingConfig := s.pendingConfig.remove id }
    (.configExecuted id pending.change)

-- ============================================================= readings

/-- `remove_source`. -/
def removeSource (env : GuardEnv) (admin asset : Address) (name : Symbol)
    (s : State) : Call State := do
  requireAdminCall env s admin
  let _ ← readConfig s asset
  let s := publish (removeSourceInternal s asset name)
    (.sourceRemoved asset name)
  let (_, s) ← evaluate env.toHostEnv asset s
  return s

/-- What both publishers check first. -/
def requirePublisher (env : GuardEnv) (publisher asset : Address)
    (value : Int) (ts : Nat) (s : State) : Call Unit := do
  env.requireAuth publisher
  let _ ← requirePricePublisher env.toHostEnv s.roles
  let _ ← readConfig s asset
  requireSaneReading env.toHostEnv value ts

/-- The signature check of `publish_nav`. -/
def verifyNav (env : GuardEnv) (asset : Address) (assetCode : Bytes)
    (value : Int) (ts : Nat) (sig : BytesN 64) (s : State) : Call Unit :=
  if requireNavSignature s then do
    let issuerPubkey ← expect (s.issuerPubKey.get asset)
      ("price-guard: no issuer public key configured for asset (call "
        ++ "configure_issuer_key)")
    ensure (env.ed25519Verify issuerPubkey
        (buildNavMessage assetCode ts value) sig = true)
      "host: failed ED25519 verification"
  else return ()

/-- `publish_nav`. -/
def publishNav (env : GuardEnv) (publisher asset : Address)
    (assetCode : Bytes) (value : Int) (ts : Nat) (sig : BytesN 64)
    (s : State) : Call State := do
  requirePublisher env publisher asset value ts s
  verifyNav env asset assetCode value ts sig s
  let s := { s with navRecord := s.navRecord.set asset ⟨value, ts, sig⟩ }
  let s := writeSource (trackSourceName s asset issuerSource) asset
    issuerSource value ts
  let s := publish s (.navPublished asset issuerSource value ts)
  let (_, s) ← evaluate env.toHostEnv asset s
  return s

/-- `publish_source`. -/
def publishSource (env : GuardEnv) (publisher asset : Address)
    (source : Symbol) (value : Int) (ts : Nat) (s : State) :
    Call State := do
  requirePublisher env publisher asset value ts s
  let s := writeSource (trackSourceName s asset source) asset source value
    ts
  let s := publish s (.sourcePublished asset source value ts)
  let (_, s) ← evaluate env.toHostEnv asset s
  return s

/-- `guarded_price`, and `lastprice`, which is the same. -/
def guardedPrice (env : GuardEnv) (asset : Address) (s : State) :
    Call (GuardedPrice × State) :=
  evaluate env.toHostEnv asset s

/-- The value that tripped the halt becomes the baseline; the value
reported is that, or the last good one, or zero. -/
def promotePending (env : HostEnv) (s : State) (asset : Address) :
    State × Int :=
  match s.pendingHaltValue.get asset with
  | some pending =>
      ({ s with
        lastGood := s.lastGood.set asset pending
        rollingReference := s.rollingReference.set asset pending
        rollingReferenceUpdated :=
          s.rollingReferenceUpdated.set asset env.timestamp
        pendingHaltValue := s.pendingHaltValue.remove asset }, pending)
  | none => (s, (s.lastGood.get asset).getD 0)

/-- `confirm_halt_cleared`. -/
def confirmHaltCleared (env : GuardEnv) (risk asset : Address)
    (s : State) : Call State := do
  env.requireAuth risk
  let _ ← requireRisk env.toHostEnv s.roles
  let (s, newLastGood) := promotePending env.toHostEnv s asset
  return publish { s with halted := s.halted.remove asset }
    (.haltCleared asset newLastGood)

-- =========================================================== the machine

/-- The entry points that change storage, with their arguments. -/
inductive Entry where
  | initContract (admin pauser keeper pricePublisher risk : Address)
  | proposeAdmin (newAdmin : Address)
  | acceptAdmin
  | queueRoleChange (role : RoleKind) (newAddress : Address)
  | executeRoleChange (id : Nat)
  | queueUpgrade (admin : Address) (newWasmHash : BytesN 32)
  | cancelUpgrade (admin : Address) (id : Nat)
  | executeUpgrade (id : Nat)
  | configureAsset (admin asset : Address) (bandBps dailyMoveBandBps
      windowSeconds windowMoveBandBps maxStalenessS : Nat)
  | configureIssuerKey (admin asset : Address) (issuerPubkey : BytesN 32)
  | configureSignatureRequirement (admin : Address) (required : Bool)
  | queueConfig (admin : Address) (change : ConfigChange)
  | cancelConfig (admin : Address) (id : Nat)
  | executeConfig (id : Nat)
  | removeSource (admin asset : Address) (name : Symbol)
  | publishNav (publisher asset : Address) (assetCode : Bytes)
      (value : Int) (ts : Nat) (sig : BytesN 64)
  | publishSource (publisher asset : Address) (source : Symbol)
      (value : Int) (ts : Nat)
  | guardedPrice (asset : Address)
  | confirmHaltCleared (risk asset : Address)

/-- One contract call. -/
def call (env : GuardEnv) (e : Entry) (s : State) : Call State :=
  match e with
  | .initContract admin pauser keeper pricePublisher risk =>
      initContract admin pauser keeper pricePublisher risk s
  | .proposeAdmin newAdmin => proposeAdmin env newAdmin s
  | .acceptAdmin => acceptAdmin env s
  | .queueRoleChange role newAddress =>
      (queueRoleChange env role newAddress s).map Prod.snd
  | .executeRoleChange id => executeRoleChange env id s
  | .queueUpgrade admin newWasmHash =>
      (queueUpgrade env admin newWasmHash s).map Prod.snd
  | .cancelUpgrade admin id => cancelUpgrade env admin id s
  | .executeUpgrade id => executeUpgrade env id s
  | .configureAsset admin asset bandBps dailyMoveBandBps windowSeconds
      windowMoveBandBps maxStalenessS =>
      configureAsset env admin asset bandBps dailyMoveBandBps windowSeconds
        windowMoveBandBps maxStalenessS s
  | .configureIssuerKey admin asset issuerPubkey =>
      configureIssuerKey env admin asset issuerPubkey s
  | .configureSignatureRequirement admin required =>
      configureSignatureRequirement env admin required s
  | .queueConfig admin change =>
      (queueConfig env admin change s).map Prod.snd
  | .cancelConfig admin id => cancelConfig env admin id s
  | .executeConfig id => executeConfig env id s
  | .removeSource admin asset name => removeSource env admin asset name s
  | .publishNav publisher asset assetCode value ts sig =>
      publishNav env publisher asset assetCode value ts sig s
  | .publishSource publisher asset source value ts =>
      publishSource env publisher asset source value ts s
  | .guardedPrice asset => (guardedPrice env asset s).map Prod.snd
  | .confirmHaltCleared risk asset => confirmHaltCleared env risk asset s

/-- A call into the contract. Time passes between calls, so each brings
its own environment. -/
structure Tx where
  env : GuardEnv
  entry : Entry

/-- The ledger time of a call. -/
def Tx.time (tx : Tx) : Nat := tx.env.timestamp

/-- The contract deployed at `self`. Past an executed upgrade it is
other code that runs, and the runs of this one end. -/
def machine (self : Address) : Machine State Tx where
  init := State.empty
  apply tx s := do
    ensure (s.wasm = none) "host: the contract's code was replaced"
    call (tx.env.at self) tx.entry s

-- ================================================= a deployment to run

namespace Demo

def self : Address := ⟨100⟩

def asset : Address := ⟨10⟩

/-- Everybody signs and every signature verifies. -/
def env (timestamp : Nat) : GuardEnv where
  self := self
  timestamp := timestamp
  sequence := 0
  maxTtl := 3110400
  auth := fun _ => true
  ed25519Verify := fun _ _ _ => true

/-- One asset: 50 bps between sources, 200 bps a day, 100 bps a window
of a day, readings good for an hour. -/
def setup : List Tx :=
  [⟨env 0, .initContract ⟨1⟩ ⟨1⟩ ⟨1⟩ ⟨1⟩ ⟨1⟩⟩,
   ⟨env 0, .configureAsset ⟨1⟩ asset 50 200 86400 100 3600⟩]

/-- A reading of the asset, published as it is observed. -/
def reading (source : Symbol) (value : Int) (ts : Nat) : Tx :=
  ⟨env ts, .publishSource ⟨1⟩ asset source value ts⟩

/-- Two sources agree on a price, and a day later on one 50 bps up. -/
def drift : List Tx :=
  [reading "reflector" 1000000 0, reading "band" 1000000 0,
   reading "reflector" 1005000 90000, reading "band" 1005000 90000]

/-- The issuer's key is registered and a signed NAV published. -/
def signedNav : List Tx :=
  setup ++
  [⟨env 0, .configureIssuerKey ⟨1⟩ asset (Vector.replicate 32 7)⟩,
   ⟨env 0, .publishNav ⟨1⟩ asset [85, 83, 84] 1000000 0
     (Vector.replicate 64 9)⟩]

/-- A band of 60 bps is queued. -/
def beforeWiden : List Tx :=
  setup ++ [⟨env 0, .queueConfig ⟨1⟩ (.bandBps asset 60)⟩]

/-- Two days later it is executed. -/
def widen : Tx := ⟨env 172800, .executeConfig 0⟩

def switchOff : Tx := ⟨env 0, .configureSignatureRequirement ⟨1⟩ false⟩

end Demo

end Ballast.PriceGuard
