/-
`Registry`: asset configurations, their timelocked changes, the
emergency haircut, and the pause flags.

Every change to a registered asset waits 48 hours in `pendingParam`,
except `raiseHaircutNow`, which may only raise. Lifting a pause waits
in `pendingUnpause`, setting one does not. Parameter changes, unpauses,
role changes and upgrades are four queues with key spaces of their own
and one id counter.

# Validation

A configuration is validated as a whole when an asset is registered. A
queued change is not: it is applied to the one field it names when its
time has come, and the configuration it leads to is validated then. The
haircut that is raised at once is validated in the same way, and may
only go up.
-/
import Ballast.Common.Access
import Ballast.Soroban.Machine

namespace Ballast.Registry

open Soroban

-- ============================================================== storage

/-- `asset::AssetStandard`. -/
inductive AssetStandard where
  | classicSac
  | sep57
  deriving DecidableEq, Repr

/-- `asset::YieldType`. -/
inductive YieldType where
  | accumulating
  | distributing
  deriving DecidableEq, Repr

/-- `asset::AssetConfig`. -/
structure AssetConfig where
  issuer : Address
  contract : Address
  standard : AssetStandard
  yieldType : YieldType
  custodyMode : CustodyMode
  ccy : Symbol
  redemptionLagDays : Nat
  haircutBaseBps : Nat
  haircutFxBps : Nat
  priceBandBps : Nat
  dailyMoveBandBps : Nat
  status : Symbol
  deriving DecidableEq, Repr

/-- `asset::ParamChange`. -/
inductive ParamChange where
  | haircutBaseBps (val : Nat)
  | haircutFxBps (val : Nat)
  | priceBandBps (val : Nat)
  | dailyMoveBandBps (val : Nat)
  | redemptionLagDays (val : Nat)
  | status (val : Symbol)
  deriving DecidableEq, Repr

structure PendingParamChange where
  asset : Address
  change : ParamChange
  executesAt : Nat
  deriving DecidableEq, Repr

structure PendingUnpause where
  scope : PauseScope
  executesAt : Nat
  deriving DecidableEq, Repr

inductive Event where
  | assetRegistered (asset : Address) (config : AssetConfig)
  | paramQueued (id : Nat) (asset : Address) (change : ParamChange)
      (executesAt : Nat)
  | paramCancelled (id : Nat) (asset : Address)
  | paramExecuted (id : Nat) (asset : Address) (change : ParamChange)
      (config : AssetConfig)
  | haircutRaised (asset : Address) (addBps newHaircut : Nat)
  | paused (scope : PauseScope)
  | unpauseQueued (id : Nat) (scope : PauseScope) (executesAt : Nat)
  | unpauseCancelled (id : Nat) (scope : PauseScope)
  | unpauseExecuted (id : Nat) (scope : PauseScope)
  | queueUpgrade (id : Nat) (hash : BytesN 32) (executesAt : Nat)
  | cancelUpgrade (id : Nat)
  | executeUpgrade (id : Nat) (hash : BytesN 32)
  deriving DecidableEq, Repr

structure State where
  roles : Option Roles
  pendingAdmin : Option Address
  pendingRoleChange : Store Nat PendingRoleChange
  pendingUpgrade : Store Nat PendingUpgrade
  /-- the code an executed upgrade put in place of this one -/
  wasm : Option (BytesN 32)
  nextId : Nat
  paused : Store PauseScope Bool
  assets : Store Address AssetConfig
  pendingParam : Store Nat PendingParamChange
  pendingUnpause : Store Nat PendingUnpause
  events : List Event

/-- A contract nothing has been written to. -/
def State.empty : State where
  roles := none
  pendingAdmin := none
  pendingRoleChange := Store.empty
  pendingUpgrade := Store.empty
  wasm := none
  nextId := 0
  paused := Store.empty
  assets := Store.empty
  pendingParam := Store.empty
  pendingUnpause := Store.empty
  events := []

/-- `env.events().publish`. -/
def publish (s : State) (e : Event) : State :=
  { s with events := s.events ++ [e] }

/-- `read_asset`, which `asset` answers with. -/
def readAsset (s : State) (asset : Address) : Call AssetConfig :=
  expect (s.assets.get asset) "registry: asset not registered"

/-- `write_asset`. -/
def writeAsset (s : State) (asset : Address) (config : AssetConfig) :
    State :=
  { s with assets := s.assets.set asset config }

/-- `x.require_auth()` followed by a check of the stored role. -/
def requireRoleCall (env : HostEnv) (s : State) (claimed : Address)
    (pick : Roles → Address) : Call Unit := do
  env.requireAuth claimed
  let _ ← requireRole env s.roles pick
  return ()

-- =========================================================== validation

/-- `AssetConfig::total_haircut_bps`. -/
def AssetConfig.totalHaircutBps (c : AssetConfig) : Nat :=
  c.haircutBaseBps + c.haircutFxBps

/-- `AssetConfig::validate`, the error being the panic it becomes. -/
def AssetConfig.validate (c : AssetConfig) (asset : Address) :
    Call Unit := do
  ensure (c.haircutBaseBps ≤ 10000)
    "registry: base haircut cannot exceed 100%"
  ensure (c.haircutFxBps ≤ 10000)
    "registry: FX haircut cannot exceed 100%"
  ensure (c.totalHaircutBps ≤ 10000)
    "registry: total haircut cannot exceed 100%"
  ensure (0 < c.priceBandBps ∧ c.priceBandBps ≤ 10000)
    "registry: price band must be between 1 and 10000 bps"
  ensure (0 < c.dailyMoveBandBps ∧ c.dailyMoveBandBps ≤ 10000)
    "registry: daily move band must be between 1 and 10000 bps"
  ensure (c.contract = asset)
    "registry: asset contract must match asset address"
  ensure (c.status = "active" ∨ c.status = "paused" ∨ c.status = "retired")
    "registry: status must be active, paused, or retired"

-- ================================================================ roles

/-- `initialize`. -/
def initContract (admin pauser keeper pricePublisher risk : Address)
    (s : State) : Call State := do
  ensure (s.roles = none) "registry: already initialized"
  return { s with
    roles := some ⟨admin, pauser, keeper, pricePublisher, risk⟩ }

/-- `propose_admin`. -/
def proposeAdmin (env : HostEnv) (newAdmin : Address) (s : State) :
    Call State := do
  let _ ← requireAdmin env s.roles
  return { s with pendingAdmin := some newAdmin }

/-- `accept_admin`. -/
def acceptAdmin (env : HostEnv) (s : State) : Call State := do
  let roles ← Ballast.acceptAdmin env s.roles s.pendingAdmin
  return { s with roles := some roles, pendingAdmin := none }

/-- `queue_role_change`: the id minted, and the storage after. -/
def queueRoleChange (env : HostEnv) (role : RoleKind)
    (newAddress : Address) (s : State) : Call (Nat × State) := do
  let _ ← requireAdmin env s.roles
  let (id, next) ← nextId s.nextId
  let at' ← executesAt env
  return (id, { s with
    nextId := next
    pendingRoleChange := s.pendingRoleChange.set id
      ⟨role, newAddress, at'⟩ })

/-- `execute_role_change`. -/
def executeRoleChange (env : HostEnv) (id : Nat) (s : State) :
    Call State := do
  let roles ← Ballast.executeRoleChange env s.roles s.pendingRoleChange id
  return { s with
    roles := some roles
    pendingRoleChange := s.pendingRoleChange.remove id }

-- =============================================================== assets

/-- `register_asset`. -/
def registerAsset (env : HostEnv) (admin asset : Address)
    (config : AssetConfig) (s : State) : Call State := do
  requireRoleCall env s admin Roles.admin
  ensure (s.assets.get asset = none) "registry: asset already registered"
  config.validate asset
  return publish (writeAsset s asset config) (.assetRegistered asset config)

/-- `queue_param`: the id minted, and the storage after. -/
def queueParam (env : HostEnv) (admin asset : Address)
    (change : ParamChange) (s : State) : Call (Nat × State) := do
  requireRoleCall env s admin Roles.admin
  let _ ← readAsset s asset
  let (id, next) ← nextId s.nextId
  let at' ← executesAt env
  return (id, publish { s with
      nextId := next
      pendingParam := s.pendingParam.set id ⟨asset, change, at'⟩ }
    (.paramQueued id asset change at'))

/-- `cancel_param`. -/
def cancelParam (env : HostEnv) (admin : Address) (id : Nat) (s : State) :
    Call State := do
  requireRoleCall env s admin Roles.admin
  let pending ← expect (s.pendingParam.get id)
    "registry: no such pending change"
  return publish { s with pendingParam := s.pendingParam.remove id }
    (.paramCancelled id pending.asset)

/-- The `match` of `execute_param`: one field takes the queued value. -/
def ParamChange.apply (c : AssetConfig) : ParamChange → AssetConfig
  | .haircutBaseBps v => { c with haircutBaseBps := v }
  | .haircutFxBps v => { c with haircutFxBps := v }
  | .priceBandBps v => { c with priceBandBps := v }
  | .dailyMoveBandBps v => { c with dailyMoveBandBps := v }
  | .redemptionLagDays v => { c with redemptionLagDays := v }
  | .status v => { c with status := v }

/-- `execute_param`. -/
def executeParam (env : HostEnv) (id : Nat) (s : State) : Call State := do
  let pending ← expect (s.pendingParam.get id)
    "registry: no such pending change"
  ensure (IsReady env pending.executesAt)
    "registry: timelock has not elapsed"
  let config ← readAsset s pending.asset
  let config := pending.change.apply config
  config.validate pending.asset
  let s := writeAsset s pending.asset config
  return publish { s with pendingParam := s.pendingParam.remove id }
    (.paramExecuted id pending.asset pending.change config)

/-- `raise_haircut_now`. -/
def raiseHaircutNow (env : HostEnv) (risk asset : Address) (addBps : Nat)
    (s : State) : Call State := do
  requireRoleCall env s risk Roles.risk
  let config ← readAsset s asset
  let newHaircut := config.haircutBaseBps + addBps
  ensure (newHaircut ≤ u32Max) "registry: haircut overflow"
  ensure (newHaircut + config.haircutFxBps ≤ 10000)
    "registry: haircut cannot exceed 100%"
  return publish (writeAsset s asset
      { config with haircutBaseBps := newHaircut })
    (.haircutRaised asset addBps newHaircut)

-- ================================================================ pause

/-- `pause`. -/
def pause (env : HostEnv) (pauser : Address) (scope : PauseScope)
    (s : State) : Call State := do
  requireRoleCall env s pauser Roles.pauser
  return publish { s with paused := s.paused.set scope true }
    (.paused scope)

/-- `queue_unpause`: the id minted, and the storage after. -/
def queueUnpause (env : HostEnv) (admin : Address) (scope : PauseScope)
    (s : State) : Call (Nat × State) := do
  requireRoleCall env s admin Roles.admin
  let (id, next) ← nextId s.nextId
  let at' ← executesAt env
  return (id, publish { s with
      nextId := next
      pendingUnpause := s.pendingUnpause.set id ⟨scope, at'⟩ }
    (.unpauseQueued id scope at'))

/-- `cancel_unpause`. -/
def cancelUnpause (env : HostEnv) (admin : Address) (id : Nat)
    (s : State) : Call State := do
  requireRoleCall env s admin Roles.admin
  let pending ← expect (s.pendingUnpause.get id)
    "registry: no such pending unpause"
  return publish { s with pendingUnpause := s.pendingUnpause.remove id }
    (.unpauseCancelled id pending.scope)

/-- `execute_unpause`. -/
def executeUnpause (env : HostEnv) (id : Nat) (s : State) :
    Call State := do
  let pending ← expect (s.pendingUnpause.get id)
    "registry: no such pending unpause"
  ensure (IsReady env pending.executesAt)
    "registry: timelock has not elapsed"
  return publish { s with
      paused := s.paused.set pending.scope false
      pendingUnpause := s.pendingUnpause.remove id }
    (.unpauseExecuted id pending.scope)

-- ============================================================= upgrades

/-- `queue_upgrade`: the id minted, and the storage after. -/
def queueUpgrade (env : HostEnv) (admin : Address)
    (newWasmHash : BytesN 32) (s : State) : Call (Nat × State) := do
  requireRoleCall env s admin Roles.admin
  let (id, next) ← nextId s.nextId
  let at' ← executesAt env
  return (id, publish { s with
      nextId := next
      pendingUpgrade := s.pendingUpgrade.set id ⟨newWasmHash, at'⟩ }
    (.queueUpgrade id newWasmHash at'))

/-- `cancel_upgrade`. -/
def cancelUpgrade (env : HostEnv) (admin : Address) (id : Nat)
    (s : State) : Call State := do
  requireRoleCall env s admin Roles.admin
  let _ ← expect (s.pendingUpgrade.get id)
    "ballast-common: no such pending upgrade"
  return publish { s with pendingUpgrade := s.pendingUpgrade.remove id }
    (.cancelUpgrade id)

/-- `execute_upgrade`. -/
def executeUpgrade (env : HostEnv) (id : Nat) (s : State) :
    Call State := do
  let pending ← expect (s.pendingUpgrade.get id)
    "ballast-common: no such pending upgrade"
  ensure (IsReady env pending.executesAt)
    "ballast-common: timelock has not elapsed"
  return publish { s with
      wasm := some pending.newWasmHash
      pendingUpgrade := s.pendingUpgrade.remove id }
    (.executeUpgrade id pending.newWasmHash)

-- =========================================================== the machine

/-- The entry points that change storage, with their arguments. -/
inductive Entry where
  | initContract (admin pauser keeper pricePublisher risk : Address)
  | proposeAdmin (newAdmin : Address)
  | acceptAdmin
  | queueRoleChange (role : RoleKind) (newAddress : Address)
  | executeRoleChange (id : Nat)
  | registerAsset (admin asset : Address) (config : AssetConfig)
  | queueParam (admin asset : Address) (change : ParamChange)
  | cancelParam (admin : Address) (id : Nat)
  | executeParam (id : Nat)
  | raiseHaircutNow (risk asset : Address) (addBps : Nat)
  | pause (pauser : Address) (scope : PauseScope)
  | queueUnpause (admin : Address) (scope : PauseScope)
  | cancelUnpause (admin : Address) (id : Nat)
  | executeUnpause (id : Nat)
  | queueUpgrade (admin : Address) (newWasmHash : BytesN 32)
  | cancelUpgrade (admin : Address) (id : Nat)
  | executeUpgrade (id : Nat)

/-- One contract call. -/
def call (env : HostEnv) (e : Entry) (s : State) : Call State :=
  match e with
  | .initContract admin pauser keeper pricePublisher risk =>
      initContract admin pauser keeper pricePublisher risk s
  | .proposeAdmin newAdmin => proposeAdmin env newAdmin s
  | .acceptAdmin => acceptAdmin env s
  | .queueRoleChange role newAddress =>
      (queueRoleChange env role newAddress s).map Prod.snd
  | .executeRoleChange id => executeRoleChange env id s
  | .registerAsset admin asset config => registerAsset env admin asset
      config s
  | .queueParam admin asset change =>
      (queueParam env admin asset change s).map Prod.snd
  | .cancelParam admin id => cancelParam env admin id s
  | .executeParam id => executeParam env id s
  | .raiseHaircutNow risk asset addBps =>
      raiseHaircutNow env risk asset addBps s
  | .pause pauser scope => pause env pauser scope s
  | .queueUnpause admin scope =>
      (queueUnpause env admin scope s).map Prod.snd
  | .cancelUnpause admin id => cancelUnpause env admin id s
  | .executeUnpause id => executeUnpause env id s
  | .queueUpgrade admin newWasmHash =>
      (queueUpgrade env admin newWasmHash s).map Prod.snd
  | .cancelUpgrade admin id => cancelUpgrade env admin id s
  | .executeUpgrade id => executeUpgrade env id s

/-- A call into the contract. Time passes between calls, so each brings
its own environment. -/
structure Tx where
  env : HostEnv
  entry : Entry

/-- The ledger time of a call. -/
def Tx.time (tx : Tx) : Nat := tx.env.timestamp

/-- The environment of a call into the contract at `self`. -/
def Tx.envAt (tx : Tx) (self : Address) : HostEnv :=
  { tx.env with self := self }

/-- The contract deployed at `self`. Past an executed upgrade it is
other code that runs, and the runs of this one end. -/
def machine (self : Address) : Machine State Tx where
  init := State.empty
  apply tx s := do
    ensure (s.wasm = none) "host: the contract's code was replaced"
    call (tx.envAt self) tx.entry s

-- ================================================= a deployment to run

namespace Demo

def self : Address := ⟨100⟩

def asset : Address := ⟨10⟩

/-- Everybody signs. -/
def env (timestamp : Nat) : HostEnv where
  self := self
  timestamp := timestamp
  sequence := 0
  maxTtl := 3110400
  auth := fun _ => true

/-- A 3% haircut, price bands at 50 and 100 bps. -/
def config : AssetConfig where
  issuer := ⟨5⟩
  contract := asset
  standard := .classicSac
  yieldType := .accumulating
  custodyMode := .escrow
  ccy := "USD"
  redemptionLagDays := 1
  haircutBaseBps := 300
  haircutFxBps := 0
  priceBandBps := 50
  dailyMoveBandBps := 100
  status := "active"

/-- Initialised, one asset registered. -/
def setup : List Tx :=
  [⟨env 0, .initContract ⟨1⟩ ⟨1⟩ ⟨1⟩ ⟨1⟩ ⟨1⟩⟩,
   ⟨env 0, .registerAsset ⟨1⟩ asset config⟩]

/-- A decrease to 1% is queued. -/
def beforeRaise : List Tx :=
  setup ++ [⟨env 0, .queueParam ⟨1⟩ asset (.haircutBaseBps 100)⟩]

/-- Two days later the haircut goes up by 10%. -/
def raise : Tx := ⟨env 172800, .raiseHaircutNow ⟨1⟩ asset 1000⟩

def undo : Tx := ⟨env 172801, .executeParam 0⟩

/-- Nothing is paused, and an unpause of exits is queued. -/
def beforePause : List Tx :=
  setup ++ [⟨env 0, .queueUnpause ⟨1⟩ .exits⟩]

/-- Two days later exits are paused. -/
def pauseExits : Tx := ⟨env 172800, .pause ⟨1⟩ .exits⟩

def unpauseExits : Tx := ⟨env 172801, .executeUnpause 0⟩

end Demo

end Ballast.Registry
