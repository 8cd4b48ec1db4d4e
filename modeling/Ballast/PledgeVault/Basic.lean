/-
`PledgeVault`: one collateral position per (line, asset), in escrow or
under a lien, and the four operations that change it.

# The credit line it talks to

The vault knows its `CreditLine` only as an address in the asset's
configuration and a client interface. `CreditLineInterface` is that
interface over an arbitrary state `κ`: whatever contract answers at the
address. The environment handed to a call names the callee as `self`
and carries the vault's authorization (`Env.into`), which is what
`syncFromVault` authenticates.

Every operation that changes a position writes it and then reports the
units in the same transaction (`syncCreditLine`); if the report aborts,
so does the operation.

As in `CreditLine`, `admin` and `keeper` arguments are read by nobody,
and no entry point writes the pause flags.
-/
import Ballast.Common.Risk
import Ballast.Common.Access
import Ballast.Soroban.Machine

namespace Ballast.PledgeVault

open Soroban

-- ============================================================== storage

/-- The vault's own mirror of `CreditLine`'s view. -/
structure LtvView where
  debt : Int
  collateralValue : Int
  ltvBps : Nat
  state : MarginState
  priceStatus : PriceStatus
  deriving DecidableEq, Repr

structure AssetConfig where
  priceGuard : Address
  creditLine : Address
  haircutBps : Nat
  thresholds : MarginThresholds
  custodyMode : CustodyMode
  deriving DecidableEq, Repr

/-- `units` count toward the line; `pendingLienUnits` are pledged under
a lien nobody has confirmed yet. -/
structure Position where
  units : Int
  pendingLienUnits : Int
  mode : CustodyMode
  lienRef : Option Bytes
  deriving DecidableEq, Repr

inductive Event where
  | pledged (line : Nat) (asset : Address) (units : Int)
  | released (line : Nat) (asset : Address) (units : Int)
  | lienRecorded (line : Nat) (asset : Address) (units : Int)
      (lienRef : Bytes)
  | liquidated (line : Nat) (asset : Address) (units : Int)
      (recipient : Address)
  deriving DecidableEq, Repr

structure State where
  roles : Option Roles
  paused : Store PauseScope Bool
  assetConfig : Store Address AssetConfig
  gateway : Option Address
  positions : Store (Nat × Address) Position
  events : List Event

/-- A contract nothing has been written to. -/
def State.empty : State where
  roles := none
  paused := Store.empty
  assetConfig := Store.empty
  gateway := none
  positions := Store.empty
  events := []

/-- What `read_position` answers for a position never written. -/
def Position.fresh : Position := ⟨0, 0, .escrow, none⟩

/-- `read_position`. -/
def readPosition (s : State) (line : Nat) (asset : Address) : Position :=
  (s.positions.get (line, asset)).getD .fresh

/-- `write_position`. -/
def writePosition (s : State) (line : Nat) (asset : Address)
    (p : Position) : State :=
  { s with positions := s.positions.set (line, asset) p }

/-- `read_asset_config`. -/
def readAssetConfig (s : State) (asset : Address) : Call AssetConfig :=
  expect (s.assetConfig.get asset) "pledge-vault: asset not configured"

/-- `env.events().publish`. -/
def publish (s : State) (e : Event) : State :=
  { s with events := s.events ++ [e] }

/-- `position_units`. -/
def positionUnits (s : State) (line : Nat) (asset : Address) : Int :=
  (readPosition s line asset).units

-- ====================================================== the credit line

/-- `CreditLineInterface`: what the vault may ask of the contract at
`env.self`, and the one call that changes it. -/
structure CreditLineInterface (κ : Type) where
  ltv : Env → Nat → κ → Call LtvView
  debtOf : Env → Nat → κ → Call Int
  borrowerOf : Env → Nat → κ → Call Address
  assetOf : Env → Nat → κ → Call Address
  syncFromVault : Env → Address → Nat → Address → Int → κ → Call κ

/-- The vault, the tokens it escrows, and the contracts it calls. -/
structure Scene (κ : Type) where
  tokens : Ledger
  vault : State
  peers : κ

variable {κ : Type} (net : CreditLineInterface κ)

/-- `sync_credit_line`. -/
def syncCreditLine (env : Env) (config : AssetConfig) (line : Nat)
    (asset : Address) (p : Position) (peers : κ) : Call κ :=
  net.syncFromVault (env.into config.creditLine) env.self line asset
    p.units peers

-- ======================================================== admin and setup

/-- `initialize`. -/
def initContract (admin pauser keeper pricePublisher risk : Address)
    (s : State) : Call State := do
  ensure (s.roles = none) "pledge-vault: already initialized"
  return { s with
    roles := some ⟨admin, pauser, keeper, pricePublisher, risk⟩ }

/-- `configure_asset`. -/
def configureAsset (env : Env) (_admin asset priceGuard creditLine : Address)
    (haircutBps : Nat) (thresholds : MarginThresholds)
    (custodyMode : CustodyMode) (s : State) : Call State := do
  let _ ← requireAdmin env.toHostEnv s.roles
  thresholds.validate
  return { s with
    assetConfig := s.assetConfig.set asset
      ⟨priceGuard, creditLine, haircutBps, thresholds, custodyMode⟩ }

/-- `set_gateway`. -/
def setGateway (env : Env) (_admin gateway : Address) (s : State) :
    Call State := do
  let _ ← requireAdmin env.toHostEnv s.roles
  return { s with gateway := some gateway }

-- ============================================================ positions

/-- What `pledge` adds to a position under the asset's custody mode. -/
def pledgedPosition (mode : CustodyMode) (p : Position) (units : Int) :
    Call Position :=
  if mode = .escrow then do
    let total ← I128.add p.units units
    return { p with units := total, mode := mode }
  else do
    let pending ← I128.add p.pendingLienUnits units
    return { p with pendingLienUnits := pending, mode := mode }

/-- Tokens into escrow; a lien pledge moves none. -/
def payIn (env : Env) (mode : CustodyMode) (asset borrower : Address)
    (units : Int) (tokens : Ledger) : Call Ledger :=
  if mode = .escrow then
    tokens.transfer env.toHostEnv asset borrower env.self units
  else return tokens

/-- `pledge`. -/
def pledge (env : Env) (borrower : Address) (line : Nat) (asset : Address)
    (units : Int) (w : Scene κ) : Call (Scene κ) := do
  env.requireAuth borrower
  requireNotPaused w.vault.paused .pledges
  ensure (0 < units) "pledge-vault: units must be positive"
  let config ← readAssetConfig w.vault asset
  let real ← net.borrowerOf (env.into config.creditLine) line w.peers
  ensure (borrower = real) "pledge-vault: caller is not this line's borrower"
  let collateral ← net.assetOf (env.into config.creditLine) line w.peers
  ensure (asset = collateral)
    "pledge-vault: not this line's collateral asset"
  let p := readPosition w.vault line asset
  ensure ((p.units = 0 ∧ p.pendingLienUnits = 0)
      ∨ p.mode = config.custodyMode)
    "pledge-vault: asset custody mode changed while this position holds units"
  let tokens ← payIn env config.custodyMode asset borrower units w.tokens
  let p ← pledgedPosition config.custodyMode p units
  let peers ← syncCreditLine net env config line asset p w.peers
  return ⟨tokens, publish (writePosition w.vault line asset p)
    (.pledged line asset units), peers⟩

/-- The health check of `release`: skipped when nothing is owed, else
the remaining units must carry the line's debt below the warning band
at an `Ok` price. -/
def checkRelease (env : Env) (config : AssetConfig) (line : Nat)
    (asset : Address) (remaining : Int) (peers : κ) : Call Unit := do
  let debt ← net.debtOf (env.into config.creditLine) line peers
  if 0 < debt then do
    let guarded ← env.guardedPrice config.priceGuard asset
    ensure (guarded.isUsableForNewRisk)
      "pledge-vault: price status is not Ok"
    let view ← net.ltv (env.into config.creditLine) line peers
    let cv ← collateralValue remaining guarded.value config.haircutBps
    let bps ← Ballast.ltvBps view.debt cv
    ensure (classify bps config.thresholds = .healthy)
      "pledge-vault: release would leave the credit line unhealthy"
  else return ()

/-- Tokens out of escrow; a lien position holds none. -/
def payOut (env : Env) (p : Position) (asset recipient : Address)
    (units : Int) (tokens : Ledger) : Call Ledger :=
  if p.mode = .escrow then
    tokens.transfer env.toHostEnv asset env.self recipient units
  else return tokens

/-- `release`. -/
def release (env : Env) (borrower : Address) (line : Nat)
    (asset : Address) (units : Int) (w : Scene κ) : Call (Scene κ) := do
  env.requireAuth borrower
  ensure (0 < units) "pledge-vault: units must be positive"
  let config ← readAssetConfig w.vault asset
  let real ← net.borrowerOf (env.into config.creditLine) line w.peers
  ensure (borrower = real) "pledge-vault: caller is not this line's borrower"
  let p := readPosition w.vault line asset
  ensure (units ≤ p.units) "pledge-vault: release exceeds pledged units"
  let remaining ← I128.sub p.units units
  checkRelease net env config line asset remaining w.peers
  let tokens ← payOut env p asset borrower units w.tokens
  let p := { p with units := remaining }
  let peers ← syncCreditLine net env config line asset p w.peers
  return ⟨tokens, publish (writePosition w.vault line asset p)
    (.released line asset units), peers⟩

/-- `record_lien`. -/
def recordLien (env : Env) (gateway : Address) (line : Nat)
    (asset : Address) (units : Int) (lienRef : Bytes) (w : Scene κ) :
    Call (Scene κ) := do
  env.requireAuth gateway
  let stored ← expect w.vault.gateway "pledge-vault: gateway not configured"
  ensure (gateway = stored)
    "pledge-vault: caller is not the configured gateway"
  ensure (0 < units) "pledge-vault: units must be positive"
  let p := readPosition w.vault line asset
  ensure (units ≤ p.pendingLienUnits)
    "pledge-vault: units exceed pending (unconfirmed) lien units"
  let pending ← I128.sub p.pendingLienUnits units
  let total ← I128.add p.units units
  let p := { p with
    pendingLienUnits := pending
    units := total
    lienRef := some lienRef }
  let config ← readAssetConfig w.vault asset
  let peers ← syncCreditLine net env config line asset p w.peers
  return ⟨w.tokens, publish (writePosition w.vault line asset p)
    (.lienRecorded line asset units lienRef), peers⟩

/-- `liquidate`. -/
def liquidate (env : Env) (_keeper : Address) (line : Nat)
    (asset : Address) (units : Int) (recipient : Address) (w : Scene κ) :
    Call (Scene κ) := do
  let _ ← requireKeeper env.toHostEnv w.vault.roles
  ensure (0 < units) "pledge-vault: units must be positive"
  let p := readPosition w.vault line asset
  ensure (units ≤ p.units) "pledge-vault: liquidate exceeds pledged units"
  let tokens ← payOut env p asset recipient units w.tokens
  let remaining ← I128.sub p.units units
  let p := { p with units := remaining }
  let config ← readAssetConfig w.vault asset
  let peers ← syncCreditLine net env config line asset p w.peers
  return ⟨tokens, publish (writePosition w.vault line asset p)
    (.liquidated line asset units recipient), peers⟩

-- =========================================================== the machine

/-- The entry points that change storage, with their arguments. -/
inductive Entry where
  | initContract (admin pauser keeper pricePublisher risk : Address)
  | configureAsset (admin asset priceGuard creditLine : Address)
      (haircutBps : Nat) (thresholds : MarginThresholds)
      (custodyMode : CustodyMode)
  | setGateway (admin gateway : Address)
  | pledge (borrower : Address) (line : Nat) (asset : Address)
      (units : Int)
  | release (borrower : Address) (line : Nat) (asset : Address)
      (units : Int)
  | recordLien (gateway : Address) (line : Nat) (asset : Address)
      (units : Int) (lienRef : Bytes)
  | liquidate (keeper : Address) (line : Nat) (asset : Address)
      (units : Int) (recipient : Address)

/-- Storage-only entry points leave tokens and peers alone. -/
def onVault (w : Scene κ) (r : Call State) : Call (Scene κ) :=
  r.map fun s => { w with vault := s }

/-- One contract call. -/
def call (env : Env) (e : Entry) (w : Scene κ) : Call (Scene κ) :=
  match e with
  | .initContract admin pauser keeper pricePublisher risk =>
      onVault w (initContract admin pauser keeper pricePublisher risk
        w.vault)
  | .configureAsset admin asset priceGuard creditLine haircutBps thresholds
      custodyMode =>
      onVault w (configureAsset env admin asset priceGuard creditLine
        haircutBps thresholds custodyMode w.vault)
  | .setGateway admin gateway =>
      onVault w (setGateway env admin gateway w.vault)
  | .pledge borrower line asset units =>
      pledge net env borrower line asset units w
  | .release borrower line asset units =>
      release net env borrower line asset units w
  | .recordLien gateway line asset units lienRef =>
      recordLien net env gateway line asset units lienRef w
  | .liquidate keeper line asset units recipient =>
      liquidate net env keeper line asset units recipient w

/-- What can happen next: a call into the vault, or anything the vault
takes no part in, on the tokens and in the contracts it calls. -/
inductive Tx (κ : Type) where
  | call (env : Env) (e : Entry)
  | outside (tokens : Ledger) (peers : κ)

/-- The vault deployed at `self`, among contracts that start as
`peers`. -/
def machine (self : Address) (peers : κ) : Machine (Scene κ) (Tx κ) where
  init := ⟨Ledger.empty, State.empty, peers⟩
  apply
    | .call env e, w => call net (env.at self) e w
    | .outside tokens peers, w => .ok ⟨tokens, w.vault, peers⟩

-- ================================================= a deployment to run

namespace Demo

def self : Address := ⟨200⟩

def creditLine : Address := ⟨100⟩

def asset : Address := ⟨10⟩

def borrower : Address := ⟨3⟩

/-- Everybody signs. -/
def env : Env where
  self := self
  timestamp := 0
  sequence := 0
  maxTtl := 3110400
  auth := fun _ => true
  guardedPrice := fun _ a => .ok ⟨a, 10000000, .ok, 0, []⟩

/-- Line 0 is the borrower's, secured by the asset, with nothing drawn
on it. -/
def line : CreditLineInterface Unit where
  ltv _ _ _ := .ok ⟨0, 0, 0, .healthy, .ok⟩
  debtOf _ _ _ := .ok 0
  borrowerOf _ id _ := do
    ensure (id = 0) "credit-line: unknown line"
    return borrower
  assetOf _ id _ := do
    ensure (id = 0) "credit-line: unknown line"
    return asset
  syncFromVault _ _ id _ _ _ := ensure (id = 0) "credit-line: unknown line"

/-- 300 of the borrower's 500 units go into escrow and 100 come back. -/
def escrowRun : List (Tx Unit) :=
  [.call env (.initContract ⟨1⟩ ⟨1⟩ ⟨1⟩ ⟨1⟩ ⟨1⟩),
   .call env (.configureAsset ⟨1⟩ asset ⟨12⟩ creditLine 0
     ⟨7000, 8000, 9000⟩ .escrow),
   .outside (Ledger.empty.credit asset borrower 500) (),
   .call env (.pledge borrower 0 asset 300),
   .call env (.release borrower 0 asset 100)]

end Demo

end Ballast.PledgeVault
