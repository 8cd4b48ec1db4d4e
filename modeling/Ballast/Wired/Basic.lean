/-
`CreditLine` and `PledgeVault` deployed together.

# The deployment

Two contracts at two addresses on one token ledger. A transaction
enters one of them; a vault operation calls into the credit line in the
same transaction, with the vault's authorization (`lineInterface`,
`Env.into`). Nothing else is deployed: a call to any other credit line
address aborts, which is what fixing the asset configurations to this
credit line means here.

# Authorization

Neither contract signs transactions, so an environment entering from
outside carries neither's authorization (`Deployment.enter`). The only
way to present the vault's is to be called by the vault.

# The wiring

`KeepsWiring` is the standing condition on runs: `set_vault` names this
vault, and nobody uses the manual `sync_collateral`.
-/
import Ballast.CreditLine.Basic
import Ballast.PledgeVault.Basic

namespace Ballast.Wired

open Soroban

-- ========================================================== deployment

/-- Where the two contracts live. -/
structure Deployment where
  creditLine : Address
  vault : Address
  ne : creditLine ≠ vault

/-- An environment entering the contract at `self` from outside. -/
def Deployment.enter (d : Deployment) (env : Env) (self : Address) : Env :=
  { env with
    self := self
    auth := fun a =>
      env.auth a && decide (a ≠ d.creditLine) && decide (a ≠ d.vault) }

/-- `CreditLine`'s view as the vault decodes it. -/
def decodeView (v : CreditLine.LtvView) : PledgeVault.LtvView where
  debt := v.debt
  collateralValue := v.collateralValue
  ltvBps := v.ltvBps
  state := v.state
  priceStatus := v.priceStatus

/-- A call reaches `CreditLine` only at its own address. -/
def Deployment.reach (d : Deployment) (env : Env) : Call Unit :=
  ensure (env.self = d.creditLine) "host: no contract at this address"

/-- The deployed `CreditLine`, as `PledgeVault`'s client sees it. -/
def Deployment.lineInterface (d : Deployment) :
    PledgeVault.CreditLineInterface CreditLine.State where
  ltv env line s := do
    d.reach env
    let view ← CreditLine.ltv env line s
    return decodeView view
  debtOf env line s := do
    d.reach env
    CreditLine.debtOf env line s
  borrowerOf env line s := do
    d.reach env
    CreditLine.borrowerOf line s
  assetOf env line s := do
    d.reach env
    CreditLine.assetOf line s
  syncFromVault env vault line asset units s := do
    d.reach env
    CreditLine.syncFromVault env vault line asset units s

-- =========================================================== the machine

structure State where
  creditLine : CreditLine.State
  vault : PledgeVault.State

/-- What can happen next: a call into either contract, or token
activity neither takes part in. -/
inductive Tx where
  | creditLine (env : Env) (e : CreditLine.Entry)
  | vault (env : Env) (e : PledgeVault.Entry)
  | outside (tokens : Ledger)

/-- A transaction entering `CreditLine`. -/
def callLine (d : Deployment) (env : Env) (e : CreditLine.Entry)
    (w : World State) : Call (World State) :=
  (CreditLine.call (d.enter env d.creditLine) e
      ⟨w.tokens, w.store.creditLine⟩).map
    fun w' => ⟨w'.tokens, { w.store with creditLine := w'.store }⟩

/-- A transaction entering `PledgeVault`. -/
def callVault (d : Deployment) (env : Env) (e : PledgeVault.Entry)
    (w : World State) : Call (World State) :=
  (PledgeVault.call d.lineInterface (d.enter env d.vault) e
      ⟨w.tokens, w.store.vault, w.store.creditLine⟩).map
    fun w' => ⟨w'.tokens, ⟨w'.peers, w'.vault⟩⟩

/-- The two contracts as one machine. -/
def machine (d : Deployment) : Machine (World State) Tx where
  init := ⟨Ledger.empty, ⟨CreditLine.State.empty, PledgeVault.State.empty⟩⟩
  apply
    | .creditLine env e, w => callLine d env e w
    | .vault env e, w => callVault d env e w
    | .outside tokens, w => .ok { w with tokens := tokens }

/-- The standing condition: `CreditLine` trusts this vault and no
manual figure. -/
def KeepsWiring (d : Deployment) (tx : Tx) (_w : World State) : Prop :=
  match tx with
  | .creditLine _ (.setVault _ v) => v = d.vault
  | .creditLine _ (.syncCollateral ..) => False
  | _ => True

/-- What the vault holds for `line` in `asset`. -/
def held (s : State) (line : Nat) (asset : Address) : Int :=
  PledgeVault.positionUnits s.vault line asset

-- ================================================= a deployment to run

namespace Demo

def deployment : Deployment := ⟨⟨100⟩, ⟨200⟩, by decide⟩

def usdc : Address := ⟨11⟩

def asset : Address := ⟨10⟩

def guard : Address := ⟨12⟩

def lender : Address := ⟨2⟩

def borrower : Address := ⟨3⟩

/-- Everybody signs; the guard stands behind `price`. -/
def env (timestamp sequence : Nat) (price : Int) : Env where
  self := ⟨0⟩
  timestamp := timestamp
  sequence := sequence
  maxTtl := 3110400
  auth := fun _ => true
  guardedPrice := fun _ a => .ok ⟨a, price, .ok, timestamp, []⟩

/-- Bands at 70, 80 and 90 percent. -/
def thresholds : MarginThresholds := ⟨7000, 8000, 9000⟩

/-- Both contracts initialised and wired with the same terms, line 0
opened and funded with 1000, 5000 units pledged to it and 1000 drawn,
all at a price of 1.00. -/
def lent : List Tx :=
  [.creditLine (env 0 0 0) (.initContract ⟨1⟩ ⟨1⟩ ⟨1⟩ ⟨1⟩ ⟨1⟩),
   .vault (env 0 0 0) (.initContract ⟨1⟩ ⟨1⟩ ⟨1⟩ ⟨1⟩ ⟨1⟩),
   .creditLine (env 0 0 0) (.setVault ⟨1⟩ deployment.vault),
   .creditLine (env 0 0 0)
     (.configureAsset ⟨1⟩ asset guard usdc 0 thresholds),
   .vault (env 0 0 0) (.configureAsset ⟨1⟩ asset guard
     deployment.creditLine 0 thresholds .escrow),
   .creditLine (env 0 0 0) (.openLine lender borrower asset 1000 1000 3600
     (Vector.replicate 32 0)),
   .outside ((Ledger.empty.credit usdc lender 2000).credit asset borrower
     5000),
   .creditLine (env 0 1 10000000) (.fund lender 0 1000),
   .vault (env 0 1 10000000) (.pledge borrower 0 asset 5000),
   .creditLine (env 0 1 10000000) (.draw borrower 0 1000 borrower)]

/-- The price falls to 0.20; a poke in ledger 5 flags the breach and
the keeper freezes the line in ledger 6. -/
def frozen : List Tx := lent ++
  [.creditLine (env 0 5 2000000) (.poke 0),
   .creditLine (env 0 6 2000000) (.liquidate ⟨1⟩ 0 .transfer)]

end Demo

end Ballast.Wired
