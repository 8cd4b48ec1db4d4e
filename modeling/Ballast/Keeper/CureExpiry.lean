/-
The keeper's `runCureExpiryJob`: a line past its cure window is liquidated
on the credit line, its collateral sent to the lender out of the vault,
and the whole booked.

A run takes the open lines one after another, and one line's turn shares
nothing with another's; this is the turn of one line (`cureTurn`). It
writes three times: `CreditLine.liquidate`, `PledgeVault.liquidate`, the
booking transaction. A turn may end between any two, whatever ended it
(`Stop`), and the booking is delivered, lost or rolled back.

# One step

Here a turn is one step, which is the turn as it goes when nothing else
happens while it is under way: all that recovery after a crash needs. What
may happen between its awaits is in `CureTurns`, of which this is one
schedule.

# Around it

The API with its books and the contracts (`Api.System`), and the margin
monitor, which records what it reads of the chain. `margin_event` rows are
stored in the order of their clock.
-/
import Ballast.Api.Chain
import Ballast.Common.Delivery
import Ballast.MarginMonitor.Basic

namespace Ballast.Keeper.CureExpiry

open Soroban
open Api (Chain ChainTx Deployed RowId PartyId TxHash CreditLineRow PledgeRow
  LiquidationRow)

-- ================================================================= the state

structure System where
  api : Api.System Chain
  monitor : MarginMonitor.Monitor
  /-- `credit_line.cure_window_s` -/
  cureWindowS : RowId → Nat

/-- Where a turn ends early. -/
inductive Stop where
  /-- before its first write -/
  | reading
  /-- after `CreditLine.liquidate` -/
  | liquidated
  /-- after `PledgeVault.liquidate` -/
  | moved
  deriving DecidableEq, Repr

/-- What a turn finds around it: the clock, the ledgers its reads and its
transactions close in, their hashes, and what goes wrong. -/
structure Plan where
  now : Nat
  keeper : Address
  readEnv : Env
  lineEnv : Env
  vaultEnv : Env
  lineHash : TxHash
  vaultHash : TxHash
  stop : Option Stop
  delivery : Delivery

/-- `UNHEALTHY`. -/
def unhealthy : MarginState → Bool
  | .marginCall => true
  | .liquidation => true
  | _ => false

/-- `EVENT_LOOKBACK`. -/
def eventLookback : Nat := 50

/-- `orderBy(desc(createdAt)).limit(EVENT_LOOKBACK)`. -/
def recentEvents (s : System) (r : RowId) :
    List MarginMonitor.MarginEvent :=
  (s.monitor.db.marginEvent.filter (·.creditLineId = r)).reverse.take
    eventLookback

/-- The oldest event of the unbroken unhealthy stretch. -/
def breachStart (events : List MarginMonitor.MarginEvent) : Nat :=
  ((events.takeWhile (unhealthy ·.toState)).getLast?.map (·.createdAt)).getD 0

-- ================================================================= the books

/-- A pledge row of the line with status `active`. -/
def isActive (r : RowId) (p : PledgeRow) : Bool :=
  p.creditLineId = r ∧ p.status = .active

/-- The units of the active pledge rows. -/
def activeUnits (db : Api.Db) (r : RowId) : Int :=
  db.pledge.total fun _ p => if isActive r p then p.units else 0

/-- The active pledge rows, `liquidated`. -/
def liquidatePledges (db : Api.Db) (r : RowId) : Store RowId PledgeRow :=
  db.pledge.map fun _ p =>
    if isActive r p then { p with status := .liquidated } else p

/-- `Array.from(new Set([...old, ...new]))`. -/
def mergeHashes (old new : List TxHash) : List TxHash :=
  (old ++ new).eraseDups

/-- The `liquidation` row after the booking. -/
def bookLiquidation (existing : Option LiquidationRow) (totalUnits : Int)
    (txHashes : List TxHash) (now : Nat) : LiquidationRow :=
  match existing with
  | none => ⟨totalUnits, none, none, txHashes, some now⟩
  | some row =>
      if txHashes.isEmpty then row
      else { row with
        txHashes := mergeHashes row.txHashes txHashes
        completedAt := some (row.completedAt.getD now) }

/-- The booking transaction. -/
def book (db : Api.Db) (r : RowId) (totalUnits : Int)
    (txHashes : List TxHash) (now : Nat) : Api.Db :=
  { db with
    pledge := liquidatePledges db r
    liquidation := db.liquidation.set r
      (bookLiquidation (db.liquidation.get r) totalUnits txHashes now)
    creditLine := db.creditLine.adjust r fun row =>
      { row with status := .liquidating } }

-- ================================================================== the turn

/-- The line is open, on chain, and its latest event is unhealthy. -/
def selected (s : System) (r : RowId) : Option (CreditLineRow × Nat) :=
  match s.api.db.creditLine.get r with
  | none => none
  | some row =>
      if row.status = .opened
          ∧ (recentEvents s r).head?.any (unhealthy ·.toState) = true
      then row.contractLineId.map fun id => (row, id)
      else none

/-- An await: what it throws ends the turn, with what was committed until
then left in place. -/
def attempt {α : Type} (s : System) (x : Call α) (go : α → System) :
    System :=
  match x with
  | .ok a => go a
  | .error _ => s

variable (d : Deployed)

/-- A transaction of the keeper's, up to its landing. -/
def submit (env : Env) (e : Api.Envelope) (s : System) : Call System := do
  let chain ← (Api.chainMachine d s.api.chain).apply (e.invoke env)
    s.api.chain
  return { s with api := { s.api with chain := chain } }

/-- `totalUnits`: what a resumed turn can only read off the pledge rows. -/
def totalUnits (db : Api.Db) (r : RowId) (held : Int)
    (alreadyLiquidating : Bool) : Int :=
  if alreadyLiquidating ∧ held = 0 then activeUnits db r else held

/-- From `totalUnits` on. -/
def bookTurn (plan : Plan) (r : RowId) (units : Int)
    (txHashes : List TxHash) (s : System) : System :=
  if units = 0 ∨ plan.delivery = .rolledBack then s
  else { s with
    api := { s.api with db := book s.api.db r units txHashes plan.now } }

/-- From the vault's transfer on. -/
def moveTurn (plan : Plan) (r : RowId) (id : Nat) (asset : Address)
    (held : Int) (account : Address) (alreadyLiquidating : Bool)
    (txHashes : List TxHash) (s : System) : System :=
  if 0 < held then
    attempt s (submit d plan.vaultEnv
      (.pledgeVault (.liquidate plan.keeper id asset held account)) s)
      fun s =>
        if plan.stop = some .moved then s
        else bookTurn plan r (totalUnits s.api.db r held alreadyLiquidating)
          (txHashes ++ [plan.vaultHash]) s
  else bookTurn plan r (totalUnits s.api.db r held alreadyLiquidating)
    txHashes s

/-- From the lender's account on, with what the contract showed. -/
def seizeTurn (plan : Plan) (r : RowId) (row : CreditLineRow) (id : Nat)
    (onChain : CreditLine.Line) (s : System) : System :=
  match s.api.db.partyAccount.get row.lenderId with
  | none => s
  | some account =>
      let held := PledgeVault.positionUnits s.api.chain.lending.vault id
        onChain.asset
      if onChain.status = .liquidating then
        moveTurn d plan r id onChain.asset held account true [] s
      else if held ≠ onChain.pledgedUnits then s
      else
        attempt s (submit d plan.lineEnv
          (.creditLine (.liquidate plan.keeper id .transfer)) s) fun s =>
            if plan.stop = some .liquidated then s
            else moveTurn d plan r id onChain.asset held account false
              [plan.lineHash] s

/-- `ltv`, as the contract answers now. -/
def readLtv (env : Env) (id : Nat) (s : System) : Call CreditLine.LtvView :=
  CreditLine.ltv (d.lending.enter env d.lending.creditLine) id
    s.api.chain.lending.creditLine

/-- The turn of a line. -/
def cureTurn (plan : Plan) (r : RowId) (s : System) : System :=
  match selected s r with
  | none => s
  | some (row, id) =>
      attempt s (readLtv d plan.readEnv id s) fun view =>
        attempt s (CreditLine.readLine s.api.chain.lending.creditLine id)
          fun onChain =>
            if plan.stop = some .reading then s
            else if onChain.status = .liquidating then
              seizeTurn d plan r row id onChain s
            else if view.state ≠ .liquidation ∨ view.priceStatus ≠ .ok then s
            else if onChain.breachLedger = none then
              attempt s (submit d plan.lineEnv (.creditLine (.poke id)) s)
                fun s => s
            else if plan.now < breachStart (recentEvents s r)
                + s.cureWindowS r * 1000 then s
            else seizeTurn d plan r row id onChain s

-- =============================================================== the machine

/-- What can happen next. -/
inductive Act where
  | api (a : Api.Act ChainTx)
  | recompute (r : RowId) (env : Env) (now : Nat)
  | cure (plan : Plan) (r : RowId)

/-- The monitor's `recomputeLine` for a line on file. -/
def recompute (r : RowId) (env : Env) (now : Nat) (s : System) :
    Call System := do
  let row ← expect (s.api.db.creditLine.get r) "no such line"
  let id ← expect row.contractLineId "not on-chain"
  let ltv := (readLtv d env id s).map fun v =>
    (⟨v.state, v.ltvBps⟩ : MarginMonitor.LtvView)
  let monitor ← MarginMonitor.step (.recomputeLine r ltv now) s.monitor
  return { s with monitor := monitor }

def step (a : Act) (s : System) : Call System :=
  match a with
  | .api a => do
      let api ← Api.step (Api.network d s.api.chain) a s.api
      return { s with api := api }
  | .recompute r env now => recompute d r env now s
  | .cure plan r => return cureTurn d plan r s

/-- The keeper at work over the books `db` and the chain `start`. -/
def machine (start : Chain) (db : Api.Db) (cureWindowS : RowId → Nat) :
    Machine System Act where
  init := ⟨(Api.machine (Api.network d start) db).init,
    MarginMonitor.machine.init, cureWindowS⟩
  apply := step d

end Ballast.Keeper.CureExpiry
