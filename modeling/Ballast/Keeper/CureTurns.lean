/-
The turns of the keeper's `runCureExpiryJob`, cut at their awaits.

`CureExpiry.cureTurn` takes a line's turn in one step, which is all that
is needed for a turn nobody interrupts. Here a turn goes from await to
await, and anything may happen between two of them: the monitor records
another reading, the borrower repays or pledges, another turn of the same
line is under way in a second process.

# The awaits

In the order of the source: the select of the open lines (`select`), the
select of the line's events (`selectEvents`), the two contract reads of
the `Promise.all`, which may be answered in either order (`readLtv`,
`readLine`), what is concluded from them with the clock (`conclude`), the
lender's account (`selectAccount`), the vault's balance (`positionUnits`),
then one or two transactions, and the booking (`selectPledges`, `book`).

# The transactions

A transaction is simulated, signed and sent in one step (`send`), lands in
some later ledger or never (`land`), and the turn goes on when it has seen
it succeed (`confirm`). What a turn has sent may land after the turn has
ended, so a submission keeps what it was built from (`Submission`).

A read that throws ends the turn, and so may anything else at any moment
(`stop`).
-/
import Ballast.Keeper.CureExpiry

namespace Ballast.Keeper.CureTurns

open Soroban
open Api (Chain ChainTx Deployed RowId TxHash CreditLineRow)
open CureExpiry (unhealthy recentEvents breachStart totalUnits book)

-- ================================================================= the state

/-- A line of `openLines` whose latest event is unhealthy. -/
structure Subject where
  row : RowId
  line : CreditLineRow
  cureWindowS : Nat
  contractLine : Nat
  events : List MarginMonitor.MarginEvent

/-- A transaction of a turn, and what the turn knows when it builds it. -/
inductive Submission where
  | poke (sub : Subject)
  | liquidate (sub : Subject) (onChain : CreditLine.Line) (held : Int)
      (account : Address)
  /-- the vault's `liquidate`, which moves the collateral -/
  | move (sub : Subject) (onChain : CreditLine.Line) (held : Int)
      (account : Address) (alreadyLiquidating : Bool)
      (txHashes : List TxHash)

/-- How far a turn is. -/
inductive Turn where
  | selected (row : RowId) (line : CreditLineRow) (cureWindowS : Nat)
  /-- the two reads of the contract, as far as they are answered -/
  | reading (sub : Subject) (view : Option CreditLine.LtvView)
      (onChain : Option CreditLine.Line)
  /-- the line is to be liquidated, or was -/
  | due (sub : Subject) (onChain : CreditLine.Line)
      (alreadyLiquidating : Bool)
  | accounted (sub : Subject) (onChain : CreditLine.Line)
      (alreadyLiquidating : Bool) (account : Address)
  | sending (tx : Submission)
  | polling (tx : Submission) (h : TxHash)
  /-- the vault is emptied -/
  | counting (sub : Subject) (held : Int) (alreadyLiquidating : Bool)
      (txHashes : List TxHash)
  | booking (sub : Subject) (totalUnits : Int) (txHashes : List TxHash)

structure System where
  around : CureExpiry.System
  /-- what was signed, by hash -/
  sent : Store TxHash Submission
  /-- what landed, and whether it succeeded -/
  landed : Store TxHash Bool
  turns : Store Nat Turn

def turnAt (s : System) (w : Nat) : Call Turn :=
  expect (s.turns.get w) "no such turn"

def moveTo (s : System) (w : Nat) (turn : Turn) : System :=
  { s with turns := s.turns.set w turn }

/-- The turn is over: skipped, thrown or done. -/
def leave (s : System) (w : Nat) : System :=
  { s with turns := s.turns.remove w }

/-- An await of a turn: on with what it answers, or the turn throws. -/
def answered {α : Type} (s : System) (w : Nat) (x : Call α)
    (next : α → Turn) : System :=
  match x with
  | .ok a => moveTo s w (next a)
  | .error _ => leave s w

-- ================================================================= the reads

/-- A line of `openLines`. -/
def select (w : Nat) (row : RowId) (s : System) : Call System := do
  ensure ((s.turns.get w).isNone) "a new turn"
  let line ← expect (s.around.api.db.creditLine.get row) "no such row"
  ensure (line.status = .opened) "not open"
  return moveTo s w (.selected row line (s.around.cureWindowS row))

/-- The events of the line, newest first. -/
def selectEvents (w : Nat) (s : System) : Call System := do
  match ← turnAt s w with
  | .selected row line cureWindowS =>
      let events := recentEvents s.around row
      match line.contractLineId with
      | none => return leave s w
      | some contractLine =>
          if events.head?.any (unhealthy ·.toState) = true then
            return moveTo s w
              (.reading ⟨row, line, cureWindowS, contractLine, events⟩
                none none)
          return leave s w
  | _ => throw "nothing to select"

variable (d : Deployed) (keeper : Address)

/-- `creditLineClient.ltv`. -/
def readLtv (w : Nat) (env : Env) (s : System) : Call System := do
  match ← turnAt s w with
  | .reading sub none onChain =>
      return answered s w
        (CureExpiry.readLtv d env sub.contractLine s.around) fun view =>
          .reading sub (some view) onChain
  | _ => throw "nothing to read"

/-- `creditLineClient.line`. -/
def readLine (w : Nat) (s : System) : Call System := do
  match ← turnAt s w with
  | .reading sub view none =>
      return answered s w
        (CreditLine.readLine s.around.api.chain.lending.creditLine
          sub.contractLine) fun onChain =>
            .reading sub view (some onChain)
  | _ => throw "nothing to read"

/-- What follows from the two reads, at `now`. -/
def conclude (w now : Nat) (s : System) : Call System := do
  match ← turnAt s w with
  | .reading sub (some view) (some onChain) =>
      if onChain.status = .liquidating then
        return moveTo s w (.due sub onChain true)
      else if view.state ≠ .liquidation ∨ view.priceStatus ≠ .ok then
        return leave s w
      else if onChain.breachLedger = none then
        return moveTo s w (.sending (.poke sub))
      else if now < breachStart sub.events + sub.cureWindowS * 1000 then
        return leave s w
      else
        return moveTo s w (.due sub onChain false)
  | _ => throw "not both are read"

/-- The lender's account. -/
def selectAccount (w : Nat) (s : System) : Call System := do
  match ← turnAt s w with
  | .due sub onChain alreadyLiquidating =>
      match s.around.api.db.partyAccount.get sub.line.lenderId with
      | none => return leave s w
      | some account =>
          return moveTo s w
            (.accounted sub onChain alreadyLiquidating account)
  | _ => throw "nothing to select"

/-- The collateral is to be moved, unless nothing is left of it. -/
def moving (sub : Subject) (onChain : CreditLine.Line) (held : Int)
    (account : Address) (alreadyLiquidating : Bool)
    (txHashes : List TxHash) : Turn :=
  if 0 < held then
    .sending (.move sub onChain held account alreadyLiquidating txHashes)
  else .counting sub held alreadyLiquidating txHashes

/-- `pledgeVaultClient.positionUnits`, and the comparison. -/
def positionUnits (w : Nat) (s : System) : Call System := do
  match ← turnAt s w with
  | .accounted sub onChain alreadyLiquidating account =>
      let held := PledgeVault.positionUnits s.around.api.chain.lending.vault
        sub.contractLine onChain.asset
      if alreadyLiquidating then
        return moveTo s w (moving sub onChain held account true [])
      else if held ≠ onChain.pledgedUnits then
        return leave s w
      else
        return moveTo s w (.sending (.liquidate sub onChain held account))
  | _ => throw "nothing to read"

-- ========================================================== the transactions

/-- What a submission invokes. -/
def Submission.envelope : Submission → Api.Envelope
  | .poke sub => .creditLine (.poke sub.contractLine)
  | .liquidate sub _ _ _ =>
      .creditLine (.liquidate keeper sub.contractLine .transfer)
  | .move sub onChain held account _ _ =>
      .pledgeVault
        (.liquidate keeper sub.contractLine onChain.asset held account)

/-- Simulate, sign and send. -/
def send (w : Nat) (h : TxHash) (env : Env) (s : System) : Call System := do
  match ← turnAt s w with
  | .sending tx => do
      ensure ((s.sent.get h).isNone) "another transaction's hash"
      match CureExpiry.submit d env (tx.envelope keeper) s.around with
      | .ok _ =>
          return moveTo { s with sent := s.sent.set h tx } w (.polling tx h)
      | .error _ => return leave s w
  | _ => throw "nothing to send"

/-- A transaction that was sent closes. -/
def land (h : TxHash) (env : Env) (s : System) : Call System := do
  let tx ← expect (s.sent.get h) "nothing was sent"
  ensure ((s.landed.get h).isNone) "already landed"
  match CureExpiry.submit d env (tx.envelope keeper) s.around with
  | .ok around =>
      return { s with around := around, landed := s.landed.set h true }
  | .error _ => return { s with landed := s.landed.set h false }

/-- It is seen to have succeeded. -/
def confirm (w : Nat) (s : System) : Call System := do
  match ← turnAt s w with
  | .polling tx h => do
      ensure (s.landed.get h = some true) "not final, or failed on-chain"
      match tx with
      | .poke _ => return leave s w
      | .liquidate sub onChain held account =>
          return moveTo s w (moving sub onChain held account false [h])
      | .move sub _ held _ alreadyLiquidating txHashes =>
          return moveTo s w
            (.counting sub held alreadyLiquidating (txHashes ++ [h]))
  | _ => throw "nothing to poll"

-- ================================================================= the books

/-- The active pledges, and `totalUnits`. -/
def selectPledges (w : Nat) (s : System) : Call System := do
  match ← turnAt s w with
  | .counting sub held alreadyLiquidating txHashes =>
      let units :=
        totalUnits s.around.api.db sub.row held alreadyLiquidating
      if units = 0 then return leave s w
      return moveTo s w (.booking sub units txHashes)
  | _ => throw "nothing to select"

/-- The booking transaction, at `now`. -/
def commit (w now : Nat) (delivery : Delivery) (s : System) :
    Call System := do
  match ← turnAt s w with
  | .booking sub units txHashes =>
      let db := book s.around.api.db sub.row units txHashes now
      match delivery with
      | .rolledBack => return leave s w
      | .acknowledged | .lost =>
          return leave { s with
            around := { s.around with
              api := { s.around.api with db := db } } } w
  | _ => throw "nothing to book"

-- =============================================================== the machine

/-- What can happen next. -/
inductive Act where
  | api (a : Api.Act ChainTx)
  | recompute (row : RowId) (env : Env) (now : Nat)
  | select (w : Nat) (row : RowId)
  | selectEvents (w : Nat)
  | readLtv (w : Nat) (env : Env)
  | readLine (w : Nat)
  | conclude (w now : Nat)
  | selectAccount (w : Nat)
  | positionUnits (w : Nat)
  | send (w : Nat) (h : TxHash) (env : Env)
  | land (h : TxHash) (env : Env)
  | confirm (w : Nat)
  | selectPledges (w : Nat)
  | commit (w now : Nat) (delivery : Delivery)
  /-- the turn throws, or its process stops -/
  | stop (w : Nat)

def step (a : Act) (s : System) : Call System :=
  match a with
  | .api a => do
      let around ← CureExpiry.step d (.api a) s.around
      return { s with around := around }
  | .recompute row env now => do
      let around ← CureExpiry.step d (.recompute row env now) s.around
      return { s with around := around }
  | .select w row => select w row s
  | .selectEvents w => selectEvents w s
  | .readLtv w env => readLtv d w env s
  | .readLine w => readLine w s
  | .conclude w now => conclude w now s
  | .selectAccount w => selectAccount w s
  | .positionUnits w => positionUnits w s
  | .send w h env => send d keeper w h env s
  | .land h env => land d keeper h env s
  | .confirm w => confirm w s
  | .selectPledges w => selectPledges w s
  | .commit w now delivery => commit w now delivery s
  | .stop w => return leave s w

/-- The job at work over the books `db` and the chain `start`. -/
def machine (start : Chain) (db : Api.Db) (cureWindowS : RowId → Nat) :
    Machine System Act where
  init := ⟨(CureExpiry.machine d start db cureWindowS).init, Store.empty,
    Store.empty, Store.empty⟩
  apply := step d keeper

end Ballast.Keeper.CureTurns
