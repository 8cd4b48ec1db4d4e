/-
The keeper's `runRepoMarginJob`, cut where it awaits, with the two other
things that move a trade's margin call: the chain, and the top-ups the
API settles.

A run of the job selects the settled trades and takes them one after
another. An await may throw, which ends the trade's turn (`fail`), and
the process may stop at any of them (`stop`). A transaction that was sent
may land long after its run stopped waiting for it, or never (`land`).
Runs follow one another: an advisory lock is held for as long as one
lasts.

Of the API's settlement the model has what a top-up's does: read the
trade, then claim the intent and book in one transaction. What its route
checks is `Api.Routes`. Prices are in the environment of each call, so
every one of them may come with another.
-/
import Ballast.Api.Books
import Ballast.Soroban.Machine

namespace Ballast.Keeper

open Soroban RepoDvp
open Api (TxHash RowId IntentStatus RepoMarginCallRow cureCalls)

-- ================================================================= tables

inductive TradeStatus where
  | proposed
  | settled
  | unwound
  | defaulted
  | cancelled
  | failed
  deriving DecidableEq, Repr

/-- A `repo_trade` row. -/
structure RepoTradeRow where
  id : RowId
  contractTradeId : Option Nat
  units : Int
  status : TradeStatus
  deriving DecidableEq, Repr

/-- A `tx_intent` row of kind `repo.top_up`. -/
structure TopUpIntent where
  refId : RowId
  status : IntentStatus
  deriving DecidableEq, Repr

structure Db where
  repoTrade : List RepoTradeRow
  repoMarginCall : List RepoMarginCallRow
  txIntent : Store TxHash TopUpIntent

/-- `update(repoTrade).where(eq(id, row))`. -/
def Db.updateTrade (db : Db) (row : RowId)
    (f : RepoTradeRow → RepoTradeRow) : Db :=
  { db with
    repoTrade := db.repoTrade.map fun t => if t.id = row then f t else t }

/-- How the job books what `call_margin` left behind. -/
def bookCall (db : Db) (trade : RowId) (after : RepoTrade) (now : Nat) :
    Db :=
  match after.pendingMarginCall, after.cureDeadline with
  | true, some deadline =>
      { db with
        repoMarginCall := db.repoMarginCall ++
          [⟨trade, after.marginCallAmount, "USDC", deadline * 1000, none⟩] }
  | _, _ =>
      { db with repoMarginCall := cureCalls db.repoMarginCall trade now }

/-- `applySuccess` of `repo.top_up`, with the intent claimed. -/
def bookTopUp (db : Db) (h : TxHash) (intent : TopUpIntent)
    (onChain : RepoTrade) (now : Nat) : Db :=
  let db := { db with
    txIntent := db.txIntent.set h { intent with status := .settled } }
  let db := db.updateTrade intent.refId fun t =>
    { t with units := onChain.units }
  if onChain.pendingMarginCall then db
  else { db with
    repoMarginCall := cureCalls db.repoMarginCall intent.refId now }

-- ================================================================= the job

/-- `IN_CALL_BAND`. -/
def inCallBand : MarginState → Bool
  | .marginCall => true
  | .liquidation => true
  | _ => false

/-- Where a run stands, between one await and the next. -/
inductive Stage where
  /-- between two trades -/
  | idle
  | taken (row : RowId) (id : Nat)
  /-- `trade(id)` has answered -/
  | held (row : RowId) (id : Nat) (onChain : RepoTrade)
  /-- something has to change: a default, or else a `call_margin` -/
  | building (row : RowId) (id : Nat) (close : Bool)
  | polling (row : RowId) (id : Nat) (close : Bool) (h : TxHash)
  /-- the trade ended in a default, which is not booked yet -/
  | closed (row : RowId)
  /-- `call_margin` succeeded -/
  | called (row : RowId) (id : Nat)
  /-- and `trade(id)` has answered again -/
  | booking (row : RowId) (after : RepoTrade)
  deriving DecidableEq

/-- A run, and the trades it has not taken yet. -/
structure Run where
  now : Nat
  todo : List RepoTradeRow
  stage : Stage

/-- What the job submits. -/
def submission (keeper : Address) (id : Nat) (close : Bool) : Entry :=
  if close then .defaultClose keeper id else .callMargin keeper id

structure System where
  chain : World RepoDvp.State
  db : Db
  /-- the signed invocations, by hash -/
  sent : Store TxHash Entry
  /-- the ones that landed, and whether they succeeded -/
  landed : Store TxHash Bool
  /-- settlements of the API between their read and their transaction -/
  readers : Store Nat (TxHash × RepoTrade)
  run : Option Run

/-- A hash nothing was sent under. -/
def System.fresh (s : System) (h : TxHash) : Prop :=
  s.sent.get h = none ∧ s.landed.get h = none ∧ s.db.txIntent.get h = none

instance (s : System) (h : TxHash) : Decidable (s.fresh h) :=
  inferInstanceAs (Decidable (_ ∧ _))

def current (s : System) : Call Run := expect s.run "no run"

def moveTo (s : System) (run : Run) (stage : Stage) : System :=
  { s with run := some { run with stage := stage } }

variable (self keeper : Address)

/-- `select().where(eq(status, "settled"))`. -/
def begin (now : Nat) (s : System) : Call System := do
  ensure (s.run.isNone) "advisory lock busy"
  return { s with
    run := some ⟨now, s.db.repoTrade.filter (·.status = .settled), .idle⟩ }

/-- The next trade, or the end of the run. -/
def next (s : System) : Call System := do
  let run ← current s
  ensure (run.stage = .idle) "busy"
  match run.todo with
  | [] => return { s with run := none }
  | row :: todo =>
      match row.contractTradeId with
      | some id =>
          return { s with run := some ⟨run.now, todo, .taken row.id id⟩ }
      | none => return { s with run := some ⟨run.now, todo, .idle⟩ }

/-- `repoDvpClient.trade(id)`, the first time. -/
def readOnChain (s : System) : Call System := do
  let run ← current s
  match run.stage with
  | .taken row id => do
      let onChain ← readTrade s.chain.store id
      if onChain.status = .settled then
        return moveTo s run (.held row id onChain)
      else if onChain.status = .defaulted then
        return moveTo s run (.closed row)
      else return moveTo s run .idle
  | _ => throw "nothing to read"

/-- `repoDvpClient.marginView(id)`, and what the job makes of it. -/
def view (env : Env) (s : System) : Call System := do
  let run ← current s
  match run.stage with
  | .held row id onChain => do
      let view ← marginView (env.at self) id s.chain.store
      if view.priceOk = false then return moveTo s run .idle
      else
        let inBand := inCallBand view.state
        let expired := onChain.cureDeadline.any fun deadline =>
          decide (deadline * 1000 ≤ run.now)
        if onChain.pendingMarginCall ∧ inBand ∧ expired then
          return moveTo s run (.building row id true)
        else if inBand ≠ onChain.pendingMarginCall then
          return moveTo s run (.building row id false)
        else return moveTo s run .idle
  | _ => throw "nothing to view"

/-- Simulate, sign and send. -/
def send (h : TxHash) (env : Env) (s : System) : Call System := do
  let run ← current s
  match run.stage with
  | .building row id close => do
      ensure (s.fresh h) "hash already used"
      let _ ← call (env.at self) (submission keeper id close) s.chain
      return moveTo
        { s with sent := s.sent.set h (submission keeper id close) } run
        (.polling row id close h)
  | _ => throw "nothing to send"

/-- `getTransaction` answers SUCCESS. -/
def confirm (s : System) : Call System := do
  let run ← current s
  match run.stage with
  | .polling row id close h => do
      ensure (s.landed.get h = some true) "not final, or failed on-chain"
      return moveTo s run (if close then .closed row else .called row id)
  | _ => throw "nothing to poll"

/-- `repoDvpClient.trade(id)`, the second time. -/
def readAfter (s : System) : Call System := do
  let run ← current s
  match run.stage with
  | .called row id => do
      let after ← readTrade s.chain.store id
      return moveTo s run (.booking row after)
  | _ => throw "nothing to read"

/-- The write a trade's turn ends with. -/
def write (s : System) : Call System := do
  let run ← current s
  match run.stage with
  | .booking row after =>
      return moveTo { s with db := bookCall s.db row after run.now } run .idle
  | .closed row =>
      return moveTo { s with
        db := s.db.updateTrade row fun t => { t with status := .defaulted } }
        run .idle
  | _ => throw "nothing to write"

/-- An await throws, and the trade's turn is over. -/
def fail (s : System) : Call System := do
  let run ← current s
  return moveTo s run .idle

/-- The process stops. -/
def stop (s : System) : Call System := do
  let _ ← current s
  return { s with run := none }

-- ======================================================= chain and top-ups

/-- The API hands out a top-up of a trade. -/
def askTopUp (h : TxHash) (row : RowId) (borrower : Address) (units : Int)
    (env : Env) (s : System) : Call System := do
  let trade ← expect (s.db.repoTrade.find? (·.id = row)) "no such trade"
  let id ← expect trade.contractTradeId "trade is not on-chain yet"
  ensure (s.fresh h) "hash already used"
  let _ ← call (env.at self) (.topUp borrower id units) s.chain
  return { s with
    sent := s.sent.set h (.topUp borrower id units)
    db := { s.db with txIntent := s.db.txIntent.set h ⟨row, .pending⟩ } }

/-- A transaction that was sent closes. -/
def land (h : TxHash) (env : Env) (s : System) : Call System := do
  let entry ← expect (s.sent.get h) "nothing was sent"
  ensure ((s.landed.get h).isNone) "already landed"
  match call (env.at self) entry s.chain with
  | .ok chain =>
      return { s with chain := chain, landed := s.landed.set h true }
  | .error _ => return { s with landed := s.landed.set h false }

/-- A settlement of a top-up reads the trade. -/
def settleRead (w : Nat) (h : TxHash) (s : System) : Call System := do
  let intent ← expect (s.db.txIntent.get h) "no such intent"
  ensure (intent.status = .pending) "already settled"
  ensure (s.landed.get h = some true) "NOT_FOUND"
  let trade ← expect (s.db.repoTrade.find? (·.id = intent.refId))
    "no such trade"
  let id ← expect trade.contractTradeId "contractTradeId is null"
  let onChain ← readTrade s.chain.store id
  return { s with readers := s.readers.set w (h, onChain) }

/-- Its transaction. A settlement that finds the intent claimed books
nothing. -/
def settle (w : Nat) (now : Nat) (s : System) : Call System := do
  let (h, onChain) ← expect (s.readers.get w) "nothing was read"
  let intent ← expect (s.db.txIntent.get h) "no such intent"
  let s := { s with readers := s.readers.remove w }
  if intent.status = .pending then
    return { s with db := bookTopUp s.db h intent onChain now }
  else return s

-- ============================================================ the machine

/-- What can happen next. -/
inductive Act where
  | outside (tx : RepoDvp.Tx)
  | land (h : TxHash) (env : Env)
  | askTopUp (h : TxHash) (row : RowId) (borrower : Address) (units : Int)
      (env : Env)
  | settleRead (w : Nat) (h : TxHash)
  | settle (w : Nat) (now : Nat)
  | begin (now : Nat)
  | next
  | readOnChain
  | view (env : Env)
  | send (h : TxHash) (env : Env)
  | confirm
  | readAfter
  | write
  | fail
  | stop

def step (a : Act) (s : System) : Call System :=
  match a with
  | .outside tx => do
      let chain ← (RepoDvp.machine self).apply tx s.chain
      return { s with chain := chain }
  | .land h env => land self h env s
  | .askTopUp h row borrower units env =>
      askTopUp self h row borrower units env s
  | .settleRead w h => settleRead w h s
  | .settle w now => settle w now s
  | .begin now => begin now s
  | .next => next s
  | .readOnChain => readOnChain s
  | .view env => view self env s
  | .send h env => send self keeper h env s
  | .confirm => confirm s
  | .readAfter => readAfter s
  | .write => write s
  | .fail => fail s
  | .stop => stop s

/-- The keeper at work on the books `db`, over the repo desk as `txs` left
it. -/
def machine (txs : List RepoDvp.Tx) (db : Db) : Machine System Act where
  init := ⟨(RepoDvp.machine self).run (RepoDvp.machine self).init txs, db,
    Store.empty, Store.empty, Store.empty, none⟩
  apply := step self keeper

end Ballast.Keeper
