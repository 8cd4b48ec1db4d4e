/-
The keeper's `runRepoUnwindJob`, which pays leg 2 of the repos that are
due, over the repo desk and the table it books.

A turn takes a settled row past its maturity and reads the trade. One the
chain has ended already is booked as the chain has it; for one that is
settled still `unwind` is simulated, signed and sent, and booked once it
has landed. Every await may be the turn's last: it throws, or the process
stops. What a turn has sent may land after it, or never, so the turns of
any number of processes are in flight at once.
-/
import Ballast.Keeper.RepoMargin

namespace Ballast.Keeper.RepoUnwind

open Soroban RepoDvp
open Api (TxHash RowId)

-- ================================================================= the state

/-- A `repo_trade` row. Times are in milliseconds. -/
structure RepoTradeRow where
  contractTradeId : Option Nat
  maturityAt : Nat
  status : TradeStatus
  leg2Tx : Option TxHash
  deriving DecidableEq, Repr

/-- How far a turn is. -/
inductive Turn where
  | taken (row : RowId) (contractId : Nat)
  /-- the chain has ended the trade, which is not booked yet -/
  | ended (row : RowId) (contractId : Nat) (status : TradeStatus)
  /-- the trade is settled -/
  | building (row : RowId) (contractId : Nat)
  | polling (row : RowId) (contractId : Nat) (h : TxHash)
  /-- `unwind` succeeded -/
  | paid (row : RowId) (contractId : Nat) (h : TxHash)
  deriving DecidableEq, Repr

structure System where
  chain : World RepoDvp.State
  repoTrade : Store RowId RepoTradeRow
  /-- the trade each signed `unwind` is for, by hash -/
  sent : Store TxHash Nat
  /-- the ones that landed, and whether they succeeded -/
  landed : Store TxHash Bool
  turns : Store Nat Turn

variable (self keeper : Address)

def turnAt (s : System) (w : Nat) : Call Turn :=
  expect (s.turns.get w) "no such turn"

def moveTo (s : System) (w : Nat) (turn : Turn) : System :=
  { s with turns := s.turns.set w turn }

/-- The turn is over. -/
def leave (s : System) (w : Nat) : System :=
  { s with turns := s.turns.remove w }

-- ================================================================== the turn

/-- A row of `dueTrades` that reached the chain. -/
def take (w : Nat) (r : RowId) (now : Nat) (s : System) : Call System := do
  ensure ((s.turns.get w).isNone) "a new turn"
  let trade ← expect (s.repoTrade.get r) "no such row"
  ensure (trade.status = .settled) "not settled"
  ensure (trade.maturityAt ≤ now) "not due"
  let contractId ← expect trade.contractTradeId "skipped"
  return moveTo s w (.taken r contractId)

/-- `repoDvpClient.trade(contractId)`. -/
def read (w : Nat) (s : System) : Call System := do
  match ← turnAt s w with
  | .taken r contractId => do
      let onChain ← readTrade s.chain.store contractId
      match onChain.status with
      | .settled => return moveTo s w (.building r contractId)
      | .unwound => return moveTo s w (.ended r contractId .unwound)
      | .defaulted => return moveTo s w (.ended r contractId .defaulted)
      | _ => return leave s w
  | _ => throw "nothing to read"

/-- Simulate, sign and send. Two envelopes of one hash are the same one. -/
def send (w : Nat) (h : TxHash) (env : Env) (s : System) : Call System := do
  match ← turnAt s w with
  | .building r contractId => do
      ensure ((s.sent.get h).all (· = contractId)) "another trade's hash"
      let _ ← call (env.at self) (.unwind keeper contractId) s.chain
      return moveTo { s with sent := s.sent.set h contractId } w
        (.polling r contractId h)
  | _ => throw "nothing to send"

/-- `getTransaction` answers SUCCESS. -/
def confirm (w : Nat) (s : System) : Call System := do
  match ← turnAt s w with
  | .polling r contractId h => do
      ensure (s.landed.get h = some true) "not final, or failed on-chain"
      return moveTo s w (.paid r contractId h)
  | _ => throw "nothing to poll"

/-- `update(repoTrade)`. -/
def write (w : Nat) (s : System) : Call System := do
  match ← turnAt s w with
  | .ended r _ status =>
      return leave { s with
        repoTrade := s.repoTrade.adjust r fun t =>
          { t with status := status } } w
  | .paid r _ h =>
      return leave { s with
        repoTrade := s.repoTrade.adjust r fun t =>
          { t with status := .unwound, leg2Tx := some h } } w
  | _ => throw "nothing to write"

/-- A transaction that was sent closes. -/
def land (h : TxHash) (env : Env) (s : System) : Call System := do
  let contractId ← expect (s.sent.get h) "nothing was sent"
  ensure ((s.landed.get h).isNone) "already landed"
  match call (env.at self) (.unwind keeper contractId) s.chain with
  | .ok chain =>
      return { s with chain := chain, landed := s.landed.set h true }
  | .error _ => return { s with landed := s.landed.set h false }

-- =============================================================== the machine

inductive Act where
  | tx (tx : RepoDvp.Tx)
  /-- others write the books -/
  | rows (repoTrade : Store RowId RepoTradeRow)
  | take (w : Nat) (r : RowId) (now : Nat)
  | read (w : Nat)
  | send (w : Nat) (h : TxHash) (env : Env)
  | land (h : TxHash) (env : Env)
  | confirm (w : Nat)
  | write (w : Nat)
  /-- the turn throws, or its process stops -/
  | stop (w : Nat)

def step (a : Act) (s : System) : Call System :=
  match a with
  | .tx tx => do
      let chain ← (RepoDvp.machine self).apply tx s.chain
      return { s with chain := chain }
  | .rows repoTrade => return { s with repoTrade := repoTrade }
  | .take w r now => take w r now s
  | .read w => read w s
  | .send w h env => send self keeper w h env s
  | .land h env => land self keeper h env s
  | .confirm w => confirm w s
  | .write w => write w s
  | .stop w => return leave s w

/-- The job at work on the books `repoTrade`, over the repo desk as `txs`
left it. -/
def machine (txs : List RepoDvp.Tx) (repoTrade : Store RowId RepoTradeRow) :
    Machine System Act where
  init := ⟨(RepoDvp.machine self).run (RepoDvp.machine self).init txs,
    repoTrade, Store.empty, Store.empty, Store.empty⟩
  apply := step self keeper

/-- Others keep the rows, and the trade a row is for. -/
def KeepsIds (a : Act) (s : System) : Prop :=
  match a with
  | .rows repoTrade => ∀ r t c, s.repoTrade.get r = some t →
      t.contractTradeId = some c →
      ∃ t', repoTrade.get r = some t' ∧ t'.contractTradeId = some c
  | _ => True

namespace Demo

def operator : Address := ⟨1⟩

/-- A repo of 100 USDC until time 1000, settled. -/
def lent : List RepoDvp.Tx :=
  RepoDvp.Demo.setup ++
    RepoDvp.Demo.repo RepoDvp.Demo.lender RepoDvp.Demo.borrower 0

def rows : Store RowId RepoTradeRow :=
  Store.empty.set 7 ⟨some 0, 1000000, .settled, none⟩

/-- The repo is due. -/
def due : Env := RepoDvp.Demo.env 1000 200

/-- Two processes take the row at once, and both send. -/
def raced : List Act :=
  [.take 0 7 1000000, .take 1 7 1000000, .read 0, .read 1,
   .send 0 20 due, .send 1 21 due, .land 20 due, .land 21 due, .confirm 0]

/-- The process stops once it has sent, and what it sent lands. -/
def crashed : List Act :=
  [.take 0 7 1000000, .read 0, .send 0 20 due, .stop 0, .land 20 due]

end Demo

end Ballast.Keeper.RepoUnwind
