/-
The contracts the API talks to, deployed together on one token ledger:
the credit line with its vault (`Wired`), the repo desk and the exit
desk.

A transaction enters one of them and leaves the storage of the others
alone, except that the vault calls its credit line.

# Reads

The API reads the contracts at moments of its own choosing, and at each
of them it sees the storage as it is then (`Chain.contracts`). A view
that aborts is a failed request, which each caller takes in its own way.

# The deployment to run

The histories of the results start from `funded`, a line with a lender,
a borrower, collateral in the vault and nothing drawn. `hand`,
`approach` and `settles` are the three things that keep happening in
them: a request passes and its envelope goes out, a caller learns what
became of it, and the books are settled.
-/
import Ballast.Api.System
import Ballast.Wired.Basic

namespace Ballast.Api

open Soroban

/-- Where the contracts live. -/
structure Deployed where
  lending : Wired.Deployment
  repo : Address
  desk : Address

structure Chain where
  tokens : Ledger
  lending : Wired.State
  repo : RepoDvp.State
  desk : ExitDesk.State

/-- What can happen on the chain next. -/
inductive ChainTx where
  | lending (tx : Wired.Tx)
  | repo (tx : RepoDvp.Tx)
  | desk (tx : ExitDesk.Tx)

/-- The contracts as one machine, from `start` on. -/
def chainMachine (d : Deployed) (start : Chain) : Machine Chain ChainTx where
  init := start
  apply
    | .lending tx, c =>
        ((Wired.machine d.lending).apply tx ⟨c.tokens, c.lending⟩).map
          fun w => { c with tokens := w.tokens, lending := w.store }
    | .repo tx, c =>
        ((RepoDvp.machine d.repo).apply tx ⟨c.tokens, c.repo⟩).map
          fun w => { c with tokens := w.tokens, repo := w.store }
    | .desk tx, c =>
        ((ExitDesk.machine d.desk).apply tx ⟨c.tokens, c.desk⟩).map
          fun w => { c with tokens := w.tokens, desk := w.store }

/-- A contract nothing has been written to, four times. -/
def Chain.empty : Chain :=
  ⟨Ledger.empty, ⟨CreditLine.State.empty, PledgeVault.State.empty⟩,
    RepoDvp.State.empty, ExitDesk.State.empty⟩

/-- The contract an envelope enters. -/
def Envelope.invoke (env : Env) : Envelope → ChainTx
  | .creditLine e => .lending (.creditLine env e)
  | .pledgeVault e => .lending (.vault env e)
  | .exitDesk e => .desk (.call env e)
  | .repoDvp e => .repo (.call env e)

/-- What an invocation returns, where the API or its books could use it:
the minted id, or the amount a repayment applied. -/
def Envelope.returns (d : Deployed) (env : Env) (c : Chain) : Envelope → Int
  | .creditLine (.openLine ..) => c.lending.creditLine.nextLineId
  | .creditLine (.repay payer line amount) =>
      match CreditLine.repay (d.lending.enter env d.lending.creditLine) payer
          line amount ⟨c.tokens, c.lending.creditLine⟩ with
      | .ok (applied, _) => applied
      | .error _ => 0
  | .repoDvp (.propose ..) => c.repo.nextId
  | _ => 0

/-- The reads of the contract clients. -/
def Chain.contracts (c : Chain) : Contracts where
  liquidationRecord := CreditLine.readLiquidation c.lending.creditLine
  line := CreditLine.readLine c.lending.creditLine
  trade := RepoDvp.readTrade c.repo

/-- The deployed contracts, as the API sees them. -/
def network (d : Deployed) (start : Chain) : Network Chain ChainTx where
  machine := chainMachine d start
  invoke env envelope := envelope.invoke env
  returns env envelope c := envelope.returns d env c
  contracts := Chain.contracts

-- ================================================= a deployment to run

namespace Demo

def deployed : Deployed := ⟨Wired.Demo.deployment, ⟨300⟩, ⟨400⟩⟩

/-- The lending contracts after `txs`, the other contracts untouched. -/
def lendingAfter (txs : List Wired.Tx) : Chain :=
  let w := (Wired.machine deployed.lending).run
    (Wired.machine deployed.lending).init txs
  { Chain.empty with tokens := w.tokens, lending := w.store }

/-- Line 0, funded with 1000 and secured by 5000 units, with nothing
drawn on it yet. -/
def funded : Chain := lendingAfter (Wired.Demo.lent.take 9)

/-- A lender (party 2), a borrower (party 3), and their line on file as
row 7. -/
def lineBooks : Db :=
  { Db.empty with
    partyAccount := (Store.empty.set 2 Wired.Demo.lender).set 3
      Wired.Demo.borrower
    creditLine := Store.empty.set 7 ⟨2, 3, .opened, some 0, none⟩ }

/-- Everybody signs, at a price of 1.00. -/
def env (timestamp sequence : Nat) : Env :=
  Wired.Demo.env timestamp sequence 10000000

/-- Request `id` passes and goes out under hash `h`. -/
def hand (id : Nat) (h : TxHash) (req : Request) : List (Act ChainTx) :=
  [.start id req (env 0 2), .commitDraft id h id 0]

/-- Caller `w` gets a final answer for `h` and reads what it needs. -/
def approach (w : Nat) (h : TxHash) : List (Act ChainTx) :=
  [.pick w h, .ask w .final, .readContracts w false]

/-- Caller `w` settles `h`. -/
def settles (w : Nat) (h : TxHash) : List (Act ChainTx) :=
  approach w h ++ [.commit w .acknowledged 1]

/-- A draw of 100 lands. Two callers hold it as pending; the first
settles it, the second loses the race, fails to re-read the row and
records that, and a sweep settles the draw again. -/
def raced : List (Act ChainTx) :=
  hand 0 50 (.draw 3 7 100 Wired.Demo.borrower) ++ [.land 50 (env 0 3)]
    ++ approach 1 50 ++ approach 2 50
    ++ [.commit 1 .acknowledged 1, .commit 2 .acknowledged 1,
      .reread 2 true, .recordError 2 false]
    ++ settles 3 50

end Demo

end Ballast.Api
