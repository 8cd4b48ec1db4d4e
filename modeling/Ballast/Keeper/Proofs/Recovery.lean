/-
The books of a trade's margin call after any history that books in time
(`margin_books_follow`), and two histories that do not.

A run that stops between the landing of its `call_margin` and its write
leaves a call that no run books: the next one finds the flag on the chain
where the band says it should be and has nothing to change. So does a
submission that throws before it is final and lands afterwards.

# After the fact

`landed_call_unbooked` shows that neither history is made good by a
further run without a fault. The job compares the flag on the chain with
the band and writes only when it has itself changed the flag, so a
change that went unbooked is not seen as one.
-/
import Ballast.Keeper.Proofs.Booked

namespace Ballast.Keeper

open Soroban RepoDvp Machine
open Api (TxHash RowId IntentStatus)

/-- The open calls of row `r` are the call of trade `c` on the chain: one,
due at its deadline, or none. -/
def Follows (r : RowId) (c : Nat) (s : System) : Prop :=
  ∀ t, s.chain.store.trades.get c = some t →
    (t.pendingMarginCall = true → ∃ d, t.cureDeadline = some d
      ∧ openDues s.db.repoMarginCall r = [d * 1000])
    ∧ (t.pendingMarginCall = false →
      openDues s.db.repoMarginCall r = [])

variable {self keeper : Address} {r : RowId} {c : Nat} {s : System}

theorem Agrees.follows (hd : Dated s.chain c) (h : Agrees r c s) :
    Follows r c s := by
  intro t ht
  have hdues : openDues s.db.repoMarginCall r
      = (dueOf t).toList.map (· * 1000) := by
    rw [← due_of_stored ht]
    exact h
  constructor
  · intro hp
    obtain ⟨d, hdead⟩ := hd t ht hp
    refine ⟨d, hdead, hdues.trans ?_⟩
    rw [dueOf, if_pos hp, hdead]
    rfl
  · intro hp
    rw [hdues, dueOf, hp]
    rfl

-- ================================================================ the start

variable {txs : List RepoDvp.Tx} {db : Db}

theorem dated_run (addr : Address) (c : Nat) (txs : List RepoDvp.Tx) :
    Dated ((RepoDvp.machine addr).run (RepoDvp.machine addr).init txs)
      c := by
  intro t ht hp
  obtain ⟨d, hdead, -⟩ := (called_run addr c txs).opened t ht hp
  exact ⟨d, hdead⟩

theorem filed_init (hrows : OneRow r c db.repoTrade) :
    Filed self keeper r c (machine self keeper txs db).init where
  chain := tradesOk_run self txs
  dated := dated_run self c txs
  rows := hrows
  todo _ h := by cases h
  about _ _ _ h := by cases h
  polled _ _ _ _ _ h := by cases h
  topUps _ _ _ h := by cases h
  readers _ _ _ h := by cases h

theorem booked_init (h : Agrees r c (machine self keeper txs db).init) :
    Booked r c (machine self keeper txs db).init where
  settled _ := .inl h
  owed h := by cases h
  writing _ _ h := by cases h
  held _ _ _ _ h := by cases h

-- ============================================================ the recovery

/-- Whatever fails, as long as a change of the call is booked before the
next, a trade that no run owes a write to and no top-up has just moved
has the books of its call. -/
theorem margin_books_follow (self keeper : Address)
    (txs : List RepoDvp.Tx) (db : Db) (r : RowId) (c : Nat)
    (acts : List Act) (hrows : OneRow r c db.repoTrade)
    (hstart : Agrees r c (machine self keeper txs db).init)
    (htime : (machine self keeper txs db).Allowed (InTime self r c)
      (machine self keeper txs db).init acts) :
    let M := machine self keeper txs db
    let s := M.run M.init acts
    s.owes r = false → ¬ Unsettled r s → Follows r c s := by
  intro M s hnone hquiet
  have hboth : Filed self keeper r c s ∧ Booked r c s := by
    refine run_induction (P := fun s => Filed self keeper r c s
      ∧ Booked r c s) ?_ ⟨filed_init hrows, booked_init hstart⟩ htime
    rintro s a s' ⟨hf, hb⟩ hin happ
    have hdid := step_did happ
    exact ⟨filed_step hf hdid, booked_step hf hb hdid hin⟩
  obtain ⟨hf, hb⟩ := hboth
  rcases hb.settled hnone with hagree | ⟨-, hcuring⟩
  · exact hagree.follows hf.dated
  · exact absurd hcuring.unsettled hquiet

-- ========================================================== three histories

namespace Demo

/-- At 0.60 the loan is in the band of a margin call. -/
def dip (timestamp sequence : Nat) : Env :=
  { RepoDvp.Demo.env timestamp sequence with
    guardedPrice := fun _ a => .ok ⟨a, 6000000, .ok, timestamp, []⟩ }

def lent : List RepoDvp.Tx :=
  RepoDvp.Demo.setup
    ++ RepoDvp.Demo.repo RepoDvp.Demo.lender RepoDvp.Demo.borrower 0

/-- Row 7 is about trade 0. -/
def books : Db := ⟨[⟨7, some 0, 200, .settled⟩], [], Store.empty⟩

def operator : Address := ⟨1⟩

/-- A run decides on a `call_margin` and sends it. -/
def sends (now : Nat) : List Act :=
  [.begin now, .next, .readOnChain, .view (dip 20 4), .send 50 (dip 20 4)]

/-- It lands, and the run books it. -/
def booked : List Act :=
  sends 20000
    ++ [.land 50 (dip 20 5), .confirm, .readAfter, .write, .next]

/-- It lands, and the process stops. -/
def stopped : List Act := sends 20000 ++ [.land 50 (dip 20 5), .stop]

/-- The polling gives up, and then it lands. -/
def notFinal : List Act :=
  sends 20000 ++ [.fail, .next, .land 50 (dip 20 5)]

/-- A run in which nothing fails and nothing is there to do. -/
def calm : List Act :=
  [.begin 30000, .next, .readOnChain, .view (dip 30 6), .next]

end Demo

theorem margin_books_follow_booked :
    let M := machine RepoDvp.Demo.self Demo.operator Demo.lent Demo.books
    let s := M.run M.init Demo.booked
    s.owes 7 = false → ¬ Unsettled 7 s → Follows 7 0 s :=
  margin_books_follow RepoDvp.Demo.self Demo.operator Demo.lent Demo.books 7 0
    Demo.booked (by simp [OneRow, Demo.books]) (by decide +kernel)
    (by decide +kernel)

/-- Every step of the history and of the run after it was taken, nothing
is in flight, and the call that is open on the chain is not in the
books. -/
def Lost (history : List Act) : Prop :=
  let M := machine RepoDvp.Demo.self Demo.operator Demo.lent Demo.books
  let acts := history ++ Demo.calm
  let s := M.run M.init acts
  (M.trace M.init acts).length = acts.length
    ∧ s.run.isNone ∧ s.readers.keys = ∅ ∧ s.db.txIntent.keys = ∅
    ∧ (s.chain.store.trades.get 0).any (fun t => t.status = .settled
      ∧ t.pendingMarginCall = true) = true
    ∧ openDues s.db.repoMarginCall 7 = []

instance (history : List Act) : Decidable (Lost history) :=
  inferInstanceAs (Decidable (_ ∧ _))

/-- In a run without a fault, with a price, neither is made good. -/
theorem landed_call_unbooked : Lost Demo.stopped ∧ Lost Demo.notFinal := by
  decide +kernel

end Ballast.Keeper
