/-
A trade's margin call on the chain, as the books have to show it: its
deadline while it is open (`due`), and what a transaction does to it.

`call_margin` opens a call or clears it, a top-up may clear it, and
nothing else touches it (`due_move`).

`due` is one figure for two questions, whether a call is open and until
when, so that the books can be compared with the chain in one equation.
An open call always has a deadline (`Dated`), which is what makes the
figure faithful. The moves are read off the contract's own step lemmas;
what the keeper and the API do is another matter.
-/
import Ballast.Keeper.RepoMargin
import Ballast.RepoDvp.Proofs.Cure

namespace Ballast.Keeper

open Soroban RepoDvp

/-- The deadline of a trade's open call. -/
def dueOf (t : RepoTrade) : Option Nat :=
  if t.pendingMarginCall then t.cureDeadline else none

/-- The same for the trade stored under `c`. -/
def due (w : World RepoDvp.State) (c : Nat) : Option Nat :=
  (w.store.trades.get c).bind dueOf

/-- The call of trade `c`, if open, has a deadline. -/
def Dated (w : World RepoDvp.State) (c : Nat) : Prop :=
  ∀ t, w.store.trades.get c = some t → t.pendingMarginCall = true →
    ∃ d, t.cureDeadline = some d

variable {self : Address} {w w' : World RepoDvp.State} {c : Nat}
  {t t' : RepoTrade}

theorem due_of_stored (h : w.store.trades.get c = some t) :
    due w c = dueOf t := by
  simp [due, h]

theorem due_of_none (h : w.store.trades.get c = none) : due w c = none := by
  simp [due, h]

theorem Dated.due_eq_none (hd : Dated w c)
    (h : w.store.trades.get c = some t) :
    due w c = none ↔ t.pendingMarginCall = false := by
  rw [due_of_stored h, dueOf]
  by_cases hp : t.pendingMarginCall = true
  · obtain ⟨d, hdead⟩ := hd t h hp
    simp [hp, hdead]
  · simp [hp]

/-- A `call_margin` of trade `c`. -/
def CallsMargin (c : Nat) (tx : RepoDvp.Tx) : Prop :=
  ∃ env keeper, tx = .call env (.callMargin keeper c)

/-- A top-up of trade `c`. -/
def TopsUp (c : Nat) (tx : RepoDvp.Tx) : Prop :=
  ∃ env borrower extra, tx = .call env (.topUp borrower c extra)

/-- What a transaction does to the call of trade `c`. -/
inductive DueMove (c : Nat) (tx : RepoDvp.Tx) : Option Nat → Option Nat →
    Prop
  | kept {d : Option Nat} : DueMove c tx d d
  | opened {d : Nat} : CallsMargin c tx → DueMove c tx none (some d)
  | cleared {d : Nat} : CallsMargin c tx ∨ TopsUp c tx →
      DueMove c tx (some d) none

/-- A call that moved, by what became of it. -/
theorem dueMove_of_move {env : Env} {e : Entry} {s : RepoDvp.State}
    (hdead : t.pendingMarginCall = true → ∃ d, t.cureDeadline = some d)
    (h : CallMove (env.at self) s c e t t') :
    DueMove c (.call env e) (dueOf t) (dueOf t')
      ∧ (t'.pendingMarginCall = true → ∃ d, t'.cureDeadline = some d) := by
  cases h with
  | kept hp hd _ =>
      rw [dueOf, dueOf, hp, hd]
      exact ⟨.kept, hdead⟩
  | opened he hclosed _ hopen hd =>
      subst he
      rw [dueOf, dueOf, hclosed, hopen, hd]
      exact ⟨.opened ⟨env, _, rfl⟩, fun _ => ⟨_, rfl⟩⟩
  | cleared hopen hwho _ _ hclosed hd =>
      obtain ⟨d, hold⟩ := hdead hopen
      rw [dueOf, dueOf, hopen, hclosed, hold]
      refine ⟨.cleared ?_, fun h => by cases h⟩
      rcases hwho with ⟨keeper, rfl, -⟩ | ⟨b, extra, rfl, -⟩
      · exact .inl ⟨env, keeper, rfl⟩
      · exact .inr ⟨env, b, extra, rfl⟩

theorem due_move {tx : RepoDvp.Tx} (hok : TradesOk self w.store)
    (hd : Dated w c) (happ : (RepoDvp.machine self).apply tx w = .ok w') :
    DueMove c tx (due w c) (due w' c) ∧ Dated w' c := by
  cases hw : w.store.trades.get c with
  | some t =>
      obtain ⟨t', ht'⟩ := trade_stays hok happ hw
      have hdead := hd t hw
      have hboth : DueMove c tx (dueOf t) (dueOf t')
          ∧ (t'.pendingMarginCall = true → ∃ d, t'.cureDeadline = some d) := by
        rcases apply_move hok happ ht' with ⟨x, hx, hmove⟩ | ⟨hnone, -⟩
        · obtain rfl : t = x := Option.some.inj (hw.symm.trans hx)
          rcases hmove with rfl | ⟨env, e, rfl, hmove⟩
          · exact ⟨.kept, hdead⟩
          · exact dueMove_of_move hdead hmove
        · rw [hw] at hnone
          cases hnone
      rw [due_of_stored hw, due_of_stored ht']
      refine ⟨hboth.1, fun x hx hp => ?_⟩
      obtain rfl : t' = x := Option.some.inj (ht'.symm.trans hx)
      exact hboth.2 hp
  | none =>
      have hclosed : ∀ t', w'.store.trades.get c = some t' →
          t'.pendingMarginCall = false := by
        intro t' ht'
        rcases apply_move hok happ ht' with ⟨x, hx, -⟩ | ⟨-, hclosed⟩
        · rw [hw] at hx
          cases hx
        · exact hclosed
      have hdue : due w' c = none := by
        cases hw' : w'.store.trades.get c with
        | none => exact due_of_none hw'
        | some t' =>
            rw [due_of_stored hw', dueOf, hclosed t' hw']
            rfl
      rw [due_of_none hw, hdue]
      refine ⟨.kept, fun x hx hp => ?_⟩
      rw [hclosed x hx] at hp
      cases hp

end Ballast.Keeper
