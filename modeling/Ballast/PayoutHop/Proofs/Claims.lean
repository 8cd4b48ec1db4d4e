/-
One caller at a time holds the claim on a row.

The primary key lets one insert through, and the conditional update one
caller past a failed row, so two calls that hold a claim hold different
rows (`Held.unique`). The row of a holder is `claimed`, or `sent` once its
booking committed and the call does not know (`Holds`): neither a new
claim nor a repair can touch it.

A call that has lost its claim to a stop or a crash leaves its row
`claimed` with nobody to hold it, and such a row stays as it is: no
other call gets past it. So the results that count payments and bookings
per row need no word about crashes; they follow from who may change a
row at all (`Did.row`).
-/
import Ballast.PayoutHop.Proofs.Steps

namespace Ballast.PayoutHop

open Soroban

variable {hop : Hop} {s s' : System} {a : Act} {i j : Nat} {c d : Caller}
  {key : Text}

/-- The row of a call that holds its claim. -/
structure Holds (c : Caller) (row : PayoutForward) : Prop where
  amount : row.amount = c.args.amount
  refId : row.refId = c.refId
  status : row.status = .claimed
    ∨ row.status = .sent ∧ ∃ h, c.stage = .unbooked h

structure Held (s : System) : Prop where
  row : ∀ i c, s.callers.get i = some c → c.stage.holds = true →
    ∃ row, s.db.payoutForward.get c.key = some row ∧ Holds c row
  unique : ∀ i j c d, s.callers.get i = some c → s.callers.get j = some d →
    c.stage.holds = true → d.stage.holds = true → c.key = d.key → i = j
  positive : ∀ i c, s.callers.get i = some c → 0 < c.args.amount

theorem held_init : Held (machine hop).init where
  row := by
    intro i c hc
    cases hc
  unique := by
    intro i j c d hc
    cases hc
  positive := by
    intro i c hc
    cases hc

namespace Held

/-- A holder's row is not waiting to be booked, and has not failed. -/
theorem status (hheld : Held s) (hc : s.callers.get i = some c)
    (hholds : c.stage.holds = true) {row : PayoutForward}
    (hrow : s.db.payoutForward.get c.key = some row) :
    row.status = .claimed ∨ row.status = .sent := by
  obtain ⟨row', hrow', hr⟩ := hheld.row i c hc hholds
  rw [hrow] at hrow'
  cases hrow'
  rcases hr.status with hclaimed | ⟨hsent, -⟩
  · exact .inl hclaimed
  · exact .inr hsent

/-- Nobody holds a row a claim would be let through at. -/
theorem ne_of_free (hheld : Held s) (hfree : Free s.db key)
    (hc : s.callers.get i = some c) (hholds : c.stage.holds = true) :
    c.key ≠ key := by
  rintro rfl
  obtain ⟨row, hrow, -⟩ := hheld.row i c hc hholds
  have hfailed := hfree row hrow
  rcases hheld.status hc hholds hrow with h | h <;> rw [hfailed] at h <;>
    cases h

/-- Nor one that waits to be booked. -/
theorem ne_of_pending (hheld : Held s) {now : PayoutForward}
    (hnow : s.db.payoutForward.get key = some now)
    (hpending : now.status = .bookkeepingPending)
    (hc : s.callers.get i = some c) (hholds : c.stage.holds = true) :
    c.key ≠ key := by
  rintro rfl
  rcases hheld.status hc hholds hnow with h | h <;> rw [hpending] at h <;>
    cases h

/-- Nor one somebody else holds. -/
theorem ne_of_holder (hheld : Held s) (hc : s.callers.get i = some c)
    (hholds : c.stage.holds = true) (hne : j ≠ i)
    (hd : s.callers.get j = some d) (hd' : d.stage.holds = true) :
    d.key ≠ c.key := by
  intro heq
  exact hne (hheld.unique j i d c hd hc hd' hholds heq)

/-- One call changes, and the rows the others hold do not. -/
theorem update (hheld : Held s) (i : Nat) (new : Option Caller)
    (hcallers : ∀ j, s'.callers.get j
      = if j = i then new else s.callers.get j)
    (hpos : ∀ d, new = some d → 0 < d.args.amount)
    (hnew : ∀ d, new = some d → d.stage.holds = true →
      (∃ row, s'.db.payoutForward.get d.key = some row ∧ Holds d row)
        ∧ ∀ j e, j ≠ i → s.callers.get j = some e →
          e.stage.holds = true → e.key ≠ d.key)
    (hrows : ∀ j e, j ≠ i → s.callers.get j = some e →
      e.stage.holds = true → s'.db.payoutForward.get e.key
        = s.db.payoutForward.get e.key) : Held s' where
  row := by
    intro j e he hholds
    rw [hcallers] at he
    by_cases hj : j = i
    · rw [if_pos hj] at he
      exact (hnew e he hholds).1
    · rw [if_neg hj] at he
      rw [hrows j e hj he hholds]
      exact hheld.row j e he hholds
  unique := by
    intro j k e f he hf hholds hholds' hkey
    rw [hcallers] at he hf
    by_cases hj : j = i
    · by_cases hk : k = i
      · rw [hj, hk]
      · rw [if_pos hj] at he
        rw [if_neg hk] at hf
        exact absurd hkey.symm ((hnew e he hholds).2 k f hk hf hholds')
    · rw [if_neg hj] at he
      by_cases hk : k = i
      · rw [if_pos hk] at hf
        exact absurd hkey ((hnew f hf hholds').2 j e hj he hholds)
      · rw [if_neg hk] at hf
        exact hheld.unique j k e f he hf hholds hholds' hkey
  positive := by
    intro j e he
    rw [hcallers] at he
    by_cases hj : j = i
    · rw [if_pos hj] at he
      exact hpos e he
    · rw [if_neg hj] at he
      exact hheld.positive j e he

/-- A call ends. -/
theorem gone (hheld : Held s)
    (hcallers : s'.callers = s.callers.remove i)
    (hrows : ∀ j e, j ≠ i → s.callers.get j = some e →
      e.stage.holds = true → s'.db.payoutForward.get e.key
        = s.db.payoutForward.get e.key) : Held s' := by
  refine hheld.update i none ?_ ?_ ?_ hrows
  · intro j
    rw [hcallers, Store.get_remove]
  · intro d hd
    cases hd
  · intro d hd
    cases hd

/-- A call that holds its row goes on holding it. -/
theorem onward (hheld : Held s) (hc : s.callers.get i = some c)
    (hholds : c.stage.holds = true) {stage : Stage}
    (hcallers : s'.callers = s.callers.set i { c with stage := stage })
    (hrow : ∃ row, s'.db.payoutForward.get c.key = some row
      ∧ Holds { c with stage := stage } row)
    (hrows : ∀ key, key ≠ c.key →
      s'.db.payoutForward.get key = s.db.payoutForward.get key) :
    Held s' := by
  refine hheld.update i (some { c with stage := stage })
    ?_ ?_ ?_ ?_
  · intro j
    rw [hcallers, Store.get_set]
  · rintro d ⟨rfl⟩
    exact hheld.positive i c hc
  · rintro d ⟨rfl⟩ -
    refine ⟨hrow, fun j e hj he he' => ?_⟩
    show e.key ≠ c.key
    exact hheld.ne_of_holder hc hholds hj he he'
  · intro j e hj he he'
    exact hrows e.key (hheld.ne_of_holder hc hholds hj he he')

/-- The calls are the same, and so are the rows they hold. -/
theorem same (hheld : Held s) (hcallers : s'.callers = s.callers)
    (hrows : ∀ i c, s.callers.get i = some c → c.stage.holds = true →
      s'.db.payoutForward.get c.key = s.db.payoutForward.get c.key) :
    Held s' where
  row := by
    intro i c hc hholds
    rw [hcallers] at hc
    rw [hrows i c hc hholds]
    exact hheld.row i c hc hholds
  unique := by
    rw [hcallers]
    exact hheld.unique
  positive := by
    rw [hcallers]
    exact hheld.positive

end Held

-- ================================================================= the rows

theorem get_claimOn {db : Db} {txHash : Option PaymentHash} (k : Text) :
    (claimOn db c txHash).payoutForward.get k
      = if k = c.key then some { claimRow c with txHash := txHash }
        else db.payoutForward.get k :=
  Store.get_set _ _ _ _

theorem get_updateRow {db : Db} {f : PayoutForward → PayoutForward}
    (k : Text) : (updateRow db key f).payoutForward.get k
      = if k = key then (db.payoutForward.get key).map f
        else db.payoutForward.get k :=
  Store.get_adjust _ _ _ _

theorem get_takenOn {db : Db} {now : PayoutForward} (k : Text) :
    (takenOn db key now).payoutForward.get k
      = if k = key then some { now with status := .sent }
        else db.payoutForward.get k :=
  Store.get_set _ _ _ _

theorem checkPolicy_positive {args : ForwardPayoutArgs}
    {policy : PayoutPolicy} (h : checkPolicy args policy = .ok ()) :
    0 < args.amount := by
  simp only [checkPolicy, bind_ok, ensure_ok] at h
  obtain ⟨-, -, -, -, -, hpos, -⟩ := h
  exact hpos

/-- A move of a holder that writes nothing leaves it holding a claimed
row. -/
theorem Goes.holds {stage : Stage} {row : PayoutForward}
    (hgo : Goes hop c c.stage stage) (hr : Holds c row) :
    Holds { c with stage := stage } row where
  amount := hr.amount
  refId := hr.refId
  status := by
    rcases hr.status with hclaimed | ⟨-, h, hstage⟩
    · exact .inl hclaimed
    · rw [hstage] at hgo
      cases hgo

theorem Goes.holds_eq {before after : Stage}
    (hgo : Goes hop c before after) : before.holds = after.holds := by
  cases hgo <;> rfl

-- ================================================================= the step

theorem held_repaired {r : Nat} {delivery : Delivery} {row : PayoutForward}
    {rest : List (Text × PayoutForward)} (hheld : Held s)
    (h : Repaired s s' r delivery key row rest) : Held s' := by
  cases h with
  | skipped _ hs' =>
      subst hs'
      exact hheld.same rfl fun _ _ _ _ => rfl
  | already hnow hpending _ _ hs' =>
      subst hs'
      refine hheld.same rfl fun i c hc hholds => ?_
      show (takenOn _ _ _).payoutForward.get _ = _
      rw [get_takenOn, if_neg (hheld.ne_of_pending hnow hpending hc hholds)]
  | booked hnow hpending _ _ hs' =>
      subst hs'
      refine hheld.same rfl fun i c hc hholds => ?_
      show (takenOn _ _ _).payoutForward.get _ = _
      rw [get_takenOn, if_neg (hheld.ne_of_pending hnow hpending hc hholds)]

theorem held_step (hheld : Held s) (h : Did hop s s' a) : Held s' := by
  cases h with
  | started hnone hpolicy hs' =>
      subst hs'
      refine hheld.update _ (some _) (fun j => Store.get_set _ _ _ _)
        ?_ ?_ fun _ _ _ _ _ => rfl
      · rintro d ⟨rfl⟩
        exact checkPolicy_positive hpolicy
      · rintro d ⟨rfl⟩ hholds
        cases hholds
  -- a move writes nothing: a holder goes on holding, another does not begin
  -- to
  | @moved i c stage _ hc hgo hs' =>
      subst hs'
      cases hholds : c.stage.holds with
      | true =>
          obtain ⟨row, hrow, hr⟩ := hheld.row i c hc hholds
          exact hheld.onward hc hholds rfl ⟨row, hrow, hgo.holds hr⟩
            fun _ _ => rfl
      | false =>
          refine hheld.update i (some { c with stage := stage })
            (fun j => Store.get_set _ _ _ _) ?_ ?_ fun _ _ _ _ _ => rfl
          · rintro d ⟨rfl⟩
            exact hheld.positive i c hc
          · rintro d ⟨rfl⟩ hnow
            rw [hgo.holds_eq] at hholds
            rw [show stage.holds = true from hnow] at hholds
            cases hholds
  | left hs' =>
      subst hs'
      exact hheld.gone rfl fun _ _ _ _ _ => rfl
  -- the row was free, so nobody else holds it
  | @claimed i c txHash _ hc _ _ hfree hs' =>
      subst hs'
      refine hheld.update i (some { c with stage := .claimed })
        (fun j => Store.get_set _ _ _ _) ?_ ?_ ?_
      · rintro d ⟨rfl⟩
        exact hheld.positive i c hc
      · rintro d ⟨rfl⟩ -
        refine ⟨⟨{ claimRow c with txHash := txHash }, ?_, rfl, rfl,
          .inl rfl⟩, fun j e _ he he' => hheld.ne_of_free hfree he he'⟩
        exact (get_claimOn _).trans (if_pos rfl)
      · intro j e _ he he'
        exact (get_claimOn _).trans (if_neg (hheld.ne_of_free hfree he he'))
  | abandoned hc _ hfree hs' =>
      subst hs'
      refine hheld.gone rfl fun j e _ he he' => ?_
      exact (get_claimOn _).trans (if_neg (hheld.ne_of_free hfree he he'))
  | @submitted i c h hc hstage hs' =>
      subst hs'
      have hholds : c.stage.holds = true := by rw [hstage]; rfl
      obtain ⟨row, hrow, hr⟩ := hheld.row i c hc hholds
      refine hheld.onward hc hholds rfl ⟨row, hrow, hr.amount, hr.refId, ?_⟩
        fun _ _ => rfl
      rcases hr.status with hclaimed | ⟨-, h, hstage'⟩
      · exact .inl hclaimed
      · rw [hstage] at hstage'
        cases hstage'
  | closed _ hs' =>
      subst hs'
      exact hheld.same rfl fun _ _ _ _ => rfl
  | @failed i c h _ hc hstage _ hs' =>
      subst hs'
      have hholds : c.stage.holds = true := by rw [hstage]; rfl
      refine hheld.gone rfl fun j e hj he he' => ?_
      exact (get_updateRow _).trans
        (if_neg (hheld.ne_of_holder hc hholds hj he he'))
  -- booked: the call is over, or does not know and holds a sent row
  | @booked i c h fills callers _ hc hstage hcallers hs' =>
      subst hs'
      have hholds : c.stage.holds = true := by rw [hstage]; rfl
      rcases hcallers with rfl | rfl
      · refine hheld.gone rfl fun j e hj he he' => ?_
        exact (get_updateRow _).trans
          (if_neg (hheld.ne_of_holder hc hholds hj he he'))
      · obtain ⟨row, hrow, hr⟩ := hheld.row i c hc hholds
        refine hheld.onward hc hholds rfl
          ⟨{ row with status := .sent, txHash := some h }, ?_, hr.amount,
            hr.refId, .inr ⟨rfl, h, rfl⟩⟩
          fun k hk => (get_updateRow _).trans (if_neg hk)
        refine (get_updateRow _).trans ((if_pos rfl).trans ?_)
        show (s.db.payoutForward.get c.key).map _ = _
        rw [hrow]
        rfl
  | @flagged i c h _ hc hstage hs' =>
      subst hs'
      have hholds : c.stage.holds = true := by rw [hstage]; rfl
      refine hheld.gone rfl fun j e hj he he' => ?_
      exact (get_updateRow _).trans
        (if_neg (hheld.ne_of_holder hc hholds hj he he'))
  | selected _ _ hs' =>
      subst hs'
      exact hheld.same rfl fun _ _ _ _ => rfl
  | repaired _ hrepaired => exact held_repaired hheld hrepaired
  | ended hs' =>
      subst hs'
      exact hheld.same rfl fun _ _ _ _ => rfl
  | quoted hs' =>
      subst hs'
      exact hheld.same rfl fun _ _ _ _ => rfl
  | posted _ hs' =>
      subst hs'
      exact hheld.same rfl fun _ _ _ _ => rfl

-- =========================================================== what may change

/-- Who holds a claim after a step held it before, or took it where it was
free. -/
theorem Did.holder (hdid : Did hop s s' a) (hd : s'.callers.get j = some d)
    (hholds : d.stage.holds = true) :
    (∃ c, s.callers.get j = some c ∧ c.stage.holds = true ∧ c.key = d.key)
      ∨ Free s.db d.key := by
  cases hdid.became hd with
  | same hc => exact .inl ⟨d, hc, hholds, rfl⟩
  | started hstage =>
      rw [hstage] at hholds
      cases hholds
  | @moved c stage hc hgo heq =>
      subst heq
      exact .inl ⟨c, hc, hgo.holds_eq.trans hholds, rfl⟩
  | claimed hc _ hfree heq =>
      subst heq
      exact .inr hfree
  | @sent c h hc hstage heq =>
      subst heq
      exact .inl ⟨c, hc, by rw [hstage]; rfl, rfl⟩
  | @unbooked c h hc hstage heq =>
      subst heq
      exact .inl ⟨c, hc, by rw [hstage]; rfl, rfl⟩

/-- A row changes where a claim was free, or held, or as a repair takes
it. -/
inductive Changed (s s' : System) (key : Text) : Prop
  | same : s'.db.payoutForward.get key = s.db.payoutForward.get key →
      Changed s s' key
  | free : Free s.db key → Changed s s' key
  | held {i : Nat} {c : Caller} : s.callers.get i = some c →
      c.stage.holds = true → c.key = key → Changed s s' key
  | taken {now : PayoutForward} : s.db.payoutForward.get key = some now →
      now.status = .bookkeepingPending →
      s'.db.payoutForward.get key = some { now with status := .sent } →
      Changed s s' key

theorem Did.row (hdid : Did hop s s' a) (key : Text) :
    Changed s s' key := by
  have hclaim : ∀ {c txHash}, Free s.db c.key →
      s'.db = claimOn s.db c txHash → Changed s s' key := by
    intro c txHash hfree hdb
    by_cases hkey : key = c.key
    · exact .free (hkey ▸ hfree)
    · refine .same ?_
      rw [hdb, get_claimOn, if_neg hkey]
  have hupdate : ∀ {i c f}, s.callers.get i = some c →
      c.stage.holds = true →
      s'.db.payoutForward = (updateRow s.db c.key f).payoutForward →
      Changed s s' key := by
    intro i c f hc hholds hdb
    by_cases hkey : key = c.key
    · exact .held hc hholds hkey.symm
    · refine .same ?_
      rw [hdb, get_updateRow, if_neg hkey]
  have htaken : ∀ {k now}, s.db.payoutForward.get k = some now →
      now.status = .bookkeepingPending →
      s'.db.payoutForward = (takenOn s.db k now).payoutForward →
      Changed s s' key := by
    intro k now hnow hpending hdb
    by_cases hkey : key = k
    · subst hkey
      refine .taken hnow hpending ?_
      rw [hdb, get_takenOn, if_pos rfl]
    · refine .same ?_
      rw [hdb, get_takenOn, if_neg hkey]
  cases hdid with
  | claimed _ _ _ hfree hs' => exact hclaim hfree (by rw [hs']; rfl)
  | abandoned _ _ hfree hs' => exact hclaim hfree (by rw [hs']; rfl)
  | failed hc hstage _ hs' =>
      exact hupdate hc (by rw [hstage]; rfl) (by rw [hs']; rfl)
  | booked hc hstage _ hs' =>
      exact hupdate hc (by rw [hstage]; rfl) (by rw [hs']; rfl)
  | flagged hc hstage hs' =>
      exact hupdate hc (by rw [hstage]; rfl) (by rw [hs']; rfl)
  | repaired _ hrepaired =>
      cases hrepaired with
      | skipped _ hs' => exact .same (by rw [hs'])
      | already hnow hpending _ _ hs' =>
          exact htaken hnow hpending (by rw [hs'])
      | booked hnow hpending _ _ hs' =>
          exact htaken hnow hpending (by rw [hs']; rfl)
  | _ =>
      subst_vars
      exact .same rfl

end Ballast.PayoutHop
