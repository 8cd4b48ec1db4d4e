/-
The due sums, against the trades they are sums of.

# The law

`borrowerDue` should be, for every borrower, the sum of the ceilings of
that borrower's settled trades: `acceptAndSettle` adds one, and each of
the three ways a settled trade ends should take it back out.

# Where it fails

`unwind` and `defaultClose` release the ceiling, `defaultAtMaturity`
does not (`due_kept_after_default`). The excess never leaves: the next
settlement approves it on top of what is owed.

# When it holds

Exactly when no trade of the borrower is closed by `defaultAtMaturity`
(`dues_match_iff`). In between the excess (`dueGap`) never shrinks, so
one such close is enough to break the law for good, and the saturating
subtraction in `releaseBorrowerDue` never bites.
-/
import Ballast.RepoDvp.Proofs.Trades

namespace Ballast.RepoDvp

open Soroban

variable {addr b : Address} {env : Env} {w w' : World State}
  {s s' : State}

-- ============================================================== the law

/-- What `b`'s settled trades were approved for. -/
def settledDue (s : State) (b : Address) : Int :=
  tradeTotal s (whenSettled (·.cashBorrower = b) ceiling)

/-- The stored sum is that of the settled trades, each counted at what
`totalDue` says for a term starting at the proposal. -/
structure DuesMatch (s : State) (b : Address) : Prop where
  counted : ∀ id t, s.trades.get id = some t → t.status = .settled →
    t.cashBorrower = b → totalDue t t.proposedAt = .ok (ceiling t)
  sum : readBorrowerDue s b = settledDue s b

/-- If `tx` closes a trade by `defaultAtMaturity`, it is not `b`'s. -/
def NoMaturityDefault (addr b : Address) (tx : Tx) (w : World State) :
    Prop :=
  ∀ env caller id w' t,
    tx = .call env (.defaultAtMaturity caller id) →
    (machine addr).apply tx w = .ok w' →
    w.store.trades.get id = some t → t.cashBorrower ≠ b

/-- The stored sum beyond what the settled trades account for. -/
def dueGap (s : State) (b : Address) : Int :=
  readBorrowerDue s b - settledDue s b

-- ============================================================= one step

/-- `b`'s share of a ceiling. -/
def ceilingOf (b : Address) (t : RepoTrade) : Int :=
  if t.cashBorrower = b then ceiling t else 0

theorem settledDue_congr (h : s'.trades = s.trades) :
    settledDue s' b = settledDue s b :=
  tradeTotal_congr _ h

/-- A trade that closes takes its ceiling out of the sum. -/
theorem settledDue_close {id : Nat} {t : RepoTrade} {st : RepoStatus}
    (ht : s.trades.get id = some t) (hset : t.status = .settled)
    (hst : st ≠ .settled)
    (h : Replaces s s' id { t with status := st }) :
    settledDue s' b = settledDue s b - ceilingOf b t :=
  tradeTotal_close ht hset hst h

/-- A ceiling is part of the sum it was added to. -/
theorem ceilingOf_le_settledDue {id : Nat} {t : RepoTrade}
    (hs : TradesOk addr s) (ht : s.trades.get id = some t)
    (hset : t.status = .settled) : ceilingOf b t ≤ settledDue s b := by
  have hle : whenSettled (·.cashBorrower = b) ceiling t ≤ settledDue s b := by
    apply le_tradeTotal _ ht
    intro k x hx
    unfold whenSettled
    split
    · exact (hs.trade k x hx).ceiling_pos.le
    · exact le_refl 0
  rw [whenSettled_settled hset] at hle
  exact hle

/-- Releasing a closed trade's ceiling leaves the gap where it was. -/
theorem dueGap_release {id : Nat} {t : RepoTrade} {st : RepoStatus}
    (hs : TradesOk addr s) (hgap : 0 ≤ dueGap s b)
    (ht : s.trades.get id = some t) (hset : t.status = .settled)
    (hst : st ≠ .settled)
    (hrep : Replaces s s' id { t with status := st })
    (hdue : SetsDue s s' t.cashBorrower
      (readBorrowerDue s t.cashBorrower - ceiling t)) :
    dueGap s' b = dueGap s b := by
  have hle := ceilingOf_le_settledDue (b := b) hs ht hset
  unfold dueGap at hgap ⊢
  rw [settledDue_close ht hset hst hrep, hdue b]
  unfold ceilingOf at hle ⊢
  by_cases hb : t.cashBorrower = b
  · rw [if_pos hb] at hle ⊢
    rw [if_pos hb.symm, hb]
    omega
  · rw [if_neg hb, if_neg (Ne.symm hb)]
    omega

/-- A default at maturity leaves the trade's ceiling behind. -/
theorem dueGap_maturity {caller : Address} {id : Nat} {t : RepoTrade}
    (ht : w.store.trades.get id = some t)
    (h : Effect env w w' (.defaultAtMaturity caller id)) :
    dueGap w'.store b = dueGap w.store b + ceilingOf b t := by
  cases h with
  | setup he => cases he
  | defaultAtMaturity ht' hset _ _ _ _ hrep hdues =>
      rw [ht'] at ht
      injection ht with ht
      subst ht
      unfold dueGap
      rw [settledDue_close ht' hset (by decide) hrep, hdues b]
      omega

/-- What one call does to the gap: nothing, unless it is the default at
maturity of one of `b`'s trades, which leaves that trade's ceiling
behind. -/
theorem dueGap_effect {e : Entry} (hs : TradesOk env.self w.store)
    (hgap : 0 ≤ dueGap w.store b) (h : Effect env w w' e) :
    dueGap w'.store b = dueGap w.store b
    ∨ ∃ caller id t, e = .defaultAtMaturity caller id
        ∧ w.store.trades.get id = some t ∧ t.cashBorrower = b
        ∧ dueGap w'.store b = dueGap w.store b + ceiling t := by
  have heff := h
  cases h with
  | setup _ _ htrades hdues _ _ =>
      left
      unfold dueGap
      rw [settledDue_congr htrades, hdues b]
  | propose _ _ _ _ _ htrades hdues _ _ =>
      left
      have hfresh := hs.fresh _ (le_refl _)
      unfold dueGap settledDue
      rw [tradeTotal_propose hfresh htrades (fun hst => by cases hst),
        hdues b]
  | cancel ht hprop _ hrep hdues =>
      left
      unfold dueGap settledDue
      rw [tradeTotal_open ht hrep (by rw [hprop]; decide)
        (fun hst => by cases hst), hdues b]
  | @settle id t usdc n _ ht hprop _ _ hpos _ _ _ hrep hdue =>
      left
      have hjoin : settledDue w'.store b = settledDue w.store b
          + ceilingOf b t := tradeTotal_settle ht hprop hrep
      unfold dueGap
      rw [hjoin, hdue b]
      unfold ceilingOf
      by_cases hb : t.cashBorrower = b
      · rw [if_pos hb, if_pos hb.symm, ← hb]
        omega
      · rw [if_neg hb, if_neg (Ne.symm hb)]
        omega
  | unwind ht hset _ _ _ _ _ hrep hdue =>
      left
      exact dueGap_release hs hgap ht hset (by decide) hrep hdue
  | margin ht _ hmargin _ hrep hdues =>
      left
      unfold dueGap settledDue
      rw [tradeTotal_keep ht hrep hmargin.status
        (by rw [hmargin.cashBorrower]) hmargin.ceiling, hdues b]
  | topUp _ _ ht _ hmargin _ hrep hdues =>
      left
      unfold dueGap settledDue
      rw [tradeTotal_keep ht hrep hmargin.status
        (by rw [hmargin.cashBorrower]) hmargin.ceiling, hdues b]
  | defaultClose ht hset _ _ _ _ hrep hdue =>
      left
      exact dueGap_release hs hgap ht hset (by decide) hrep hdue
  | @defaultAtMaturity caller id t _ ht _ _ _ _ _ _ _ =>
      have hmore := dueGap_maturity (b := b) ht heff
      rw [ceilingOf] at hmore
      by_cases hb : t.cashBorrower = b
      · rw [if_pos hb] at hmore
        exact .inr ⟨caller, id, t, rfl, ht, hb, hmore⟩
      · rw [if_neg hb] at hmore
        left
        omega

/-- The same for one transaction. -/
theorem dueGap_step {tx : Tx} (hs : TradesOk addr w.store)
    (hgap : 0 ≤ dueGap w.store b)
    (happ : (machine addr).apply tx w = .ok w') :
    dueGap w'.store b = dueGap w.store b
    ∨ ∃ env caller id t, tx = .call env (.defaultAtMaturity caller id)
        ∧ w.store.trades.get id = some t ∧ t.cashBorrower = b
        ∧ dueGap w'.store b = dueGap w.store b + ceiling t := by
  cases tx with
  | call env e =>
      have hs' : TradesOk (env.at addr).self w.store := hs
      rcases dueGap_effect hs' hgap (call_effect hs.keyed happ) with
        hsame | ⟨caller, id, t, rfl, ht, hb, hmore⟩
      · exact .inl hsame
      · exact .inr ⟨env, caller, id, t, rfl, ht, hb, hmore⟩
  | outside tokens =>
      injection happ with happ
      subst happ
      exact .inl rfl

-- ================================================================= runs

/-- In every run, whatever is called, the stored sum is at least what
the settled trades account for. -/
theorem dueGap_nonneg (addr b : Address) (txs : List Tx) :
    0 ≤ dueGap ((machine addr).run (machine addr).init txs).store b := by
  refine Machine.run_induction_prefix (P := fun w : World State =>
    0 ≤ dueGap w.store b) (le_refl 0) ?_ (Machine.allowed_true _ txs)
  intro pre tx post w' _ hgap _ happ
  have hs := tradesOk_run addr pre
  rcases dueGap_step hs hgap happ with hsame | ⟨_, _, _, _, _, ht, _, hmore⟩
  · rw [hsame]
    exact hgap
  · have hpos := (hs.trade _ _ ht).ceiling_pos
    omega

/-- Without a default at maturity the gap stays closed. -/
theorem dueGap_eq_zero {txs : List Tx}
    (h : (machine addr).Allowed (NoMaturityDefault addr b)
      (machine addr).init txs) :
    dueGap ((machine addr).run (machine addr).init txs).store b = 0 := by
  refine Machine.run_induction_prefix (P := fun w : World State =>
    dueGap w.store b = 0) rfl ?_ h
  intro pre tx post w' _ hgap hok happ
  rcases dueGap_step (tradesOk_run addr pre) hgap.ge happ with
    hsame | ⟨env, caller, id, t, htx, ht, hb, _⟩
  · rw [hsame, hgap]
  · exact absurd hb (hok env caller id w' t htx happ ht)

theorem duesMatch_iff {s : State} (hs : TradesOk addr s) :
    DuesMatch s b ↔ dueGap s b = 0 := by
  unfold dueGap
  constructor
  · intro h
    rw [h.sum]
    omega
  · intro h
    refine ⟨?_, by omega⟩
    intro id t ht hset _
    exact (hs.trade id t ht).due hset

/-- In every run the stored sum of `b` matches `b`'s settled trades at
every point, exactly when none of them is closed by
`defaultAtMaturity`. -/
theorem dues_match_iff (addr b : Address) (txs : List Tx) :
    (∀ pre post, txs = pre ++ post →
      DuesMatch ((machine addr).run (machine addr).init pre).store b)
    ↔ (machine addr).Allowed (NoMaturityDefault addr b)
        (machine addr).init txs := by
  constructor
  · intro h
    apply Machine.allowed_of_prefix
    intro pre tx post htxs env caller id w' t htx happ ht hb
    have hs := tradesOk_run addr pre
    -- matched before and after, so the gap cannot have grown
    have hbefore := (duesMatch_iff hs).mp (h pre _ htxs)
    have hafter := h (pre ++ [tx]) post (by rw [htxs]; simp)
    rw [Machine.run_snoc, Machine.exec_of_ok happ,
      duesMatch_iff (tradesOk_step hs happ)] at hafter
    subst htx
    have heff : Effect (env.at addr) _ w' (.defaultAtMaturity caller id) :=
      call_effect hs.keyed happ
    have hmore := dueGap_maturity (b := b) ht heff
    have hpos := (hs.trade id t ht).ceiling_pos
    rw [ceilingOf, if_pos hb] at hmore
    omega
  · intro h pre post htxs
    rw [htxs] at h
    exact (duesMatch_iff (tradesOk_run addr pre)).mpr
      (dueGap_eq_zero (Machine.Allowed.append.mp h).1)

/-- One trade, defaulted at maturity: nothing is settled and 100 is
still on the borrower's account. -/
theorem due_kept_after_default :
    ¬ DuesMatch ((machine Demo.self).run (machine Demo.self).init
      (Demo.setup ++ Demo.repo Demo.lender Demo.borrower 0 ++
        [.call (Demo.env 100000 100)
          (.defaultAtMaturity Demo.lender 0)])).store Demo.borrower := by
  intro h
  have hsum := h.sum
  revert hsum
  decide +kernel

end Ballast.RepoDvp
