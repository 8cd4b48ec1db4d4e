/-
How long the borrower's leg-2 allowance is granted for.

# The figure

The source computes it in saturating `u32`s, bucketed so that a call
simulated in one ledger and executed in the next approves the same
expiry. Written out it is a whole number of buckets, the smaller of two
past the one the figure falls in and of the one the host's limit falls
in (`allowanceExpiry_eq`); everything about a single call is read off
that.

# Over a run

`acceptAndSettle` approves the maximum of that and what is stored for
the borrower, and stores it. The stored figure is dropped only with the
whole due sum, which outlives every settled trade (`dueGap_nonneg`), so
it bounds what each of them was granted (`Granted`, `Covers`).
-/
import Ballast.RepoDvp.Proofs.Dues

namespace Ballast.RepoDvp

open Soroban

-- ========================================================== a single call

/-- The earliest ledger the allowance has to outlive. -/
def earliestExpiry (env : Env) (seconds grace : Nat) : Nat :=
  min (env.sequence + seconds / secondsPerLedger + grace) u32Max

/-- The furthest ledger the host accepts. -/
def furthestExpiry (env : Env) : Nat :=
  min (env.sequence + env.maxTtl) u32Max - 1

theorem earliestExpiry_eq (env : Env) (seconds grace : Nat) :
    U32.satAdd (U32.satAdd env.sequence
      (min (seconds / secondsPerLedger) u32Max)) grace
      = earliestExpiry env seconds grace := by
  unfold U32.satAdd earliestExpiry
  generalize u32Max = top
  generalize seconds / secondsPerLedger = ahead
  omega

/-- A bucket number is far from the top. -/
theorem satAdd_bucket {n : Nat} (h : n ≤ u32Max) :
    U32.satAdd (n / allowanceExpiryBucketLedgers) 2
      = n / allowanceExpiryBucketLedgers + 2 := by
  have hle : n / allowanceExpiryBucketLedgers
      ≤ u32Max / allowanceExpiryBucketLedgers := Nat.div_le_div_right h
  have htop : u32Max / allowanceExpiryBucketLedgers + 2 ≤ u32Max := by
    decide
  unfold U32.satAdd
  exact min_eq_left (by omega)

/-- The saturating arithmetic, written out. -/
theorem allowanceExpiry_eq (env : Env) (seconds grace : Nat) :
    allowanceExpiry env seconds grace = allowanceExpiryBucketLedgers
      * min (earliestExpiry env seconds grace
            / allowanceExpiryBucketLedgers + 2)
          (furthestExpiry env / allowanceExpiryBucketLedgers) := by
  have hearliest : earliestExpiry env seconds grace ≤ u32Max :=
    min_le_right _ _
  have hfurthest : furthestExpiry env / allowanceExpiryBucketLedgers
      * allowanceExpiryBucketLedgers ≤ u32Max :=
    (Nat.div_mul_le_self _ _).trans
      ((Nat.sub_le _ _).trans (min_le_right _ _))
  unfold allowanceExpiry
  simp only
  rw [earliestExpiry_eq, satAdd_bucket hearliest]
  show min (min _ u32Max) (furthestExpiry env / allowanceExpiryBucketLedgers
    * allowanceExpiryBucketLedgers) = _
  -- saturating the bucketed figure is no stricter than the cap
  rw [min_assoc, min_eq_right hfurthest, Nat.mul_min_mul_right,
    Nat.mul_comm]

/-- What a granted expiry is good for: the host accepts it, and it
outlives the figure it was asked for whenever the host's limit leaves
two buckets of room. -/
structure ExpiryFits (env : Env) (seconds grace expiry : Nat) : Prop where
  bucketed : allowanceExpiryBucketLedgers ∣ expiry
  live : env.sequence ≤ expiry
  accepted : expiry ≤ env.sequence + env.maxTtl - 1
  late : env.sequence + seconds / secondsPerLedger + grace
      + 2 * allowanceExpiryBucketLedgers ≤ env.sequence + env.maxTtl - 1 →
    env.sequence + seconds / secondsPerLedger + grace < expiry

theorem expiry_le_furthest (env : Env) (seconds grace : Nat) :
    allowanceExpiry env seconds grace ≤ env.sequence + env.maxTtl - 1 := by
  rw [allowanceExpiry_eq]
  calc allowanceExpiryBucketLedgers * min _ (furthestExpiry env
        / allowanceExpiryBucketLedgers)
      ≤ allowanceExpiryBucketLedgers * (furthestExpiry env
        / allowanceExpiryBucketLedgers) :=
        Nat.mul_le_mul_left _ (min_le_right _ _)
    _ ≤ furthestExpiry env := Nat.mul_div_le _ _
    _ ≤ env.sequence + env.maxTtl - 1 :=
        Nat.sub_le_sub_right (min_le_left _ _) 1

theorem expiry_fits {env : Env} (seconds grace : Nat)
    (hroom : allowanceExpiryBucketLedgers ≤ env.maxTtl)
    (hfits : env.sequence + env.maxTtl < 2 ^ 32) :
    ExpiryFits env seconds grace (allowanceExpiry env seconds grace) := by
  have hmax : u32Max = 4294967295 := by decide
  have hfurthest : furthestExpiry env = env.sequence + env.maxTtl - 1 := by
    unfold furthestExpiry
    omega
  have hpos : 0 < allowanceExpiryBucketLedgers := by decide
  have heq := allowanceExpiry_eq env seconds grace
  rw [hfurthest] at heq
  refine ⟨⟨_, heq⟩, ?_, expiry_le_furthest env seconds grace, ?_⟩
  · have hearliest : env.sequence ≤ earliestExpiry env seconds grace := by
      refine le_min ((Nat.le_add_right _ _).trans (Nat.le_add_right _ _)) ?_
      omega
    have hnext := Nat.lt_mul_div_succ
      (earliestExpiry env seconds grace) hpos
    have hcap := Nat.lt_mul_div_succ (env.sequence + env.maxTtl - 1) hpos
    rw [heq, ← Nat.mul_min_mul_left, le_min_iff]
    rw [Nat.mul_succ] at hcap
    rw [Nat.mul_add] at hnext ⊢
    omega
  · intro hlate
    have hearliest : earliestExpiry env seconds grace
        = env.sequence + seconds / secondsPerLedger + grace := by
      unfold earliestExpiry
      omega
    rw [hearliest] at heq
    generalize env.sequence + seconds / secondsPerLedger + grace = e at *
    have hnext := Nat.lt_mul_div_succ e hpos
    have hcap := Nat.lt_mul_div_succ (env.sequence + env.maxTtl - 1) hpos
    rw [heq, ← Nat.mul_min_mul_left, lt_min_iff]
    rw [Nat.mul_succ] at hcap
    rw [Nat.mul_add] at hnext ⊢
    omega

/-- A whole bucket begins after one of the two ledgers and no later than
the other. -/
def BoundaryBetween (m n : Nat) : Prop :=
  ∃ k, min m n < allowanceExpiryBucketLedgers * k
    ∧ allowanceExpiryBucketLedgers * k ≤ max m n

/-- The host's limit decides the expiry. -/
def Capped (env : Env) (seconds grace : Nat) : Prop :=
  furthestExpiry env / allowanceExpiryBucketLedgers
    < earliestExpiry env seconds grace / allowanceExpiryBucketLedgers + 2

theorem boundary_between {m n : Nat}
    (h : m / allowanceExpiryBucketLedgers
      < n / allowanceExpiryBucketLedgers) : BoundaryBetween m n := by
  have hpos : 0 < allowanceExpiryBucketLedgers := by decide
  refine ⟨n / allowanceExpiryBucketLedgers, ?_, ?_⟩
  · refine (min_le_left m n).trans_lt ?_
    calc m < allowanceExpiryBucketLedgers
          * (m / allowanceExpiryBucketLedgers + 1) :=
          Nat.lt_mul_div_succ m hpos
      _ ≤ allowanceExpiryBucketLedgers
          * (n / allowanceExpiryBucketLedgers) := Nat.mul_le_mul_left _ h
  · exact (Nat.mul_div_le n _).trans (le_max_right m n)

theorem same_bucket_or_boundary (m n : Nat) :
    m / allowanceExpiryBucketLedgers = n / allowanceExpiryBucketLedgers
      ∨ BoundaryBetween m n := by
  rcases Nat.lt_trichotomy (m / allowanceExpiryBucketLedgers)
    (n / allowanceExpiryBucketLedgers) with hlt | heq | hgt
  · exact .inr (boundary_between hlt)
  · exact .inl heq
  · obtain ⟨k, hmin, hmax⟩ := boundary_between hgt
    rw [min_comm] at hmin
    rw [max_comm] at hmax
    exact .inr ⟨k, hmin, hmax⟩

/-- `k` ledgers later, at five seconds each, the same maturity gets the
same expiry unless a bucket begins in between. -/
theorem expiry_stable {env env' : Env} {k : Nat} (maturity grace : Nat)
    (hsequence : env'.sequence = env.sequence + k)
    (hmaxTtl : env'.maxTtl = env.maxTtl) :
    allowanceExpiry env (maturity - env.timestamp) grace
        = allowanceExpiry env' (maturity - env'.timestamp) grace
      ∨ BoundaryBetween (earliestExpiry env (maturity - env.timestamp) grace)
          (earliestExpiry env' (maturity - env'.timestamp) grace)
      ∨ Capped env (maturity - env.timestamp) grace
        ∧ BoundaryBetween (furthestExpiry env) (furthestExpiry env') := by
  rcases same_bucket_or_boundary
    (earliestExpiry env (maturity - env.timestamp) grace)
    (earliestExpiry env' (maturity - env'.timestamp) grace) with hsame | hcross
  · rcases same_bucket_or_boundary (furthestExpiry env)
      (furthestExpiry env') with hcap | hcross
    · left
      rw [allowanceExpiry_eq, allowanceExpiry_eq, hsame, hcap]
    · by_cases hcapped : Capped env (maturity - env.timestamp) grace
      · exact .inr (.inr ⟨hcapped, hcross⟩)
      · -- uncapped now, so uncapped later: the limit only moves on
        have hmoves : furthestExpiry env ≤ furthestExpiry env' := by
          unfold furthestExpiry
          omega
        have hdiv := Nat.div_le_div_right
          (c := allowanceExpiryBucketLedgers) hmoves
        unfold Capped at hcapped
        left
        rw [allowanceExpiry_eq, allowanceExpiry_eq,
          min_eq_left (by omega), min_eq_left (by omega), hsame]
  · exact .inr (.inl hcross)

/-- Five seconds a ledger and a maturity ahead: the earliest figures are
the same one. -/
theorem earliestExpiry_steady {env env' : Env} {k maturity : Nat}
    (grace : Nat) (hsequence : env'.sequence = env.sequence + k)
    (htime : env'.timestamp = env.timestamp + secondsPerLedger * k)
    (hahead : env'.timestamp ≤ maturity) :
    earliestExpiry env' (maturity - env'.timestamp) grace
      = earliestExpiry env (maturity - env.timestamp) grace := by
  have hpos : 0 < secondsPerLedger := by decide
  have hsplit : maturity - env.timestamp
      = (maturity - env'.timestamp) + secondsPerLedger * k := by omega
  unfold earliestExpiry
  rw [hsplit, Nat.add_mul_div_left _ _ hpos, hsequence]
  congr 1
  omega

-- =========================================================== one step

variable {addr b : Address} {env : Env} {w w' : World State} {s : State}
  {t : RepoTrade} {e : Entry}

theorem readBorrowerDueExpiry_write (b : Address) (due : Int) (n : Nat)
    (b' : Address) :
    readBorrowerDueExpiry (writeBorrowerDue s b due n) b'
      = if b' = b then (if 0 < due then n else 0)
        else readBorrowerDueExpiry s b' := by
  unfold readBorrowerDueExpiry writeBorrowerDue
  split
  case isTrue hpos =>
    show ((s.borrowerDueExpiry.set b n).get b').getD 0 = _
    rw [Store.get_set]
    split <;> rfl
  case isFalse hpos =>
    show ((s.borrowerDueExpiry.remove b).get b').getD 0 = _
    rw [Store.get_remove]
    split <;> rfl

/-- What a call does to `b`'s stored expiry: `acceptAndSettle` by `b`
raises it to the one it approves; else it stays, or goes with the whole
sum. -/
inductive ExpiryMove (env : Env) (b : Address) (w w' : World State)
    (e : Entry) : Prop
  | kept : readBorrowerDueExpiry w'.store b
      = readBorrowerDueExpiry w.store b → ExpiryMove env b w w' e
  | granted {id : Nat} {t : RepoTrade} : e = .acceptAndSettle b id →
      w.store.trades.get id = some t → t.cashBorrower = b →
      readBorrowerDueExpiry w'.store b = settleExpiry env t w.store →
      ExpiryMove env b w w' e
  | dropped : readBorrowerDueExpiry w'.store b = 0 →
      readBorrowerDue w'.store b = 0 → ExpiryMove env b w w' e

/-- Releasing a due keeps the expiry, or drops both. -/
theorem ExpiryMove.of_release {t' : RepoTrade} {b₀ : Address} {due : Int}
    {ev : Event} (h : w'.store = publish (writeBorrowerDue
      (writeTrade w.store t') b₀ due (readBorrowerDueExpiry w.store b₀))
        ev) : ExpiryMove env b w w' e := by
  have hread : readBorrowerDueExpiry w'.store b
      = if b = b₀ then (if 0 < due then readBorrowerDueExpiry w.store b₀
        else 0) else readBorrowerDueExpiry w.store b := by
    rw [h]
    exact readBorrowerDueExpiry_write b₀ due _ b
  have hdue : readBorrowerDue w'.store b
      = if b = b₀ then max due 0 else readBorrowerDue w.store b := by
    rw [h]
    exact readBorrowerDue_write b₀ due _ b
  by_cases hb : b = b₀
  · rw [if_pos hb] at hread hdue
    by_cases hpos : 0 < due
    · rw [if_pos hpos, ← hb] at hread
      exact .kept hread
    · rw [if_neg hpos] at hread
      exact .dropped hread (by omega)
  · rw [if_neg hb] at hread
    exact .kept hread

theorem call_expiry (b : Address) (h : call env e w = .ok w') :
    ExpiryMove env b w w' e := by
  cases e with
  | propose =>
      obtain ⟨⟨id, w₁⟩, h, hw'⟩ := map_ok.mp h
      obtain ⟨usdc, -, -, -, -, -, rfl⟩ := propose_ok h
      exact .kept (by rw [← hw']; rfl)
  | cancelProposal =>
      obtain ⟨t, tokens, -, -, -, -, rfl⟩ := cancelProposal_ok h
      exact .kept rfl
  | acceptAndSettle borrower id =>
      obtain ⟨t, usdc, tokens₁, tokens₂, -, ht, -, hborrower, -, -, -, -, -,
        -, rfl⟩ := acceptAndSettle_ok h
      have hread := readBorrowerDueExpiry_write (s := w.store) borrower
        (readBorrowerDue w.store borrower + ceiling t)
        (settleExpiry env t w.store) b
      have hdue := readBorrowerDue_write (s := w.store) borrower
        (readBorrowerDue w.store borrower + ceiling t)
        (settleExpiry env t w.store) b
      by_cases hb : b = borrower
      · rw [if_pos hb] at hread hdue
        by_cases hpos : 0 < readBorrowerDue w.store borrower + ceiling t
        · rw [if_pos hpos] at hread
          exact .granted (by rw [hb]) ht (hborrower.trans hb.symm) hread
        · rw [if_neg hpos] at hread
          exact .dropped hread (hdue.trans (max_eq_right (by omega)))
      · rw [if_neg hb] at hread
        exact .kept hread
  | unwind =>
      obtain ⟨t, usdc, start, tokens, -, -, -, -, -, -, -, rfl⟩ :=
        unwind_ok h
      exact .of_release rfl
  | callMargin =>
      obtain ⟨h, -⟩ := onStore_ok.mp h
      obtain ⟨t, -, -, hsame | ⟨t', ev, -, hs⟩⟩ := callMargin_marginOnly h
      · exact .kept (by rw [hsame])
      · exact .kept (by rw [hs]; rfl)
  | topUp =>
      obtain ⟨t, t', cured, -, -, -, -, -, -, rfl⟩ := topUp_ok h
      exact .kept rfl
  | defaultClose =>
      obtain ⟨t, _, _, _, share, tokens, -, -, -, -, -, -, -, -, -, -, -,
        rfl⟩ := defaultClose_ok h
      exact .of_release rfl
  | defaultAtMaturity =>
      obtain ⟨t, _, _, _, _, share, tokens, -, -, -, -, -, -, -, -, -, -, -,
        rfl⟩ := defaultAtMaturity_ok h
      exact .kept rfl
  | _ =>
      have hframe := setup_frame rfl h
      refine .kept ?_
      unfold readBorrowerDueExpiry
      rw [hframe.expiries]

/-- The stage a stored trade is at after a call: the same, or the next
one. -/
structure NextStage (e : Entry) (id : Nat) (t t' : RepoTrade) : Prop where
  borrower : t'.cashBorrower = t.cashBorrower
  status : t'.status = t.status
    ∨ (t.status = .proposed ∧ t'.status = .cancelled)
    ∨ (t.status = .proposed ∧ t'.status = .settled
      ∧ e = .acceptAndSettle t.cashBorrower id)
    ∨ (t.status = .settled ∧ t'.status ≠ .settled ∧ t'.status ≠ .proposed)

theorem Replaces.next_stage {k id : Nat} {x x' : RepoTrade}
    (h : Replaces w.store w'.store k x')
    (hx : w.store.trades.get k = some x) (hstage : NextStage e k x x')
    (ht : w.store.trades.get id = some t) :
    ∃ t', w'.store.trades.get id = some t' ∧ NextStage e id t t' := by
  rw [h.trades, Store.get_set]
  by_cases hid : id = k
  · subst hid
    rw [hx] at ht
    injection ht with ht
    subst ht
    exact ⟨x', if_pos rfl, hstage⟩
  · exact ⟨t, by rw [if_neg hid, ht], rfl, .inl rfl⟩

/-- No call loses a trade or takes it back a stage. -/
theorem Effect.next_stage (hs : TradesOk env.self w.store)
    (h : Effect env w w' e) {id : Nat}
    (ht : w.store.trades.get id = some t) :
    ∃ t', w'.store.trades.get id = some t' ∧ NextStage e id t t' := by
  cases h with
  | setup _ _ htrades => exact ⟨t, by rw [htrades, ht], rfl, .inl rfl⟩
  | propose _ _ _ _ _ htrades =>
      refine ⟨t, ?_, rfl, .inl rfl⟩
      have hne : id ≠ w.store.nextId := by
        intro heq
        rw [hs.fresh id heq.ge] at ht
        cases ht
      rw [htrades, Store.get_set, if_neg hne, ht]
  | cancel hx hst _ hrep =>
      exact hrep.next_stage hx ⟨rfl, .inr (.inl ⟨hst, rfl⟩)⟩ ht
  | settle _ hx hst _ _ _ _ _ _ hrep =>
      exact hrep.next_stage hx ⟨rfl, .inr (.inr (.inl ⟨hst, rfl, rfl⟩))⟩ ht
  | unwind hx hst _ _ _ _ _ hrep =>
      exact hrep.next_stage hx ⟨rfl, .inr (.inr (.inr
        ⟨hst, by simp, by simp⟩))⟩ ht
  | margin hx _ hmargin _ hrep =>
      exact hrep.next_stage hx ⟨hmargin.cashBorrower, .inl hmargin.status⟩ ht
  | topUp _ _ hx _ hmargin _ hrep =>
      exact hrep.next_stage hx ⟨hmargin.cashBorrower, .inl hmargin.status⟩ ht
  | defaultClose hx hst _ _ _ _ hrep =>
      exact hrep.next_stage hx ⟨rfl, .inr (.inr (.inr
        ⟨hst, by simp, by simp⟩))⟩ ht
  | defaultAtMaturity hx hst _ _ _ _ hrep =>
      exact hrep.next_stage hx ⟨rfl, .inr (.inr (.inr
        ⟨hst, by simp, by simp⟩))⟩ ht

-- ================================================================== runs

/-- `c` settled trade `id` and approved the borrower's dues until
`expiry`. -/
def Granted (addr : Address) (id expiry : Nat)
    (c : Machine.Committed (World State) Tx) : Prop :=
  ∃ env b t, c.call = .call env (.acceptAndSettle b id)
    ∧ c.before.store.trades.get id = some t ∧ t.cashBorrower = b
    ∧ expiry = settleExpiry (env.at addr) t c.before.store

/-- A trade that was granted an expiry is past its proposal, and while
it is settled the stored one is no earlier. -/
def Covers (addr : Address) (w : World State)
    (tr : List (Machine.Committed (World State) Tx)) : Prop :=
  ∀ c ∈ tr, ∀ id expiry, Granted addr id expiry c →
    ∃ t, w.store.trades.get id = some t ∧ t.status ≠ .proposed
      ∧ (t.status = .settled →
        expiry ≤ readBorrowerDueExpiry w.store t.cashBorrower)

/-- With a settled trade of its own, a borrower's sum is not empty. -/
theorem due_pos {id : Nat} (hs : TradesOk addr s)
    (hgap : 0 ≤ dueGap s t.cashBorrower)
    (ht : s.trades.get id = some t) (hst : t.status = .settled) :
    0 < readBorrowerDue s t.cashBorrower := by
  have hle := ceilingOf_le_settledDue (b := t.cashBorrower) hs ht hst
  have hpos := (hs.trade id t ht).ceiling_pos
  unfold ceilingOf at hle
  rw [if_pos rfl] at hle
  unfold dueGap at hgap
  omega

/-- So no call lowers the stored expiry under a settled trade. -/
theorem expiry_mono (hs : TradesOk addr w'.store)
    (hgap : 0 ≤ dueGap w'.store t.cashBorrower) {id : Nat}
    (ht : w'.store.trades.get id = some t) (hst : t.status = .settled)
    (h : ExpiryMove env t.cashBorrower w w' e) :
    readBorrowerDueExpiry w.store t.cashBorrower
      ≤ readBorrowerDueExpiry w'.store t.cashBorrower := by
  cases h with
  | kept hsame => exact hsame.ge
  | granted _ _ hb hset =>
      rw [hset]
      unfold settleExpiry
      rw [hb]
      exact le_max_right _ _
  | dropped _ hdue =>
      have hpos := due_pos hs hgap ht hst
      omega

/-- A trade granted an expiry before the call stays covered. -/
theorem Covers.keep {tx : Tx} {id expiry : Nat} (hs : TradesOk addr w.store)
    (hs' : TradesOk addr w'.store)
    (hgap : ∀ b, 0 ≤ dueGap w'.store b)
    (happ : (machine addr).apply tx w = .ok w')
    (h : ∃ t, w.store.trades.get id = some t ∧ t.status ≠ .proposed
      ∧ (t.status = .settled →
        expiry ≤ readBorrowerDueExpiry w.store t.cashBorrower)) :
    ∃ t, w'.store.trades.get id = some t ∧ t.status ≠ .proposed
      ∧ (t.status = .settled →
        expiry ≤ readBorrowerDueExpiry w'.store t.cashBorrower) := by
  cases tx with
  | outside tokens =>
      injection happ with happ
      subst happ
      exact h
  | call env e =>
      obtain ⟨t, ht, hne, hle⟩ := h
      have hok : TradesOk (env.at addr).self w.store := hs
      obtain ⟨t', ht', hborrower, hstage⟩ :=
        (call_effect hs.keyed happ).next_stage hok ht
      refine ⟨t', ht', ?_, ?_⟩
      · rcases hstage with hsame | ⟨hst, -⟩ | ⟨hst, -⟩ | ⟨-, -, hne'⟩
        · rw [hsame]
          exact hne
        · exact absurd hst hne
        · exact absurd hst hne
        · exact hne'
      · intro hst'
        rcases hstage with hsame | ⟨hst, -⟩ | ⟨hst, -⟩ | ⟨-, hnot, -⟩
        · rw [hsame] at hst'
          have hmono := expiry_mono hs' (hgap _) ht' (hsame.trans hst')
            (call_expiry t'.cashBorrower happ)
          rw [← hborrower] at hle
          exact (hle hst').trans hmono
        · exact absurd hst hne
        · exact absurd hst hne
        · exact absurd hst' hnot

/-- The call that grants it covers its own trade. -/
theorem Covers.own {tx : Tx} {id expiry : Nat} (hs : TradesOk addr w.store)
    (hs' : TradesOk addr w'.store) (hgap : ∀ b, 0 ≤ dueGap w'.store b)
    (happ : (machine addr).apply tx w = .ok w')
    (h : Granted addr id expiry ⟨tx, w, w'⟩) :
    ∃ t, w'.store.trades.get id = some t ∧ t.status ≠ .proposed
      ∧ (t.status = .settled →
        expiry ≤ readBorrowerDueExpiry w'.store t.cashBorrower) := by
  obtain ⟨env, b, t, htx, ht, rfl, rfl⟩ := h
  simp only at htx ht
  subst htx
  obtain ⟨x, usdc, tokens₁, tokens₂, -, hx, -, -, -, -, -, -, -, -, rfl⟩ :=
    acceptAndSettle_ok happ
  rw [ht] at hx
  injection hx with hx
  subst hx
  have hread := readBorrowerDueExpiry_write (s := w.store) t.cashBorrower
    (readBorrowerDue w.store t.cashBorrower + ceiling t)
    (settleExpiry (env.at addr) t w.store) t.cashBorrower
  have hsum := readBorrowerDue_write (s := w.store) t.cashBorrower
    (readBorrowerDue w.store t.cashBorrower + ceiling t)
    (settleExpiry (env.at addr) t w.store) t.cashBorrower
  rw [if_pos rfl] at hread hsum
  have ht' : ((writeBorrowerDue w.store t.cashBorrower
      (readBorrowerDue w.store t.cashBorrower + ceiling t)
      (settleExpiry (env.at addr) t w.store)).trades.set t.id
        (settledTrade (env.at addr) t)).get id
      = some (settledTrade (env.at addr) t) := by
    rw [hs.keyed id t ht, Store.get_set, if_pos rfl]
  refine ⟨settledTrade (env.at addr) t, ht', by simp [settledTrade], ?_⟩
  intro hst
  have hpos := due_pos hs' (hgap _) ht' hst
  have hdue : 0 < max (readBorrowerDue w.store t.cashBorrower + ceiling t) 0 :=
    hpos.trans_eq hsum
  rw [if_pos (by omega)] at hread
  exact hread.ge

theorem covers_run (addr : Address) (txs : List Tx) :
    Covers addr ((machine addr).run (machine addr).init txs)
      ((machine addr).trace (machine addr).init txs) := by
  refine Machine.trace_induction_prefix (fun c hc => by cases hc) ?_
  intro pre tx post w' htxs hcovers happ c hc id expiry hgranted
  have hs := tradesOk_run addr pre
  have hs' := tradesOk_step hs happ
  have hgap : ∀ b, 0 ≤ dueGap w'.store b := by
    intro b
    have hrun := dueGap_nonneg addr b (pre ++ [tx])
    rw [Machine.run_snoc, Machine.exec_of_ok happ] at hrun
    exact hrun
  rcases List.mem_append.mp hc with hold | hnew
  · exact Covers.keep hs hs' hgap happ (hcovers c hold id expiry hgranted)
  · rw [List.mem_singleton] at hnew
    subst hnew
    exact Covers.own hs hs' hgap happ hgranted

/-- The ledger sequence of a call. -/
def Tx.sequence : Tx → Option Nat
  | .call env _ => some env.sequence
  | .outside _ => none

/-- The host's limit on how far ahead a call may grant. -/
def Tx.maxTtl : Tx → Option Nat
  | .call env _ => some env.maxTtl
  | .outside _ => none

/-- The host's side of a run: sequences do not run backwards, and the
limit is the network's. -/
structure HostLedger (ttl : Nat) (txs : List Tx) : Prop where
  sequence : (txs.filterMap Tx.sequence).Pairwise (· ≤ ·)
  maxTtl : ∀ n ∈ txs.filterMap Tx.maxTtl, n = ttl

/-- Every stored expiry was within the limit of some call. -/
theorem stored_within (addr b : Address) {ttl : Nat} (txs : List Tx)
    (httl : ∀ n ∈ txs.filterMap Tx.maxTtl, n = ttl) :
    readBorrowerDueExpiry ((machine addr).run (machine addr).init txs).store b
        = 0
      ∨ ∃ n ∈ txs.filterMap Tx.sequence,
        readBorrowerDueExpiry ((machine addr).run (machine addr).init
          txs).store b ≤ n + ttl - 1 := by
  induction txs using List.reverseRecOn with
  | nil => exact .inl rfl
  | append_singleton txs tx ih =>
      simp only [List.filterMap_append, List.mem_append] at httl ⊢
      have hbefore := ih fun n hn => httl n (.inl hn)
      have hlift : (readBorrowerDueExpiry ((machine addr).run
            (machine addr).init (txs ++ [tx])).store b
          = readBorrowerDueExpiry ((machine addr).run (machine addr).init
            txs).store b) →
          readBorrowerDueExpiry ((machine addr).run (machine addr).init
            (txs ++ [tx])).store b = 0
          ∨ ∃ n, (n ∈ txs.filterMap Tx.sequence
              ∨ n ∈ [tx].filterMap Tx.sequence)
            ∧ readBorrowerDueExpiry ((machine addr).run (machine addr).init
              (txs ++ [tx])).store b ≤ n + ttl - 1 := by
        intro hsame
        rw [hsame]
        exact hbefore.imp_right fun ⟨n, hn, hle⟩ => ⟨n, .inl hn, hle⟩
      rw [Machine.run_snoc] at hlift ⊢
      rcases (machine addr).exec_cases
        ((machine addr).run (machine addr).init txs) tx with happ | hsame
      · cases tx with
        | outside tokens =>
            injection happ with happ
            exact hlift (by rw [← happ])
        | call env e =>
            have hlimit : env.maxTtl = ttl :=
              httl _ (.inr (List.mem_singleton.mpr rfl))
            cases call_expiry b happ with
            | kept hkept => exact hlift hkept
            | dropped hzero _ => exact .inl hzero
            | @granted id t _ _ hb hset =>
                -- the larger of this call's figure and the stored one
                have hown : allowanceExpiry (env.at addr)
                    (t.maturityAt - env.timestamp) unwindAllowanceGraceLedgers
                    ≤ env.sequence + env.maxTtl - 1 :=
                  expiry_le_furthest (env.at addr) _ _
                rw [hlimit] at hown
                right
                rw [hset]
                unfold settleExpiry
                rw [hb]
                rcases hbefore with hzero | ⟨n, hn, hle⟩
                · refine ⟨env.sequence, .inr (List.mem_singleton.mpr rfl), ?_⟩
                  rw [hzero]
                  exact max_le hown (Nat.zero_le _)
                · rcases le_total n env.sequence with hearlier | hlater
                  · refine ⟨env.sequence,
                      .inr (List.mem_singleton.mpr rfl),
                      max_le hown (hle.trans (by omega))⟩
                  · exact ⟨n, .inl hn, max_le (hown.trans (by omega)) hle⟩
      · rw [hsame]
        rw [hsame] at hlift
        exact hlift rfl

/-- So what a call is about to approve is within its own limit. -/
theorem HostLedger.settle_le {ttl : Nat} {pre post : List Tx}
    (h : HostLedger ttl (pre ++ .call env e :: post)) (addr : Address)
    (t : RepoTrade) :
    settleExpiry (env.at addr) t
        ((machine addr).run (machine addr).init pre).store
      ≤ env.sequence + ttl - 1 := by
  have hsequence := h.sequence
  have hmaxTtl := h.maxTtl
  rw [List.filterMap_append, List.pairwise_append] at hsequence
  simp only [List.filterMap_append, List.mem_append] at hmaxTtl
  have hlimit : env.maxTtl = ttl := hmaxTtl _ (.inr (by simp [Tx.maxTtl]))
  have hown : allowanceExpiry (env.at addr) (t.maturityAt - env.timestamp)
      unwindAllowanceGraceLedgers ≤ env.sequence + env.maxTtl - 1 :=
    expiry_le_furthest (env.at addr) _ _
  rw [hlimit] at hown
  refine max_le hown ?_
  rcases stored_within addr t.cashBorrower pre
    (fun n hn => hmaxTtl n (.inl hn)) with hzero | ⟨n, hn, hle⟩
  · rw [hzero]
    exact Nat.zero_le _
  · have hearlier : n ≤ env.sequence :=
      hsequence.2.2 n hn env.sequence (by simp [Tx.sequence])
    exact hle.trans (by omega)

/-- The expiry of one call: acceptable, late enough, and the same a few
ledgers on unless a bucket begins in between. Over a run: what
`acceptAndSettle` approves is within the host's limit, and no earlier
than what any settled trade of the borrower was granted. -/
theorem allowance_expiry_sound :
    (∀ env seconds grace, allowanceExpiryBucketLedgers ≤ env.maxTtl →
      env.sequence + env.maxTtl < 2 ^ 32 →
      ExpiryFits env seconds grace (allowanceExpiry env seconds grace))
    ∧ (∀ (env env' : Env) k maturity grace,
      env'.sequence = env.sequence + k →
      env'.timestamp = env.timestamp + secondsPerLedger * k →
      env'.maxTtl = env.maxTtl →
      (env'.timestamp ≤ maturity →
        earliestExpiry env' (maturity - env'.timestamp) grace
          = earliestExpiry env (maturity - env.timestamp) grace)
      ∧ (allowanceExpiry env (maturity - env.timestamp) grace
          = allowanceExpiry env' (maturity - env'.timestamp) grace
        ∨ BoundaryBetween
            (earliestExpiry env (maturity - env.timestamp) grace)
            (earliestExpiry env' (maturity - env'.timestamp) grace)
        ∨ Capped env (maturity - env.timestamp) grace
          ∧ BoundaryBetween (furthestExpiry env) (furthestExpiry env')))
    ∧ ∀ addr ttl pre env b id post t,
      HostLedger ttl (pre ++ .call env (.acceptAndSettle b id) :: post) →
      ((machine addr).run (machine addr).init pre).store.trades.get id
        = some t → t.cashBorrower = b →
      let w := (machine addr).run (machine addr).init pre
      let expiry := settleExpiry (env.at addr) t w.store
      expiry ≤ env.sequence + ttl - 1
      ∧ (∀ c ∈ (machine addr).trace (machine addr).init pre,
          ∀ k granted t', Granted addr k granted c →
          w.store.trades.get k = some t' → t'.status = .settled →
          t'.cashBorrower = b → granted ≤ expiry)
      ∧ ∀ w', (machine addr).apply (.call env (.acceptAndSettle b id)) w
          = .ok w' →
        ∃ usdc, w.store.usdc = some usdc
          ∧ w'.tokens.allowance usdc b addr
            = ⟨readBorrowerDue w.store b + ceiling t, expiry⟩ := by
  refine ⟨fun env seconds grace => expiry_fits seconds grace, ?_, ?_⟩
  · intro env env' k maturity grace hsequence htime hmaxTtl
    exact ⟨earliestExpiry_steady grace hsequence htime,
      expiry_stable maturity grace hsequence hmaxTtl⟩
  · intro addr ttl pre env b id post t hhost ht hb w expiry
    refine ⟨hhost.settle_le addr t, ?_, ?_⟩
    · intro c hc k granted t' hgranted ht' hst hb'
      obtain ⟨x, hx, -, hle⟩ := covers_run addr pre c hc k granted hgranted
      have hsame : x = t' := by
        injection hx.symm.trans ht'
      subst hsame
      have hstored := hle hst
      rw [hb', ← hb] at hstored
      exact hstored.trans (le_max_right _ _)
    · intro w' happ
      obtain ⟨x, usdc, tokens₁, tokens₂, -, hx, -, -, husdc, -, -, -, -, -,
        rfl⟩ := acceptAndSettle_ok happ
      have hsame : x = t := by
        injection hx.symm.trans ht
      subst hsame hb
      refine ⟨usdc, husdc, ?_⟩
      exact (Ledger.allowance_setAllowance ..).trans (if_pos ⟨rfl, rfl, rfl⟩)

/-- The borrower's second trade, with an earlier maturity than the
first. -/
def Demo.second : List Tx :=
  Demo.setup ++ Demo.repo Demo.lender Demo.borrower 0 ++
    [.call (Demo.env 20 4) (.propose Demo.dealer Demo.borrower Demo.asset
      200 50 0 .term 500 (Vector.replicate 32 0))]

theorem allowance_expiry_demo :
    ExpiryFits (Demo.env 20 5) 480 unwindAllowanceGraceLedgers
        (allowanceExpiry (Demo.env 20 5) 480 unwindAllowanceGraceLedgers)
    ∧ ∃ t, ((machine Demo.self).run (machine Demo.self).init
          Demo.second).store.trades.get 1 = some t
      ∧ settleExpiry ((Demo.env 20 5).at Demo.self) t
          ((machine Demo.self).run (machine Demo.self).init
            Demo.second).store ≤ 5 + 3110400 - 1 := by
  refine ⟨allowance_expiry_sound.1 _ _ _ (by decide) (by decide), ?_⟩
  have hstored : (((machine Demo.self).run (machine Demo.self).init
      Demo.second).store.trades.get 1).map RepoTrade.cashBorrower
        = some Demo.borrower := by
    decide +kernel
  obtain ⟨t, ht, hb⟩ := Option.map_eq_some_iff.mp hstored
  have hhost : HostLedger 3110400 (Demo.second
      ++ .call (Demo.env 20 5) (.acceptAndSettle Demo.borrower 1) :: []) := by
    refine ⟨?_, ?_⟩
    · show List.Pairwise (· ≤ ·) [0, 0, 0, 2, 3, 4, 5]
      decide
    · show ∀ n ∈ [3110400, 3110400, 3110400, 3110400, 3110400, 3110400,
        3110400], n = 3110400
      decide
  exact ⟨t, ht, (allowance_expiry_sound.2.2 Demo.self 3110400 Demo.second
    (Demo.env 20 5) Demo.borrower 1 [] t hhost ht hb).1⟩

end Ballast.RepoDvp
