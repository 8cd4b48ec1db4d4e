/-
What a lender keeps of a liquidation, when the borrower repays in the
meantime.

# The episode

`liquidate` freezes the debt in the `LiquidationRecord`; `repay` stays
open on a `Liquidating` line and works on the line's own figures;
`closeLiquidated` books the outcome from the record alone. An `Episode`
records what happened to the line between the freeze and now: the USDC
`repay` applied, and the interest that accrued. The interest already
inside the frozen debt but not yet booked on the line starts the count
negative, so that

    drawn + accruedInterest + repaid = debt + interest

holds throughout (`Ledgered`): what is still owed plus what was repaid
is the frozen debt plus what accrued since.

# The defect

`closeLiquidated` never reads that identity. USDC repaid after the
freeze is neither refused nor credited: the borrower's collateral is
still taken at the full frozen debt, and the recorded shortfall ignores
it (`repaid_twice`).

# When the outcome is fair

`outcome_fair_iff` is the exact arithmetic: repayments within the later
interest, or a shortfall within it that the repayments do not exceed
by more than that. Over whole runs the condition on the steps is that
no repayment commits on a `Liquidating` line (`liquidation_outcome`).
-/
import Ballast.CreditLine.Proofs.Steps

namespace Ballast.CreditLine

open Soroban

-- ============================================================ episodes

/-- What happened to a line since it was last frozen. -/
structure Episode where
  frozenAt : Nat
  repaid : Int
  interest : Int
  deriving DecidableEq, Repr

/-- Interest accrued on the stored line by `now` and not yet booked. -/
def unbooked (s : State) (line now : Nat) : Int :=
  match s.lines.get line with
  | some l => interestOf l now
  | none => 0

/-- The observer: `liquidate` opens an episode, `repay` adds to it. -/
def recordEpisode (addr : Address) (line : Nat) (ep : Episode) (tx : Tx)
    (w _w' : World State) : Episode :=
  match tx with
  | .call env (.liquidate _ id _) =>
      if id = line then ⟨env.timestamp, 0, -unbooked w.store line
        env.timestamp⟩
      else ep
  | .call env (.repay payer id amount) =>
      if id = line then
        match repay (env.at addr) payer id amount w with
        | .ok (applied, _) =>
            { ep with
              repaid := ep.repaid + applied
              interest := ep.interest + unbooked w.store line env.timestamp }
        | .error _ => ep
      else ep
  | _ => ep

/-- The current episode of `line` at the end of the run `txs`. -/
def episode (addr : Address) (line : Nat) (txs : List Tx) : Episode :=
  (machine addr).recorded ⟨0, 0, 0⟩ (recordEpisode addr line) txs

/-- The lender keeps no more than was owed, and the recorded shortfall
credits what was repaid, up to the interest accrued after the
freeze. -/
structure OutcomeFair (r : LiquidationRecord) (repaid interest : Int) :
    Prop where
  kept : r.recovered - r.surplus + repaid ≤ r.debt + interest
  shortfall : |r.shortfall - max 0 (r.debt - r.recovered - repaid)|
    ≤ interest

/-- No repayment commits while `line` is being liquidated. -/
def NoRepayWhileLiquidating (addr : Address) (line : Nat) (tx : Tx)
    (w : World State) : Prop :=
  ∀ env payer amount w', tx = .call env (.repay payer line amount) →
    (machine addr).apply tx w = .ok w' →
    ∀ l, w.store.lines.get line = some l → l.status ≠ .liquidating

-- ======================================================= the identities

/-- The episode accounts for the line: what is owed plus what was
repaid is the frozen debt plus the interest since. -/
structure Ledgered (line : Nat) (s : State) (ep : Episode) : Prop where
  repaid_nonneg : 0 ≤ ep.repaid
  frozen : ∀ l, s.lines.get line = some l → l.status = .liquidating →
    ∃ r, s.liquidation.get line = some r
      ∧ l.drawn + l.accruedInterest + ep.repaid = r.debt + ep.interest

/-- With repayments kept away from the frozen line, the episode is
empty and the line's interest still runs from before the freeze. -/
structure Untouched (line : Nat) (s : State) (ep : Episode) : Prop where
  nonneg : NonnegDebt s line
  empty : ∀ l, s.lines.get line = some l → l.status = .liquidating →
    ep.repaid = 0 ∧ ep.interest = -interestOf l ep.frozenAt

variable {addr : Address} {env : Env} {line : Nat} {w w' : World State}
  {s s' : State} {ep : Episode}

theorem unbooked_of_line {l : Line} {now : Nat}
    (hl : s.lines.get line = some l) :
    unbooked s line now = interestOf l now := by
  simp [unbooked, hl]

/-- Only a liquidation or a repayment of `line` touches its episode. -/
theorem recordEpisode_other {e : Entry}
    (hl : ∀ k r, e ≠ .liquidate k line r)
    (hr : ∀ p x, e ≠ .repay p line x) :
    recordEpisode addr line ep (.call env e) w w' = ep := by
  cases e with
  | liquidate k id r =>
      have hid : id ≠ line := fun h => hl k r (by rw [h])
      simp [recordEpisode, hid]
  | repay p id x =>
      have hid : id ≠ line := fun h => hr p x (by rw [h])
      simp [recordEpisode, hid]
  | _ => rfl

/-- A line can be `Liquidating` after a call other than its own
liquidation only if it was before, with the same principal, rate and
accrual point unless the call repaid it. -/
theorem call_still_liquidating {e : Entry} (h : call env e w = .ok w')
    (hliq : ∀ k r, e ≠ .liquidate k line r)
    (hrep : ∀ p x, e ≠ .repay p line x) :
    ∀ l', w'.store.lines.get line = some l' → l'.status = .liquidating →
    ∃ l, w.store.lines.get line = some l ∧ l.status = .liquidating
      ∧ l'.drawn = l.drawn ∧ l'.accruedInterest = l.accruedInterest
      ∧ ∀ t, interestOf l' t = interestOf l t := by
  intro x hx hstatus
  cases call_line h line with
  | same hsame => exact ⟨x, hsame ▸ hx, hstatus, rfl, rfl, fun _ => rfl⟩
  | opened _ _ hnew =>
      rw [hnew] at hx
      injection hx with hx
      subst hx
      cases hstatus
  | step hl hl' hstep =>
      rw [hl'] at hx
      injection hx with hx
      subst hx
      cases hstep with
      | draw hopen =>
          have hst : LineStatus.opened = .liquidating := hopen ▸ hstatus
          cases hst
      | repay => exact absurd rfl (hrep _ _)
      | liquidate => exact absurd rfl (hliq _ _)
      | closeLiquidated => cases hstatus
      | _ => exact ⟨_, hl, hstatus, rfl, rfl, fun _ => rfl⟩

/-- A line its lender just closed is not `Liquidating`. -/
theorem close_not_liquidating {lender : Address}
    (h : closeLiquidated env lender line w = .ok w') :
    ∀ l, w'.store.lines.get line = some l → l.status ≠ .liquidating := by
  obtain ⟨l, record, recovered, tokens, -, -, -, -, -, -, -, -, rfl⟩ :=
    closeLiquidated_ok h
  intro x hx hst
  rw [eq_of_writeLine hx] at hst
  cases hst

-- ============================================================ one step

/-- The freeze opens a balanced episode. -/
theorem Ledgered.of_liquidate {k : Address} {route : LiquidationRoute}
    (hcall : call (env.at addr) (.liquidate k line route) w = .ok w') :
    Ledgered line w'.store
      (recordEpisode addr line ep (.call env (.liquidate k line route))
        w w') := by
  obtain ⟨l, breach, view, price, hl, -, -, -, hview, -, -, hs⟩ :=
    liquidate_ok (onStore_ok.mp hcall).1
  obtain ⟨config, guarded, -, -, -, -, hdebt, -⟩ := readLtv_ok hview
  have hrec : recordEpisode addr line ep (.call env (.liquidate k line
      route)) w w' = ⟨env.timestamp, 0, -interestOf l env.timestamp⟩ := by
    simp [recordEpisode, unbooked_of_line hl]
  rw [hrec]
  refine ⟨le_rfl, ?_⟩
  intro x hx _
  rw [hs] at hx ⊢
  refine ⟨_, Store.get_set_self _ _ _, ?_⟩
  rw [eq_of_writeLine hx]
  have hdebt' : view.debt
      = l.drawn + l.accruedInterest + interestOf l env.timestamp :=
    debtAt_ok hdebt
  show l.drawn + l.accruedInterest + 0
    = view.debt + -interestOf l env.timestamp
  omega

/-- A repayment moves the same amount from what is owed to what was
repaid, after booking the interest it found. -/
theorem Ledgered.repay {p : Address} {amount : Int}
    (h : Ledgered line w.store ep)
    (hcall : call (env.at addr) (.repay p line amount) w = .ok w') :
    Ledgered line w'.store
      (recordEpisode addr line ep (.call env (.repay p line amount))
        w w') := by
  obtain ⟨⟨applied, w₁⟩, hrepay, rfl⟩ := map_ok.mp hcall
  have hrec : recordEpisode addr line ep (.call env (.repay p line amount))
      w w₁ = { ep with
        repaid := ep.repaid + applied
        interest := ep.interest + unbooked w.store line env.timestamp } := by
    simp [recordEpisode, hrepay]
  rw [hrec]
  obtain ⟨l, config, delta, pay, -, hamount, hl, -, hdelta, howed, happlied,
    -, -, -, rfl⟩ := repay_ok hrepay
  have hdelta' : delta = interestOf l env.timestamp := interestDelta_ok hdelta
  refine ⟨?_, ?_⟩
  · have h0 := h.repaid_nonneg
    show 0 ≤ ep.repaid + applied
    omega
  · intro x hx hst
    rw [eq_of_writeLine hx] at hst ⊢
    obtain ⟨r, hr, heq⟩ := h.frozen l hl hst
    refine ⟨r, hr, ?_⟩
    show l.drawn - (applied - pay) + (l.accruedInterest + delta - pay)
        + (ep.repaid + applied)
      = r.debt + (ep.interest + unbooked w.store line env.timestamp)
    rw [unbooked_of_line hl, ← hdelta']
    omega

theorem ledgered_step {tx : Tx} (h : Ledgered line w.store ep)
    (happ : (machine addr).apply tx w = .ok w') :
    Ledgered line w'.store (recordEpisode addr line ep tx w w') := by
  cases tx with
  | outside tokens =>
      injection happ with happ
      subst happ
      exact h
  | call env e =>
      have hcall : call (env.at addr) e w = .ok w' := happ
      by_cases hliq : ∃ k r, e = .liquidate k line r
      · obtain ⟨k, r, rfl⟩ := hliq
        exact .of_liquidate hcall
      by_cases hrep : ∃ p x, e = .repay p line x
      · obtain ⟨p, x, rfl⟩ := hrep
        exact h.repay hcall
      have hliq' : ∀ k r, e ≠ .liquidate k line r :=
        fun k r he => hliq ⟨k, r, he⟩
      have hrep' : ∀ p x, e ≠ .repay p line x :=
        fun p x he => hrep ⟨p, x, he⟩
      rw [recordEpisode_other hliq' hrep']
      refine ⟨h.repaid_nonneg, ?_⟩
      intro x hx hst
      by_cases hclose : ∃ a, e = .closeLiquidated a line
      · obtain ⟨a, rfl⟩ := hclose
        exact absurd hst (close_not_liquidating hcall x hx)
      obtain ⟨l, hl, hlst, hdrawn, haccrued, -⟩ :=
        call_still_liquidating hcall hliq' hrep' x hx hst
      obtain ⟨r, hr, heq⟩ := h.frozen l hl hlst
      refine ⟨r, ?_, by rw [hdrawn, haccrued, heq]⟩
      rw [call_keeps_record hcall hliq' fun a he => hclose ⟨a, he⟩, hr]

theorem untouched_step {tx : Tx} (h : Untouched line w.store ep)
    (hok : NoRepayWhileLiquidating addr line tx w)
    (happ : (machine addr).apply tx w = .ok w') :
    Untouched line w'.store (recordEpisode addr line ep tx w w') := by
  cases tx with
  | outside tokens =>
      injection happ with happ
      subst happ
      exact h
  | call env e =>
      have hcall : call (env.at addr) e w = .ok w' := happ
      refine ⟨h.nonneg.call hcall, ?_⟩
      intro x hx hst
      by_cases hliq : ∃ k r, e = .liquidate k line r
      · obtain ⟨k, r, rfl⟩ := hliq
        obtain ⟨l, breach, view, price, hl, -, -, -, -, -, -, hs⟩ :=
          liquidate_ok (onStore_ok.mp hcall).1
        rw [hs] at hx
        rw [eq_of_writeLine hx]
        simp only [recordEpisode, if_true, unbooked_of_line hl]
        exact ⟨trivial, rfl⟩
      by_cases hrep : ∃ p x, e = .repay p line x
      · -- the line was not frozen before, and a repayment keeps its status
        obtain ⟨p, amount, rfl⟩ := hrep
        obtain ⟨⟨applied, w₁⟩, hrepay, rfl⟩ := map_ok.mp hcall
        obtain ⟨l, config, delta, pay, -, -, hl, -, -, -, -, -, -, -, rfl⟩ :=
          repay_ok hrepay
        rw [eq_of_writeLine hx] at hst
        exact absurd hst (hok env p amount _ rfl happ l hl)
      have hliq' : ∀ k r, e ≠ .liquidate k line r :=
        fun k r he => hliq ⟨k, r, he⟩
      have hrep' : ∀ p x, e ≠ .repay p line x :=
        fun p x he => hrep ⟨p, x, he⟩
      rw [recordEpisode_other hliq' hrep']
      obtain ⟨l, hl, hlst, -, -, hint⟩ :=
        call_still_liquidating hcall hliq' hrep' x hx hst
      rw [hint]
      exact h.empty l hl hlst

-- ======================================================== the outcome

/-- The exact arithmetic of a close that books `surplus` and
`shortfall` from the frozen debt alone: it is fair when the repayments
stay within the later interest, or when the shortfall does and the
repayments exceed it by no more than that. -/
theorem outcome_fair_iff {r : LiquidationRecord} {repaid : Int}
    (hsurplus : r.surplus = max (r.recovered - r.debt) 0)
    (hshortfall : r.shortfall = max (r.debt - r.recovered) 0)
    (hrepaid : 0 ≤ repaid) (interest : Int) :
    OutcomeFair r repaid interest ↔
      repaid ≤ interest
      ∨ r.shortfall ≤ interest ∧ repaid ≤ r.shortfall + interest := by
  constructor
  · intro h
    obtain ⟨hkept, hshort⟩ := h
    rw [abs_le] at hshort
    omega
  · intro h
    refine ⟨by omega, ?_⟩
    rw [abs_le]
    omega

theorem ledgered_run (txs : List Tx) :
    Ledgered line ((machine addr).run (machine addr).init txs).store
      (episode addr line txs) := by
  refine Machine.recorded_induction (M := machine addr)
    (P := fun w ep => Ledgered line w.store ep) ⟨le_rfl, ?_⟩ ?_
    (Machine.allowed_true _ txs)
  · intro l hl
    cases hl
  · intro w ep tx w' h _ happ
    exact ledgered_step h happ

theorem untouched_run {txs : List Tx}
    (h : (machine addr).Allowed (NoRepayWhileLiquidating addr line)
      (machine addr).init txs) :
    Untouched line ((machine addr).run (machine addr).init txs).store
      (episode addr line txs) := by
  refine Machine.recorded_induction (M := machine addr)
    (P := fun w ep => Untouched line w.store ep) ⟨?_, ?_⟩ ?_ h
  · intro l hl
    cases hl
  · intro l hl
    cases hl
  · intro w ep tx w' h hok happ
    exact untouched_step h hok happ

/-- Whatever run led to it, a close books an outcome over an episode
that accounts for the line, and that outcome is fair exactly when
`outcome_fair_iff` says so. In a run in which no repayment commits on
the frozen line, it always is. -/
theorem liquidation_outcome {addr lender : Address} {env : Env}
    {line : Nat} {txs : List Tx} {w' : World State}
    (hclose : closeLiquidated (env.at addr) lender line
      ((machine addr).run (machine addr).init txs) = .ok w') :
    ∃ l r, ((machine addr).run (machine addr).init txs).store.lines.get
        line = some l
      ∧ w'.store.liquidation.get line = some r
      ∧ l.drawn + l.accruedInterest + (episode addr line txs).repaid
          = r.debt + (episode addr line txs).interest
      ∧ (OutcomeFair r (episode addr line txs).repaid
            ((episode addr line txs).interest
              + interestOf l env.timestamp)
          ↔ (episode addr line txs).repaid
              ≤ (episode addr line txs).interest
                + interestOf l env.timestamp
            ∨ r.shortfall ≤ (episode addr line txs).interest
                + interestOf l env.timestamp
              ∧ (episode addr line txs).repaid
                ≤ r.shortfall + ((episode addr line txs).interest
                  + interestOf l env.timestamp))
      ∧ ((machine addr).Allowed (NoRepayWhileLiquidating addr line)
            (machine addr).init txs →
          (episode addr line txs).frozenAt ≤ env.timestamp →
          OutcomeFair r (episode addr line txs).repaid
            ((episode addr line txs).interest
              + interestOf l env.timestamp)) := by
  have hled : Ledgered line _ (episode addr line txs) := ledgered_run txs
  obtain ⟨l, record, recovered, tokens, -, hl, -, hst, hrecord, -, -, -, rfl⟩
    := closeLiquidated_ok hclose
  obtain ⟨r₀, hr₀, heq⟩ := hled.frozen l hl hst
  rw [hrecord] at hr₀
  injection hr₀ with hr₀
  subst hr₀
  have hiff := outcome_fair_iff (r := { record with
      closed := true
      recovered := recovered
      surplus := max (recovered - record.debt) 0
      shortfall := max (record.debt - recovered) 0 }) rfl rfl
    hled.repaid_nonneg ((episode addr line txs).interest
      + interestOf l env.timestamp)
  refine ⟨l, _, hl, Store.get_set_self _ _ _, heq, hiff, ?_⟩
  intro hallowed hclock
  have hun := untouched_run hallowed
  obtain ⟨hzero, hinterest⟩ := hun.empty l hl hst
  have hmono := interestOf_mono (hun.nonneg l hl).1 hclock
  rw [hiff, hzero, hinterest]
  exact Or.inl (by omega)

/-- 1000 drawn against 5000 units at 1.00; at 0.21 a poke in ledger 5
flags the breach and the keeper freezes the line in ledger 6. -/
def Demo.frozen : List Tx := Demo.setup ++
  [.call (Demo.env 0 1 10000000) (.fund Demo.lender 0 1000),
   .call (Demo.env 0 1 10000000) (.syncCollateral ⟨1⟩ 0 5000),
   .call (Demo.env 0 1 10000000) (.draw Demo.borrower 0 1000 Demo.borrower),
   .call (Demo.env 0 5 2100000) (.poke 0),
   .call (Demo.env 0 6 2100000) (.liquidate ⟨1⟩ 0 .transfer)]

/-- Closed a year later with nothing repaid: the 50 above the frozen
debt goes back to the borrower, the lender keeps 1000. -/
theorem liquidation_outcome_demo :
    ∃ w' l r, closeLiquidated (Demo.env 31536000 7 2100000) Demo.lender 0
        ((machine Demo.self).run (machine Demo.self).init Demo.frozen)
        = .ok w'
      ∧ w'.store.liquidation.get 0 = some r
      ∧ r.recovered - r.surplus = 1000
      ∧ OutcomeFair r (episode Demo.self 0 Demo.frozen).repaid
          ((episode Demo.self 0 Demo.frozen).interest
            + interestOf l 31536000) := by
  obtain ⟨w', hw'⟩ : ∃ w', closeLiquidated
      ((Demo.env 31536000 7 2100000).at Demo.self) Demo.lender 0
      ((machine Demo.self).run (machine Demo.self).init Demo.frozen)
      = .ok w' := exists_of_isOk (by decide +kernel)
  have hkept : ((closeLiquidated
      ((Demo.env 31536000 7 2100000).at Demo.self) Demo.lender 0
      ((machine Demo.self).run (machine Demo.self).init
        Demo.frozen)).toOption.bind
      fun w => (w.store.liquidation.get 0).map
        fun r => r.recovered - r.surplus) = some 1000 := by decide +kernel
  obtain ⟨l, r, -, hr, -, -, hfair⟩ := liquidation_outcome hw'
  refine ⟨w', l, r, hw', hr, ?_, hfair ?_ ?_⟩
  · rw [hw'] at hkept
    simpa [Except.toOption, hr] using hkept
  · refine Machine.allowed_of_prefix ?_
    intro pre tx post hpre env payer amount w₁ htx
    subst htx
    have hmem : Tx.call env (.repay payer 0 amount) ∈ Demo.frozen := by
      rw [hpre]
      simp
    simp [Demo.frozen, Demo.setup] at hmem
  · decide +kernel

/-- The borrower repays in full on the frozen line. -/
def Demo.repaidFrozen : List Tx := Demo.frozen ++
  [.call (Demo.env 0 6 2100000) (.repay Demo.borrower 0 1000)]

/-- The law fails as stated: `repaidFrozen` repays the whole frozen
debt of 1000, and closing still takes collateral worth 1050 for it,
handing back 50. The lender ends up with 2000 where 1000 was owed. -/
theorem repaid_twice :
    ∃ w' r, closeLiquidated (Demo.env 0 7 2100000) Demo.lender 0
        ((machine Demo.self).run (machine Demo.self).init
          Demo.repaidFrozen) = .ok w'
      ∧ w'.store.liquidation.get 0 = some r
      ∧ r = ⟨5000, 2100000, 1000, true, 1050, 50, 0⟩
      ∧ episode Demo.self 0 Demo.repaidFrozen = ⟨0, 1000, 0⟩
      ∧ unbooked ((machine Demo.self).run (machine Demo.self).init
          Demo.repaidFrozen).store 0 0 = 0
      ∧ ¬ OutcomeFair r 1000 0 := by
  obtain ⟨w', hw'⟩ : ∃ w', closeLiquidated (Demo.env 0 7 2100000)
      Demo.lender 0 ((machine Demo.self).run (machine Demo.self).init
        Demo.repaidFrozen) = .ok w' := exists_of_isOk (by decide +kernel)
  have hrec : ((closeLiquidated (Demo.env 0 7 2100000) Demo.lender 0
      ((machine Demo.self).run (machine Demo.self).init
        Demo.repaidFrozen)).toOption.bind
      fun w => w.store.liquidation.get 0)
      = some ⟨5000, 2100000, 1000, true, 1050, 50, 0⟩ := by decide +kernel
  rw [hw'] at hrec
  refine ⟨w', _, hw', hrec, rfl, by decide +kernel, by decide +kernel, ?_⟩
  intro hfair
  exact absurd hfair.kept (by decide)

end Ballast.CreditLine
