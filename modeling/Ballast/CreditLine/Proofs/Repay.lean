/-
Debt is one figure, whichever entry point computes it, and a repayment
takes exactly that figure down.

`debt_of`, `ltv` and `repay` each add up principal, booked interest and
interest accrued since, in different orders. On a line a run can reach
none of the three is negative, so the orders agree and overflow together
(`repayOwed_of_debt`). Under the two `min`s of `repay` nothing is left
over: what is applied is interest up to the interest booked, and
principal from there on.

Accrual floors once for every time it is booked. `bookedOver_bounds`
keeps the exact, unfloored interest in the induction: each piece loses
less than one stroop of it, and gains nothing.
-/
import Ballast.CreditLine.Proofs.Solvency
import Mathlib.Tactic.Ring

namespace Ballast.CreditLine

open Soroban

variable {addr : Address} {env : Env} {w w' : World State} {s s' : State}
  {line : Nat} {l : Line}

-- ======================================================== the owed figure

/-- What `repay` computes before it takes anything: interest booked up
to now, and all that is owed. -/
def repayOwed (l : Line) (now : Nat) : Call (Int × Int) := do
  let delta ← interestDelta l now
  let accrued ← I128.add l.accruedInterest delta
  let owed ← I128.add accrued l.drawn
  return (accrued, owed)

/-- `repay`, with its first figures taken out. -/
theorem repay_eq (env : Env) (payer : Address) (line : Nat) (amount : Int)
    (w : World State) :
    repay env payer line amount w = (do
      env.requireAuth payer
      ensure (0 < amount) "credit-line: amount must be positive"
      let l ← readLine w.store line
      let (accrued, owed) ← repayOwed l env.timestamp
      ensure (0 < owed) "credit-line: nothing owed"
      let applied := min amount owed
      let payInterest := min applied accrued
      let accruedLeft ← I128.sub accrued payInterest
      let remaining ← I128.sub applied payInterest
      let claimable ← I128.add (readClaimable w.store line) payInterest
      let payPrincipal := min remaining l.drawn
      let drawn ← I128.sub l.drawn payPrincipal
      let rest ← I128.sub remaining payPrincipal
      ensure (rest = 0) "credit-line: repayment bookkeeping mismatch"
      let config ← readAssetConfig w.store l.asset
      let tokens ← w.tokens.transfer env.toHostEnv config.usdc payer
        env.self applied
      return (applied, ⟨tokens,
        writeLine (writeClaimable w.store line claimable) line
          { l with
            accruedInterest := accruedLeft
            lastAccrualTs := env.timestamp
            drawn := drawn }⟩)) := by
  simp only [repay, repayOwed, bind_assoc, pure_bind]

/-- The three orders of adding agree: on figures that are not negative,
where the sum fits every partial sum does. -/
theorem repayOwed_of_debt {now : Nat} {d : Int} (hdrawn : 0 ≤ l.drawn)
    (haccrued : 0 ≤ l.accruedInterest) (h : debtAt l now = .ok d) :
    repayOwed l now = .ok (d - l.drawn, d)
      ∧ 0 ≤ d - l.drawn ∧ I128.Fits d := by
  simp only [debtAt, bind_ok, I128.add_ok] at h
  obtain ⟨booked, ⟨-, rfl⟩, delta, hdelta, hfits, rfl⟩ := h
  have hpos := interestDelta_nonneg hdelta hdrawn
  have hleft : l.drawn + l.accruedInterest + delta - l.drawn
      = l.accruedInterest + delta := by ring
  have hsum : l.accruedInterest + delta + l.drawn
      = l.drawn + l.accruedInterest + delta := by ring
  rw [hleft]
  refine ⟨?_, by omega, hfits⟩
  simp only [repayOwed, bind_ok, I128.add_ok, pure_ok]
  refine ⟨delta, hdelta, _, ⟨hfits.of_le (by omega) (by omega), rfl⟩, _,
    ⟨?_, rfl⟩, by rw [hsum]⟩
  rw [hsum]
  exact hfits

/-- What `ltv` reports as debt is what `debt_of` does. -/
theorem ltv_debt {view : LtvView} {d : Int}
    (hl : s.lines.get line = some l) (hd : debtAt l env.timestamp = .ok d)
    (h : ltv env line s = .ok view) : view.debt = d := by
  simp only [ltv, readLine, bind_ok, expect_ok] at h
  obtain ⟨x, hx, hview⟩ := h
  rw [hl] at hx
  injection hx with hx
  subst hx
  obtain ⟨price, hread⟩ := computeLtv_ok hview
  obtain ⟨-, -, -, -, -, -, hdebt, -⟩ := readLtv_ok hread
  rw [hd] at hdebt
  injection hdebt with hdebt
  exact hdebt.symm

theorem debtOf_ok {d : Int} :
    debtOf env line s = .ok d ↔
      ∃ l, s.lines.get line = some l ∧ debtAt l env.timestamp = .ok d := by
  simp only [debtOf, readLine, bind_ok, expect_ok]

-- ================================================== lines that owe money

/-- The line under `line` owes no negative amount, and while it owes
anything its asset is configured. -/
structure Owing (s : State) (line : Nat) : Prop where
  nonneg : NonnegDebt s line
  configured : ∀ l, s.lines.get line = some l →
    0 < l.drawn + l.accruedInterest → (s.assetConfig.get l.asset).isSome

/-- A configured asset stays configured. -/
theorem call_keeps_configured {e : Entry} {asset : Address}
    (h : call env e w = .ok w')
    (hcfg : (w.store.assetConfig.get asset).isSome) :
    (w'.store.assetConfig.get asset).isSome := by
  rcases (call_store h).config with hsame | ⟨_, b, guard, usdc, hcut, t, -,
    -, hset⟩
  · rw [hsame]
    exact hcfg
  · rw [hset, Store.get_set]
    split
    · rfl
    · exact hcfg

/-- Only `draw` and `repay` book interest, and both read the asset's
configuration. -/
theorem Owing.call {e : Entry} (hs : Owing w.store line)
    (h : call env e w = .ok w') : Owing w'.store line := by
  refine ⟨hs.nonneg.call h, ?_⟩
  intro x hx hpos
  cases call_line h line with
  | same hsame =>
      exact call_keeps_configured h (hs.configured x (hsame ▸ hx) hpos)
  | opened _ _ hnew =>
      rw [hnew] at hx
      injection hx with hx
      subst hx
      exact absurd hpos (lt_irrefl 0)
  | @step l l' hl hl' hstep =>
      rw [hl'] at hx
      injection hx with hx
      subst hx
      cases hstep with
      | draw =>
          obtain ⟨l₀, config, -, -, -, -, -, -, hl₀, -, -, -, -, -, hcfg,
            -⟩ := draw_ok h
          rw [hl] at hl₀
          injection hl₀ with hl₀
          subst hl₀
          exact call_keeps_configured h (by rw [hcfg]; rfl)
      | repay =>
          obtain ⟨⟨applied, w₁⟩, hrepay, -⟩ := map_ok.mp h
          obtain ⟨l₀, config, -, -, -, -, hl₀, hcfg, -⟩ := repay_ok hrepay
          rw [hl] at hl₀
          injection hl₀ with hl₀
          subst hl₀
          exact call_keeps_configured h (by rw [hcfg]; rfl)
      | closeLiquidated => exact absurd hpos (lt_irrefl 0)
      | _ => exact call_keeps_configured h (hs.configured l hl hpos)

theorem owing_run (addr : Address) (line : Nat) (txs : List Tx) :
    Owing ((machine addr).run (machine addr).init txs).store line := by
  refine Machine.run_induction (P := fun w : World State =>
    Owing w.store line) ?_ ?_ (Machine.allowed_true _ txs)
  · intro w tx w' hw _ h
    cases tx with
    | call env e => exact Owing.call hw h
    | outside tokens =>
        injection h with h
        subst h
        exact hw
  · constructor <;>
    · intro l hl
      cases hl

-- ============================================================== repayment

/-- What a repayment of `applied` out of a debt of `d`, of which
`accrued` is interest, leaves of line `l`. -/
structure Repaid (env : Env) (payer usdc : Address) (line : Nat) (l : Line)
    (applied accrued d : Int) (w w' : World State) : Prop where
  transferred : w'.tokens = w.tokens.move usdc payer env.self applied
  debt : debtOf env line w'.store = .ok (d - applied)
  claimable : readClaimable w'.store line
    = readClaimable w.store line + min applied accrued
  line_left : ∃ l', w'.store.lines.get line = some l'
    ∧ l'.drawn = l.drawn - (applied - min applied accrued)
    ∧ l'.funded = l.funded ∧ l'.limit = l.limit
    ∧ l'.pledgedUnits = l.pledgedUnits

/-- Nothing accrues in no time. -/
theorem interestDelta_now {now : Nat} (hts : l.lastAccrualTs = now)
    (h : I128.Fits (l.drawn * l.rateBps)) : interestDelta l now = .ok 0 := by
  simp only [interestDelta, bind_ok, I128.mul_ok, pure_ok, hts, Nat.sub_self,
    Nat.cast_zero, mul_zero]
  exact ⟨_, ⟨h, rfl⟩, _, ⟨by decide, rfl⟩, by decide⟩

/-- Less principal at the same rate fits where more did. -/
theorem fits_rated {drawn x : Int} {rate : Nat}
    (h : I128.Fits (drawn * rate)) (h0 : 0 ≤ x) (hle : x ≤ drawn) :
    I128.Fits (x * rate) :=
  h.of_le (mul_nonneg h0 (Int.natCast_nonneg rate))
    (mul_le_mul_of_nonneg_right hle (Int.natCast_nonneg rate))

theorem rated_fits {now : Nat} {d : Int} (h : debtAt l now = .ok d) :
    I128.Fits (l.drawn * l.rateBps) := by
  simp only [debtAt, interestDelta, bind_ok, I128.add_ok, I128.mul_ok,
    pure_ok] at h
  obtain ⟨-, -, -, ⟨x, ⟨hx, -⟩, -⟩, -⟩ := h
  exact hx

theorem repay_returns {payer : Address} {amount d : Int}
    {config : AssetConfig} (hl : w.store.lines.get line = some l)
    (hcfg : w.store.assetConfig.get l.asset = some config)
    (hdrawn : 0 ≤ l.drawn) (haccrued : 0 ≤ l.accruedInterest)
    (hd : debtAt l env.timestamp = .ok d) (howed : 0 < d)
    (hamount : 0 < amount) (hauth : env.Grants payer)
    (hfunds : min amount d ≤ w.tokens.balance config.usdc payer)
    (hclaim : I128.Fits (readClaimable w.store line
      + min (min amount d) (d - l.drawn))) :
    ∃ w', repay env payer line amount w = .ok (min amount d, w')
      ∧ Repaid env payer config.usdc line l (min amount d) (d - l.drawn) d
          w w' := by
  obtain ⟨howedAt, hinterest, hfits⟩ :=
    repayOwed_of_debt hdrawn haccrued hd
  obtain ⟨applied, happ⟩ : ∃ x, min amount d = x := ⟨_, rfl⟩
  obtain ⟨pay, hpay⟩ : ∃ x, min applied (d - l.drawn) = x := ⟨_, rfl⟩
  rw [happ, hpay] at hclaim
  rw [happ] at hfunds ⊢
  have happlied : 0 < applied := by omega
  have hpay0 : 0 ≤ pay := by omega
  have hpayle : pay ≤ applied := by omega
  have hprincipal : min (applied - pay) l.drawn = applied - pay := by omega
  have hfitsOf : ∀ x : Int, 0 ≤ x → x ≤ d → I128.Fits x :=
    fun x h0 hle => hfits.of_le h0 hle
  -- every step of the bookkeeping stays between zero and the debt
  refine ⟨⟨w.tokens.move config.usdc payer env.self applied,
    writeLine (writeClaimable w.store line (readClaimable w.store line
      + pay)) line
      { l with
        accruedInterest := d - l.drawn - pay
        lastAccrualTs := env.timestamp
        drawn := l.drawn - (applied - pay) }⟩, ?_, ?_⟩
  · rw [repay_eq]
    simp only [readLine, readAssetConfig, bind_ok, ensure_ok, expect_ok,
      HostEnv.requireAuth_ok, Ledger.transfer_ok, I128.add_ok, I128.sub_ok,
      pure_ok, exists_const]
    refine ⟨hauth, hamount, l, hl, _, howedAt, howed, ?_⟩
    simp only [happ, hpay]
    refine ⟨_, ⟨hfitsOf _ (by omega) (by omega), rfl⟩, _,
      ⟨hfitsOf _ (by omega) (by omega), rfl⟩, _, ⟨hclaim, rfl⟩, _,
      ⟨hfitsOf _ (by omega) (by omega), rfl⟩, _, ⟨?_, rfl⟩, ?_, config,
      hcfg, _, ⟨Or.inr hauth, happlied.le, hfunds, rfl⟩, ?_⟩
    · rw [hprincipal, sub_self]
      decide
    · rw [hprincipal, sub_self]
    · rw [hprincipal]
  · refine ⟨rfl, ?_, ?_, ⟨_, Store.get_set_self _ _ _, ?_, rfl, rfl, rfl⟩⟩
    · refine debtOf_ok.mpr ⟨_, Store.get_set_self _ _ _, ?_⟩
      have hrated : I128.Fits ((l.drawn - (applied - pay)) * l.rateBps) :=
        fits_rated (rated_fits hd) (by omega) (by omega)
      simp only [debtAt, bind_ok, I128.add_ok]
      refine ⟨_, ⟨hfitsOf _ ?_ ?_, rfl⟩, 0, interestDelta_now rfl hrated,
        hfitsOf _ ?_ ?_, ?_⟩ <;> omega
    · rw [hpay]
      exact (readClaimable_writeClaimable line).trans (if_pos rfl)
    · rw [hpay]

-- ================================================================ accrual

/-- The interest booked at each of `times` in turn, added up; the
principal stays what it is. -/
def bookedOver (l : Line) : List Nat → Call Int
  | [] => return 0
  | t :: times => do
      let delta ← interestDelta l t
      let rest ← bookedOver { l with lastAccrualTs := t } times
      I128.add delta rest

/-- What principal and rate earn in `elapsed` seconds, before the two
divisions. -/
def rawInterest (l : Line) (elapsed : Nat) : Int :=
  l.drawn * l.rateBps * (elapsed : Int)

/-- Both divisions as one. -/
def interestUnit : Int := secondsPerYear * bpsDenominator

theorem rawInterest_nonneg (hl : 0 ≤ l.drawn) (n : Nat) :
    0 ≤ rawInterest l n := by
  unfold rawInterest
  positivity

theorem interestOf_eq (hl : 0 ≤ l.drawn) (t : Nat) :
    interestOf l t = rawInterest l (t - l.lastAccrualTs) / interestUnit := by
  have hraw := rawInterest_nonneg hl (t - l.lastAccrualTs)
  show ((rawInterest l (t - l.lastAccrualTs)).tdiv secondsPerYear).tdiv
    bpsDenominator = _
  rw [Int.tdiv_eq_ediv_of_nonneg hraw, Int.tdiv_eq_ediv_of_nonneg
    (Int.ediv_nonneg hraw (by decide)), Int.ediv_ediv_of_nonneg (by decide)]
  rfl

theorem interestDelta_returns {t : Nat}
    (hrated : I128.Fits (l.drawn * l.rateBps))
    (hraw : I128.Fits (rawInterest l (t - l.lastAccrualTs))) :
    interestDelta l t = .ok (interestOf l t) := by
  simp only [interestDelta, bind_ok, I128.mul_ok, pure_ok]
  exact ⟨_, ⟨hrated, rfl⟩, _, ⟨hraw, rfl⟩, rfl⟩

/-- Each piece is the exact interest less a fraction of a stroop, so
`n` pieces fall short of it by less than `n`. -/
theorem bookedOver_bounds (hl : 0 ≤ l.drawn)
    (hrated : I128.Fits (l.drawn * l.rateBps)) {times : List Nat} {last : Nat}
    (hsorted : (l.lastAccrualTs :: times).Pairwise (· ≤ ·))
    (hlast : (l.lastAccrualTs :: times).getLast? = some last)
    (hraw : I128.Fits (rawInterest l (last - l.lastAccrualTs))) :
    ∃ b, bookedOver l times = .ok b ∧ 0 ≤ b
      ∧ b * interestUnit ≤ rawInterest l (last - l.lastAccrualTs)
      ∧ rawInterest l (last - l.lastAccrualTs) + times.length
          ≤ (b + times.length) * interestUnit := by
  induction times generalizing l with
  | nil =>
      injection hlast with hlast
      subst hlast
      refine ⟨0, rfl, le_rfl, ?_, ?_⟩ <;> simp [rawInterest]
  | cons t times ih =>
      rw [List.getLast?_cons_cons] at hlast
      obtain ⟨hfirst, hrest⟩ := List.pairwise_cons.mp hsorted
      have hstart : l.lastAccrualTs ≤ t := hfirst t List.mem_cons_self
      have hend : t ≤ last := by
        rcases List.mem_cons.mp (List.mem_of_getLast? hlast) with h | h
        · omega
        · exact List.rel_of_pairwise_cons hrest h
      -- the interval in two: the first piece, and what is left of it
      have hsplit : rawInterest l (last - l.lastAccrualTs)
          = rawInterest l (t - l.lastAccrualTs)
            + rawInterest { l with lastAccrualTs := t } (last - t) := by
        unfold rawInterest
        have hcast : ((last - l.lastAccrualTs : Nat) : Int)
            = ((t - l.lastAccrualTs : Nat) : Int)
              + ((last - t : Nat) : Int) := by
          omega
        rw [hcast]
        ring
      have hpiece := rawInterest_nonneg hl (t - l.lastAccrualTs)
      have htail := rawInterest_nonneg
        (show 0 ≤ ({ l with lastAccrualTs := t } : Line).drawn from hl)
        (last - t)
      obtain ⟨b, hb, hb0, hlow, hhigh⟩ := ih
        (l := { l with lastAccrualTs := t }) hl hrated hrest hlast
        (hraw.of_le htail (by dsimp only at htail ⊢; omega))
      dsimp only at hlow hhigh
      have hdelta := interestDelta_returns hrated
        (hraw.of_le hpiece (by omega))
      have hunit : (0 : Int) < interestUnit := by decide
      have hfloor := interestOf_eq hl t
      have hlo := Int.ediv_mul_le
        (rawInterest l (t - l.lastAccrualTs)) hunit.ne'
      have hhi := Int.lt_ediv_add_one_mul_self
        (rawInterest l (t - l.lastAccrualTs)) hunit
      rw [← hfloor] at hlo hhi
      have hdelta0 := interestOf_nonneg (t := t) hl
      refine ⟨interestOf l t + b, ?_, by omega, ?_, ?_⟩
      · simp only [bookedOver, bind_ok, I128.add_ok]
        refine ⟨_, hdelta, b, hb, ?_, rfl⟩
        refine hraw.of_le (by omega) ?_
        have hone : (interestOf l t + b) * 1
            ≤ (interestOf l t + b) * interestUnit :=
          mul_le_mul_of_nonneg_left (by decide) (by omega)
        rw [hsplit]
        linarith
      · rw [hsplit, add_mul]
        omega
      · rw [hsplit, List.length_cons]
        push_cast
        linarith

/-- However an interval is cut, what is booked over its pieces is at most
what one accrual over the whole books, and less by fewer than as many
stroops as there are pieces. -/
theorem bookedOver_near {times : List Nat} {last : Nat} {whole : Int}
    (hl : 0 ≤ l.drawn)
    (hsorted : (l.lastAccrualTs :: times).Pairwise (· ≤ ·))
    (hlast : times.getLast? = some last)
    (hwhole : interestDelta l last = .ok whole) :
    ∃ b, bookedOver l times = .ok b ∧ b ≤ whole
      ∧ whole < b + times.length := by
  have hvalue := interestDelta_ok hwhole
  simp only [interestDelta, bind_ok, I128.mul_ok, pure_ok] at hwhole
  obtain ⟨rated, ⟨hrated, rfl⟩, raw, ⟨hraw, rfl⟩, -⟩ := hwhole
  have hne : times ≠ [] := by
    rintro rfl
    cases hlast
  have hlast' : (l.lastAccrualTs :: times).getLast? = some last := by
    rw [List.getLast?_cons, hlast]
    rfl
  obtain ⟨b, hb, -, hlow, hhigh⟩ :=
    bookedOver_bounds hl hrated hsorted hlast' hraw
  have hunit : (0 : Int) < interestUnit := by decide
  have hlen : 0 < times.length := List.length_pos_iff.mpr hne
  rw [hvalue, interestOf_eq hl]
  refine ⟨b, hb, (Int.le_ediv_iff_mul_le hunit).mpr hlow, ?_⟩
  rw [Int.ediv_lt_iff_lt_mul hunit]
  omega

-- ============================================================== the figures

/-- On every line a run reaches: `debt_of`, `ltv` and `repay` compute one
figure; a signed, covered repayment of a line that owes it returns, and
takes down debt, interest and principal by exactly what it applied; and
booking interest in pieces loses less than a stroop a piece. -/
theorem debt_views_and_repay (addr : Address) (txs : List Tx) (env : Env)
    (line : Nat) (l : Line) (d : Int)
    (hl : ((machine addr).run (machine addr).init txs).store.lines.get line
      = some l)
    (hd : debtOf env line
      ((machine addr).run (machine addr).init txs).store = .ok d) :
    let w := (machine addr).run (machine addr).init txs
    (∃ accrued, repayOwed l env.timestamp = .ok (accrued, d)
      ∧ (∀ view, ltv env line w.store = .ok view → view.debt = d)
      ∧ (0 < d → ∃ config, w.store.assetConfig.get l.asset = some config
        ∧ ∀ payer amount, 0 < amount → env.Grants payer →
          min amount d ≤ w.tokens.balance config.usdc payer →
          I128.Fits (readClaimable w.store line
            + min (min amount d) accrued) →
          ∃ w', repay env payer line amount w = .ok (min amount d, w')
            ∧ Repaid env payer config.usdc line l (min amount d) accrued d
                w w'))
    ∧ ∀ start times last whole,
        (start :: times).Pairwise (· ≤ ·) → times.getLast? = some last →
        interestDelta { l with lastAccrualTs := start } last = .ok whole →
        ∃ b, bookedOver { l with lastAccrualTs := start } times = .ok b
          ∧ b ≤ whole ∧ whole < b + times.length := by
  intro w
  have howing : Owing w.store line := owing_run addr line txs
  obtain ⟨hdrawn, haccrued⟩ := howing.nonneg l hl
  obtain ⟨x, hx, hdebt⟩ := debtOf_ok.mp hd
  rw [hl] at hx
  injection hx with hx
  subst hx
  obtain ⟨howedAt, -, -⟩ := repayOwed_of_debt hdrawn haccrued hdebt
  refine ⟨⟨d - l.drawn, howedAt, fun view => ltv_debt hl hdebt, ?_⟩, ?_⟩
  · intro howed
    have hpositive : 0 < l.drawn + l.accruedInterest := by
      by_contra hnone
      have hvalue := debtAt_ok hdebt
      have hzero : l.drawn = 0 := by omega
      have hinterest : interestOf l env.timestamp = 0 := by
        unfold interestOf
        rw [hzero]
        simp
      omega
    obtain ⟨config, hcfg⟩ :=
      Option.isSome_iff_exists.mp (howing.configured l hl hpositive)
    refine ⟨config, hcfg, ?_⟩
    intro payer amount hamount hauth hfunds hclaim
    exact repay_returns hl hcfg hdrawn haccrued hdebt howed hamount hauth
      hfunds hclaim
  · intro start times last whole hsorted hlast hwhole
    exact bookedOver_near (l := { l with lastAccrualTs := start }) hdrawn
      hsorted hlast hwhole

/-- The demo line, funded and drawn in full. -/
def Demo.lent : List Tx := Demo.setup ++
  [.call (Demo.env 0 1 10000000) (.fund Demo.lender 0 1000),
   .call (Demo.env 0 1 10000000) (.syncCollateral ⟨1⟩ 0 5000),
   .call (Demo.env 0 1 10000000) (.draw Demo.borrower 0 1000 Demo.borrower)]

def Demo.lentLine : Line :=
  { newLine (Demo.env 0 0 0) Demo.lender Demo.borrower Demo.asset 1000 1000
      3600 (Vector.replicate 32 0) with
    funded := 1000
    drawn := 1000
    pledgedUnits := 5000 }

/-- A year later 1100 is owed; 5000 offered pays 1100 of it, 100 of that
interest, and clears the line. -/
theorem debt_views_and_repay_demo :
    let w := (machine Demo.self).run (machine Demo.self).init Demo.lent
    let env := Demo.env 31536000 9 10000000
    ∃ w', repay env Demo.borrower 0 5000 w = .ok (1100, w')
      ∧ Repaid env Demo.borrower Demo.usdc 0 Demo.lentLine 1100 100 1100
          w w' := by
  intro w env
  obtain ⟨⟨accrued, howed, -, hrepay⟩, -⟩ := debt_views_and_repay Demo.self
    Demo.lent env 0 Demo.lentLine 1100 (by decide +kernel) (by decide +kernel)
  have hfigure : repayOwed Demo.lentLine env.timestamp = .ok (100, 1100) := by
    decide +kernel
  rw [hfigure] at howed
  injection howed with howed
  injection howed with haccrued _
  subst haccrued
  obtain ⟨config, hcfg, hrepay⟩ := hrepay (by decide)
  have hconfig : w.store.assetConfig.get Demo.lentLine.asset
      = some ⟨Demo.guard, Demo.usdc, 0, Demo.thresholds⟩ := by
    decide +kernel
  rw [hconfig] at hcfg
  injection hcfg with hcfg
  subst hcfg
  exact hrepay Demo.borrower 5000 (by decide) (by decide +kernel)
    (by decide +kernel) (by decide +kernel)

end Ballast.CreditLine
