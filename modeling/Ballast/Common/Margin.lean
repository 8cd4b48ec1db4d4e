/-
What the margin band of a position says about its unrounded figures.

Three floors and a clamp sit between a position and its band: gross
value, net value, the LTV in bps, and the cap at `u32::MAX`. The first
two are what the contracts mean by collateral value; the last two lose
nothing, because a band is a comparison against a whole number of bps
(`le_ltvBps`). So every band begins exactly where debt times 10000
reaches the threshold times the collateral value (`classify_exact`), and
a position with more behind it, or less against it, is never in a worse
band (`marginOf_mono`).
-/
import Ballast.Common.Risk

namespace Ballast

open Soroban

/-- How bad a margin state is. -/
def MarginState.severity : MarginState → Nat
  | .healthy => 0
  | .warning => 1
  | .marginCall => 2
  | .liquidation => 3

/-- Collateral, what it is priced at, and what is owed against it. -/
structure Position where
  units : Int
  price : Int
  haircutBps : Nat
  debt : Int
  deriving DecidableEq, Repr

/-- The products of `collateral_value` and `ltv_bps` stay inside
`i128`. -/
structure Position.Fits (p : Position) : Prop where
  product : I128.Fits (p.units * p.price)
  net : I128.Fits ((p.units * p.price).tdiv priceScale
    * (bpsDenominator - p.haircutBps))
  scaled : I128.Fits (p.debt * bpsDenominator)

/-- Nothing of it is negative, and the haircut is at most everything. -/
structure Position.Sound (p : Position) : Prop where
  units_nonneg : 0 ≤ p.units
  price_nonneg : 0 ≤ p.price
  haircut_le : p.haircutBps ≤ 10000
  debt_nonneg : 0 ≤ p.debt
  fits : p.Fits

/-- `p` has no less behind it than `q`, and no more against it. -/
structure Position.Covers (p q : Position) : Prop where
  units : q.units ≤ p.units
  price : q.price ≤ p.price
  haircut : p.haircutBps ≤ q.haircutBps
  debt : p.debt ≤ q.debt

/-- Value, LTV and band of a position, as `read_ltv`, `draw` and the
repo desk's own check compute them. -/
def marginOf (p : Position) (t : MarginThresholds) : Call MarginState := do
  let cv ← collateralValue p.units p.price p.haircutBps
  let bps ← ltvBps p.debt cv
  return classify bps t

-- ================================================================ values

/-- The collateral value without its overflow checks. -/
def Position.value (p : Position) : Int :=
  ((p.units * p.price).tdiv priceScale
    * (bpsDenominator - p.haircutBps)).tdiv bpsDenominator

/-- A haircut within 100% and products that fit are all that
`collateral_value` asks for. -/
theorem collateralValue_returns {p : Position}
    (hcut : p.haircutBps ≤ 10000) (h : p.Fits) :
    collateralValue p.units p.price p.haircutBps = .ok p.value := by
  have hbps : (p.haircutBps : Int) ≤ bpsDenominator := by
    unfold bpsDenominator
    omega
  simp only [collateralValue, bind_ok, ensure_ok, I128.checked_ok, pure_ok,
    exists_const]
  exact ⟨hbps, _, ⟨h.product, rfl⟩, _, ⟨h.net, rfl⟩, rfl⟩

/-- The LTV in bps without its overflow check. -/
def bpsOf (debt cv : Int) : Nat :=
  if debt ≤ 0 then 0
  else if cv ≤ 0 then u32Max
  else (max 0 (min ((debt * bpsDenominator).tdiv cv) u32Max)).toNat

theorem ltvBps_returns {debt : Int} (cv : Int)
    (h : I128.Fits (debt * bpsDenominator)) :
    ltvBps debt cv = .ok (bpsOf debt cv) := by
  unfold ltvBps bpsOf
  split
  · rfl
  · split
    · rfl
    · simp only [bind_ok, I128.checked_ok, pure_ok]
      exact ⟨_, ⟨h, rfl⟩, rfl⟩

/-- When it returns, that is what it returned. -/
theorem ltvBps_eq {debt cv : Int} {l : Nat} (h : ltvBps debt cv = .ok l) :
    l = bpsOf debt cv := by
  unfold ltvBps at h
  unfold bpsOf
  by_cases hdebt : debt ≤ 0
  · rw [if_pos hdebt, pure_ok] at h
    rw [if_pos hdebt, h]
  · rw [if_neg hdebt] at h ⊢
    by_cases hcv : cv ≤ 0
    · rw [if_pos hcv, pure_ok] at h
      rw [if_pos hcv, h]
    · simp only [if_neg hcv, bind_ok, I128.checked_ok, pure_ok] at h
      obtain ⟨_, ⟨-, rfl⟩, rfl⟩ := h
      rw [if_neg hcv]

/-- So nothing in the risk arithmetic aborts. -/
theorem marginOf_returns {p : Position} (t : MarginThresholds)
    (hcut : p.haircutBps ≤ 10000) (h : p.Fits) :
    marginOf p t = .ok (classify (bpsOf p.debt p.value) t) := by
  simp only [marginOf, bind_ok, pure_ok]
  exact ⟨_, collateralValue_returns hcut h, _,
    ltvBps_returns p.value h.scaled, rfl⟩

theorem Position.Sound.gross_nonneg {p : Position} (h : p.Sound) :
    0 ≤ (p.units * p.price).tdiv priceScale := by
  apply Int.tdiv_nonneg _ (by decide)
  exact mul_nonneg h.units_nonneg h.price_nonneg

theorem Position.Sound.kept_nonneg {p : Position} (h : p.Sound) :
    0 ≤ bpsDenominator - (p.haircutBps : Int) := by
  have hcut := h.haircut_le
  unfold bpsDenominator
  omega

theorem Position.Sound.value_nonneg {p : Position} (h : p.Sound) :
    0 ≤ p.value :=
  Int.tdiv_nonneg (mul_nonneg h.gross_nonneg h.kept_nonneg) (by decide)

-- ============================================================ exactness

/-- A whole number of bps is reached by the rounded LTV exactly when it
is by the unrounded one. -/
theorem le_bpsOf {debt cv : Int} {w : Nat} (hdebt : 0 < debt)
    (hcv : 0 ≤ cv) (hw : w ≤ 10000) :
    w ≤ bpsOf debt cv ↔ (w : Int) * cv ≤ debt * 10000 := by
  have hmax : u32Max = 4294967295 := by decide
  unfold bpsOf
  rw [if_neg (by omega)]
  rcases hcv.eq_or_lt with hzero | hpos
  · rw [if_pos (by omega), ← hzero]
    constructor
    · intro _
      omega
    · intro _
      omega
  · rw [if_neg (by omega)]
    have hnum : 0 ≤ debt * bpsDenominator := by
      unfold bpsDenominator
      omega
    rw [Int.tdiv_eq_ediv_of_nonneg hnum]
    have hdiv : (w : Int) ≤ debt * bpsDenominator / cv ↔
        (w : Int) * cv ≤ debt * 10000 := Int.le_ediv_iff_mul_le hpos
    rw [← hdiv]
    have hquot : 0 ≤ debt * bpsDenominator / cv :=
      Int.ediv_nonneg hnum hpos.le
    omega

/-- Every band begins at its own threshold. -/
theorem classify_severity {l : Nat} {t : MarginThresholds}
    (ht : t.validate = .ok ()) :
    (1 ≤ (classify l t).severity ↔ t.warningBps ≤ l)
      ∧ (2 ≤ (classify l t).severity ↔ t.marginCallBps ≤ l)
      ∧ (3 ≤ (classify l t).severity ↔ t.liquidationBps ≤ l) := by
  obtain ⟨-, hwarn, hcall, -⟩ := MarginThresholds.validate_ok.mp ht
  unfold classify
  split_ifs <;> simp only [MarginState.severity] <;> omega

/-- The bands of a position against its unrounded debt. -/
structure BandsExact (debt cv : Int) (m : MarginState)
    (t : MarginThresholds) : Prop where
  warning : 1 ≤ m.severity ↔ (t.warningBps : Int) * cv ≤ debt * 10000
  marginCall : 2 ≤ m.severity ↔
    (t.marginCallBps : Int) * cv ≤ debt * 10000
  liquidation : 3 ≤ m.severity ↔
    (t.liquidationBps : Int) * cv ≤ debt * 10000

theorem classify_exact {debt cv : Int} {t : MarginThresholds}
    (hdebt : 0 < debt) (hcv : 0 ≤ cv) (ht : t.validate = .ok ()) :
    BandsExact debt cv (classify (bpsOf debt cv) t) t := by
  obtain ⟨-, hwarn, hcall, hliq⟩ := MarginThresholds.validate_ok.mp ht
  obtain ⟨h1, h2, h3⟩ := classify_severity (l := bpsOf debt cv) ht
  constructor
  · rw [h1, le_bpsOf hdebt hcv (by omega)]
  · rw [h2, le_bpsOf hdebt hcv (by omega)]
  · rw [h3, le_bpsOf hdebt hcv hliq]

-- ========================================================== monotonicity

/-- A larger LTV is in no better band. -/
theorem classify_mono {l l' : Nat} (t : MarginThresholds) (h : l ≤ l') :
    (classify l t).severity ≤ (classify l' t).severity := by
  unfold classify
  split_ifs <;> simp only [MarginState.severity] <;> omega

/-- A smaller divisor takes no less out of the same figure. -/
theorem ediv_anti {a b b' : Int} (ha : 0 ≤ a) (hb' : 0 < b')
    (h : b' ≤ b) : a / b ≤ a / b' := by
  have hb : 0 < b := hb'.trans_le h
  have hquot : 0 ≤ a / b := Int.ediv_nonneg ha hb.le
  rw [Int.le_ediv_iff_mul_le hb']
  calc a / b * b' ≤ a / b * b := mul_le_mul_of_nonneg_left h hquot
    _ ≤ a := Int.ediv_mul_le a hb.ne'

/-- Flooring a sum loses no more than flooring its parts. -/
theorem ediv_add_ediv_le (a b : Int) {n : Int} (hn : 0 < n) :
    a / n + b / n ≤ (a + b) / n := by
  rw [Int.le_ediv_iff_mul_le hn, add_mul]
  exact add_le_add (Int.ediv_mul_le a hn.ne') (Int.ediv_mul_le b hn.ne')

/-- More debt against less collateral is no smaller an LTV. -/
theorem bpsOf_mono {debt debt' cv cv' : Int} (hdebt : debt ≤ debt')
    (hcv : cv' ≤ cv) (hcv' : 0 ≤ cv') : bpsOf debt cv ≤ bpsOf debt' cv' := by
  have hmax : u32Max = 4294967295 := by decide
  by_cases hpos : 0 < debt
  · have hnum : 0 ≤ debt * bpsDenominator := by
      unfold bpsDenominator
      omega
    have hnum' : debt * bpsDenominator ≤ debt' * bpsDenominator := by
      unfold bpsDenominator
      omega
    unfold bpsOf
    rw [if_neg (show ¬ debt ≤ 0 by omega),
      if_neg (show ¬ debt' ≤ 0 by omega)]
    rcases hcv'.eq_or_lt with hzero | hcvpos
    · rw [if_pos (show cv' ≤ 0 by omega)]
      split <;> omega
    · rw [if_neg (show ¬ cv ≤ 0 by omega),
        if_neg (show ¬ cv' ≤ 0 by omega)]
      have hquot : (debt * bpsDenominator).tdiv cv
          ≤ (debt' * bpsDenominator).tdiv cv' := by
        rw [Int.tdiv_eq_ediv_of_nonneg hnum,
          Int.tdiv_eq_ediv_of_nonneg (hnum.trans hnum')]
        exact (ediv_anti hnum hcvpos hcv).trans
          (Int.ediv_le_ediv hcvpos hnum')
      omega
  · unfold bpsOf
    rw [if_pos (show debt ≤ 0 by omega)]
    exact Nat.zero_le _

/-- More units at a better price under a smaller haircut are worth no
less. -/
theorem Position.Covers.value {p q : Position} (h : p.Covers q)
    (hp : p.Sound) (hq : q.Sound) : q.value ≤ p.value := by
  have hprod : q.units * q.price ≤ p.units * p.price :=
    mul_le_mul h.units h.price hq.price_nonneg hp.units_nonneg
  have hgross : (q.units * q.price).tdiv priceScale
      ≤ (p.units * p.price).tdiv priceScale := by
    rw [Int.tdiv_eq_ediv_of_nonneg
        (mul_nonneg hq.units_nonneg hq.price_nonneg),
      Int.tdiv_eq_ediv_of_nonneg
        (mul_nonneg hp.units_nonneg hp.price_nonneg)]
    exact Int.ediv_le_ediv (by decide) hprod
  have hkept : bpsDenominator - (q.haircutBps : Int)
      ≤ bpsDenominator - (p.haircutBps : Int) := by
    have hcut := h.haircut
    omega
  have hnet := mul_le_mul hgross hkept hq.kept_nonneg hp.gross_nonneg
  unfold Position.value
  rw [Int.tdiv_eq_ediv_of_nonneg (mul_nonneg hq.gross_nonneg hq.kept_nonneg),
    Int.tdiv_eq_ediv_of_nonneg (mul_nonneg hp.gross_nonneg hp.kept_nonneg)]
  exact Int.ediv_le_ediv (by decide) hnet

/-- What `units` of a collateral are worth, on their own. -/
def lotValue (price : Int) (haircutBps : Nat) (units : Int) : Int :=
  Position.value ⟨units, price, haircutBps, 0⟩

/-- With nothing negative about it, truncating is flooring. -/
theorem lotValue_eq {price units : Int} {haircut : Nat} (hprice : 0 ≤ price)
    (hcut : haircut ≤ 10000) (hunits : 0 ≤ units) :
    0 ≤ lotValue price haircut units
      ∧ lotValue price haircut units = units * price / priceScale
        * (bpsDenominator - haircut) / bpsDenominator := by
  have hscale : (0 : Int) < priceScale := by decide
  have hbps : (0 : Int) < bpsDenominator := by decide
  have hkept : 0 ≤ bpsDenominator - (haircut : Int) := by
    unfold bpsDenominator
    omega
  have hgross := mul_nonneg hunits hprice
  have hnet := mul_nonneg (Int.ediv_nonneg hgross hscale.le) hkept
  have heq : lotValue price haircut units = units * price / priceScale
      * (bpsDenominator - haircut) / bpsDenominator := by
    unfold lotValue Position.value
    simp only
    rw [Int.tdiv_eq_ediv_of_nonneg hgross, Int.tdiv_eq_ediv_of_nonneg hnet]
  exact ⟨by rw [heq]; exact Int.ediv_nonneg hnet hbps.le, heq⟩

/-- Two lots are worth no more apart than together. -/
theorem lotValue_add_le {price a b : Int} {haircut : Nat}
    (hprice : 0 ≤ price) (hcut : haircut ≤ 10000) (ha : 0 ≤ a)
    (hb : 0 ≤ b) : lotValue price haircut a + lotValue price haircut b
      ≤ lotValue price haircut (a + b) := by
  have hkept : 0 ≤ bpsDenominator - (haircut : Int) := by
    unfold bpsDenominator
    omega
  rw [(lotValue_eq hprice hcut ha).2, (lotValue_eq hprice hcut hb).2,
    (lotValue_eq hprice hcut (add_nonneg ha hb)).2]
  refine (ediv_add_ediv_le _ _ (by decide)).trans
    (Int.ediv_le_ediv (by decide) ?_)
  rw [← add_mul, add_mul a b]
  exact mul_le_mul_of_nonneg_right (ediv_add_ediv_le _ _ (by decide)) hkept

/-- And the larger of two lots is worth no less. -/
theorem lotValue_mono {price a b : Int} {haircut : Nat}
    (hprice : 0 ≤ price) (hcut : haircut ≤ 10000) (ha : 0 ≤ a)
    (hab : a ≤ b) :
    lotValue price haircut a ≤ lotValue price haircut b := by
  have hrest := (lotValue_eq hprice hcut (sub_nonneg.mpr hab)).1
  have hsum := lotValue_add_le hprice hcut ha (sub_nonneg.mpr hab)
  rw [add_sub_cancel] at hsum
  omega

theorem marginOf_mono {p q : Position} (t : MarginThresholds)
    (h : p.Covers q) (hp : p.Sound) (hq : q.Sound) :
    (classify (bpsOf p.debt p.value) t).severity
      ≤ (classify (bpsOf q.debt q.value) t).severity :=
  classify_mono t (bpsOf_mono h.debt (h.value hp hq) hq.value_nonneg)

-- ============================================================= the bands

/-- A position is in a band exactly from that band's threshold on, and a
position that covers it is in no worse a band. -/
theorem margin_exact_monotone (p : Position) (t : MarginThresholds)
    (hp : p.Sound) (ht : t.validate = .ok ()) :
    ∃ cv bps m, collateralValue p.units p.price p.haircutBps = .ok cv
      ∧ ltvBps p.debt cv = .ok bps ∧ m = classify bps t
      ∧ marginOf p t = .ok m
      ∧ (0 < p.debt → BandsExact p.debt cv m t)
      ∧ ∀ q : Position, q.Sound → q.Covers p →
        ∃ better, marginOf q t = .ok better
          ∧ better.severity ≤ m.severity := by
  refine ⟨p.value, bpsOf p.debt p.value, _,
    collateralValue_returns hp.haircut_le hp.fits,
    ltvBps_returns p.value hp.fits.scaled, rfl,
    marginOf_returns t hp.haircut_le hp.fits, ?_, ?_⟩
  · intro hdebt
    exact classify_exact hdebt hp.value_nonneg ht
  · intro q hq hcovers
    exact ⟨_, marginOf_returns t hq.haircut_le hq.fits,
      marginOf_mono t hcovers hq hp⟩

/-- 1000 units at one dollar, 5% off, against 500. -/
def Demo.position : Position := ⟨10000000000, 10000000, 500, 5000000000⟩

theorem Demo.position_sound : Demo.position.Sound where
  units_nonneg := by decide
  price_nonneg := by decide
  haircut_le := by decide
  debt_nonneg := by decide
  fits := ⟨by decide, by decide, by decide⟩

theorem margin_exact_monotone_demo :
    ∃ cv bps m, collateralValue 10000000000 10000000 500 = .ok cv
      ∧ ltvBps 5000000000 cv = .ok bps ∧ m = classify bps ⟨7000, 8000, 9000⟩
      ∧ marginOf Demo.position ⟨7000, 8000, 9000⟩ = .ok m
      ∧ (0 < Demo.position.debt →
          BandsExact 5000000000 cv m ⟨7000, 8000, 9000⟩)
      ∧ ∀ q : Position, q.Sound → q.Covers Demo.position →
        ∃ better, marginOf q ⟨7000, 8000, 9000⟩ = .ok better
          ∧ better.severity ≤ m.severity :=
  margin_exact_monotone Demo.position ⟨7000, 8000, 9000⟩
    Demo.position_sound (by decide)

end Ballast
