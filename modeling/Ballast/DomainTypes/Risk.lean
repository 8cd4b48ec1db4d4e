/-
`@ballast/domain-types`: the API's copy of the contracts' risk
arithmetic, `risk.ts` and `margin.ts`.

The copy is kept by hand and in other number types. Amounts are bigints,
so nothing overflows; an LTV is a double, converted from the exact
quotient and not clamped. Neither difference reaches a margin band,
because a band is a comparison against at most 10000 and a conversion
cannot cross a number that small (`le_toNumber_iff`).

A double is represented by the integer it is, since a quotient is
converted after it was truncated. Rounding goes to the nearest double
and never across an integer below 2^53, so up to there the conversion is
exact, and a comparison with a threshold comes out as it would on the
exact quotient.
-/
import Ballast.Common.Margin

namespace Ballast.DomainTypes

open Soroban

-- ========================================================= the arithmetic

/-- `collateralValue` of `risk.ts`. -/
def collateralValue (units guardedPrice haircutBps : Int) : Call Int := do
  ensure (¬ (haircutBps < 0 ∨ bpsDenominator < haircutBps))
    "haircut exceeds 100%"
  let gross := (units * guardedPrice).tdiv priceScale
  return (gross * (bpsDenominator - haircutBps)).tdiv bpsDenominator

/-- `Number.MAX_SAFE_INTEGER`. -/
def maxSafeInteger : Nat := 2 ^ 53 - 1

/-- `Number(n)` of a bigint below 2^1024: the nearest double, which is
an integer, ties to the even significand. -/
def toNumber (n : Nat) : Nat :=
  let ulp := 2 ^ (n.log2 - 52)
  let q := n / ulp
  let r := n % ulp
  if ulp < 2 * r ∨ (2 * r = ulp ∧ q % 2 = 1) then (q + 1) * ulp
  else q * ulp

/-- `ltvBps` of `risk.ts`. -/
def ltvBps (debt collateralValueAmount : Int) : Nat :=
  if debt ≤ 0 then 0
  else if collateralValueAmount ≤ 0 then maxSafeInteger
  else toNumber ((debt * bpsDenominator).tdiv collateralValueAmount).toNat

/-- `classifyMargin` of `margin.ts`. -/
def classifyMargin (ltvBps : Nat) (thresholds : MarginThresholds) :
    MarginState :=
  if thresholds.liquidationBps ≤ ltvBps then .liquidation
  else if thresholds.marginCallBps ≤ ltvBps then .marginCall
  else if thresholds.warningBps ≤ ltvBps then .warning
  else .healthy

-- ============================================================ conversions

/-- Below 2^53 the conversion is exact. -/
theorem toNumber_of_lt {n : Nat} (h : n < 2 ^ 53) : toNumber n = n := by
  have hlog : n.log2 - 52 = 0 := by
    by_cases hn : n = 0
    · subst hn
      rfl
    · have hlt := (Nat.log2_lt hn).mpr h
      omega
  unfold toNumber
  simp only [hlog, Nat.pow_zero, Nat.div_one, Nat.mod_one, Nat.mul_one]
  rw [if_neg (by omega)]

/-- From there on it does not fall below. -/
theorem le_toNumber {n : Nat} (h : 2 ^ 53 ≤ n) : 2 ^ 53 ≤ toNumber n := by
  have hn : n ≠ 0 := by omega
  have hlog : 53 ≤ n.log2 := (Nat.le_log2 hn).mpr h
  have hpow : 2 ^ 52 * 2 ^ (n.log2 - 52) ≤ n := by
    rw [← Nat.pow_add, show 52 + (n.log2 - 52) = n.log2 by omega]
    exact Nat.log2_self_le hn
  have hulp : 2 ≤ 2 ^ (n.log2 - 52) := by
    calc 2 = 2 ^ 1 := rfl
      _ ≤ 2 ^ (n.log2 - 52) := Nat.pow_le_pow_right (by decide) (by omega)
  have hq : 2 ^ 52 ≤ n / 2 ^ (n.log2 - 52) :=
    (Nat.le_div_iff_mul_le (by omega)).mpr hpow
  have hlow : 2 ^ 53 ≤ n / 2 ^ (n.log2 - 52) * 2 ^ (n.log2 - 52) := by
    calc 2 ^ 53 = 2 ^ 52 * 2 := by decide
      _ ≤ n / 2 ^ (n.log2 - 52) * 2 ^ (n.log2 - 52) := Nat.mul_le_mul hq hulp
  unfold toNumber
  simp only
  split
  · rw [Nat.add_mul]
    omega
  · exact hlow

/-- So it crosses no small number. -/
theorem le_toNumber_iff {w n : Nat} (hw : w ≤ 2 ^ 53) :
    w ≤ toNumber n ↔ w ≤ n := by
  by_cases h : n < 2 ^ 53
  · rw [toNumber_of_lt h]
  · have hn : 2 ^ 53 ≤ n := Nat.le_of_not_lt h
    have hnumber := le_toNumber hn
    constructor
    · intro _
      exact hw.trans hn
    · intro _
      exact hw.trans hnumber

-- ================================================================ bands

/-- Up to 10000 the double and the clamped `u32` agree. -/
theorem le_ltvBps_iff {w : Nat} (debt cv : Int) (hw : w ≤ 10000) :
    w ≤ ltvBps debt cv ↔ w ≤ bpsOf debt cv := by
  have hmax : u32Max = 4294967295 := by decide
  have hsafe : maxSafeInteger = 9007199254740991 := by decide
  unfold ltvBps bpsOf
  by_cases hdebt : debt ≤ 0
  · rw [if_pos hdebt, if_pos hdebt]
  · rw [if_neg hdebt, if_neg hdebt]
    by_cases hcv : cv ≤ 0
    · rw [if_pos hcv, if_pos hcv]
      omega
    · rw [if_neg hcv, if_neg hcv, le_toNumber_iff (by omega)]
      omega

/-- Bands with thresholds up to 10000 are the same. -/
theorem classifyMargin_eq {t : MarginThresholds} (debt cv : Int)
    (hwarning : t.warningBps ≤ 10000) (hcall : t.marginCallBps ≤ 10000)
    (hliquidation : t.liquidationBps ≤ 10000) :
    classifyMargin (ltvBps debt cv) t = classify (bpsOf debt cv) t := by
  unfold classifyMargin classify
  simp only [le_ltvBps_iff debt cv hwarning, le_ltvBps_iff debt cv hcall,
    le_ltvBps_iff debt cv hliquidation]

/-- Where the contract's `collateral_value` returns, the copy returns
the same. -/
theorem collateralValue_eq {units price cv : Int} {haircut : Nat}
    (h : Ballast.collateralValue units price haircut = .ok cv) :
    collateralValue units price haircut = .ok cv := by
  simp only [Ballast.collateralValue, bind_ok, ensure_ok, I128.checked_ok,
    pure_ok, exists_const] at h
  obtain ⟨hcut, _, ⟨-, rfl⟩, _, ⟨-, rfl⟩, rfl⟩ := h
  simp only [collateralValue, bind_ok, ensure_ok, pure_ok, exists_const,
    and_true]
  omega

end Ballast.DomainTypes
