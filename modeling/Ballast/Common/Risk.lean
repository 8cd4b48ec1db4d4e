/-
`ballast-common`: guarded prices, collateral value, LTV and the margin
bands every contract judges a position by.

Values are 7-decimal fixed point. Both divisions of `collateralValue`
and the one of `ltvBps` truncate, so the bps figure a position is
classified by is a rounded one; the comparison facts here
(`classify_healthy`, `ltvBps_lt`) say what that figure still
guarantees about the unrounded debt and collateral.

# Bands

A position is healthy, in warning, in margin call or in liquidation, by
where its LTV lies among three thresholds; a threshold belongs to the
band above it. The thresholds are validated to be positive, in order and
at most 100%; two of them may be equal, and the band between them is
then empty.
-/
import Ballast.Soroban.Token
import Mathlib.Data.Int.Order.Lemmas
import Mathlib.Tactic.Linarith

namespace Ballast

open Soroban

/-- `Bytes`. -/
abbrev Bytes := List UInt8

/-- `BytesN<n>`. -/
abbrev BytesN (n : Nat) := Vector UInt8 n

/-- `Symbol`: a short tag. -/
abbrev Symbol := String

-- ============================================================== prices

/-- `PRICE_SCALE`: one, in 7-decimal fixed point. -/
def priceScale : Int := 10000000

/-- `BPS_DENOMINATOR`. -/
def bpsDenominator : Int := 10000

inductive PriceStatus where
  | ok
  | degraded
  | halted
  deriving DecidableEq, Repr

structure PriceSource where
  name : Symbol
  value : Int
  observedAt : Nat
  stale : Bool
  deriving DecidableEq, Repr

structure GuardedPrice where
  asset : Address
  value : Int
  status : PriceStatus
  ts : Nat
  sources : List PriceSource
  deriving DecidableEq, Repr

/-- `GuardedPrice::is_usable_for_new_risk`. -/
def GuardedPrice.isUsableForNewRisk (g : GuardedPrice) : Bool :=
  decide (g.status = .ok)

/-- What an invocation sees: the host, and what each PriceGuard
contract answers for each asset in this transaction. A guard may also
abort the call. -/
structure Env extends HostEnv where
  guardedPrice : Address → Address → Call GuardedPrice

/-- The same transaction, run in the contract at `self`. -/
def Env.at (env : Env) (self : Address) : Env :=
  { env with self := self }

/-- The environment of a call into `callee`; prices are the
transaction's. -/
def Env.into (env : Env) (callee : Address) : Env :=
  { env with toHostEnv := env.toHostEnv.into callee }

-- ============================================================= margins

inductive MarginState where
  | healthy
  | warning
  | marginCall
  | liquidation
  deriving DecidableEq, Repr

structure MarginThresholds where
  warningBps : Nat
  marginCallBps : Nat
  liquidationBps : Nat
  deriving DecidableEq, Repr

/-- `MarginThresholds::validate`. -/
def MarginThresholds.validate (t : MarginThresholds) : Call Unit := do
  ensure (0 < t.warningBps) "margin: warning_bps must be greater than zero"
  ensure (t.warningBps ≤ t.marginCallBps)
    "margin: warning_bps cannot exceed margin_call_bps"
  ensure (t.marginCallBps ≤ t.liquidationBps)
    "margin: margin_call_bps cannot exceed liquidation_bps"
  ensure (t.liquidationBps ≤ 10000)
    "margin: liquidation_bps cannot exceed 10000 bps (100%)"

inductive LiquidationRoute where
  | redeem
  | transfer
  | rfq
  deriving DecidableEq, Repr

/-- `margin::classify`. -/
def classify (ltvBps : Nat) (t : MarginThresholds) : MarginState :=
  if t.liquidationBps ≤ ltvBps then .liquidation
  else if t.marginCallBps ≤ ltvBps then .marginCall
  else if t.warningBps ≤ ltvBps then .warning
  else .healthy

/-- `MarginCall | Liquidation`: the two states the contracts act on. -/
def MarginState.isUnhealthy (m : MarginState) : Bool :=
  match m with
  | .marginCall => true
  | .liquidation => true
  | _ => false

-- ================================================== value and leverage

/-- `risk::collateral_value`: units at the guarded price, less the
haircut. -/
def collateralValue (units guardedPrice : Int) (haircutBps : Nat) :
    Call Int := do
  ensure ((haircutBps : Int) ≤ bpsDenominator) "haircut exceeds 100%"
  let product ← I128.checked "collateral_value: overflow"
    (units * guardedPrice)
  let gross := product.tdiv priceScale
  let net ← I128.checked "collateral_value: overflow"
    (gross * (bpsDenominator - haircutBps))
  return net.tdiv bpsDenominator

/-- `risk::ltv_bps`: debt over collateral in bps; no debt is zero, debt
against nothing is the maximum. -/
def ltvBps (debt collateral : Int) : Call Nat :=
  if debt ≤ 0 then return 0
  else if collateral ≤ 0 then return u32Max
  else do
    let scaled ← I128.checked "ltv_bps: overflow" (debt * bpsDenominator)
    return (max 0 (min (scaled.tdiv collateral) u32Max)).toNat

-- ========================================================= comparisons

theorem MarginThresholds.validate_ok {t : MarginThresholds} {u : Unit} :
    t.validate = .ok u ↔
      0 < t.warningBps ∧ t.warningBps ≤ t.marginCallBps
        ∧ t.marginCallBps ≤ t.liquidationBps
        ∧ t.liquidationBps ≤ 10000 := by
  simp only [validate, bind_ok, ensure_ok, exists_const]

/-- Healthy is exactly below every band. -/
theorem classify_healthy {l : Nat} {t : MarginThresholds} :
    classify l t = .healthy ↔
      l < t.liquidationBps ∧ l < t.marginCallBps ∧ l < t.warningBps := by
  unfold classify
  split_ifs <;> simp_all

/-- The rounded LTV being below `w` bps bounds the unrounded ratio:
flooring loses nothing on the strict side. -/
theorem ltvBps_lt {debt cv : Int} {l w : Nat} (h : ltvBps debt cv = .ok l)
    (hdebt : 0 < debt) (hw : w ≤ 10000) (hl : l < w) :
    0 < cv ∧ debt * 10000 < w * cv := by
  unfold ltvBps at h
  rw [if_neg (by omega)] at h
  split at h
  case isTrue =>
    simp only [pure_ok] at h
    have hmax : u32Max = 4294967295 := by decide
    omega
  case isFalse hcv =>
    simp only [bind_ok, I128.checked_ok, pure_ok, bpsDenominator] at h
    obtain ⟨x, ⟨-, hx⟩, hl'⟩ := h
    have hpos : 0 < cv := by omega
    have hx0 : 0 ≤ x := by omega
    rw [Int.tdiv_eq_ediv_of_nonneg hx0] at hl'
    have hq0 : 0 ≤ x / cv := Int.ediv_nonneg hx0 hpos.le
    have hmax : ((u32Max : Nat) : Int) = 4294967295 := by decide
    have hq : x / cv < w := by
      rw [hmax] at hl'
      omega
    refine ⟨hpos, ?_⟩
    rw [hx]
    exact (Int.ediv_lt_iff_lt_mul hpos).mp hq

/-- Two truncating divisions of a non-negative figure keep its order:
how every simple-interest formula here is monotone. -/
theorem tdiv_tdiv_mono {a b y d : Int} (ha : 0 ≤ a) (hab : a ≤ b)
    (hy : 0 < y) (hd : 0 < d) : (a.tdiv y).tdiv d ≤ (b.tdiv y).tdiv d := by
  have hb : 0 ≤ b := ha.trans hab
  rw [Int.tdiv_eq_ediv_of_nonneg ha, Int.tdiv_eq_ediv_of_nonneg hb,
    Int.tdiv_eq_ediv_of_nonneg (Int.ediv_nonneg ha hy.le),
    Int.tdiv_eq_ediv_of_nonneg (Int.ediv_nonneg hb hy.le)]
  exact Int.ediv_le_ediv hd (Int.ediv_le_ediv hy hab)

end Ballast
