/-
What a quote is worth.

`computeQuote` floors twice: the price after the spread, then the
amount. Both floors are against the holder, so a quote is never above
the exact figure (`quoteOut_le`), and a floor of a sum is at least the
sum of the floors, so cutting an exit into parts never pays more
(`quoteOut_sum_le`).

All of it needs a price that is not negative. That is no check of the
desk's: it is what a `PriceGuard` promises of an `Ok` price
(`GuardedBy`, `GuardedBy.value_pos`).

# In a run

A quote is asked for in some state of some run, at the price of that
moment (`QuotedAt`); an exit computes the same quote again for itself
and pays it. So what holds of the formula at a positive price holds of
every quote and of every exit, and two quotes are compared by their
figures alone, wherever they were given.
-/
import Ballast.Common.Margin
import Ballast.ExitDesk.Proofs.Steps
import Ballast.PriceGuard.Proofs.Prices

namespace Ballast.ExitDesk

open Soroban

variable {env : Env} {w w' : World State} {s : State}

-- ============================================================ the formula

/-- The price after the spread. -/
def spreadPrice (value : Int) (spreadBps : Nat) : Int :=
  value * (bpsDenominator - spreadBps) / bpsDenominator

/-- Nothing in a quote is negative, so truncating is flooring. -/
theorem quoteOut_eq {units value : Int} {spread : Nat} (hunits : 0 ≤ units)
    (hvalue : 0 ≤ value) (hspread : spread < 10000) :
    0 ≤ spreadPrice value spread ∧ quoteOut units value spread
      = units * spreadPrice value spread / priceScale := by
  have hkept : 0 ≤ bpsDenominator - (spread : Int) := by
    unfold bpsDenominator
    omega
  have hprice : 0 ≤ spreadPrice value spread :=
    Int.ediv_nonneg (mul_nonneg hvalue hkept) (by decide)
  refine ⟨hprice, ?_⟩
  unfold quoteOut
  rw [Int.tdiv_eq_ediv_of_nonneg (mul_nonneg hvalue hkept)]
  exact Int.tdiv_eq_ediv_of_nonneg (mul_nonneg hunits hprice)

/-- The desk never pays above the exact figure. -/
theorem quoteOut_le {units value : Int} {spread : Nat} (hunits : 0 ≤ units)
    (hvalue : 0 ≤ value) (hspread : spread < 10000) :
    quoteOut units value spread * 10000 * priceScale
      ≤ units * value * (10000 - spread) := by
  have hamount : units * spreadPrice value spread / priceScale * priceScale
      ≤ units * spreadPrice value spread := Int.ediv_mul_le _ (by decide)
  have hprice : spreadPrice value spread * 10000
      ≤ value * (10000 - spread) :=
    Int.ediv_mul_le (value * (10000 - spread)) (by decide)
  rw [(quoteOut_eq hunits hvalue hspread).2]
  calc units * spreadPrice value spread / priceScale * 10000 * priceScale
      = units * spreadPrice value spread / priceScale * priceScale
          * 10000 := mul_right_comm _ _ _
    _ ≤ units * spreadPrice value spread * 10000 :=
        mul_le_mul_of_nonneg_right hamount (by decide)
    _ = units * (spreadPrice value spread * 10000) := mul_assoc _ _ _
    _ ≤ units * (value * (10000 - spread)) :=
        mul_le_mul_of_nonneg_left hprice hunits
    _ = units * value * (10000 - spread) := (mul_assoc _ _ _).symm

/-- More units, a better price or a smaller spread never pay less. -/
theorem quoteOut_mono {units units' value value' : Int} {spread spread' : Nat}
    (hunits : 0 ≤ units) (hvalue : 0 ≤ value) (hspread' : spread < 10000)
    (hu : units ≤ units') (hv : value ≤ value') (hs : spread' ≤ spread) :
    quoteOut units value spread ≤ quoteOut units' value' spread' := by
  have hkept : (0 : Int) ≤ bpsDenominator - spread := by
    unfold bpsDenominator
    omega
  have hprice : spreadPrice value spread ≤ spreadPrice value' spread' := by
    refine Int.ediv_le_ediv (by decide) ?_
    exact mul_le_mul hv (by omega) hkept (hvalue.trans hv)
  obtain ⟨hpos, heq⟩ := quoteOut_eq hunits hvalue hspread'
  obtain ⟨-, heq'⟩ := quoteOut_eq (hunits.trans hu) (hvalue.trans hv)
    (hs.trans_lt hspread')
  rw [heq, heq']
  exact Int.ediv_le_ediv (by decide)
    (mul_le_mul hu hprice hpos (hunits.trans hu))

/-- Cutting an exit into parts never pays more. -/
theorem quoteOut_sum_le {value : Int} {spread : Nat} (hvalue : 0 ≤ value)
    (hspread : spread < 10000) (parts : List Int)
    (hparts : ∀ x ∈ parts, 0 ≤ x) :
    (parts.map fun x => quoteOut x value spread).sum
      ≤ quoteOut parts.sum value spread := by
  induction parts with
  | nil => simp [quoteOut]
  | cons x parts ih =>
      have hx := hparts x List.mem_cons_self
      have hrest : ∀ y ∈ parts, 0 ≤ y := fun y hy =>
        hparts y (List.mem_cons_of_mem x hy)
      have hsum : 0 ≤ parts.sum := List.sum_nonneg hrest
      have hsplit := ediv_add_ediv_le (x * spreadPrice value spread)
        (parts.sum * spreadPrice value spread)
        (show (0 : Int) < priceScale by decide)
      have htail := ih hrest
      rw [List.map_cons, List.sum_cons, List.sum_cons,
        (quoteOut_eq hx hvalue hspread).2,
        (quoteOut_eq (by omega) hvalue hspread).2, add_mul]
      rw [(quoteOut_eq hsum hvalue hspread).2] at htail
      omega

-- ============================================================== the guard

/-- Every guard the desk asks is a `PriceGuard`, somewhere in a run of
its own. -/
def GuardedBy (env : Env) : Prop :=
  ∀ guard asset g, env.guardedPrice guard asset = .ok g →
    ∃ (host : HostEnv) (txs : List PriceGuard.Tx) (s : PriceGuard.State),
      host.timestamp = env.timestamp
      ∧ PriceGuard.evaluate host asset ((PriceGuard.machine guard).run
          (PriceGuard.machine guard).init txs) = .ok (g, s)

/-- So an `Ok` price is positive. -/
theorem GuardedBy.value_pos (h : GuardedBy env) {guard asset : Address}
    {g : GuardedPrice} (hg : env.guardedPrice guard asset = .ok g)
    (hok : g.isUsableForNewRisk = true) : 0 < g.value := by
  obtain ⟨host, txs, s, -, heval⟩ := h guard asset g hg
  have hstatus : g.status = .ok := by
    simpa [GuardedPrice.isUsableForNewRisk] using hok
  obtain ⟨config, -, hprice, -⟩ :=
    (PriceGuard.ok_price_sound guard txs .read heval).1 hstatus
  obtain ⟨lo, -, -, -, -, hlo, -, hpos, -⟩ := hprice.spread
  omega

-- ============================================================= the quotes

/-- The desk quotes `q` somewhere, at guarded value `value` and spread
`spread`. -/
inductive QuotedAt (value : Int) (spread : Nat) (q : ExitQuote) : Prop
  | intro {env : Env} {s : State} {config : AssetConfig} {g : GuardedPrice} :
      GuardedBy env → s.assetConfig.get q.asset = some config →
      config.spreadBps = spread →
      env.guardedPrice config.priceGuard q.asset = .ok g →
      g.value = value → computeQuote env s q.asset q.units = .ok q →
      QuotedAt value spread q

/-- A quote is the formula, of positive units at a positive price. -/
theorem QuotedAt.formula {value : Int} {spread : Nat} {q : ExitQuote}
    (h : QuotedAt value spread q) : 0 < q.units ∧ 0 < value
      ∧ q.usdcOut = quoteOut q.units value spread := by
  obtain ⟨hguard, hconfig, rfl, hg, rfl, hquote⟩ := h
  obtain ⟨config', g', hunits, hconfig', hg', husable, -, -, -, hout⟩ :=
    computeQuote_ok hquote
  rw [hconfig] at hconfig'
  injection hconfig' with hconfig'
  subst hconfig'
  rw [hg] at hg'
  injection hg' with hg'
  subst hg'
  exact ⟨hunits, hguard.value_pos hg husable, hout⟩

/-- Quotes round for the desk, grow with units and price and shrink with
the spread, and are never worth cutting up; an exit pays what the quote
for the same state says, something, and no less than was asked for. -/
theorem quotes_for_the_desk :
    (∀ value spread q, spread < 10000 → QuotedAt value spread q →
      q.usdcOut * 10000 * priceScale ≤ q.units * value * (10000 - spread))
    ∧ (∀ value value' spread spread' q q', spread < 10000 →
      QuotedAt value spread q → QuotedAt value' spread' q' →
      q.units ≤ q'.units → value ≤ value' → spread' ≤ spread →
      q.usdcOut ≤ q'.usdcOut)
    ∧ (∀ value spread (parts : List ExitQuote) q, spread < 10000 →
      (∀ x ∈ parts, QuotedAt value spread x) → QuotedAt value spread q →
      (parts.map (·.units)).sum = q.units →
      (parts.map (·.usdcOut)).sum ≤ q.usdcOut)
    ∧ ∀ env holder asset units minUsdcOut payTo w out w',
      exit env holder asset units minUsdcOut payTo w = .ok (out, w') →
      ∃ q usdc, computeQuote env w.store asset units = .ok q
        ∧ out = q.usdcOut ∧ 0 < out ∧ minUsdcOut ≤ out
        ∧ w.store.usdc = some usdc
        ∧ w'.tokens = (w.tokens.move asset holder env.self units).move usdc
            env.self payTo out := by
  refine ⟨?_, ?_, ?_, ?_⟩
  · intro value spread q hspread hq
    obtain ⟨hunits, hvalue, hout⟩ := hq.formula
    rw [hout]
    exact quoteOut_le hunits.le hvalue.le hspread
  · intro value value' spread spread' q q' hspread hq hq' hu hv hs
    obtain ⟨hunits, hvalue, hout⟩ := hq.formula
    obtain ⟨-, -, hout'⟩ := hq'.formula
    rw [hout, hout']
    exact quoteOut_mono hunits.le hvalue.le hspread hu hv hs
  · intro value spread parts q hspread hparts hq hsum
    obtain ⟨-, hvalue, hout⟩ := hq.formula
    have hmap : parts.map (·.usdcOut)
        = (parts.map (·.units)).map fun x => quoteOut x value spread := by
      rw [List.map_map]
      exact List.map_congr_left fun x hx => (hparts x hx).formula.2.2
    rw [hmap, hout, ← hsum]
    refine quoteOut_sum_le hvalue.le hspread _ ?_
    intro x hx
    obtain ⟨y, hy, rfl⟩ := List.mem_map.mp hx
    exact (hparts y hy).formula.1.le
  · intro env holder asset units minUsdcOut payTo w out w' h
    obtain ⟨q, config, usdc, -, hquote, -, -, -, -, husdc, hpos, hmin, -,
      heq⟩ := exit_ok h
    injection heq with hout hw'
    subst hout hw'
    exact ⟨q, usdc, hquote, rfl, hpos, hmin, husdc, rfl⟩

/-- The readings behind the demo's price: a guard that answers 1003. -/
def Demo.readings : List PriceGuard.Tx :=
  PriceGuard.Demo.setup ++ [PriceGuard.Demo.reading "nav" 1003 5000,
    PriceGuard.Demo.reading "feed" 1003 5010]

/-- A call that asks that guard. -/
def Demo.guardedEnv : Env where
  toHostEnv := (PriceGuard.Demo.env 5020).toHostEnv
  guardedPrice guard asset :=
    (PriceGuard.evaluate (PriceGuard.Demo.env 5020).toHostEnv asset
      ((PriceGuard.machine guard).run (PriceGuard.machine guard).init
        Demo.readings)).map Prod.fst

/-- The asset configured at a spread of 25 bps. -/
def Demo.quoting : State :=
  { State.empty with
    assetConfig := State.empty.assetConfig.set PriceGuard.Demo.asset
      ⟨PriceGuard.Demo.self, 25, 1000, 1000⟩ }

theorem guardedBy_demo : GuardedBy Demo.guardedEnv := by
  intro guard asset g hg
  obtain ⟨⟨g', s⟩, heval, rfl⟩ := map_ok.mp hg
  exact ⟨(PriceGuard.Demo.env 5020).toHostEnv, Demo.readings, s, rfl, heval⟩

/-- 3 units at 1003 less 25 bps, which is 1000.49 and floored. -/
theorem quotes_for_the_desk_demo :
    ∃ q, computeQuote Demo.guardedEnv Demo.quoting PriceGuard.Demo.asset
        30000000 = .ok q
      ∧ q.usdcOut = 3000
      ∧ q.usdcOut * 10000 * priceScale ≤ q.units * 1003 * (10000 - 25) := by
  obtain ⟨q, hq⟩ := exists_of_isOk (x := computeQuote Demo.guardedEnv
    Demo.quoting PriceGuard.Demo.asset 30000000) (by decide +kernel)
  have hout : (computeQuote Demo.guardedEnv Demo.quoting
      PriceGuard.Demo.asset 30000000).toOption.map (·.usdcOut)
        = some 3000 := by
    decide +kernel
  rw [hq] at hout
  obtain ⟨config, g, -, hconfig, hg, -, hasset, hunits, -, -⟩ :=
    computeQuote_ok hq
  have hset : Demo.quoting.assetConfig.get PriceGuard.Demo.asset
      = some ⟨PriceGuard.Demo.self, 25, 1000, 1000⟩ :=
    Store.get_set_self _ _ _
  rw [hset] at hconfig
  injection hconfig with hconfig
  subst hconfig
  have hvalue : g.value = 1003 := by
    have hprice : ((Demo.guardedEnv.guardedPrice PriceGuard.Demo.self
        PriceGuard.Demo.asset).toOption.map (·.value)) = some 1003 := by
      decide +kernel
    rw [hg] at hprice
    exact Option.some.inj hprice
  refine ⟨q, hq, Option.some.inj hout,
    quotes_for_the_desk.1 1003 25 q (by decide) ?_⟩
  have hquote : computeQuote Demo.guardedEnv Demo.quoting q.asset q.units
      = .ok q := by
    rw [hasset, hunits]
    exact hq
  rw [← hasset] at hset hg
  exact .intro guardedBy_demo hset rfl hg hvalue hquote

end Ballast.ExitDesk
