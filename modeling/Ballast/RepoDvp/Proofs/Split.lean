/-
How a default splits the collateral.

Both defaults value what is owed in units at the guarded price, round
up, and cap the result at what the trade holds (`lenderUnits`): they
differ in the figure owed, which is the exposure so far or the whole
term's due. So one lemma about that function covers both copies
(`split_exact`), and the two entry points are tied to it by what they
publish and what they move.

The ceiling is `(a * scale + p - 1) / p`: at least the quotient, and
less than a unit above it (`ceil_bounds`). The cap can only bite when the
collateral is worth less than what is owed, which is why the two halves
of the statement exclude each other.
-/
import Ballast.RepoDvp.Proofs.Trades

namespace Ballast.RepoDvp

open Soroban

variable {addr : Address} {env : Env} {w w' : World State} {msg : String}

-- ============================================================ the ceiling

/-- Rounding up: enough, and by less than one too many. -/
theorem ceil_bounds {x p : Int} (hp : 0 < p) :
    x ≤ (x + (p - 1)) / p * p ∧ ((x + (p - 1)) / p - 1) * p < x := by
  have hlow := Int.ediv_mul_le (x + (p - 1)) hp.ne'
  have hhigh := Int.lt_ediv_add_one_mul_self (x + (p - 1)) hp
  rw [add_mul] at hhigh
  rw [sub_mul]
  omega

/-- Rounding up what is owed, before the cap. -/
def owedUnits (a p : Int) : Int := (a * priceScale + (p - 1)) / p

theorem lenderUnits_eq {a p units share : Int} (ha : 0 < a) (hp : 0 < p)
    (h : lenderUnits msg a p units = .ok share) :
    share = min (owedUnits a p) units := by
  simp only [lenderUnits, bind_ok, I128.checked_ok, pure_ok] at h
  obtain ⟨_, ⟨-, rfl⟩, _, ⟨-, rfl⟩, rfl⟩ := h
  have hscaled : 0 ≤ a * priceScale := by
    unfold priceScale
    omega
  unfold owedUnits
  rw [Int.tdiv_eq_ediv_of_nonneg (by omega)]

/-- More owed, or a lower price, is no fewer units. -/
theorem owedUnits_mono {a a' p p' : Int} (ha : 0 < a) (haa : a ≤ a')
    (hp' : 0 < p') (hpp : p' ≤ p) : owedUnits a p ≤ owedUnits a' p' := by
  have hp : 0 < p := hp'.trans_le hpp
  obtain ⟨-, hless⟩ := ceil_bounds (x := a * priceScale) hp
  obtain ⟨henough, -⟩ := ceil_bounds (x := a' * priceScale) hp'
  have hscale : a * priceScale ≤ a' * priceScale := by
    unfold priceScale
    omega
  have hscaled : 0 ≤ a * priceScale := by
    unfold priceScale
    omega
  unfold owedUnits
  generalize (a * priceScale + (p - 1)) / p = q at *
  generalize (a' * priceScale + (p' - 1)) / p' = q' at *
  by_contra hlt
  have hq' : 0 ≤ q' := by
    by_contra hneg
    have hle : q' * p' ≤ 0 :=
      mul_nonpos_of_nonpos_of_nonneg (by omega) hp'.le
    have hpos : 0 < a' * priceScale := by
      unfold priceScale
      omega
    omega
  have hone : q' * p ≤ (q - 1) * p :=
    mul_le_mul_of_nonneg_right (by omega) hp.le
  have hprice : q' * p' ≤ q' * p := mul_le_mul_of_nonneg_left hpp hq'
  omega

-- ============================================================== the split

/-- How `units` of collateral are split over a claim of `a` at price
`p`. -/
structure SplitExact (a p units lender borrower : Int) : Prop where
  whole : lender + borrower = units
  lender_pos : 0 < lender
  borrower_nonneg : 0 ≤ borrower
  covered : a * priceScale ≤ units * p →
    a * priceScale ≤ lender * p ∧ (lender - 1) * p < a * priceScale
  short : units * p < a * priceScale → lender = units

theorem split_exact {a p units share : Int} (ha : 0 < a) (hp : 0 < p)
    (hunits : 0 < units) (h : lenderUnits msg a p units = .ok share) :
    SplitExact a p units share (units - share) := by
  have hshare := lenderUnits_eq ha hp h
  obtain ⟨henough, hless⟩ := ceil_bounds (x := a * priceScale) hp
  have hscaled : 0 < a * priceScale := by
    unfold priceScale
    omega
  unfold owedUnits at hshare
  generalize (a * priceScale + (p - 1)) / p = q at *
  have hq : 0 < q := by
    by_contra hneg
    have hle : q * p ≤ 0 := mul_nonpos_of_nonpos_of_nonneg (by omega) hp.le
    omega
  refine ⟨by omega, by omega, by omega, ?_, ?_⟩
  · intro hcovers
    -- were the cap to bite, one unit less would still be worth the claim
    have hle : q ≤ units := by
      by_contra hgt
      have hmul : units * p ≤ (q - 1) * p :=
        mul_le_mul_of_nonneg_right (by omega) hp.le
      omega
    rw [hshare, min_eq_left hle]
    exact ⟨henough, hless⟩
  · intro hshort
    have hge : units ≤ q := by
      by_contra hlt
      have hmul : q * p ≤ units * p :=
        mul_le_mul_of_nonneg_right (by omega) hp.le
      omega
    rw [hshare, min_eq_right hge]

theorem split_mono {msg' : String} {a a' p p' units share share' : Int}
    (ha : 0 < a) (haa : a ≤ a') (hp' : 0 < p') (hpp : p' ≤ p)
    (h : lenderUnits msg a p units = .ok share)
    (h' : lenderUnits msg' a' p' units = .ok share') : share ≤ share' := by
  rw [lenderUnits_eq ha (hp'.trans_le hpp) h,
    lenderUnits_eq (ha.trans_le haa) hp' h']
  exact min_le_min_right units (owedUnits_mono ha haa hp' hpp)

-- ============================================================ the defaults

/-- What a default of trade `t` for a claim of `a` at price `p` moved. -/
structure Splits (env : Env) (t : RepoTrade) (a p share : Int)
    (w w' : World State) : Prop where
  claim_pos : 0 < a
  price_pos : 0 < p
  computed : ∃ msg, lenderUnits msg a p t.units = .ok share
  exact : SplitExact a p t.units share (t.units - share)
  moved : ∀ token x, w'.tokens.balance token x
    = ((w.tokens.move t.asset env.self t.cashLender share).move t.asset
        env.self t.cashBorrower (t.units - share)).balance token x

theorem defaultClose_splits {keeper : Address} {id : Nat}
    (hs : TradesOk addr w.store)
    (h : defaultClose env keeper id w = .ok w') :
    ∃ t config guarded m share, w.store.trades.get id = some t
      ∧ w.store.assetConfig.get t.asset = some config
      ∧ env.guardedPrice config.priceGuard t.asset = .ok guarded
      ∧ evaluateMargin env t config = .ok (some m)
      ∧ w'.store.events = w.store.events
          ++ [.defaulted id share (t.units - share)]
      ∧ Splits env t m.exposure guarded.value share w w' := by
  obtain ⟨t, config, m, -, share, tokens, ht, -, -, -, -, hconfig, heval, -,
    hprice, hshare, hsplit, rfl⟩ := defaultClose_ok h
  obtain ⟨guarded, -, hguarded, -, hvalue, -⟩ := evaluateMargin_ok heval
  rw [hvalue] at hprice hshare
  have hok := hs.trade id t ht
  have hclaim := exposure_pos hok.cash_pos heval
  have hle := lenderUnits_ok hshare
  obtain ⟨-, -, hbal⟩ := splitCollateral_ok hle hsplit
  refine ⟨t, config, guarded, m, share, ht, hconfig, hguarded, heval, ?_,
    hclaim, hprice, ⟨_, hshare⟩,
    split_exact hclaim hprice hok.units_pos hshare, hbal⟩
  unfold publish writeBorrowerDue
  split <;> rfl

theorem defaultAtMaturity_splits {caller : Address} {id : Nat}
    (hs : TradesOk addr w.store)
    (h : defaultAtMaturity env caller id w = .ok w') :
    ∃ t config guarded start due share, w.store.trades.get id = some t
      ∧ w.store.assetConfig.get t.asset = some config
      ∧ env.guardedPrice config.priceGuard t.asset = .ok guarded
      ∧ t.settledAt = some start ∧ totalDue t start = .ok due
      ∧ w'.store.events = w.store.events
          ++ [.matDef id share (t.units - share)]
      ∧ Splits env t due guarded.value share w w' := by
  obtain ⟨t, config, guarded, start, due, share, tokens, -, ht, -, hstart,
    hdue, hconfig, hguarded, -, hprice, hshare, hsplit, rfl⟩ :=
    defaultAtMaturity_ok h
  have hok := hs.trade id t ht
  have hclaim : 0 < due := by
    have hfrom := (totalDue_ok.mp hdue).2.2.2
    have hprincipal := cashAmount_le_dueFrom (n := start) hok.cash_pos.le
    have hcash := hok.cash_pos
    omega
  have hle := lenderUnits_ok hshare
  obtain ⟨-, -, hbal⟩ := splitCollateral_ok hle hsplit
  exact ⟨t, config, guarded, start, due, share, ht, hconfig, hguarded,
    hstart, hdue, rfl, hclaim, hprice, ⟨_, hshare⟩,
    split_exact hclaim hprice hok.units_pos hshare, hbal⟩

/-- On every trade a run stores: both defaults split its collateral
exactly, at the price of the guard the trade's asset is configured with,
the lender's share grows with the claim and falls with the price, and
nothing is lost between the two. -/
theorem repo_default_split (addr : Address) (txs : List Tx) (id : Nat)
    (t : RepoTrade)
    (ht : ((machine addr).run (machine addr).init txs).store.trades.get id
      = some t) :
    let w := (machine addr).run (machine addr).init txs
    (∀ msg a p share, 0 < a → 0 < p →
      lenderUnits msg a p t.units = .ok share →
      SplitExact a p t.units share (t.units - share)
      ∧ ∀ a' p' share', a ≤ a' → 0 < p' → p' ≤ p →
        lenderUnits msg a' p' t.units = .ok share' → share ≤ share')
    ∧ (∀ (env : Env) keeper w',
        (machine addr).apply (.call env (.defaultClose keeper id)) w
          = .ok w' →
        ∃ config guarded m share,
          w.store.assetConfig.get t.asset = some config
          ∧ env.guardedPrice config.priceGuard t.asset = .ok guarded
          ∧ evaluateMargin (env.at addr) t config = .ok (some m)
          ∧ w'.store.events = w.store.events
              ++ [.defaulted id share (t.units - share)]
          ∧ Splits (env.at addr) t m.exposure guarded.value share w w')
    ∧ ∀ (env : Env) caller w',
        (machine addr).apply (.call env (.defaultAtMaturity caller id)) w
          = .ok w' →
        ∃ config guarded start due share,
          w.store.assetConfig.get t.asset = some config
          ∧ env.guardedPrice config.priceGuard t.asset = .ok guarded
          ∧ t.settledAt = some start ∧ totalDue t start = .ok due
          ∧ w'.store.events = w.store.events
              ++ [.matDef id share (t.units - share)]
          ∧ Splits (env.at addr) t due guarded.value share w w' := by
  intro w
  have hs : TradesOk addr w.store := tradesOk_run addr txs
  have hok := hs.trade id t ht
  have hsame : ∀ x, w.store.trades.get id = some x → x = t := by
    intro x hx
    injection hx.symm.trans ht
  refine ⟨?_, ?_, ?_⟩
  · intro msg a p share ha hp hshare
    refine ⟨split_exact ha hp hok.units_pos hshare, ?_⟩
    intro a' p' share' haa hp' hpp hshare'
    exact split_mono ha haa hp' hpp hshare hshare'
  · intro env keeper w' happ
    obtain ⟨x, config, guarded, m, share, hx, hconfig, hguarded, heval, hev,
      hsplit⟩ := defaultClose_splits hs happ
    obtain rfl := hsame x hx
    exact ⟨config, guarded, m, share, hconfig, hguarded, heval, hev, hsplit⟩
  · intro env caller w' happ
    obtain ⟨x, config, guarded, start, due, share, hx, hconfig, hguarded,
      hstart, hdue, hev, hsplit⟩ := defaultAtMaturity_splits hs happ
    obtain rfl := hsame x hx
    exact ⟨config, guarded, start, due, share, hconfig, hguarded, hstart,
      hdue, hev, hsplit⟩

/-- 100 lent at 10% for a year against 150 units, and called after
two. -/
def Demo.overdue : List Tx :=
  Demo.setup ++
    [.call (Demo.env 10 2) (.propose Demo.lender Demo.borrower Demo.asset
       150 100 1000 .term 31536010 (Vector.replicate 32 0)),
     .call (Demo.env 10 3) (.acceptAndSettle Demo.borrower 0),
     .call (Demo.env 63072010 4) (.callMargin ⟨1⟩ 0)]

/-- The trade that run leaves, closed on its margin call or defaulted at
its maturity a day later, at a price of 1.00: 120 units cover the exposure
and 110 the due, and the borrower gets the other 30 or 40. -/
theorem repo_default_split_demo :
    let w := (machine Demo.self).run (machine Demo.self).init Demo.overdue
    let late := Demo.env 63158410 5
    ∃ t closed matured, w.store.trades.get 0 = some t
      ∧ (machine Demo.self).apply (.call late (.defaultClose ⟨1⟩ 0)) w
        = .ok closed
      ∧ (machine Demo.self).apply
        (.call late (.defaultAtMaturity Demo.lender 0)) w = .ok matured
      ∧ (∃ a, Splits (late.at Demo.self) t a 10000000 120 w closed)
      ∧ ∃ a, Splits (late.at Demo.self) t a 10000000 110 w matured := by
  intro w late
  have hstored : (w.store.trades.get 0).isSome = true := by decide +kernel
  have hclosed : ((machine Demo.self).apply
      (.call late (.defaultClose ⟨1⟩ 0)) w).map
        (fun w' => w'.store.events.getLast?)
      = .ok (some (.defaulted 0 120 30)) := by decide +kernel
  have hmatured : ((machine Demo.self).apply
      (.call late (.defaultAtMaturity Demo.lender 0)) w).map
        (fun w' => w'.store.events.getLast?)
      = .ok (some (.matDef 0 110 40)) := by decide +kernel
  obtain ⟨t, ht⟩ := Option.isSome_iff_exists.mp hstored
  obtain ⟨closed, hclose, hlast⟩ := map_ok.mp hclosed
  obtain ⟨matured, hmature, hlast'⟩ := map_ok.mp hmatured
  obtain ⟨-, hcloses, hmatures⟩ :=
    repo_default_split Demo.self Demo.overdue 0 t ht
  obtain ⟨_, guarded, m, share, -, hguarded, -, hev, hsplit⟩ :=
    hcloses _ _ _ hclose
  obtain ⟨_, guarded', _, due, share', -, hguarded', -, -, hev', hsplit'⟩ :=
    hmatures _ _ _ hmature
  rw [hev, List.getLast?_concat] at hlast
  rw [hev', List.getLast?_concat] at hlast'
  injection hlast with hlast
  injection hlast with _ hshare
  injection hlast' with hlast'
  injection hlast' with _ hshare'
  injection hguarded with hguarded
  injection hguarded' with hguarded'
  subst hshare hshare' hguarded hguarded'
  exact ⟨t, closed, matured, ht, hclose, hmature, ⟨_, hsplit⟩, ⟨_, hsplit'⟩⟩

end Ballast.RepoDvp
