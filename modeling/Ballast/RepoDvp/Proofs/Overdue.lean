/-
What a default takes against what a repayment would have paid.

`unwind` moves the due over the fixed term (`dueFrom`), however late it
comes, and `defaultAtMaturity` values that same figure.
`defaultClose` values the exposure, whose interest runs to the moment of
the default: short of the due until maturity, past it from then on. The
difference is `lateInterest`, and it costs the borrower units exactly
when it outgrows what rounding the due up already left over (`slack`),
while the trade still holds more than the due is worth
(`share_within_iff`).

# Where the two defaults part

Until maturity nothing is late, and the close on a margin call never
takes more than the due. From maturity on it takes what the default at
maturity takes plus what has accrued since, as long as there are units
to take; the condition says when that difference is lost in rounding up
or in what the trade has left.
-/
import Ballast.RepoDvp.Proofs.Split

namespace Ballast.RepoDvp

open Soroban

variable {addr : Address} {env : Env} {w w' : World State} {t : RepoTrade}
  {config : RepoAssetConfig} {m : Margin} {msg msg' : String}

-- ========================================================= the condition

/-- What accrued from maturity to `now` on a trade settled at
`start`. -/
def lateInterest (t : RepoTrade) (start now : Nat) : Int :=
  interestOver t.cashAmount t.rateBps (now - start)
    - interestOver t.cashAmount t.rateBps (t.maturityAt - start)

/-- What rounding `a` up to whole units at `p` leaves over. -/
def slack (a p : Int) : Int := (-(a * priceScale)) % p

/-- `share` units are worth less at `p` than what `unwind` would have
moved and one unit more. -/
def WithinDue (t : RepoTrade) (start : Nat) (p share : Int) : Prop :=
  share * p < dueFrom t start * priceScale + p

/-- When a `defaultClose` at `now` takes no more than the due: it is not
late, or all there is to take is within the due, or what accrued since
maturity is lost in the rounding. -/
def ClosesWithinDue (t : RepoTrade) (start now : Nat) (p : Int) : Prop :=
  now ≤ t.maturityAt ∨ WithinDue t start p t.units
    ∨ lateInterest t start now * priceScale ≤ slack (dueFrom t start) p

-- =========================================================== the ceiling

theorem owedUnits_mul (a : Int) {p : Int} (hp : 0 < p) :
    owedUnits a p * p = a * priceScale + slack a p := by
  obtain ⟨henough, hless⟩ := ceil_bounds (x := a * priceScale) hp
  unfold slack owedUnits
  generalize (a * priceScale + (p - 1)) / p = q at *
  generalize a * priceScale = x at *
  rw [sub_mul] at hless
  have hneg : -x = q * p - x + p * -q := by
    rw [mul_neg, mul_comm p q]
    omega
  rw [hneg, Int.add_mul_emod_self_left,
    Int.emod_eq_of_lt (by omega) (by omega)]
  omega

theorem slack_nonneg (a : Int) {p : Int} (hp : 0 < p) : 0 ≤ slack a p :=
  Int.emod_nonneg _ hp.ne'

/-- Worth less than `a` and a unit is at most `a` rounded up. -/
theorem lt_due_iff (a n : Int) {p : Int} (hp : 0 < p) :
    n * p < a * priceScale + p ↔ n ≤ owedUnits a p := by
  obtain ⟨henough, hless⟩ := ceil_bounds (x := a * priceScale) hp
  unfold owedUnits
  generalize (a * priceScale + (p - 1)) / p = q at *
  rw [sub_mul] at hless
  constructor
  · intro hlt
    have hmul : n * p < (q + 1) * p := by
      rw [add_mul]
      omega
    have hle := lt_of_mul_lt_mul_right hmul hp.le
    omega
  · intro hle
    have hmul := mul_le_mul_of_nonneg_right hle hp.le
    omega

/-- Rounded up, `a` needs at most `n` units when `n` of them are worth
it. -/
theorem owedUnits_le_iff (a n : Int) {p : Int} (hp : 0 < p) :
    owedUnits a p ≤ n ↔ a * priceScale ≤ n * p := by
  obtain ⟨henough, hless⟩ := ceil_bounds (x := a * priceScale) hp
  unfold owedUnits
  generalize (a * priceScale + (p - 1)) / p = q at *
  constructor
  · intro hle
    have hmul := mul_le_mul_of_nonneg_right hle hp.le
    omega
  · intro hle
    have hmul : (q - 1) * p < n * p := by omega
    have hlt := lt_of_mul_lt_mul_right hmul hp.le
    omega

/-- A claim of `late` above the due: the share stays within the due
exactly when the cap or the rounding absorbs it. -/
theorem share_within_iff {start : Nat} {late p share : Int}
    (hclaim : 0 < dueFrom t start + late) (hp : 0 < p)
    (h : lenderUnits msg (dueFrom t start + late) p t.units = .ok share) :
    WithinDue t start p share ↔ WithinDue t start p t.units
      ∨ late * priceScale ≤ slack (dueFrom t start) p := by
  have hround := owedUnits_mul (dueFrom t start) hp
  unfold WithinDue
  rw [lt_due_iff _ _ hp, lt_due_iff _ _ hp, lenderUnits_eq hclaim hp h,
    min_le_iff, owedUnits_le_iff _ _ hp, hround, add_mul]
  constructor
  · rintro (hle | hle)
    · exact .inr (by omega)
    · exact .inl hle
  · rintro (hle | hle)
    · exact .inr hle
    · exact .inl (by omega)

-- ========================================================== the defaults

/-- The exposure is the due and what accrued since maturity. -/
theorem exposure_eq {start : Nat} (hstart : t.settledAt = some start)
    (h : evaluateMargin env t config = .ok (some m)) :
    m.exposure = dueFrom t start + lateInterest t start env.timestamp := by
  obtain ⟨-, -, -, -, -, -, hexposure, -⟩ := evaluateMargin_ok h
  rw [hstart, Option.getD_some] at hexposure
  unfold dueFrom lateInterest
  omega

/-- Nothing is late before maturity. -/
theorem lateInterest_nonpos {start now : Nat} (hcash : 0 ≤ t.cashAmount)
    (h : now ≤ t.maturityAt) : lateInterest t start now ≤ 0 := by
  have hmono := interestOver_mono t.rateBps hcash
    (show now - start ≤ t.maturityAt - start by omega)
  unfold lateInterest
  omega

theorem lateInterest_nonneg {start now : Nat} (hcash : 0 ≤ t.cashAmount)
    (h : t.maturityAt ≤ now) : 0 ≤ lateInterest t start now := by
  have hmono := interestOver_mono t.rateBps hcash
    (show t.maturityAt - start ≤ now - start by omega)
  unfold lateInterest
  omega

/-- So before maturity the condition holds by itself. -/
theorem closesWithinDue_iff {start now : Nat} {p : Int}
    (hcash : 0 ≤ t.cashAmount) (hp : 0 < p) :
    ClosesWithinDue t start now p ↔ WithinDue t start p t.units
      ∨ lateInterest t start now * priceScale
          ≤ slack (dueFrom t start) p := by
  refine ⟨?_, .inr⟩
  rintro (hearly | hwithin)
  · have hlate : lateInterest t start now ≤ 0 :=
      lateInterest_nonpos hcash hearly
    have hslack := slack_nonneg (dueFrom t start) hp
    refine .inr ?_
    unfold priceScale
    omega
  · exact hwithin

/-- Of two shares for one trade at one price, the due's and a later
claim's, the second is no larger once it is within the due. -/
theorem share_eq {start : Nat} {late p share share' : Int}
    (hcash : 0 < t.cashAmount) (hlate : 0 ≤ late) (hp : 0 < p)
    (hshare : lenderUnits msg (dueFrom t start + late) p t.units = .ok share)
    (hshare' : lenderUnits msg' (dueFrom t start) p t.units = .ok share')
    (hwithin : WithinDue t start p share) : share' = share := by
  have hdue : 0 < dueFrom t start :=
    hcash.trans_le (cashAmount_le_dueFrom hcash.le)
  have hle : share' ≤ share :=
    split_mono hdue (by omega) hp le_rfl hshare' hshare
  have hcap := lenderUnits_ok hshare
  have hdueCap : share ≤ owedUnits (dueFrom t start) p :=
    (lt_due_iff _ _ hp).mp hwithin
  have hge : share ≤ share' := by
    rw [lenderUnits_eq hdue hp hshare']
    exact le_min hdueCap hcap
  omega

/-- The default at maturity splits over the due. -/
theorem defaultAtMaturity_share {caller : Address} {id start : Nat}
    (ht : w.store.trades.get id = some t) (hstart : t.settledAt = some start)
    (h : defaultAtMaturity env caller id w = .ok w') :
    ∃ config guarded share, w.store.assetConfig.get t.asset = some config
      ∧ env.guardedPrice config.priceGuard t.asset = .ok guarded
      ∧ totalDue t start = .ok (dueFrom t start) ∧ 0 < guarded.value
      ∧ lenderUnits "repo-dvp: overflow valuing total due"
          (dueFrom t start) guarded.value t.units = .ok share
      ∧ w'.store.events = w.store.events
          ++ [.matDef id share (t.units - share)] := by
  obtain ⟨x, config, guarded, n, due, share, tokens, -, hx, -, hn, htotal,
    hconfig, hguarded, -, hp, hshare, -, rfl⟩ := defaultAtMaturity_ok h
  rw [ht] at hx
  injection hx with hx
  subst hx
  rw [hstart] at hn
  injection hn with hn
  subst hn
  have hfrom : dueFrom t start = due := (totalDue_ok.mp htotal).2.2.2
  subst hfrom
  exact ⟨config, guarded, share, hconfig, hguarded, htotal, hp, hshare, rfl⟩

/-- The default on a margin call splits over the due and what accrued
since maturity. -/
theorem defaultClose_share {keeper : Address} {id start : Nat}
    (ht : w.store.trades.get id = some t) (hstart : t.settledAt = some start)
    (h : defaultClose env keeper id w = .ok w') :
    ∃ config m share, w.store.assetConfig.get t.asset = some config
      ∧ evaluateMargin env t config = .ok (some m) ∧ 0 < m.price
      ∧ lenderUnits "repo-dvp: overflow valuing the exposure"
          (dueFrom t start + lateInterest t start env.timestamp) m.price
          t.units = .ok share
      ∧ w'.store.events = w.store.events
          ++ [.defaulted id share (t.units - share)] := by
  obtain ⟨x, config, m, deadline, share, tokens, hx, -, -, -, -, hconfig,
    heval, -, hp, hshare, -, rfl⟩ := defaultClose_ok h
  rw [ht] at hx
  injection hx with hx
  subst hx
  rw [exposure_eq hstart heval] at hshare
  refine ⟨config, m, share, hconfig, heval, hp, hshare, ?_⟩
  unfold publish writeBorrowerDue
  split <;> rfl

/-- On every settled trade of a run: `defaultAtMaturity` never takes
more than the due, and `defaultClose` stays within it, and takes from
maturity on what `defaultAtMaturity` takes at the same price, exactly
when it is not late, cannot take more, or its late interest is lost in
the rounding. -/
theorem defaults_within_due (addr : Address) (txs : List Tx) (id : Nat)
    (t : RepoTrade) (start : Nat)
    (ht : ((machine addr).run (machine addr).init txs).store.trades.get id
      = some t)
    (hstart : t.settledAt = some start) :
    let w := (machine addr).run (machine addr).init txs
    (∀ (env : Env) caller w',
        (machine addr).apply (.call env (.defaultAtMaturity caller id)) w
          = .ok w' →
        ∃ config guarded share,
          w.store.assetConfig.get t.asset = some config
          ∧ env.guardedPrice config.priceGuard t.asset = .ok guarded
          ∧ totalDue t start = .ok (dueFrom t start)
          ∧ w'.store.events = w.store.events
              ++ [.matDef id share (t.units - share)]
          ∧ WithinDue t start guarded.value share)
    ∧ ∀ (env : Env) keeper w',
        (machine addr).apply (.call env (.defaultClose keeper id)) w
          = .ok w' →
        ∃ config m share,
          w.store.assetConfig.get t.asset = some config
          ∧ evaluateMargin (env.at addr) t config = .ok (some m)
          ∧ w'.store.events = w.store.events
              ++ [.defaulted id share (t.units - share)]
          ∧ ((WithinDue t start m.price share
              ∧ (t.maturityAt ≤ env.timestamp →
                ∀ (env₂ : Env) caller w₂ guarded share₂,
                  (machine addr).apply
                    (.call env₂ (.defaultAtMaturity caller id)) w
                      = .ok w₂ →
                  env₂.guardedPrice config.priceGuard t.asset
                    = .ok guarded →
                  guarded.value = m.price →
                  w₂.store.events = w.store.events
                    ++ [.matDef id share₂ (t.units - share₂)] →
                  share₂ = share))
            ↔ ClosesWithinDue t start env.timestamp m.price) := by
  intro w
  have hok : TradeOk addr t := (tradesOk_run addr txs).trade id t ht
  have hcash := hok.cash_pos
  have hdue : 0 < dueFrom t start :=
    hcash.trans_le (cashAmount_le_dueFrom hcash.le)
  refine ⟨?_, ?_⟩
  · intro env caller w' happ
    obtain ⟨config, guarded, share, hconfig, hguarded, htotal, hp, hshare,
      hev⟩ := defaultAtMaturity_share ht hstart happ
    refine ⟨config, guarded, share, hconfig, hguarded, htotal, hev, ?_⟩
    -- the due itself is the claim with nothing late on top
    rw [← add_zero (dueFrom t start)] at hshare
    refine (share_within_iff (by omega) hp hshare).mpr (.inr ?_)
    rw [zero_mul]
    exact slack_nonneg _ hp
  · intro env keeper w' happ
    obtain ⟨config, m, share, hconfig, heval, hp, hshare, hev⟩ :=
      defaultClose_share ht hstart happ
    have hclaim := exposure_pos hcash heval
    rw [exposure_eq hstart heval] at hclaim
    have hwithin := share_within_iff hclaim hp hshare
    rw [← closesWithinDue_iff hcash.le hp] at hwithin
    refine ⟨config, m, share, hconfig, heval, hev,
      fun h => hwithin.mp h.1, fun h => ⟨hwithin.mpr h, ?_⟩⟩
    intro hlate env₂ caller w₂ guarded share₂ happ₂ hguarded hprice hev₂
    obtain ⟨config', guarded', share', hconfig', hguarded', -, -, hshare',
      hev'⟩ := defaultAtMaturity_share ht hstart happ₂
    rw [hconfig] at hconfig'
    injection hconfig' with hconfig'
    subst hconfig'
    have hsame : guarded' = guarded := by
      injection hguarded'.symm.trans hguarded
    rw [hsame, hprice] at hshare'
    have heq : share₂ = share' := by
      have hlast := List.append_cancel_left (hev₂.symm.trans hev')
      injection hlast with hlast
      injection hlast
    rw [heq]
    exact share_eq hcash (lateInterest_nonneg hcash.le hlate) hp hshare
      hshare' (hwithin.mpr h)

-- ======================================================== a late default

/-- The default at maturity of that trade stays within its due. -/
theorem defaults_within_due_demo :
    ∃ t, ((machine Demo.self).run (machine Demo.self).init
        Demo.overdue).store.trades.get 0 = some t
      ∧ t.settledAt = some 10
      ∧ ∀ w', (machine Demo.self).apply (.call (Demo.env 63158410 5)
            (.defaultAtMaturity Demo.lender 0))
          ((machine Demo.self).run (machine Demo.self).init Demo.overdue)
            = .ok w' →
        ∃ guarded share, w'.store.events.getLast?
            = some (.matDef 0 share (t.units - share))
          ∧ WithinDue t 10 guarded share := by
  have hstored : (((machine Demo.self).run (machine Demo.self).init
      Demo.overdue).store.trades.get 0).map RepoTrade.settledAt
        = some (some 10) := by
    decide +kernel
  obtain ⟨t, ht, hstart⟩ := Option.map_eq_some_iff.mp hstored
  refine ⟨t, ht, hstart, ?_⟩
  intro w' happ
  obtain ⟨-, guarded, share, -, -, -, hev, hwithin⟩ :=
    (defaults_within_due Demo.self Demo.overdue 0 t 10 ht hstart).1 _ _ _
      happ
  exact ⟨guarded.value, share, by rw [hev, List.getLast?_concat], hwithin⟩

/-- A year past maturity the due is still 110, which is what the default
at maturity takes; the default on the call takes 120. -/
theorem late_close_takes_more :
    let w := (machine Demo.self).run (machine Demo.self).init Demo.overdue
    ((machine Demo.self).apply
        (.call (Demo.env 63158410 5) (.defaultClose ⟨1⟩ 0)) w).map
          (fun w' => w'.store.events.getLast?)
        = .ok (some (.defaulted 0 120 30))
    ∧ ((machine Demo.self).apply
        (.call (Demo.env 63158410 5) (.defaultAtMaturity ⟨1⟩ 0)) w).map
          (fun w' => w'.store.events.getLast?)
        = .ok (some (.matDef 0 110 40))
    ∧ ∃ t, w.store.trades.get 0 = some t ∧ t.settledAt = some 10
        ∧ dueFrom t 10 = 110 ∧ ¬ WithinDue t 10 10000000 120 := by
  intro w
  refine ⟨by decide +kernel, by decide +kernel, ?_⟩
  have hstored : (w.store.trades.get 0).map (fun t =>
      (t.settledAt, dueFrom t 10)) = some (some 10, 110) := by
    decide +kernel
  obtain ⟨t, ht, hfacts⟩ := Option.map_eq_some_iff.mp hstored
  injection hfacts with hstart hdue
  refine ⟨t, ht, hstart, hdue, ?_⟩
  unfold WithinDue
  rw [hdue]
  decide

end Ballast.RepoDvp
