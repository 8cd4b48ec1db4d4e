/-
What a margin call asks for, and what a top-up has to bring.

`callMargin` floors the collateral value at which the LTV is the
margin-call threshold and asks for the difference; a position at the
threshold is still in the band, because `classify` is not strict there.
So meeting the figure exactly never cures: bringing anything above it
always does (`cured_iff`), and the figure itself is never negative
(`callGap_nonneg`).

The thresholds behind both are the ones `configureAsset` validated, in
every state of a run (`validConfigs_run`).

# The rounding

The demanded figure is rounded down and the test it has to pass is
strict, so the figure itself leaves the position inside the band by a
hair, and anything above it takes it out.
-/
import Ballast.RepoDvp.Proofs.Cure
import Ballast.Common.Margin

namespace Ballast.RepoDvp

open Soroban

variable {addr : Address} {env env₂ : Env} {w w' : World State}
  {s s' : State} {t t' : RepoTrade} {config : RepoAssetConfig}
  {m : Margin}

-- ======================================================== configurations

/-- Every configured asset's thresholds passed their validation. -/
def ValidConfigs (s : State) : Prop :=
  ∀ a c, s.assetConfig.get a = some c → c.thresholds.validate = .ok ()

/-- Only `configure_asset` writes a configuration, and only one whose
thresholds passed validation. -/
theorem call_config {e : Entry} (h : call env e w = .ok w') :
    w'.store.assetConfig = w.store.assetConfig
      ∨ ∃ asset c, c.thresholds.validate = .ok ()
        ∧ w'.store.assetConfig = w.store.assetConfig.set asset c := by
  cases e with
  | propose =>
      obtain ⟨⟨id, w₁⟩, h, hw'⟩ := map_ok.mp h
      obtain ⟨usdc, -, -, -, -, -, rfl⟩ := propose_ok h
      exact .inl (by rw [← hw']; rfl)
  | cancelProposal =>
      obtain ⟨t, tokens, -, -, -, -, rfl⟩ := cancelProposal_ok h
      exact .inl rfl
  | acceptAndSettle =>
      obtain ⟨t, usdc, tokens₁, tokens₂, -, -, -, -, -, -, -, -, -,
        -, rfl⟩ := acceptAndSettle_ok h
      exact .inl (assetConfig_writeBorrowerDue _ _ _)
  | unwind =>
      obtain ⟨t, usdc, start, tokens, -, -, -, -, -, -, -, rfl⟩ :=
        unwind_ok h
      exact .inl (assetConfig_writeBorrowerDue _ _ _)
  | callMargin =>
      obtain ⟨h, -⟩ := onStore_ok.mp h
      obtain ⟨t, -, -, hsame | ⟨t', ev, -, hs⟩⟩ := callMargin_marginOnly h
      · exact .inl (by rw [hsame])
      · exact .inl (by rw [hs]; rfl)
  | topUp =>
      obtain ⟨t, t', cured, -, -, -, -, -, -, rfl⟩ := topUp_ok h
      exact .inl rfl
  | defaultClose =>
      obtain ⟨t, _, _, _, share, tokens, -, -, -, -, -, -, -, -, -, -, -,
        rfl⟩ := defaultClose_ok h
      exact .inl (assetConfig_writeBorrowerDue _ _ _)
  | defaultAtMaturity =>
      obtain ⟨t, _, _, _, _, share, tokens, -, -, -, -, -, -, -, -, -, -, -,
        rfl⟩ := defaultAtMaturity_ok h
      exact .inl rfl
  | _ => exact (setup_frame rfl h).configs

theorem validConfigs_step {tx : Tx} (hs : ValidConfigs w.store)
    (h : (machine addr).apply tx w = .ok w') : ValidConfigs w'.store := by
  cases tx with
  | outside tokens =>
      injection h with h
      rw [← h]
      exact hs
  | call env e =>
      intro a c hc
      rcases call_config (e := e) h with hsame | ⟨asset, c', hvalid, hset⟩
      · rw [hsame] at hc
        exact hs a c hc
      · rw [hset, Store.get_set] at hc
        split at hc
        · injection hc with hc
          rw [← hc]
          exact hvalid
        · exact hs a c hc

theorem validConfigs_run (addr : Address) (txs : List Tx) :
    ValidConfigs ((machine addr).run (machine addr).init txs).store := by
  refine Machine.run_induction (P := fun w : World State =>
    ValidConfigs w.store) ?_ ?_ (Machine.allowed_true _ txs)
  · intro w tx w' hs _ happ
    exact validConfigs_step hs happ
  · intro a c hc
    cases hc

-- ============================================================= the demand

/-- A position with something owed on it is in a margin call exactly
when the unrounded LTV has reached the threshold, whatever sign the
collateral's value has. -/
theorem unhealthy_iff {debt cv : Int} {thresholds : MarginThresholds}
    (hdebt : 0 < debt) (ht : thresholds.validate = .ok ()) :
    (classify (bpsOf debt cv) thresholds).isUnhealthy = true
      ↔ (thresholds.marginCallBps : Int) * cv ≤ debt * 10000 := by
  obtain ⟨-, -, hcall, hliq⟩ := MarginThresholds.validate_ok.mp ht
  have hbad : (classify (bpsOf debt cv) thresholds).isUnhealthy = true
      ↔ thresholds.marginCallBps ≤ bpsOf debt cv := by
    unfold classify
    split_ifs <;> simp only [MarginState.isUnhealthy, true_iff,
      Bool.false_eq_true, false_iff] <;> omega
  rw [hbad]
  by_cases hcv : 0 ≤ cv
  · exact le_bpsOf hdebt hcv (by omega)
  · have hmax : bpsOf debt cv = u32Max := by
      unfold bpsOf
      rw [if_neg (by omega), if_pos (by omega)]
    have hu32 : u32Max = 4294967295 := by decide
    have hneg : (thresholds.marginCallBps : Int) * cv ≤ 0 :=
      mul_nonpos_of_nonneg_of_nonpos (by omega) (by omega)
    constructor
    · intro _
      omega
    · intro _
      omega

/-- The same of an evaluation, through the floor of the figure asked
for: more than the target is above the threshold, the target itself is
not. -/
theorem demand_lt_iff (hcash : 0 < t.cashAmount)
    (hvalid : config.thresholds.validate = .ok ())
    (heval : evaluateMargin env t config = .ok (some m)) (extra : Int) :
    m.exposure * 10000
        < config.thresholds.marginCallBps * (m.collateralValue + extra)
      ↔ callGap m config.thresholds < extra := by
  obtain ⟨hwarn, hwarnCall, -, -⟩ := MarginThresholds.validate_ok.mp hvalid
  have hclaim := exposure_pos hcash heval
  have hcall : (0 : Int) < config.thresholds.marginCallBps := by omega
  have hnum : 0 ≤ m.exposure * bpsDenominator := by
    unfold bpsDenominator
    omega
  unfold callGap
  rw [Int.tdiv_eq_ediv_of_nonneg hnum, sub_lt_iff_lt_add,
    Int.ediv_lt_iff_lt_mul hcall, add_comm extra,
    mul_comm _ (config.thresholds.marginCallBps : Int)]
  rfl

/-- An evaluation finds a margin call exactly from the threshold on. -/
theorem evaluated_unhealthy_iff (hcash : 0 < t.cashAmount)
    (hvalid : config.thresholds.validate = .ok ())
    (heval : evaluateMargin env t config = .ok (some m)) :
    m.state.isUnhealthy = true
      ↔ (config.thresholds.marginCallBps : Int) * m.collateralValue
          ≤ m.exposure * 10000 := by
  obtain ⟨guarded, bps, -, -, -, -, -, hbps, hstate⟩ := evaluateMargin_ok heval
  rw [hstate, ltvBps_eq hbps]
  exact unhealthy_iff (exposure_pos hcash heval) hvalid

/-- An unhealthy evaluation never asks for less than nothing. -/
theorem callGap_nonneg (hcash : 0 < t.cashAmount)
    (hvalid : config.thresholds.validate = .ok ())
    (heval : evaluateMargin env t config = .ok (some m))
    (hbad : m.state.isUnhealthy = true) :
    0 ≤ callGap m config.thresholds := by
  have hreached := (evaluated_unhealthy_iff hcash hvalid heval).mp hbad
  have hiff := demand_lt_iff hcash hvalid heval 0
  rw [add_zero] at hiff
  omega

-- =============================================================== the cure

/-- `env₂` is a call at the ledger time of `env`, to whom the guard
answers the same for the trade's asset. -/
structure SameMoment (config : RepoAssetConfig) (t : RepoTrade)
    (env env₂ : Env) : Prop where
  time : env₂.timestamp = env.timestamp
  price : env₂.guardedPrice config.priceGuard t.asset
    = env.guardedPrice config.priceGuard t.asset

/-- The trade again, with more units, at the same moment: nothing but
the collateral has moved. -/
theorem evaluate_again {t₂ : RepoTrade} {evaluated : Option Margin}
    {extra : Int} (hmoment : SameMoment config t env env₂)
    (hmargin : MarginOnly { t with units := t.units + extra } t₂)
    (heval : evaluateMargin env t config = .ok (some m))
    (heval₂ : evaluateMargin env₂ t₂ config = .ok evaluated) :
    ∃ m₂, evaluated = some m₂ ∧ m₂.exposure = m.exposure
      ∧ collateralValue (t.units + extra) m.price config.haircutBps
          = .ok m₂.collateralValue := by
  obtain ⟨guarded, bps, hguarded, husable, hprice, -, hexposure, -⟩ :=
    evaluateMargin_ok heval
  have hguarded₂ : env₂.guardedPrice config.priceGuard t₂.asset
      = .ok guarded := by
    rw [hmargin.asset]
    exact hmoment.price.trans hguarded
  cases evaluated with
  | none =>
      have hnot := evaluateMargin_none heval₂ hguarded₂
      simp [GuardedPrice.isUsableForNewRisk, hnot] at husable
  | some m₂ =>
      obtain ⟨guarded', bps', hguarded', -, hprice', hcv, hexposure', -⟩ :=
        evaluateMargin_ok heval₂
      have hsame : guarded' = guarded := by
        injection hguarded'.symm.trans hguarded₂
      refine ⟨m₂, rfl, ?_, ?_⟩
      · rw [hexposure', hexposure, hmargin.cashAmount, hmargin.rateBps,
          hmargin.settledAt, hmoment.time]
      · rw [hprice', hsame, ← hprice, hmargin.units] at hcv
        exact hcv

/-- And it is found in a margin call unless its value rose by more than
was asked for. -/
theorem topped_unhealthy_iff {t₂ : RepoTrade} {evaluated : Option Margin}
    {extra : Int} (hcash : 0 < t.cashAmount)
    (hvalid : config.thresholds.validate = .ok ())
    (hmoment : SameMoment config t env env₂)
    (hmargin : MarginOnly { t with units := t.units + extra } t₂)
    (heval : evaluateMargin env t config = .ok (some m))
    (heval₂ : evaluateMargin env₂ t₂ config = .ok evaluated) :
    ∃ m₂, evaluated = some m₂
      ∧ collateralValue (t.units + extra) m.price config.haircutBps
          = .ok m₂.collateralValue
      ∧ (m₂.state.isUnhealthy = true ↔ m₂.collateralValue - m.collateralValue
          ≤ callGap m config.thresholds) := by
  obtain ⟨m₂, rfl, hexposure, hcv⟩ :=
    evaluate_again hmoment hmargin heval heval₂
  have hreached := evaluated_unhealthy_iff
    (hcash.trans_eq hmargin.cashAmount.symm) hvalid heval₂
  have hiff := demand_lt_iff hcash hvalid heval
    (m₂.collateralValue - m.collateralValue)
  rw [add_sub_cancel, ← hexposure] at hiff
  refine ⟨m₂, rfl, hcv, ?_⟩
  rw [hreached]
  constructor
  · intro hle
    by_contra hlt
    exact absurd (hiff.mpr (not_le.mp hlt)) (not_lt.mpr hle)
  · intro hle
    by_contra hlt
    exact absurd (hiff.mp (not_le.mp hlt)) (not_lt.mpr hle)

/-- Topped up at the moment of the call, the trade is cured exactly when
its value rose by more than was asked for. -/
theorem topUp_cures_iff {id : Nat} {t₁ : RepoTrade} {borrower : Address}
    {extra : Int} (hcash : 0 < t.cashAmount)
    (hvalid : config.thresholds.validate = .ok ())
    (heval : evaluateMargin env t config = .ok (some m))
    (hmargin : MarginOnly t t₁) (hopen : t₁.pendingMarginCall = true)
    (hid : t₁.id = id) (hmoment : SameMoment config t env env₂)
    (ht₁ : w.store.trades.get id = some t₁)
    (hconfig : w.store.assetConfig.get t.asset = some config)
    (h : topUp env₂ borrower id extra w = .ok w') :
    ∃ cv t₂, collateralValue (t.units + extra) m.price config.haircutBps
        = .ok cv
      ∧ w'.store.trades.get id = some t₂
      ∧ (t₂.pendingMarginCall = false
          ↔ callGap m config.thresholds < cv - m.collateralValue) := by
  obtain ⟨x, t₂, cured, -, -, hx, -, -, hcure, rfl⟩ := topUp_ok h
  rw [ht₁] at hx
  injection hx with hx
  subst hx
  have hmore : MarginOnly { t with units := t.units + extra }
      { t₁ with units := t₁.units + extra } := by
    refine ⟨hmargin.id, hmargin.cashLender, hmargin.cashBorrower,
      hmargin.asset, ?_, hmargin.cashAmount, hmargin.rateBps,
      hmargin.maturityAt, hmargin.proposedAt, hmargin.status,
      hmargin.settledAt⟩
    show t₁.units + extra = t.units + extra
    rw [hmargin.units]
  have hstored : (publish (writeTrade w.store t₂)
      (.topup id extra cured)).trades.get id = some t₂ := by
    show (w.store.trades.set t₂.id t₂).get id = some t₂
    have hsame : t₂.id = t₁.id := (cureIfHealthy_marginOnly hcure).id
    rw [hsame, hid, Store.get_set, if_pos rfl]
  have hconfig₁ : ∀ c, w.store.assetConfig.get t₁.asset = some c →
      c = config := by
    intro c hc
    rw [hmargin.asset, hconfig] at hc
    injection hc with hc
    exact hc.symm
  rcases cureIfHealthy_ok hcure with ⟨rfl, hstays⟩ | ⟨rfl, -, hcured⟩
  · obtain ⟨c, evaluated, hc, heval₂, hbad⟩ := hstays hopen
    obtain rfl := hconfig₁ c hc
    obtain ⟨m₂, hsome, hcv, hiff⟩ :=
      topped_unhealthy_iff hcash hvalid hmoment hmore heval heval₂
    refine ⟨m₂.collateralValue, _, hcv, hstored, ?_⟩
    have hle := hiff.mp (hbad m₂ hsome)
    show t₁.pendingMarginCall = false ↔ _
    rw [hopen]
    simp only [Bool.true_eq_false, false_iff]
    omega
  · obtain ⟨c, m₂, hc, heval₂, hgood⟩ := hcured
    obtain rfl := hconfig₁ c hc
    obtain ⟨_, hsome, hcv, hiff⟩ :=
      topped_unhealthy_iff hcash hvalid hmoment hmore heval heval₂
    injection hsome with hsome
    subst hsome
    refine ⟨m₂.collateralValue, _, hcv, hstored, ?_⟩
    rw [hgood] at hiff
    show false = false ↔ _
    simp only [Bool.false_eq_true, false_iff, true_iff] at hiff ⊢
    omega

/-- In any run: a call that recorded `amount` asked for the whole gap to
the threshold, which is not negative; and a top-up at the same moment
that brings at least `amount` clears it exactly when it brings
something else. -/
theorem margin_call_met_iff (addr : Address) (txs : List Tx) (id : Nat)
    (env : Env) (keeper : Address) (amount : Int) (w₁ : World State)
    (happ : (machine addr).apply (.call env (.callMargin keeper id))
      ((machine addr).run (machine addr).init txs) = .ok w₁)
    (hev : w₁.store.events
      = ((machine addr).run (machine addr).init txs).store.events
        ++ [.mcall id amount]) :
    let w := (machine addr).run (machine addr).init txs
    ∃ t config m t₁, w.store.trades.get id = some t
      ∧ w.store.assetConfig.get t.asset = some config
      ∧ evaluateMargin (env.at addr) t config = .ok (some m)
      ∧ 0 ≤ callGap m config.thresholds
      ∧ amount = callGap m config.thresholds
      ∧ w₁.store.trades.get id = some t₁
      ∧ t₁.marginCallAmount = amount ∧ t₁.pendingMarginCall = true
      ∧ ∀ (env₂ : Env) w₂ borrower extra w₃,
        SameMoment config t (env.at addr) (env₂.at addr) →
        w₂.store.trades.get id = some t₁ →
        w₂.store.assetConfig.get t.asset = some config →
        (machine addr).apply (.call env₂ (.topUp borrower id extra)) w₂
          = .ok w₃ →
        ∃ cv t₂, collateralValue (t.units + extra) m.price
            config.haircutBps = .ok cv
          ∧ w₃.store.trades.get id = some t₂
          ∧ ((amount ≤ cv - m.collateralValue →
                t₂.pendingMarginCall = false)
              ↔ cv - m.collateralValue ≠ amount) := by
  intro w
  have hs : TradesOk addr w.store := tradesOk_run addr txs
  have hvalid : ValidConfigs w.store := validConfigs_run addr txs
  obtain ⟨hcall, -⟩ := onStore_ok.mp happ
  obtain ⟨t, config, m, ht, -, hconfig, heval, hcase⟩ := callMargin_ok hcall
  have hcash := (hs.trade id t ht).cash_pos
  have hpassed := hvalid t.asset config hconfig
  -- only a call that is opened or refreshed publishes the figure
  rcases hcase with ⟨hbad, -, t₁, ht₁, hstore⟩ | ⟨-, -, hstore⟩
    | ⟨-, -, hstore⟩
  · have hgap := callGap_nonneg hcash hpassed heval hbad
    have hmax : max (callGap m config.thresholds) 0
        = callGap m config.thresholds := max_eq_left hgap
    rw [hmax] at ht₁ hstore
    have hamount : amount = callGap m config.thresholds := by
      rw [hstore] at hev
      have hlast := List.append_cancel_left hev
      injection hlast with hlast
      injection hlast with _ hlast
      exact hlast.symm
    have hmargin := calledTrade_ok ht₁
    have hid : t₁.id = id := hmargin.id.trans (hs.keyed id t ht)
    have hstored : w₁.store.trades.get id = some t₁ := by
      rw [hstore]
      show (w.store.trades.set t₁.id t₁).get id = some t₁
      rw [hid, Store.get_set, if_pos rfl]
    obtain ⟨hasked, hopen⟩ := calledTrade_pending ht₁
    refine ⟨t, config, m, t₁, ht, hconfig, heval, hgap, hamount, hstored,
      hasked.trans hamount.symm, hopen, ?_⟩
    intro env₂ w₂ borrower extra w₃ hmoment hw₂ hconfig₂ happ₂
    -- a top-up cures when it brings more than the figure, and only then
    obtain ⟨cv, t₂, hcv, ht₂, hcures⟩ := topUp_cures_iff hcash hpassed heval
      hmargin hopen hid hmoment hw₂ hconfig₂ happ₂
    refine ⟨cv, t₂, hcv, ht₂, ?_⟩
    rw [hcures, ← hamount]
    constructor
    · intro hmeets heq
      have hlt := hmeets heq.ge
      omega
    · intro hne hge
      omega
  · rw [hstore] at hev
    have hlast := List.append_cancel_left hev
    injection hlast with hlast
    cases hlast
  · rw [hstore] at hev
    have hlen := congrArg List.length hev
    simp at hlen

/-- 100 lent against 120 units, which is an LTV of 83%. -/
def Demo.thin : List Tx :=
  Demo.setup ++
    [.call (Demo.env 10 2) (.propose Demo.lender Demo.borrower Demo.asset
       120 100 0 .term 1000 (Vector.replicate 32 0)),
     .call (Demo.env 10 3) (.acceptAndSettle Demo.borrower 0)]

/-- The keeper's call on it. -/
def Demo.callThin : Tx := .call (Demo.env 20 4) (.callMargin ⟨1⟩ 0)

/-- It asks for five units' worth, and whatever is topped up in the same
ledger for more than that clears it. -/
theorem margin_call_met_demo :
    ∃ t₁, ((machine Demo.self).run (machine Demo.self).init
          (Demo.thin ++ [Demo.callThin])).store.trades.get 0 = some t₁
      ∧ t₁.marginCallAmount = 5 ∧ t₁.pendingMarginCall = true := by
  have happ : (machine Demo.self).apply Demo.callThin
      ((machine Demo.self).run (machine Demo.self).init Demo.thin)
      = .ok ((machine Demo.self).run (machine Demo.self).init
          (Demo.thin ++ [Demo.callThin])) :=
    Machine.apply_of_isOk (by decide +kernel)
  obtain ⟨t, config, m, t₁, -, -, -, -, -, ht₁, hamount, hopen, -⟩ :=
    margin_call_met_iff Demo.self Demo.thin 0 (Demo.env 20 4) ⟨1⟩ 5 _ happ
      (by decide +kernel)
  exact ⟨t₁, ht₁, hamount, hopen⟩

/-- A top-up of exactly what was asked for leaves the call open: the
value rose from 120 to 125 on a demand of five. -/
theorem exact_top_up_stays_called :
    let w := (machine Demo.self).run (machine Demo.self).init
      (Demo.thin ++ [Demo.callThin])
    let w' := (machine Demo.self).run (machine Demo.self).init
      (Demo.thin ++ [Demo.callThin,
        .call (Demo.env 20 5) (.topUp Demo.borrower 0 5)])
    (w.store.trades.get 0).map RepoTrade.marginCallAmount = some 5
    ∧ collateralValue 120 10000000 0 = .ok 120
    ∧ collateralValue (120 + 5) 10000000 0 = .ok 125
    ∧ w'.store.events.getLast? = some (.topup 0 5 false)
    ∧ (w'.store.trades.get 0).map RepoTrade.pendingMarginCall
        = some true := by
  decide +kernel

end Ballast.RepoDvp
