/-
What a committed `CreditLine` call did: one inversion lemma per entry
point, stating the guards that held and the storage and ledger it
left. Nothing downstream unfolds an entry point again.

The arithmetic checks (no `i128` overflow) are reported only where a
later proof reads them; every other conjunct of the guard is.

# Two summaries

The inversion lemmas are for proofs that care which entry point ran.
Most do not, and read one of two summaries instead. `LineEffect` says
what a call did to the record of one given line: nothing, or one of the
few changes a line can undergo, each with the guards that stood before
it. `CallEffect` says the same of the rest of the storage: the vault,
the configurations, the counter and the liquidation records. Each is
proved once by the cases of the entry point, and an invariant of the
later modules goes by the cases of the summary.

# The invariants of a single call

The last section has the facts that hold of every storage a contract can
reach and that cost nothing but one look at the summaries: line ids are
fresh, the stored thresholds are valid, and neither principal nor
accrued interest is ever negative.
-/
import Ballast.CreditLine.Basic

namespace Ballast.CreditLine

open Soroban

variable {env : Env} {w w' : World State} {s s' : State}

-- ============================================================ interest

/-- The interest formula itself, without the overflow checks. -/
def interestOf (l : Line) (now : Nat) : Int :=
  ((l.drawn * l.rateBps * ((now - l.lastAccrualTs : Nat) : Int)).tdiv
    secondsPerYear).tdiv bpsDenominator

/-- The interest of a read, when it does not overflow, is the formula. -/
theorem interestDelta_ok {l : Line} {now : Nat} {d : Int}
    (h : interestDelta l now = .ok d) : d = interestOf l now := by
  simp only [interestDelta, bind_ok, I128.mul_ok, pure_ok] at h
  obtain ⟨x, ⟨-, rfl⟩, y, ⟨-, rfl⟩, rfl⟩ := h
  rfl

/-- Interest never runs backwards on a non-negative principal. -/
theorem interestOf_mono {l : Line} {t t' : Nat} (hl : 0 ≤ l.drawn)
    (ht : t ≤ t') : interestOf l t ≤ interestOf l t' := by
  have hrate : 0 ≤ l.drawn * l.rateBps := by positivity
  apply tdiv_tdiv_mono _ _ (by decide) (by decide)
  · positivity
  · apply mul_le_mul_of_nonneg_left _ hrate
    omega

/-- Interest on a debt is not negative: the elapsed time is cut at zero. -/
theorem interestOf_nonneg {l : Line} {t : Nat} (hl : 0 ≤ l.drawn) :
    0 ≤ interestOf l t := by
  have hnum : 0 ≤ l.drawn * l.rateBps
      * ((t - l.lastAccrualTs : Nat) : Int) := by positivity
  apply Int.tdiv_nonneg _ (by decide)
  exact Int.tdiv_nonneg hnum (by decide)

/-- Hence a read never lowers what is owed. -/
theorem interestDelta_nonneg {l : Line} {now : Nat} {d : Int}
    (h : interestDelta l now = .ok d) (hl : 0 ≤ l.drawn) : 0 ≤ d := by
  rw [interestDelta_ok h]
  exact interestOf_nonneg hl

/-- The debt at a time is the principal, what has accrued, and what has
accrued since. -/
theorem debtAt_ok {l : Line} {now : Nat} {d : Int}
    (h : debtAt l now = .ok d) :
    d = l.drawn + l.accruedInterest + interestOf l now := by
  simp only [debtAt, bind_ok, I128.add_ok] at h
  obtain ⟨booked, ⟨-, rfl⟩, delta, hdelta, -, rfl⟩ := h
  rw [interestDelta_ok hdelta]

-- ============================================================= margin reads

/-- What a reading of the margin rests on: the configuration of the line's
asset, the guard's answer, the debt by then, the collateral at that price,
and the state that follows from the two. -/
theorem readLtv_ok {l : Line} {view : LtvView} {price : Int}
    (h : readLtv env s l = .ok (view, price)) :
    ∃ config guarded,
      s.assetConfig.get l.asset = some config
      ∧ env.guardedPrice config.priceGuard l.asset = .ok guarded
      ∧ price = guarded.value
      ∧ view.priceStatus = guarded.status
      ∧ debtAt l env.timestamp = .ok view.debt
      ∧ collateralValue l.pledgedUnits guarded.value config.haircutBps
          = .ok view.collateralValue
      ∧ ltvBps view.debt view.collateralValue = .ok view.ltvBps
      ∧ view.state = classify view.ltvBps config.thresholds := by
  simp only [readLtv, readAssetConfig, bind_ok, expect_ok, pure_ok,
    Prod.mk.injEq] at h
  obtain ⟨config, hconfig, guarded, hguarded, debt, hdebt, cv, hcv, bps,
    hbps, rfl, rfl⟩ := h
  exact ⟨config, guarded, hconfig, hguarded, rfl, rfl, hdebt, hcv, hbps,
    rfl⟩

/-- `compute_ltv` is the same reading without the price. -/
theorem computeLtv_ok {l : Line} {view : LtvView}
    (h : computeLtv env s l = .ok view) :
    ∃ price, readLtv env s l = .ok (view, price) := by
  simp only [computeLtv, bind_ok, pure_ok] at h
  obtain ⟨⟨v, price⟩, hv, rfl⟩ := h
  exact ⟨price, hv⟩

-- ======================================================= setup and sync

/-- The contract is set up once, and nothing but the roles is stored. -/
theorem initContract_ok {a p k pp r : Address}
    (h : initContract a p k pp r s = .ok s') :
    s.roles = none ∧ s' = { s with roles := some ⟨a, p, k, pp, r⟩ } := by
  simp only [initContract, bind_ok, ensure_ok, pure_ok, exists_const] at h
  exact ⟨h.1, h.2.symm⟩

/-- A configuration is stored if its thresholds are in order. -/
theorem configureAsset_ok {admin asset guard usdc : Address} {hc : Nat}
    {t : MarginThresholds}
    (h : configureAsset env admin asset guard usdc hc t s = .ok s') :
    t.validate = .ok ()
      ∧ s' = { s with
          assetConfig := s.assetConfig.set asset ⟨guard, usdc, hc, t⟩ } := by
  simp only [configureAsset, bind_ok, pure_ok] at h
  obtain ⟨-, -, ⟨⟩, ht, rfl⟩ := h
  exact ⟨ht, rfl⟩

/-- The admin names the vault, whatever was named before. -/
theorem setVault_ok {admin vault : Address}
    (h : setVault env admin vault s = .ok s') :
    s' = { s with vault := some vault } := by
  simp only [setVault, bind_ok, pure_ok] at h
  obtain ⟨-, -, rfl⟩ := h
  rfl

/-- A line is opened under the next id, with nothing funded or drawn, and
its lender has signed. -/
theorem openLine_ok {lender borrower asset : Address} {limit : Int}
    {rate cure id : Nat} {agreement : BytesN 32}
    (h : openLine env lender borrower asset limit rate cure agreement s
      = .ok (id, s')) :
    env.Grants lender ∧ 0 < limit ∧ id = s.nextLineId
      ∧ s' = writeLine { s with nextLineId := s.nextLineId + 1 }
          s.nextLineId
          (newLine env lender borrower asset limit rate cure agreement) := by
  simp only [openLine, bind_ok, ensure_ok, HostEnv.requireAuth_ok,
    U64.add_ok, pure_ok, exists_const, Prod.mk.injEq] at h
  obtain ⟨hauth, hlimit, next, ⟨-, rfl⟩, hid, rfl⟩ := h
  exact ⟨hauth, hlimit, hid.symm, rfl⟩

/-- The vault, and nobody else, reports the units pledged on a line. -/
theorem syncFromVault_ok {vault asset : Address} {line : Nat} {units : Int}
    (h : syncFromVault env vault line asset units s = .ok s') :
    ∃ l, env.Grants vault ∧ s.vault = some vault ∧ 0 ≤ units
      ∧ s.lines.get line = some l ∧ l.asset = asset
      ∧ s' = writeLine s line { l with pledgedUnits := units } := by
  simp only [syncFromVault, readLine, bind_ok, ensure_ok, expect_ok,
    HostEnv.requireAuth_ok, pure_ok, exists_const] at h
  obtain ⟨hauth, stored, hstored, rfl, hunits, l, hl, hasset, rfl⟩ := h
  exact ⟨l, hauth, hstored, hunits, hl, hasset, rfl⟩

/-- The keeper or the admin may write the same, for any line. -/
theorem syncCollateral_ok {caller : Address} {line : Nat} {units : Int}
    (h : syncCollateral env caller line units s = .ok s') :
    ∃ l, 0 ≤ units ∧ s.lines.get line = some l
      ∧ s' = writeLine s line { l with pledgedUnits := units } := by
  simp only [syncCollateral, readLine, bind_ok, ensure_ok, expect_ok,
    pure_ok, exists_const] at h
  obtain ⟨-, -, hunits, l, hl, rfl⟩ := h
  exact ⟨l, hunits, hl, rfl⟩

-- ================================================================= funds

/-- The lender pays in, and the line may lend that much more. -/
theorem fund_ok {lender : Address} {line : Nat} {amount : Int}
    (h : fund env lender line amount w = .ok w') :
    ∃ l config, env.Grants lender ∧ 0 < amount
      ∧ w.store.lines.get line = some l ∧ l.lender = lender
      ∧ l.status ≠ .closed
      ∧ w.store.assetConfig.get l.asset = some config
      ∧ I128.Fits (l.funded + amount)
      ∧ w' = ⟨w.tokens.move config.usdc lender env.self amount,
          writeLine w.store line { l with funded := l.funded + amount }⟩ := by
  simp only [fund, readLine, readAssetConfig, bind_ok, ensure_ok,
    expect_ok, HostEnv.requireAuth_ok, Ledger.transfer_ok, I128.add_ok,
    pure_ok, exists_const] at h
  obtain ⟨hauth, hamount, l, hl, hlender, hstatus, config, hconfig, tokens,
    ⟨-, -, -, rfl⟩, funded, ⟨hfits, rfl⟩, rfl⟩ := h
  exact ⟨l, config, hauth, hamount, hl, hlender, hstatus, hconfig, hfits,
    rfl⟩

/-- A draw, with all that it was checked against: the funds, the limit,
the guard's price and the margin after the draw. -/
theorem draw_ok {borrower recipient : Address} {line : Nat} {amount : Int}
    (h : draw env borrower line amount recipient w = .ok w') :
    ∃ l config guarded delta cv bps,
      env.Grants borrower ∧ 0 < amount
      ∧ w.store.lines.get line = some l ∧ l.borrower = borrower
      ∧ l.status = .opened
      ∧ interestDelta l env.timestamp = .ok delta
      ∧ amount ≤ l.funded - l.drawn ∧ l.drawn + amount ≤ l.limit
      ∧ w.store.assetConfig.get l.asset = some config
      ∧ env.guardedPrice config.priceGuard l.asset = .ok guarded
      ∧ guarded.status = .ok
      ∧ collateralValue l.pledgedUnits guarded.value config.haircutBps
          = .ok cv
      ∧ ltvBps (l.drawn + (l.accruedInterest + delta) + amount) cv = .ok bps
      ∧ classify bps config.thresholds = .healthy
      ∧ w' = ⟨w.tokens.move config.usdc env.self recipient amount,
          writeLine w.store line
            { l with
              accruedInterest := l.accruedInterest + delta
              lastAccrualTs := env.timestamp
              drawn := l.drawn + amount
              marginState := .healthy }⟩ := by
  simp only [draw, readLine, readAssetConfig, bind_ok, ensure_ok,
    expect_ok, HostEnv.requireAuth_ok, requireNotPaused_ok,
    Ledger.transfer_ok, I128.add_ok, I128.sub_ok, pure_ok,
    exists_const] at h
  obtain ⟨hauth, -, hamount, l, hl, hborrower, hstatus, delta, hdelta,
    accrued, ⟨-, rfl⟩, undrawn, ⟨-, rfl⟩, hundrawn, drawn, ⟨-, rfl⟩, hlimit,
    config, hconfig, guarded, hguarded, hok, cv, hcv, owed, ⟨-, rfl⟩, post,
    ⟨-, rfl⟩, bps, hbps, hhealthy, tokens, ⟨-, -, -, rfl⟩, rfl⟩ := h
  exact ⟨l, config, guarded, delta, cv, bps, hauth, hamount, hl, hborrower,
    hstatus, hdelta, hundrawn, hlimit, hconfig, hguarded, hok, hcv, hbps,
    hhealthy, by rw [hhealthy]⟩

/-- A repayment is cut to the debt, pays the interest first, and what it
pays leaves the payer's balance. -/
theorem repay_ok {payer : Address} {line : Nat} {amount applied : Int}
    (h : repay env payer line amount w = .ok (applied, w')) :
    ∃ l config delta payInterest,
      env.Grants payer ∧ 0 < amount
      ∧ w.store.lines.get line = some l
      ∧ w.store.assetConfig.get l.asset = some config
      ∧ interestDelta l env.timestamp = .ok delta
      ∧ 0 < l.accruedInterest + delta + l.drawn
      ∧ applied = min amount (l.accruedInterest + delta + l.drawn)
      ∧ payInterest = min applied (l.accruedInterest + delta)
      ∧ applied - payInterest ≤ l.drawn
      ∧ I128.Fits (readClaimable w.store line + payInterest)
      ∧ w' = ⟨w.tokens.move config.usdc payer env.self applied,
          writeLine (writeClaimable w.store line
              (readClaimable w.store line + payInterest)) line
            { l with
              accruedInterest := l.accruedInterest + delta - payInterest
              lastAccrualTs := env.timestamp
              drawn := l.drawn - (applied - payInterest) }⟩ := by
  simp only [repay, readLine, readAssetConfig, bind_ok, ensure_ok,
    expect_ok, HostEnv.requireAuth_ok, Ledger.transfer_ok, I128.add_ok,
    I128.sub_ok, pure_ok, exists_const, Prod.mk.injEq] at h
  obtain ⟨hauth, hamount, l, hl, delta, hdelta, accrued, ⟨-, rfl⟩, owed,
    ⟨-, rfl⟩, howed, left, ⟨-, rfl⟩, remaining, ⟨-, rfl⟩, claimable,
    ⟨hfits, rfl⟩, drawn, ⟨-, rfl⟩, rest, ⟨-, rfl⟩, hrest, config, hconfig,
    tokens, ⟨-, -, -, rfl⟩, rfl, rfl⟩ := h
  -- the bookkeeping assertion: nothing is left after interest and principal
  have hmin := eq_of_sub_eq_zero hrest
  refine ⟨l, config, delta, _, hauth, hamount, hl, hconfig, hdelta, howed,
    rfl, rfl, ?_, hfits, ?_⟩
  · rw [hmin]
    exact min_le_right _ _
  · rw [← hmin]

/-- The lender takes back what is not lent out. -/
theorem withdrawUndrawn_ok {lender : Address} {line : Nat} {amount : Int}
    (h : withdrawUndrawn env lender line amount w = .ok w') :
    ∃ l config, 0 < amount
      ∧ w.store.lines.get line = some l ∧ l.lender = lender
      ∧ amount ≤ l.funded - l.drawn
      ∧ w.store.assetConfig.get l.asset = some config
      ∧ I128.Fits (l.funded - amount)
      ∧ w' = ⟨w.tokens.move config.usdc env.self lender amount,
          writeLine w.store line { l with funded := l.funded - amount }⟩ := by
  simp only [withdrawUndrawn, readLine, readAssetConfig, bind_ok, ensure_ok,
    expect_ok, HostEnv.requireAuth_ok, Ledger.transfer_ok, I128.sub_ok,
    pure_ok, exists_const] at h
  obtain ⟨-, hamount, l, hl, hlender, undrawn, ⟨-, rfl⟩, hle, funded,
    ⟨hfits, rfl⟩, config, hconfig, tokens, ⟨-, -, -, rfl⟩, rfl⟩ := h
  exact ⟨l, config, hamount, hl, hlender, hle, hconfig, hfits, rfl⟩

/-- The lender takes interest that was paid, and the claim falls by it. -/
theorem withdrawInterest_ok {lender : Address} {line : Nat} {amount : Int}
    (h : withdrawInterest env lender line amount w = .ok w') :
    ∃ l config, 0 < amount
      ∧ w.store.lines.get line = some l ∧ l.lender = lender
      ∧ amount ≤ readClaimable w.store line
      ∧ w.store.assetConfig.get l.asset = some config
      ∧ I128.Fits (readClaimable w.store line - amount)
      ∧ w' = ⟨w.tokens.move config.usdc env.self lender amount,
          writeClaimable w.store line
            (readClaimable w.store line - amount)⟩ := by
  simp only [withdrawInterest, readLine, readAssetConfig, bind_ok,
    ensure_ok, expect_ok, HostEnv.requireAuth_ok, Ledger.transfer_ok,
    I128.sub_ok, pure_ok, exists_const] at h
  obtain ⟨-, hamount, l, hl, hlender, hle, left, ⟨hfits, rfl⟩, config,
    hconfig, tokens, ⟨-, -, -, rfl⟩, rfl⟩ := h
  exact ⟨l, config, hamount, hl, hlender, hle, hconfig, hfits, rfl⟩

-- ==================================================== the margin machine

/-- A poke writes down the margin state it read. -/
theorem poke_ok {line : Nat} {m : MarginState}
    (h : poke env line s = .ok (m, s')) :
    ∃ l view, s.lines.get line = some l
      ∧ computeLtv env s l = .ok view ∧ m = view.state
      ∧ s' = writeLine s line (pokeLine env l view) := by
  simp only [poke, readLine, bind_ok, expect_ok, pure_ok,
    Prod.mk.injEq] at h
  obtain ⟨l, hl, view, hview, rfl, rfl⟩ := h
  exact ⟨l, view, hl, hview, rfl, rfl⟩

/-- A liquidation needs a breach of an earlier ledger and a reading that
confirms it now; it freezes the record and the debt. -/
theorem liquidate_ok {keeper : Address} {line : Nat}
    {route : LiquidationRoute}
    (h : liquidate env keeper line route s = .ok s') :
    ∃ l breach view price,
      s.lines.get line = some l ∧ l.breachLedger = some breach
      ∧ breach < env.sequence ∧ l.status = .opened
      ∧ readLtv env s l = .ok (view, price)
      ∧ view.priceStatus = .ok ∧ view.state = .liquidation
      ∧ s' = writeLine (writeLiquidation s line
            { seizedUnits := l.pledgedUnits, price := price,
              debt := view.debt, closed := false, recovered := 0,
              surplus := 0, shortfall := 0 }) line
          { l with
            status := .liquidating
            marginState := .liquidation } := by
  simp only [liquidate, readLine, bind_ok, ensure_ok, expect_ok, pure_ok,
    exists_const] at h
  obtain ⟨-, -, l, hl, breach, hbreach, hseq, hstatus, ⟨view, price⟩, hview,
    hok, hliq, rfl⟩ := h
  exact ⟨l, breach, view, price, hl, hbreach, hseq, hstatus, hview, hok,
    hliq, rfl⟩

/-- The surplus leg moves USDC only from the lender to the borrower. -/
theorem paySurplus_ok {l : Line} {surplus : Int} {tokens : Ledger}
    (h : paySurplus env l surplus w = .ok tokens) :
    tokens = w.tokens ∨ ∃ usdc, 0 < surplus ∧
      tokens = w.tokens.move usdc l.lender l.borrower surplus := by
  unfold paySurplus at h
  split at h
  case isTrue hpos =>
    simp only [readAssetConfig, bind_ok, expect_ok,
      Ledger.transfer_ok] at h
    obtain ⟨config, -, -, -, -, rfl⟩ := h
    exact Or.inr ⟨config.usdc, hpos, rfl⟩
  case isFalse =>
    simp only [pure_ok] at h
    exact Or.inl h.symm

/-- Closing settles the record against the proceeds: the surplus goes to
the borrower, and the line ends with nothing drawn. -/
theorem closeLiquidated_ok {lender : Address} {line : Nat}
    (h : closeLiquidated env lender line w = .ok w') :
    ∃ l record recovered tokens,
      env.Grants lender
      ∧ w.store.lines.get line = some l ∧ l.lender = lender
      ∧ l.status = .liquidating
      ∧ w.store.liquidation.get line = some record
      ∧ collateralValue record.seizedUnits record.price 0 = .ok recovered
      ∧ paySurplus env l (max (recovered - record.debt) 0) w = .ok tokens
      ∧ I128.Fits (l.funded - l.drawn)
      ∧ w' = ⟨tokens, publish
          (writeLiquidation
            (writeLine w.store line (closedLine l (l.funded - l.drawn))) line
            { record with
              closed := true
              recovered := recovered
              surplus := max (recovered - record.debt) 0
              shortfall := max (record.debt - recovered) 0 })
          (.lineClosed line record.debt recovered
            (max (recovered - record.debt) 0)
            (max (record.debt - recovered) 0))⟩ := by
  simp only [closeLiquidated, readLine, readLiquidation, bind_ok, ensure_ok,
    expect_ok, HostEnv.requireAuth_ok, I128.sub_ok, pure_ok,
    exists_const] at h
  obtain ⟨hauth, l, hl, hlender, hstatus, record, hrecord, recovered,
    hrecovered, excess, ⟨-, rfl⟩, under, ⟨-, rfl⟩, tokens, htokens, funded,
    ⟨hfits, rfl⟩, rfl⟩ := h
  exact ⟨l, record, recovered, tokens, hauth, hl, hlender, hstatus, hrecord,
    hrecovered, htokens, hfits, rfl⟩

-- =================================================== what a call does

/-- A line just written is the line read back. -/
theorem eq_of_writeLine {line : Nat} {l x : Line}
    (h : (writeLine s line l).lines.get line = some x) : x = l := by
  have hl : (writeLine s line l).lines.get line = some l :=
    Store.get_set_self _ _ _
  rw [hl] at h
  injection h with h
  exact h.symm

/-- An entry point that only writes storage leaves every token where it
is. -/
theorem onStore_ok {r : Call State} :
    onStore w r = .ok w' ↔ r = .ok w'.store ∧ w'.tokens = w.tokens := by
  simp only [onStore, map_ok]
  constructor
  · intro h
    obtain ⟨s, hs, rfl⟩ := h
    exact ⟨hs, rfl⟩
  · intro h
    obtain ⟨hs, ht⟩ := h
    exact ⟨w'.store, hs, by rw [← ht]⟩

/-- What a committed call does to the stored line `id` it names: the
line before, the line after, and the guards that held. -/
inductive LineStep (env : Env) (s : State) (id : Nat) :
    Entry → Line → Line → Prop
  | fund {l : Line} {lender : Address} {amount : Int} :
      l.status ≠ .closed →
      LineStep env s id (.fund lender id amount) l
        { l with funded := l.funded + amount }
  | syncFromVault {l : Line} {vault asset : Address} {units : Int} :
      env.Grants vault → s.vault = some vault → l.asset = asset →
      0 ≤ units →
      LineStep env s id (.syncFromVault vault id asset units) l
        { l with pledgedUnits := units }
  | syncCollateral {l : Line} {caller : Address} {units : Int} :
      0 ≤ units →
      LineStep env s id (.syncCollateral caller id units) l
        { l with pledgedUnits := units }
  | draw {l : Line} {borrower recipient : Address} {amount delta : Int} :
      l.status = .opened → 0 < amount →
      interestDelta l env.timestamp = .ok delta →
      LineStep env s id (.draw borrower id amount recipient) l
        { l with
          accruedInterest := l.accruedInterest + delta
          lastAccrualTs := env.timestamp
          drawn := l.drawn + amount
          marginState := .healthy }
  | repay {l : Line} {payer : Address}
      {amount applied payInterest delta : Int} :
      0 < amount → interestDelta l env.timestamp = .ok delta →
      0 < l.accruedInterest + delta + l.drawn →
      applied = min amount (l.accruedInterest + delta + l.drawn) →
      payInterest = min applied (l.accruedInterest + delta) →
      applied - payInterest ≤ l.drawn →
      LineStep env s id (.repay payer id amount) l
        { l with
          accruedInterest := l.accruedInterest + delta - payInterest
          lastAccrualTs := env.timestamp
          drawn := l.drawn - (applied - payInterest) }
  | poke {l : Line} {view : LtvView} :
      computeLtv env s l = .ok view →
      LineStep env s id (.poke id) l (pokeLine env l view)
  | liquidate {l : Line} {keeper : Address} {route : LiquidationRoute}
      {breach : Nat} {view : LtvView} {price : Int} :
      l.breachLedger = some breach → breach < env.sequence →
      l.status = .opened → readLtv env s l = .ok (view, price) →
      view.priceStatus = .ok → view.state = .liquidation →
      LineStep env s id (.liquidate keeper id route) l
        { l with status := .liquidating, marginState := .liquidation }
  | closeLiquidated {l : Line} {lender : Address} :
      l.status = .liquidating →
      LineStep env s id (.closeLiquidated lender id) l
        (closedLine l (l.funded - l.drawn))
  | withdrawUndrawn {l : Line} {lender : Address} {amount : Int} :
      0 < amount → amount ≤ l.funded - l.drawn →
      LineStep env s id (.withdrawUndrawn lender id amount) l
        { l with funded := l.funded - amount }

/-- What a committed call does to the stored line `id`: nothing, open
it, or one `LineStep`. -/
inductive LineEffect (env : Env) (e : Entry) (s s' : State) (id : Nat) :
    Prop
  | same : s'.lines.get id = s.lines.get id → LineEffect env e s s' id
  | opened {lender borrower asset : Address} {limit : Int}
      {rate cure : Nat} {agreement : BytesN 32} :
      e = .openLine lender borrower asset limit rate cure agreement →
      id = s.nextLineId →
      s'.lines.get id = some (newLine env lender borrower asset limit rate
        cure agreement) → LineEffect env e s s' id
  | step {l l' : Line} : s.lines.get id = some l →
      s'.lines.get id = some l' → LineStep env s id e l l' →
      LineEffect env e s s' id

/-- A write of line `k` is seen at `id` only when `id = k`. -/
theorem LineEffect.of_write {e : Entry} {id k : Nat} {l l' : Line}
    (hl : s.lines.get k = some l) (hs : s'.lines = s.lines.set k l')
    (hstep : id = k → LineStep env s id e l l') :
    LineEffect env e s s' id := by
  by_cases hid : id = k
  · have hread : s.lines.get id = some l := by rw [hid, hl]
    have hwritten : s'.lines.get id = some l' := by
      rw [hs, hid, Store.get_set_self]
    exact .step hread hwritten (hstep hid)
  · refine .same ?_
    rw [hs, Store.get_set_ne _ _ hid]

/-- Whatever was called, the record of a line changed in one of the ways
of `LineEffect`. -/
theorem call_line {e : Entry} (h : call env e w = .ok w') (id : Nat) :
    LineEffect env e w.store w'.store id := by
  cases e with
  | initContract admin pauser keeper publisher risk =>
      obtain ⟨-, hs⟩ := initContract_ok (onStore_ok.mp h).1
      rw [hs]
      exact .same rfl
  | configureAsset admin asset guard usdc hc t =>
      obtain ⟨-, hs⟩ := configureAsset_ok (onStore_ok.mp h).1
      rw [hs]
      exact .same rfl
  | setVault admin vault =>
      rw [setVault_ok (onStore_ok.mp h).1]
      exact .same rfl
  | openLine lender borrower asset limit rate cure agreement =>
      obtain ⟨⟨n, s'⟩, h, hs⟩ := map_ok.mp (onStore_ok.mp h).1
      obtain ⟨-, -, -, rfl⟩ := openLine_ok h
      rw [← hs]
      by_cases hid : id = w.store.nextLineId
      · refine .opened rfl hid ?_
        rw [hid]
        exact Store.get_set_self _ _ _
      · exact .same (Store.get_set_ne _ _ hid)
  | fund lender line amount =>
      obtain ⟨l, config, -, -, hl, -, hopen, -, -, rfl⟩ := fund_ok h
      refine .of_write hl rfl ?_
      intro hid
      subst hid
      exact .fund hopen
  | syncFromVault vault line asset units =>
      obtain ⟨l, hauth, hvault, hunits, hl, hasset, hs⟩ :=
        syncFromVault_ok (onStore_ok.mp h).1
      refine .of_write hl (by rw [hs]; rfl) ?_
      intro hid
      subst hid
      exact .syncFromVault hauth hvault hasset hunits
  | syncCollateral caller line units =>
      obtain ⟨l, hunits, hl, hs⟩ :=
        syncCollateral_ok (onStore_ok.mp h).1
      refine .of_write hl (by rw [hs]; rfl) ?_
      intro hid
      subst hid
      exact .syncCollateral hunits
  | draw borrower line amount recipient =>
      obtain ⟨l, config, guarded, delta, cv, bps, -, hamount, hl, -, hopen,
        hdelta, -, -, -, -, -, -, -, -, rfl⟩ := draw_ok h
      refine .of_write hl rfl ?_
      intro hid
      subst hid
      exact .draw hopen hamount hdelta
  | repay payer line amount =>
      obtain ⟨⟨applied, w₁⟩, h, hs⟩ := map_ok.mp h
      obtain ⟨l, config, delta, payInterest, -, hamount, hl, -, hdelta, howed,
        happlied, hpay, hprincipal, -, rfl⟩ := repay_ok h
      refine .of_write hl (by rw [← hs]; rfl) ?_
      intro hid
      subst hid
      exact .repay hamount hdelta howed happlied hpay hprincipal
  | poke line =>
      obtain ⟨⟨m, s'⟩, h, hs⟩ := map_ok.mp (onStore_ok.mp h).1
      obtain ⟨l, view, hl, hview, -, rfl⟩ := poke_ok h
      refine .of_write hl (by rw [← hs]; rfl) ?_
      intro hid
      subst hid
      exact .poke hview
  | liquidate keeper line route =>
      obtain ⟨l, breach, view, price, hl, hbreach, hseq, hopen, hview, hok,
        hliq, hs⟩ := liquidate_ok (onStore_ok.mp h).1
      refine .of_write hl (by rw [hs]; rfl) ?_
      intro hid
      subst hid
      exact .liquidate hbreach hseq hopen hview hok hliq
  | closeLiquidated lender line =>
      obtain ⟨l, record, recovered, tokens, -, hl, -, hliq, -, -, -, -, rfl⟩ :=
        closeLiquidated_ok h
      refine .of_write hl rfl ?_
      intro hid
      subst hid
      exact .closeLiquidated hliq
  | withdrawUndrawn lender line amount =>
      obtain ⟨l, config, hamount, hl, -, hle, -, -, rfl⟩ :=
        withdrawUndrawn_ok h
      refine .of_write hl rfl ?_
      intro hid
      subst hid
      exact .withdrawUndrawn hamount hle
  | withdrawInterest lender line amount =>
      obtain ⟨l, config, -, -, -, -, -, -, rfl⟩ := withdrawInterest_ok h
      exact .same rfl

/-- A committed poke rewrites its line to match the view it read. -/
theorem call_poke {line : Nat} (h : call env (.poke line) w = .ok w') :
    ∃ l view, w.store.lines.get line = some l
      ∧ computeLtv env w.store l = .ok view
      ∧ w'.store.lines.get line = some (pokeLine env l view) := by
  obtain ⟨⟨m, s'⟩, h, hs⟩ := map_ok.mp (onStore_ok.mp h).1
  obtain ⟨l, view, hl, hview, -, rfl⟩ := poke_ok h
  refine ⟨l, view, hl, hview, ?_⟩
  rw [← hs]
  exact Store.get_set_self _ _ _

/-- Every other committed call keeps the flags of `line`, or clears
them. -/
theorem call_keeps_flags {e : Entry} {line : Nat}
    (h : call env e w = .ok w') (hp : e ≠ .poke line) :
    ∀ l', w'.store.lines.get line = some l' →
      (l'.breachLedger = none ∧ l'.unhealthySince = none)
      ∨ ∃ l, w.store.lines.get line = some l
        ∧ l'.breachLedger = l.breachLedger
        ∧ l'.unhealthySince = l.unhealthySince := by
  intro x hx
  cases call_line h line with
  | same hsame => exact Or.inr ⟨x, hsame ▸ hx, rfl, rfl⟩
  | opened _ _ hnew =>
      rw [hnew] at hx
      injection hx with hx
      subst hx
      exact Or.inl ⟨rfl, rfl⟩
  | step hl hl' hstep =>
      rw [hl'] at hx
      injection hx with hx
      subst hx
      cases hstep with
      | poke => exact absurd rfl hp
      | closeLiquidated => exact Or.inl ⟨rfl, rfl⟩
      | _ => exact Or.inr ⟨_, hl, rfl, rfl⟩

-- ============================================ the rest of the storage

/-- Line ids a call mints. -/
def Entry.minted : Entry → Nat
  | .openLine .. => 1
  | _ => 0

/-- What a committed call does to the storage beside the lines: each
part changes only under the entry point that owns it. -/
structure CallEffect (e : Entry) (s s' : State) : Prop where
  config : s'.assetConfig = s.assetConfig
    ∨ ∃ admin a guard usdc hc t, e = .configureAsset admin a guard usdc hc t
      ∧ t.validate = .ok ()
      ∧ s'.assetConfig = s.assetConfig.set a ⟨guard, usdc, hc, t⟩
  next : s'.nextLineId = s.nextLineId + e.minted
  vault : s'.vault = s.vault
    ∨ ∃ admin v, e = .setVault admin v ∧ s'.vault = some v
  record : s'.liquidation = s.liquidation
    ∨ ∃ line r, ((∃ k route, e = .liquidate k line route)
        ∨ ∃ a, e = .closeLiquidated a line)
      ∧ s'.liquidation = s.liquidation.set line r

/-- And the rest of the storage in one of the ways of `CallEffect`. -/
theorem call_store {e : Entry} (h : call env e w = .ok w') :
    CallEffect e w.store w'.store := by
  cases e with
  | initContract =>
      obtain ⟨-, hs⟩ := initContract_ok (onStore_ok.mp h).1
      rw [hs]
      exact ⟨.inl rfl, rfl, .inl rfl, .inl rfl⟩
  | configureAsset admin asset guard usdc hc t =>
      obtain ⟨ht, hs⟩ := configureAsset_ok (onStore_ok.mp h).1
      rw [hs]
      exact ⟨.inr ⟨admin, asset, guard, usdc, hc, t, rfl, ht, rfl⟩, rfl,
        .inl rfl, .inl rfl⟩
  | setVault admin vault =>
      rw [setVault_ok (onStore_ok.mp h).1]
      exact ⟨.inl rfl, rfl, .inr ⟨admin, vault, rfl, rfl⟩, .inl rfl⟩
  | openLine =>
      obtain ⟨⟨n, s'⟩, h, hs⟩ := map_ok.mp (onStore_ok.mp h).1
      obtain ⟨-, -, -, rfl⟩ := openLine_ok h
      rw [← hs]
      exact ⟨.inl rfl, rfl, .inl rfl, .inl rfl⟩
  | fund =>
      obtain ⟨l, config, -, -, -, -, -, -, -, rfl⟩ := fund_ok h
      exact ⟨.inl rfl, rfl, .inl rfl, .inl rfl⟩
  | syncFromVault =>
      obtain ⟨l, -, -, -, -, -, hs⟩ := syncFromVault_ok (onStore_ok.mp h).1
      rw [hs]
      exact ⟨.inl rfl, rfl, .inl rfl, .inl rfl⟩
  | syncCollateral =>
      obtain ⟨l, -, -, hs⟩ := syncCollateral_ok (onStore_ok.mp h).1
      rw [hs]
      exact ⟨.inl rfl, rfl, .inl rfl, .inl rfl⟩
  | draw =>
      obtain ⟨l, config, guarded, delta, cv, bps, -, -, -, -, -, -, -, -, -,
        -, -, -, -, -, rfl⟩ := draw_ok h
      exact ⟨.inl rfl, rfl, .inl rfl, .inl rfl⟩
  | repay =>
      obtain ⟨⟨applied, w₁⟩, hrepay, rfl⟩ := map_ok.mp h
      obtain ⟨l, config, delta, pay, -, -, -, -, -, -, -, -, -, -, rfl⟩ :=
        repay_ok hrepay
      exact ⟨.inl rfl, rfl, .inl rfl, .inl rfl⟩
  | poke =>
      obtain ⟨⟨m, s'⟩, h, hs⟩ := map_ok.mp (onStore_ok.mp h).1
      obtain ⟨l, view, -, -, -, rfl⟩ := poke_ok h
      rw [← hs]
      exact ⟨.inl rfl, rfl, .inl rfl, .inl rfl⟩
  | liquidate keeper line route =>
      obtain ⟨l, breach, view, price, -, -, -, -, -, -, -, hs⟩ :=
        liquidate_ok (onStore_ok.mp h).1
      rw [hs]
      exact ⟨.inl rfl, rfl, .inl rfl,
        .inr ⟨line, _, .inl ⟨keeper, route, rfl⟩, rfl⟩⟩
  | closeLiquidated lender line =>
      obtain ⟨l, record, recovered, tokens, -, -, -, -, -, -, -, -, rfl⟩ :=
        closeLiquidated_ok h
      exact ⟨.inl rfl, rfl, .inl rfl,
        .inr ⟨line, _, .inr ⟨lender, rfl⟩, rfl⟩⟩
  | withdrawUndrawn =>
      obtain ⟨l, config, -, -, -, -, -, -, rfl⟩ := withdrawUndrawn_ok h
      exact ⟨.inl rfl, rfl, .inl rfl, .inl rfl⟩
  | withdrawInterest =>
      obtain ⟨l, config, -, -, -, -, -, -, rfl⟩ := withdrawInterest_ok h
      exact ⟨.inl rfl, rfl, .inl rfl, .inl rfl⟩

/-- Only the line's own liquidation or close writes its record. -/
theorem call_keeps_record {e : Entry} {line : Nat}
    (h : call env e w = .ok w') (hliq : ∀ k r, e ≠ .liquidate k line r)
    (hclose : ∀ a, e ≠ .closeLiquidated a line) :
    w'.store.liquidation.get line = w.store.liquidation.get line := by
  rcases (call_store h).record with hsame | ⟨id, r, hentry, hset⟩
  · rw [hsame]
  · rw [hset]
    apply Store.get_set_ne
    intro hid
    subst hid
    rcases hentry with ⟨k, route, he⟩ | ⟨a, he⟩
    · exact hliq k route he
    · exact hclose a he

/-- No line is stored under an id not yet minted. -/
def FreshIds (s : State) : Prop :=
  ∀ id, s.nextLineId ≤ id → s.lines.get id = none

/-- No line is ever stored at or above the counter. -/
theorem FreshIds.call {e : Entry} (hs : FreshIds w.store)
    (h : call env e w = .ok w') : FreshIds w'.store := by
  intro id hid
  have hnext := (call_store h).next
  have hnone : w.store.lines.get id = none := hs id (by omega)
  cases call_line h id with
  | same hsame => rw [hsame, hnone]
  | opened he hnew _ =>
      rw [he] at hnext
      have hminted : w'.store.nextLineId = w.store.nextLineId + 1 := hnext
      omega
  | step hl _ _ =>
      rw [hnone] at hl
      cases hl

/-- Writing a line that is there leaves the ids fresh. -/
theorem FreshIds.writeLine {line : Nat} {l l' : Line} (hs : FreshIds s)
    (hl : s.lines.get line = some l) : FreshIds (writeLine s line l') := by
  intro id hid
  have hnone : s.lines.get id = none := hs id hid
  have hne : id ≠ line := by
    intro heq
    rw [heq, hl] at hnone
    cases hnone
  exact (Store.get_set_ne _ _ hne).trans hnone

/-- Every stored asset configuration passed its validation. -/
def ValidConfigs (s : State) : Prop :=
  ∀ a c, s.assetConfig.get a = some c → c.thresholds.validate = .ok ()

/-- Only thresholds in order are ever stored. -/
theorem ValidConfigs.call {e : Entry} (hs : ValidConfigs w.store)
    (h : call env e w = .ok w') : ValidConfigs w'.store := by
  intro a c hc
  rcases (call_store h).config with hsame | ⟨_, b, guard, usdc, hcut, t, -,
    ht, hset⟩
  · rw [hsame] at hc
    exact hs a c hc
  · rw [hset, Store.get_set] at hc
    split at hc
    · injection hc with hc
      rw [← hc]
      exact ht
    · exact hs a c hc

/-- The line stored under `line` owes no negative amount. -/
def NonnegDebt (s : State) (line : Nat) : Prop :=
  ∀ l, s.lines.get line = some l → 0 ≤ l.drawn ∧ 0 ≤ l.accruedInterest

/-- Principal and accrued interest of a line stay at or above zero. -/
theorem NonnegDebt.call {e : Entry} {line : Nat}
    (hs : NonnegDebt w.store line) (h : call env e w = .ok w') :
    NonnegDebt w'.store line := by
  intro x hx
  cases call_line h line with
  | same hsame => exact hs x (hsame ▸ hx)
  | opened _ _ hnew =>
      rw [hnew] at hx
      injection hx with hx
      subst hx
      exact ⟨le_rfl, le_rfl⟩
  | @step l l' hl hl' hstep =>
      rw [hl'] at hx
      injection hx with hx
      subst hx
      obtain ⟨hdrawn, haccrued⟩ := hs _ hl
      cases hstep with
      | @draw _ _ _ amount delta _ hamount hdelta =>
          have hd := interestDelta_nonneg hdelta hdrawn
          constructor
          · show 0 ≤ l.drawn + amount
            omega
          · show 0 ≤ l.accruedInterest + delta
            omega
      | @repay _ _ amount applied pay delta _ _ _ _ hpay hprincipal =>
          constructor
          · show 0 ≤ l.drawn - (applied - pay)
            omega
          · show 0 ≤ l.accruedInterest + delta - pay
            omega
      | closeLiquidated => exact ⟨le_rfl, le_rfl⟩
      | _ => exact ⟨hdrawn, haccrued⟩

/-- A line is `Liquidating` after a call other than its own liquidation
only if it already was. -/
theorem call_was_liquidating {e : Entry} {line : Nat} {l' : Line}
    (h : call env e w = .ok w') (hliq : ∀ k r, e ≠ .liquidate k line r)
    (hl' : w'.store.lines.get line = some l')
    (hst : l'.status = .liquidating) :
    ∃ l, w.store.lines.get line = some l ∧ l.status = .liquidating
      ∧ l'.asset = l.asset := by
  cases call_line h line with
  | same hsame => exact ⟨l', hsame ▸ hl', hst, rfl⟩
  | opened _ _ hnew =>
      rw [hnew] at hl'
      injection hl' with hl'
      subst hl'
      cases hst
  | step hl hx hstep =>
      rw [hx] at hl'
      injection hl' with hl'
      subst hl'
      cases hstep with
      | liquidate => exact absurd rfl (hliq _ _)
      | closeLiquidated => cases hst
      | _ => exact ⟨_, hl, hst, rfl⟩

end Ballast.CreditLine
