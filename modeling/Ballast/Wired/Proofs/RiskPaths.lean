/-
The risk arithmetic of the lending paths, and the one setting that can
make it abort.

`ltv`, `poke`, `draw`, `liquidate` and the vault's `release` all run
`collateral_value` and `ltv_bps`, which abort on three texts
(`riskTexts`): two are overflows, and one is a haircut over 100%. Both
contracts' `configure_asset` validate the margin thresholds and store
the haircut unread. So the paths keep clear of the three texts exactly
as long as no stored haircut is over 100% (`HaircutsSound`): under it
each path aborts only on a guard of its own, or because the price guard
did; above it the line's `ltv` aborts whatever else holds.

A path is read guard by guard with `AbortsOnly`; the two risk calls are
the steps that need an argument, and they get it from `Position.Fits`.
-/
import Ballast.Soroban.Aborts
import Ballast.Common.Margin
import Ballast.Wired.Proofs.Lending

namespace Ballast.Wired

open Soroban

-- ============================================================== the texts

/-- What `collateral_value` and `ltv_bps` abort with. -/
def riskTexts : List String :=
  ["haircut exceeds 100%", "collateral_value: overflow",
   "ltv_bps: overflow"]

/-- Not a text of the risk arithmetic, unless the price guard aborted
with it. -/
def NotRisk (env : Env) (e : String) : Prop :=
  e ∈ riskTexts → ∃ guard asset, env.guardedPrice guard asset = .error e

/-- A text that is none of the three. -/
theorem notRisk_of {env : Env} {e : String} (h : e ∉ riskTexts) :
    NotRisk env e :=
  fun hmem => absurd hmem h

/-- What the host aborts with is none of them. -/
theorem notRisk_host (env : Env) : HostTexts (NotRisk env) where
  auth := notRisk_of (by decide)
  add := notRisk_of (by decide)
  sub := notRisk_of (by decide)
  mul := notRisk_of (by decide)
  tokenAuth := notRisk_of (by decide)
  tokenNegative := notRisk_of (by decide)
  tokenBalance := notRisk_of (by decide)

/-- A price guard may abort with any text: it is excused. -/
theorem guardedPrice_notRisk (env : Env) (guard asset : Address) :
    AbortsOnly (NotRisk env) (env.guardedPrice guard asset) :=
  fun _ h _ => ⟨guard, asset, h⟩

/-- The risk arithmetic of a position that fits, at a haircut within
100%, does not abort. -/
theorem risk_notRisk {P : String → Prop} {p : Position}
    (hcut : p.haircutBps ≤ 10000) (h : p.Fits) :
    AbortsOnly P (collateralValue p.units p.price p.haircutBps)
      ∧ ∀ cv, AbortsOnly P (ltvBps p.debt cv) :=
  ⟨abortsOnly_ok (collateralValue_returns hcut h),
   fun cv => abortsOnly_ok (ltvBps_returns cv h.scaled)⟩

-- ============================================================ the domain

/-- The products of `l`'s own risk check fit, at its debt and `extra`
on top. -/
def LineFits (env : Env) (s : CreditLine.State) (l : CreditLine.Line)
    (extra : Int) : Prop :=
  ∀ config guarded, s.assetConfig.get l.asset = some config →
    env.guardedPrice config.priceGuard l.asset = .ok guarded →
    Position.Fits ⟨l.pledgedUnits, guarded.value, config.haircutBps,
      debtNow l env.timestamp + extra⟩

/-- It is enough to look at the one configuration and price there are. -/
theorem lineFits_of {env : Env} {s : CreditLine.State} {l : CreditLine.Line}
    {extra : Int} {config : CreditLine.AssetConfig} {guarded : GuardedPrice}
    (hcfg : s.assetConfig.get l.asset = some config)
    (hguarded : env.guardedPrice config.priceGuard l.asset = .ok guarded)
    (hfits : Position.Fits ⟨l.pledgedUnits, guarded.value, config.haircutBps,
      debtNow l env.timestamp + extra⟩) : LineFits env s l extra := by
  intro config' guarded' hcfg' hguarded'
  rw [hcfg] at hcfg'
  cases hcfg'
  rw [hguarded] at hguarded'
  cases hguarded'
  exact hfits

/-- The products of the vault's check of a release fit. -/
def ReleaseFits (env : Env) (w : State) (l : CreditLine.Line) (line : Nat)
    (asset : Address) (units : Int) : Prop :=
  ∀ config guarded, w.vault.assetConfig.get asset = some config →
    env.guardedPrice config.priceGuard asset = .ok guarded →
    Position.Fits ⟨held w line asset - units, guarded.value,
      config.haircutBps, debtNow l env.timestamp⟩

/-- Every stored haircut is within 100%. -/
structure HaircutsSound (w : State) : Prop where
  line : ∀ a c, w.creditLine.assetConfig.get a = some c →
    c.haircutBps ≤ 10000
  vault : ∀ a c, w.vault.assetConfig.get a = some c → c.haircutBps ≤ 10000

-- ======================================================= the credit line

section CreditLine

open CreditLine

variable {env : Env} {s : CreditLine.State} {l : Line} {line : Nat}

/-- What a credit-line path may abort on, guard by guard. -/
theorem readLine_notRisk (env : Env) (s : CreditLine.State) (line : Nat) :
    AbortsOnly (NotRisk env) (readLine s line) :=
  abortsOnly_expect.mpr fun _ => notRisk_of (by decide)

/-- A missing configuration is no risk text. -/
theorem readAssetConfig_notRisk (env : Env) (s : CreditLine.State)
    (asset : Address) : AbortsOnly (NotRisk env) (readAssetConfig s asset) :=
  abortsOnly_expect.mpr fun _ => notRisk_of (by decide)

/-- Nor is an overflow in the interest. -/
theorem interestDelta_notRisk (env : Env) (l : Line) (now : Nat) :
    AbortsOnly (NotRisk env) (interestDelta l now) := by
  have hhost := notRisk_host env
  simp only [interestDelta, abortsOnly_bind, abortsOnly_pure]
  exact ⟨hhost.i128_mul _ _, fun _ _ =>
    ⟨hhost.i128_mul _ _, fun _ _ => trivial⟩⟩

/-- Nor one in the debt. -/
theorem debtAt_notRisk (env : Env) (l : Line) (now : Nat) :
    AbortsOnly (NotRisk env) (debtAt l now) := by
  have hhost := notRisk_host env
  simp only [debtAt, abortsOnly_bind]
  exact ⟨hhost.i128_add _ _, fun _ _ =>
    ⟨interestDelta_notRisk env l now, fun _ _ => hhost.i128_add _ _⟩⟩

/-- Nor the refusal of a caller who is not the keeper. -/
theorem requireKeeper_notRisk (env : Env) (roles : Option Roles) :
    AbortsOnly (NotRisk env) (requireKeeper env.toHostEnv roles) := by
  simp only [requireKeeper, requireRole, readRoles, abortsOnly_bind,
    abortsOnly_expect, abortsOnly_pure]
  exact ⟨fun _ => notRisk_of (by decide), fun _ _ =>
    ⟨(notRisk_host env).requireAuth _ _, fun _ _ => trivial⟩⟩

/-- `read_ltv`, behind `ltv`, `poke` and `liquidate`. -/
theorem readLtv_notRisk
    (hcut : ∀ a c, s.assetConfig.get a = some c → c.haircutBps ≤ 10000)
    (hfits : LineFits env s l 0) :
    AbortsOnly (NotRisk env) (readLtv env s l) := by
  simp only [readLtv, abortsOnly_bind, abortsOnly_pure]
  refine ⟨readAssetConfig_notRisk env s l.asset, fun config hconfig =>
    ⟨guardedPrice_notRisk env _ _, fun guarded hguarded =>
    ⟨debtAt_notRisk env l _, fun debt hdebt => ?_⟩⟩⟩
  have hcfg := expect_ok.mp hconfig
  have hdebt : debt = debtNow l env.timestamp := debtAt_ok hdebt
  have hfit := hfits config guarded hcfg hguarded
  rw [add_zero, ← hdebt] at hfit
  obtain ⟨hcv, hbps⟩ := risk_notRisk (hcut _ _ hcfg) hfit
  exact ⟨hcv, fun cv _ => ⟨hbps cv, fun _ _ => trivial⟩⟩

/-- `compute_ltv` adds nothing that aborts. -/
theorem computeLtv_notRisk
    (hcut : ∀ a c, s.assetConfig.get a = some c → c.haircutBps ≤ 10000)
    (hfits : LineFits env s l 0) :
    AbortsOnly (NotRisk env) (computeLtv env s l) := by
  simp only [computeLtv, abortsOnly_bind, abortsOnly_pure]
  exact ⟨readLtv_notRisk hcut hfits, fun _ _ => trivial⟩

/-- The view of a line. -/
theorem ltv_notRisk
    (hcut : ∀ a c, s.assetConfig.get a = some c → c.haircutBps ≤ 10000)
    (hfits : ∀ l, s.lines.get line = some l → LineFits env s l 0) :
    AbortsOnly (NotRisk env) (CreditLine.ltv env line s) := by
  simp only [CreditLine.ltv, abortsOnly_bind]
  exact ⟨readLine_notRisk env s line, fun l hl =>
    computeLtv_notRisk hcut (hfits l (expect_ok.mp hl))⟩

/-- Its flag and its event come after the reading. -/
theorem poke_notRisk
    (hcut : ∀ a c, s.assetConfig.get a = some c → c.haircutBps ≤ 10000)
    (hfits : ∀ l, s.lines.get line = some l → LineFits env s l 0) :
    AbortsOnly (NotRisk env) (poke env line s) := by
  simp only [poke, abortsOnly_bind, abortsOnly_pure]
  exact ⟨readLine_notRisk env s line, fun l hl =>
    ⟨computeLtv_notRisk hcut (hfits l (expect_ok.mp hl)),
      fun _ _ => trivial⟩⟩

/-- A liquidation aborts on its own guards or in the reading. -/
theorem liquidate_notRisk
    (hcut : ∀ a c, s.assetConfig.get a = some c → c.haircutBps ≤ 10000)
    (hfits : ∀ l, s.lines.get line = some l → LineFits env s l 0)
    (keeper : Address) (route : LiquidationRoute) :
    AbortsOnly (NotRisk env) (liquidate env keeper line route s) := by
  simp only [liquidate, abortsOnly_bind, abortsOnly_pure, abortsOnly_ensure,
    abortsOnly_expect]
  exact ⟨requireKeeper_notRisk env s.roles, fun _ _ =>
    ⟨readLine_notRisk env s line, fun l hl =>
    ⟨fun _ => notRisk_of (by decide), fun _ _ =>
    ⟨fun _ => notRisk_of (by decide), fun _ _ =>
    ⟨fun _ => notRisk_of (by decide), fun _ _ =>
    ⟨readLtv_notRisk hcut (hfits l (expect_ok.mp hl)), fun _ _ =>
    ⟨fun _ => notRisk_of (by decide), fun _ _ =>
    ⟨fun _ => notRisk_of (by decide), fun _ _ => trivial⟩⟩⟩⟩⟩⟩⟩⟩

/-- A paused scope is no risk text either. -/
theorem requireNotPaused_notRisk (env : Env)
    (paused : Store PauseScope Bool) (scope : PauseScope) :
    AbortsOnly (NotRisk env) (requireNotPaused paused scope) :=
  abortsOnly_ensure.mpr fun _ => notRisk_of (by decide)

/-- A draw is judged at the debt it leads to. -/
theorem draw_notRisk {w : World CreditLine.State} {amount : Int}
    (hcut : ∀ a c, w.store.assetConfig.get a = some c →
      c.haircutBps ≤ 10000)
    (hfits : ∀ l, w.store.lines.get line = some l →
      LineFits env w.store l amount) (borrower recipient : Address) :
    AbortsOnly (NotRisk env)
      (draw env borrower line amount recipient w) := by
  have hhost := notRisk_host env
  simp only [draw, abortsOnly_bind, abortsOnly_pure, abortsOnly_ensure]
  refine ⟨hhost.requireAuth _ _, fun _ _ =>
    ⟨requireNotPaused_notRisk env _ _, fun _ _ =>
    ⟨fun _ => notRisk_of (by decide), fun _ _ =>
    ⟨readLine_notRisk env _ line, fun l hl =>
    ⟨fun _ => notRisk_of (by decide), fun _ _ =>
    ⟨fun _ => notRisk_of (by decide), fun _ _ =>
    ⟨interestDelta_notRisk env l _, fun delta hdelta =>
    ⟨hhost.i128_add _ _, fun accrued haccrued =>
    ⟨hhost.i128_sub _ _, fun _ _ =>
    ⟨fun _ => notRisk_of (by decide), fun _ _ =>
    ⟨hhost.i128_add _ _, fun _ _ =>
    ⟨fun _ => notRisk_of (by decide), fun _ _ =>
    ⟨readAssetConfig_notRisk env _ _, fun config hconfig =>
    ⟨guardedPrice_notRisk env _ _, fun guarded hguarded =>
    ⟨fun _ => notRisk_of (by decide), fun _ _ => ?_⟩⟩⟩⟩⟩⟩⟩⟩⟩⟩⟩⟩⟩⟩⟩
  have hcfg := expect_ok.mp hconfig
  have hfit := hfits l (expect_ok.mp hl) config guarded hcfg hguarded
  obtain ⟨hcv, hbps⟩ := risk_notRisk (hcut _ _ hcfg) hfit
  refine ⟨hcv, fun cv _ => ⟨hhost.i128_add _ _, fun owed howed =>
    ⟨hhost.i128_add _ _, fun post hpost => ⟨?_, fun _ _ =>
    ⟨fun _ => notRisk_of (by decide), fun _ _ =>
    ⟨hhost.transfer _ _ _ _ _ _, fun _ _ => trivial⟩⟩⟩⟩⟩⟩
  -- the debt the draw is judged at is the debt now and the amount
  have hfigure : post = debtNow l env.timestamp + amount := by
    obtain ⟨-, rfl⟩ := I128.add_ok.mp hpost
    obtain ⟨-, rfl⟩ := I128.add_ok.mp howed
    obtain ⟨-, rfl⟩ := I128.add_ok.mp haccrued
    rw [interestDelta_ok hdelta]
    unfold debtNow
    omega
  rw [hfigure]
  exact hbps cv

end CreditLine

-- ============================================================= the vault

section Vault

open PledgeVault

variable {env : Env} {w : World State} {d : Deployment} {line : Nat}

/-- A peer that cannot be reached aborts in its own words. -/
theorem reach_notRisk (env e : Env) :
    AbortsOnly (NotRisk env) (d.reach e) :=
  abortsOnly_ensure.mpr fun _ => notRisk_of (by decide)

/-- The vault's client to the line keeps clear of the texts when the
line does. -/
theorem lineLtv_notRisk
    (h : AbortsOnly (NotRisk env)
      (CreditLine.ltv env line w.store.creditLine))
    (callee : Address) :
    AbortsOnly (NotRisk env)
      (d.lineInterface.ltv (env.into callee) line w.store.creditLine) := by
  simp only [Deployment.lineInterface, abortsOnly_bind, abortsOnly_pure]
  exact ⟨reach_notRisk env _, fun _ _ => ⟨h, fun _ _ => trivial⟩⟩

/-- What the vault reports, the line takes without a price. -/
theorem syncFromVault_notRisk (e : Env) (vault asset : Address)
    (units : Int) (s : CreditLine.State) (line : Nat) :
    AbortsOnly (NotRisk env)
      (d.lineInterface.syncFromVault e vault line asset units s) := by
  simp only [Deployment.lineInterface, CreditLine.syncFromVault,
    CreditLine.readLine, abortsOnly_bind, abortsOnly_pure,
    abortsOnly_ensure, abortsOnly_expect]
  exact ⟨reach_notRisk env _, fun _ _ =>
    ⟨(notRisk_host env).requireAuth _ _, fun _ _ =>
    ⟨fun _ => notRisk_of (by decide), fun _ _ =>
    ⟨fun _ => notRisk_of (by decide), fun _ _ =>
    ⟨fun _ => notRisk_of (by decide), fun _ _ =>
    ⟨fun _ => notRisk_of (by decide), fun _ _ =>
    ⟨fun _ => notRisk_of (by decide), fun _ _ => trivial⟩⟩⟩⟩⟩⟩⟩

/-- The check a release makes: the line's own view, and the vault's
figure for what would remain. -/
theorem checkRelease_notRisk {asset : Address} {units : Int}
    (hsound : HaircutsSound w.store)
    (hline : ∀ l, w.store.creditLine.lines.get line = some l →
      LineFits env w.store.creditLine l 0
        ∧ ReleaseFits env w.store l line asset units)
    {config : AssetConfig}
    (hcfg : w.store.vault.assetConfig.get asset = some config) :
    AbortsOnly (NotRisk env) (checkRelease d.lineInterface env config line
      asset (held w.store line asset - units) w.store.creditLine) := by
  simp only [checkRelease, abortsOnly_bind]
  refine ⟨?_, fun debt hdebt => ?_⟩
  · simp only [Deployment.lineInterface, CreditLine.debtOf, abortsOnly_bind]
    exact ⟨reach_notRisk env _, fun _ _ =>
      ⟨readLine_notRisk env _ line, fun l _ => debtAt_notRisk env l _⟩⟩
  · split
    case isFalse => exact abortsOnly_pure ()
    case isTrue =>
      simp only [abortsOnly_bind, abortsOnly_ensure]
      have hltv : AbortsOnly (NotRisk env)
          (CreditLine.ltv env line w.store.creditLine) :=
        ltv_notRisk hsound.line fun l hl => (hline l hl).1
      refine ⟨guardedPrice_notRisk env _ _, fun guarded hguarded =>
        ⟨fun _ => notRisk_of (by decide), fun _ _ =>
        ⟨lineLtv_notRisk hltv _, fun view hview => ?_⟩⟩⟩
      -- the debt the vault judges the rest by is the line's own
      obtain ⟨l, hl, hfigure⟩ := lineInterface_ltv hview
      have hfit := (hline l hl).2 config guarded hcfg hguarded
      have hdebtNow : view.debt = debtNow l env.timestamp := hfigure
      rw [← hdebtNow] at hfit
      obtain ⟨hcv, hbps⟩ := risk_notRisk (hsound.vault _ _ hcfg) hfit
      exact ⟨hcv, fun cv _ => ⟨hbps cv, fun _ _ _ =>
        notRisk_of (by decide)⟩⟩

/-- A release is judged by both contracts, at the units it leaves. -/
theorem release_notRisk {asset : Address} {units : Int}
    (hsound : HaircutsSound w.store)
    (hline : ∀ l, w.store.creditLine.lines.get line = some l →
      LineFits env w.store.creditLine l 0
        ∧ ReleaseFits env w.store l line asset units)
    (borrower : Address) :
    AbortsOnly (NotRisk env) (release d.lineInterface env borrower line
      asset units ⟨w.tokens, w.store.vault, w.store.creditLine⟩) := by
  have hhost := notRisk_host env
  simp only [release, abortsOnly_bind, abortsOnly_pure, abortsOnly_ensure]
  refine ⟨hhost.requireAuth _ _, fun _ _ =>
    ⟨fun _ => notRisk_of (by decide), fun _ _ =>
    ⟨abortsOnly_expect.mpr fun _ => notRisk_of (by decide),
      fun config hconfig => ⟨?_, fun _ _ =>
    ⟨fun _ => notRisk_of (by decide), fun _ _ =>
    ⟨fun _ => notRisk_of (by decide), fun _ _ =>
    ⟨hhost.i128_sub _ _, fun remaining hremaining => ⟨?_, fun _ _ =>
    ⟨?_, fun _ _ => ⟨syncFromVault_notRisk _ _ _ _ _ _,
      fun _ _ => trivial⟩⟩⟩⟩⟩⟩⟩⟩⟩⟩
  · simp only [Deployment.lineInterface, CreditLine.borrowerOf,
      abortsOnly_bind, abortsOnly_pure]
    exact ⟨reach_notRisk env _, fun _ _ =>
      ⟨readLine_notRisk env _ line, fun _ _ => trivial⟩⟩
  · obtain ⟨-, rfl⟩ := I128.sub_ok.mp hremaining
    exact checkRelease_notRisk hsound hline (expect_ok.mp hconfig)
  · unfold payOut
    split
    · exact hhost.transfer _ _ _ _ _ _
    · exact abortsOnly_pure _

end Vault

-- ============================================================== all runs

/-- A `configure_asset`, on either contract, names a haircut within
100%. -/
def HaircutWithin : Tx → Prop
  | .creditLine _ (.configureAsset _ _ _ _ haircutBps _) =>
      haircutBps ≤ 10000
  | .vault _ (.configureAsset _ _ _ _ haircutBps _ _) => haircutBps ≤ 10000
  | _ => True

instance (tx : Tx) : Decidable (HaircutWithin tx) := by
  unfold HaircutWithin
  split <;> infer_instance

/-- The condition on a run: every configuration accepted has one. -/
def AcceptsWithin (d : Deployment) (tx : Tx) (w : World State) : Prop :=
  ((machine d).apply tx w).isOk = true → HaircutWithin tx

instance (d : Deployment) (tx : Tx) (w : World State) :
    Decidable (AcceptsWithin d tx w) :=
  inferInstanceAs (Decidable (_ → _))

variable {d : Deployment} {w w' : World State}

/-- Only an accepted configuration stores a haircut, so a step that
accepts none over 100% keeps them sound. -/
theorem haircuts_step {tx : Tx} (hs : HaircutsSound w.store)
    (hok : AcceptsWithin d tx w) (happ : (machine d).apply tx w = .ok w') :
    HaircutsSound w'.store := by
  have hwithin : HaircutWithin tx := hok (isOk_iff.mpr ⟨w', happ⟩)
  cases tx with
  | creditLine env e =>
      obtain ⟨hcall, hvault⟩ := callLine_ok happ
      refine ⟨?_, ?_⟩
      · intro a c hc
        rcases (CreditLine.call_store hcall).config with hsame | ⟨_, b,
          guard, usdc, hcut, t, he, -, hset⟩
        · rw [hsame] at hc
          exact hs.line a c hc
        · rw [hset, Store.get_set] at hc
          split at hc
          · injection hc with hc
            subst hc he
            exact hwithin
          · exact hs.line a c hc
      · rw [hvault]
        exact hs.vault
  | vault env e =>
      have hline : w'.store.creditLine.assetConfig
          = w.store.creditLine.assetConfig := by
        cases callVault_ok happ with
        | setup _ _ hline => rw [hline]
        | position _ _ _ _ hline => rw [hline]; rfl
      refine ⟨?_, ?_⟩
      · rw [hline]
        exact hs.line
      · have hcall : callVault d env e w = .ok w' := happ
        unfold callVault at hcall
        obtain ⟨v, hv, hw'⟩ := map_ok.mp hcall
        rw [← hw']
        intro a c hc
        rcases PledgeVault.call_config hv with hsame | ⟨_, b, guard, line,
          hcut, t, mode, he, -, hset⟩
        · rw [hsame] at hc
          exact hs.vault a c hc
        · rw [hset, Store.get_set] at hc
          split at hc
          · injection hc with hc
            subst hc he
            exact hwithin
          · exact hs.vault a c hc
  | outside tokens =>
      injection happ with happ
      subst happ
      exact hs

/-- So does a run. -/
theorem haircuts_run {txs : List Tx}
    (h : (machine d).Allowed (AcceptsWithin d) (machine d).init txs) :
    HaircutsSound ((machine d).run (machine d).init txs).store :=
  Machine.run_induction (P := fun w : World State => HaircutsSound w.store)
    (fun _ _ _ => haircuts_step)
    ⟨fun _ _ hc => (by cases hc), fun _ _ hc => (by cases hc)⟩ h

/-- The lending paths keep clear of the risk arithmetic's aborts, on
every line whose products fit. -/
structure RiskPathsClear (d : Deployment) (w : World State) : Prop where
  ltv : ∀ env line, (∀ l, w.store.creditLine.lines.get line = some l →
      LineFits env w.store.creditLine l 0) →
    AbortsOnly (NotRisk env) (CreditLine.ltv env line w.store.creditLine)
  poke : ∀ env line, (∀ l, w.store.creditLine.lines.get line = some l →
      LineFits env w.store.creditLine l 0) →
    AbortsOnly (NotRisk env) (CreditLine.poke env line w.store.creditLine)
  draw : ∀ env borrower line amount recipient,
    (∀ l, w.store.creditLine.lines.get line = some l →
      LineFits env w.store.creditLine l amount) →
    AbortsOnly (NotRisk env) (CreditLine.draw env borrower line amount
      recipient ⟨w.tokens, w.store.creditLine⟩)
  liquidate : ∀ env keeper line route,
    (∀ l, w.store.creditLine.lines.get line = some l →
      LineFits env w.store.creditLine l 0) →
    AbortsOnly (NotRisk env) (CreditLine.liquidate env keeper line route
      w.store.creditLine)
  release : ∀ env borrower line asset units,
    (∀ l, w.store.creditLine.lines.get line = some l →
      LineFits env w.store.creditLine l 0
        ∧ ReleaseFits env w.store l line asset units) →
    AbortsOnly (NotRisk env) (PledgeVault.release d.lineInterface env
      borrower line asset units ⟨w.tokens, w.store.vault,
        w.store.creditLine⟩)

/-- With sound haircuts every path is clear. -/
theorem riskPaths_clear (h : HaircutsSound w.store) :
    RiskPathsClear d w where
  ltv _ _ hfits := ltv_notRisk h.line hfits
  poke _ _ hfits := poke_notRisk h.line hfits
  draw _ borrower _ _ recipient hfits :=
    draw_notRisk h.line hfits borrower recipient
  liquidate _ keeper _ route hfits :=
    liquidate_notRisk h.line hfits keeper route
  release _ borrower _ _ _ hfits := release_notRisk h hfits borrower

/-- A haircut over 100% aborts the line's `ltv`, whatever else holds. -/
theorem ltv_blocked {env : Env} {s : CreditLine.State} {line : Nat}
    {l : CreditLine.Line} {config : CreditLine.AssetConfig}
    {guarded : GuardedPrice} {debt : Int}
    (hl : s.lines.get line = some l)
    (hcfg : s.assetConfig.get l.asset = some config)
    (hguarded : env.guardedPrice config.priceGuard l.asset = .ok guarded)
    (hdebt : CreditLine.debtAt l env.timestamp = .ok debt)
    (hcut : 10000 < config.haircutBps) :
    CreditLine.ltv env line s = .error "haircut exceeds 100%" := by
  have hover : ¬ ((config.haircutBps : Int) ≤ bpsDenominator) := by
    unfold bpsDenominator
    omega
  simp [CreditLine.ltv, CreditLine.readLine, CreditLine.computeLtv,
    CreditLine.readLtv, CreditLine.readAssetConfig, expect, hl, hcfg,
    hguarded, hdebt, collateralValue, ensure, hover, bind, Except.bind]

/-- Where every haircut configured was within 100%, no lending path
aborts inside the risk arithmetic; and a line whose asset has a larger
one cannot be valued at all. -/
theorem risk_paths_clear_iff (d : Deployment) (txs : List Tx) :
    let w := (machine d).run (machine d).init txs
    ((machine d).Allowed (AcceptsWithin d) (machine d).init txs →
      RiskPathsClear d w)
    ∧ ∀ env line l config guarded debt,
        w.store.creditLine.lines.get line = some l →
        w.store.creditLine.assetConfig.get l.asset = some config →
        env.guardedPrice config.priceGuard l.asset = .ok guarded →
        CreditLine.debtAt l env.timestamp = .ok debt →
        10000 < config.haircutBps →
        CreditLine.ltv env line w.store.creditLine
          = .error "haircut exceeds 100%" := by
  intro w
  refine ⟨fun h => riskPaths_clear (haircuts_run h), ?_⟩
  intro env line l config guarded debt hl hcfg hguarded hdebt hcut
  exact ltv_blocked hl hcfg hguarded hdebt hcut

/-- The demo's line stays clear of them. -/
theorem risk_paths_clear_demo :
    RiskPathsClear Demo.deployment
      ((machine Demo.deployment).run (machine Demo.deployment).init
        Demo.lent) :=
  (risk_paths_clear_iff Demo.deployment Demo.lent).1 (by decide +kernel)

/-- The admin then sets a haircut of 120% on the line's asset. -/
def Demo.overcut : List Tx := Demo.lent ++
  [.creditLine (Demo.env 0 2 10000000)
    (.configureAsset ⟨1⟩ Demo.asset Demo.guard Demo.usdc 12000
      Demo.thresholds)]

/-- The setting is accepted, the line's products are small, and its `ltv`
aborts in `collateral_value`. -/
theorem haircut_blocks_ltv :
    ¬ ∀ (d : Deployment) (txs : List Tx),
      RiskPathsClear d ((machine d).run (machine d).init txs) := by
  intro hall
  let env := Demo.env 0 3 10000000
  let w := (machine Demo.deployment).run (machine Demo.deployment).init
    Demo.overcut
  have hclear : RiskPathsClear Demo.deployment w :=
    hall Demo.deployment Demo.overcut
  have hconfig : w.store.creditLine.assetConfig.get Demo.asset
      = some ⟨Demo.guard, Demo.usdc, 12000, Demo.thresholds⟩ := by
    decide +kernel
  have hline : (w.store.creditLine.lines.get 0).map (fun l =>
      (l.asset, l.pledgedUnits, debtNow l 0))
      = some (Demo.asset, 5000, 1000) := by
    decide +kernel
  have haborts : CreditLine.ltv env 0 w.store.creditLine
      = .error "haircut exceeds 100%" := by
    decide +kernel
  -- the run has been evaluated; from here on it is only its readings
  clear_value w
  have hfits : ∀ l, w.store.creditLine.lines.get 0 = some l →
      LineFits env w.store.creditLine l 0 := by
    intro l hl
    rw [hl] at hline
    obtain ⟨hasset, hrest⟩ := Prod.mk.inj (Option.some.inj hline)
    obtain ⟨hunits, hdebt⟩ := Prod.mk.inj hrest
    rw [← hasset] at hconfig
    refine lineFits_of hconfig rfl ?_
    rw [hunits, show debtNow l env.timestamp = 1000 from hdebt]
    show Position.Fits ⟨5000, 10000000, 12000, 1000⟩
    exact ⟨by decide, by decide, by decide⟩
  obtain ⟨guard, asset, hguard⟩ :=
    hclear.ltv env 0 hfits _ haborts (by decide)
  cases hguard

end Ballast.Wired
