/-
Never over-lent: what a draw or a release leaves behind.

Both gates of new risk compare a rounded LTV with the warning band:
`draw` over the line's own figure for the collateral, `release` over
the units the vault will have left, each with its own copy of the
asset's terms. The bound proved here is about neither copy: it is the
unrounded debt against the value of what the vault position holds once
the operation is through.

For `release` that is what the gate computed. For `draw` it needs
`Mirror`: an open line's figure is the position's. Strictness survives
the floor because the band is an integer (`ltvBps_lt`).
-/
import Ballast.Wired.Proofs.Mirror

namespace Ballast.Wired

open Soroban

-- ============================================================ the bound

/-- The part of an asset's configuration both contracts keep. -/
structure Terms where
  priceGuard : Address
  haircutBps : Nat
  thresholds : MarginThresholds
  deriving DecidableEq, Repr

/-- The terms `CreditLine` has for `asset`. -/
def lineTerms (s : State) (asset : Address) : Option Terms :=
  (s.creditLine.assetConfig.get asset).map fun c =>
    ⟨c.priceGuard, c.haircutBps, c.thresholds⟩

/-- The terms `PledgeVault` has for `asset`. -/
def vaultTerms (s : State) (asset : Address) : Option Terms :=
  (s.vault.assetConfig.get asset).map fun c =>
    ⟨c.priceGuard, c.haircutBps, c.thresholds⟩

/-- Principal, booked interest and interest accrued to `now`. -/
def debtNow (l : CreditLine.Line) (now : Nat) : Int :=
  l.drawn + l.accruedInterest + CreditLine.interestOf l now

/-- At the transaction's price, which is `Ok`, the line's debt is
strictly below the warning band of what the vault holds for it. -/
def NotOverLent (env : Env) (t : Terms) (s : State) (line : Nat)
    (l : CreditLine.Line) : Prop :=
  ∃ guarded cv, env.guardedPrice t.priceGuard l.asset = .ok guarded
    ∧ guarded.status = .ok
    ∧ collateralValue (held s line l.asset) guarded.value t.haircutBps
        = .ok cv
    ∧ debtNow l env.timestamp * 10000 < t.thresholds.warningBps * cv

variable {d : Deployment} {env : Env} {w w' : World State} {s s' : State}
  {line : Nat}

/-- A health check that passed bounds the unrounded debt. -/
theorem lt_of_healthy {debt cv : Int} {bps : Nat} {t : MarginThresholds}
    (hbps : ltvBps debt cv = .ok bps) (hdebt : 0 < debt)
    (hvalid : t.validate = .ok ()) (hhealthy : classify bps t = .healthy) :
    debt * 10000 < t.warningBps * cv := by
  obtain ⟨-, hwarn, hcall, hliq⟩ := MarginThresholds.validate_ok.mp hvalid
  obtain ⟨-, -, hlt⟩ := classify_healthy.mp hhealthy
  exact (ltvBps_lt hbps hdebt (by omega) hlt).2

/-- Interest booked up to `now` leaves nothing to accrue at `now`. -/
theorem debtNow_accrued {l : CreditLine.Line} {now : Nat}
    (h : l.lastAccrualTs = now) :
    debtNow l now = l.drawn + l.accruedInterest := by
  unfold debtNow CreditLine.interestOf
  rw [h]
  simp

-- ======================================================== the invariant

/-- Every vault configuration passed its validation. -/
def ValidVault (s : PledgeVault.State) : Prop :=
  ∀ a c, s.assetConfig.get a = some c → c.thresholds.validate = .ok ()

/-- What a run keeps beside the mirror: validated terms on both sides,
and no negative debt. -/
structure Sound (line : Nat) (s : State) : Prop where
  lineConfigs : CreditLine.ValidConfigs s.creditLine
  vaultConfigs : ValidVault s.vault
  debt : CreditLine.NonnegDebt s.creditLine line

/-- A vault call keeps the configurations valid. -/
theorem ValidVault.call {κ : Type}
    {net : PledgeVault.CreditLineInterface κ} {e : PledgeVault.Entry}
    {v v' : PledgeVault.Scene κ} (hs : ValidVault v.vault)
    (h : PledgeVault.call net env e v = .ok v') : ValidVault v'.vault := by
  intro a c hc
  rcases PledgeVault.call_config h with hsame | ⟨_, b, guard, line, hcut, t,
    mode, -, ht, hset⟩
  · rw [hsame] at hc
    exact hs a c hc
  · rw [hset, Store.get_set] at hc
    split at hc
    · injection hc with hc
      rw [← hc]
      exact ht
    · exact hs a c hc

theorem sound_step {tx : Tx} (hs : Sound line w.store)
    (happ : (machine d).apply tx w = .ok w') : Sound line w'.store := by
  cases tx with
  | creditLine env e =>
      obtain ⟨hcall, hvault⟩ := callLine_ok happ
      refine ⟨hs.lineConfigs.call hcall, ?_, hs.debt.call hcall⟩
      rw [hvault]
      exact hs.vaultConfigs
  | vault env e =>
      have hconfigs : ValidVault w'.store.vault := by
        have hcall : callVault d env e w = .ok w' := happ
        unfold callVault at hcall
        obtain ⟨v, hv, hw'⟩ := map_ok.mp hcall
        rw [← hw']
        exact ValidVault.call hs.vaultConfigs hv
      cases callVault_ok happ with
      | setup _ _ hline =>
          refine ⟨?_, hconfigs, ?_⟩
          · rw [hline]
            exact hs.lineConfigs
          · rw [hline]
            exact hs.debt
      | @position k l p' hl _ _ _ hline =>
          refine ⟨?_, hconfigs, ?_⟩
          · rw [hline]
            exact hs.lineConfigs
          · rw [hline]
            intro x hx
            by_cases hk : line = k
            · subst hk
              rw [CreditLine.eq_of_writeLine hx]
              exact hs.debt l hl
            · exact hs.debt x ((Store.get_set_ne _ _ hk).symm.trans hx)
  | outside tokens =>
      injection happ with happ
      subst happ
      exact hs

theorem sound_run (d : Deployment) (txs : List Tx) (line : Nat) :
    Sound line ((machine d).run (machine d).init txs).store := by
  refine Machine.run_induction
    (P := fun w : World State => Sound line w.store) ?_ ?_
    (Machine.allowed_true _ txs)
  · intro w tx w' hs _ happ
    exact sound_step hs happ
  · refine ⟨?_, ?_, ?_⟩
    · intro a c hc
      cases hc
    · intro a c hc
      cases hc
    · intro l hl
      cases hl

-- ======================================================== the two gates

/-- A committed draw leaves the line's whole debt below the warning
band of what the vault holds, on `CreditLine`'s terms. -/
theorem draw_bound {borrower recipient : Address} {amount : Int}
    {closed : Bool} (hm : Mirror d line w.store closed)
    (hs : Sound line w.store)
    (h : callLine d env (.draw borrower line amount recipient) w
      = .ok w') :
    ∃ l, w'.store.creditLine.lines.get line = some l
      ∧ ∀ t, lineTerms w'.store l.asset = some t →
        NotOverLent env t w'.store line l := by
  obtain ⟨hcall, hvault⟩ := callLine_ok h
  obtain ⟨l, config, guarded, delta, cv, bps, -, hamount, hl, -, hopen,
    hdelta, -, -, hconfig, hguarded, hok, hcv, hbps, hhealthy, hw'⟩ :=
    CreditLine.draw_ok hcall
  injection hw' with _ hstore
  rw [hstore]
  refine ⟨_, Store.get_set_self _ _ _, ?_⟩
  intro t ht
  have hterms : t = ⟨config.priceGuard, config.haircutBps,
      config.thresholds⟩ := by
    have hsome : some (⟨config.priceGuard, config.haircutBps,
        config.thresholds⟩ : Terms) = some t := by
      rw [← ht]
      unfold lineTerms
      rw [hstore]
      show _ = (w.store.creditLine.assetConfig.get l.asset).map _
      rw [show w.store.creditLine.assetConfig.get l.asset = _ from hconfig]
      rfl
    injection hsome with hsome
    exact hsome.symm
  subst hterms
  -- the line is open, so its figure is the position's
  have hheld : held w'.store line l.asset = l.pledgedUnits := by
    have hsame : held w'.store line l.asset = held w.store line l.asset :=
      held_congr (by rw [hvault])
    rw [hsame]
    cases hclosed : closed with
    | false => exact (hm.synced l hl hclosed).symm
    | true =>
        have hst := (hm.cleared l hl hclosed).1
        rw [hopen] at hst
        cases hst
  obtain ⟨hdrawn, haccrued⟩ := hs.debt l hl
  have hd := CreditLine.interestDelta_nonneg hdelta hdrawn
  refine ⟨guarded, cv, hguarded, hok, ?_, ?_⟩
  · show collateralValue (held w'.store line l.asset) _ _ = _
    rw [hheld]
    exact hcv
  · have hlt := lt_of_healthy hbps (by omega)
      (hs.lineConfigs _ _ hconfig) hhealthy
    have hdebt : debtNow { l with
        accruedInterest := l.accruedInterest + delta
        lastAccrualTs := env.timestamp
        drawn := l.drawn + amount
        marginState := .healthy } env.timestamp
        = l.drawn + (l.accruedInterest + delta) + amount := by
      rw [debtNow_accrued rfl]
      show l.drawn + amount + (l.accruedInterest + delta) = _
      omega
    rw [← hdebt] at hlt
    exact hlt

/-- What the vault reads as the line's debt is the line's debt. -/
theorem lineInterface_debtOf {cl : CreditLine.State} {debt : Int}
    (h : d.lineInterface.debtOf env line cl = .ok debt) :
    ∃ l, cl.lines.get line = some l ∧ debt = debtNow l env.timestamp := by
  simp only [Deployment.lineInterface, Deployment.reach, CreditLine.debtOf,
    CreditLine.readLine, bind_ok, ensure_ok, expect_ok, exists_const] at h
  obtain ⟨-, l, hl, hdebt⟩ := h
  exact ⟨l, hl, CreditLine.debtAt_ok hdebt⟩

theorem lineInterface_ltv {cl : CreditLine.State}
    {view : PledgeVault.LtvView}
    (h : d.lineInterface.ltv env line cl = .ok view) :
    ∃ l, cl.lines.get line = some l
      ∧ view.debt = debtNow l env.timestamp := by
  simp only [Deployment.lineInterface, Deployment.reach, CreditLine.ltv,
    CreditLine.readLine, bind_ok, ensure_ok, expect_ok, pure_ok,
    exists_const] at h
  obtain ⟨-, inner, ⟨l, hl, hcompute⟩, rfl⟩ := h
  obtain ⟨price, hltv⟩ := CreditLine.computeLtv_ok hcompute
  obtain ⟨_, _, -, -, -, -, hinner, -⟩ := CreditLine.readLtv_ok hltv
  exact ⟨l, hl, CreditLine.debtAt_ok hinner⟩

theorem lineInterface_sync {cl cl' : CreditLine.State}
    {vault asset : Address} {units : Int}
    (h : d.lineInterface.syncFromVault env vault line asset units cl
      = .ok cl') :
    ∃ l, cl.lines.get line = some l ∧ l.asset = asset
      ∧ cl'.lines.get line = some { l with pledgedUnits := units } := by
  simp only [Deployment.lineInterface, Deployment.reach, bind_ok, ensure_ok,
    exists_const] at h
  obtain ⟨l, -, -, -, hl, hasset, hcl'⟩ := CreditLine.syncFromVault_ok h.2
  rw [hcl']
  exact ⟨l, hl, hasset, Store.get_set_self _ _ _⟩

/-- A committed release of an indebted line leaves its debt below the
warning band of what the vault still holds, on the vault's terms. -/
theorem release_bound {borrower asset : Address} {units : Int}
    (hs : Sound line w.store)
    (h : callVault d env (.release borrower line asset units) w = .ok w') :
    ∃ l, w'.store.creditLine.lines.get line = some l ∧ l.asset = asset
      ∧ (0 < debtNow l env.timestamp →
        ∀ t, vaultTerms w'.store asset = some t →
          NotOverLent env t w'.store line l) := by
  unfold callVault at h
  obtain ⟨v, hv, hw'⟩ := map_ok.mp h
  obtain ⟨config, tokens, peers, -, -, hconfig, -, -, hcheck, -, hsync,
    hscene⟩ := PledgeVault.release_ok hv
  obtain ⟨l, hl, hasset, hl'⟩ := lineInterface_sync hsync
  rw [← hw', hscene]
  refine ⟨_, hl', hasset, ?_⟩
  intro hpos t ht
  have hpos' : 0 < debtNow l env.timestamp := hpos
  have hterms : t = ⟨config.priceGuard, config.haircutBps,
      config.thresholds⟩ := by
    unfold vaultTerms at ht
    have hsome : w.store.vault.assetConfig.get asset = some config := hconfig
    have hsome' : (w.store.vault.assetConfig.get asset).map _ = some t := ht
    rw [hsome] at hsome'
    injection hsome' with hsome'
    exact hsome'.symm
  subst hterms
  -- the debt the gate read is the line's, and it was not zero
  obtain ⟨debt, hdebt, hgate⟩ := PledgeVault.checkRelease_ok hcheck
  obtain ⟨x, hx, hread⟩ := lineInterface_debtOf hdebt
  have hxl : some x = some l := hx.symm.trans hl
  injection hxl with hxl
  subst hxl
  obtain ⟨guarded, view, cv, bps, hguarded, hok, hview, hcv, hbps,
    hhealthy⟩ := hgate (by rw [hread]; exact hpos')
  obtain ⟨y, hy, hviewDebt⟩ := lineInterface_ltv hview
  have hyl : some y = some x := hy.symm.trans hl
  injection hyl with hyl
  subst hyl
  rw [hviewDebt] at hbps
  refine ⟨guarded, cv, ?_, hok, ?_, ?_⟩
  · rw [← hasset] at hguarded
    exact hguarded
  · have hheld : held ⟨peers, PledgeVault.publish (PledgeVault.writePosition
        w.store.vault line asset
        { PledgeVault.readPosition w.store.vault line asset with
          units := (PledgeVault.readPosition w.store.vault line asset).units
            - units }) (.released line asset units)⟩ line y.asset
        = (PledgeVault.readPosition w.store.vault line asset).units
          - units := by
      rw [held_set (s := w.store) rfl, if_pos ⟨rfl, hasset⟩]
    have hval := hcv
    rw [← hheld] at hval
    exact hval
  · exact lt_of_healthy hbps hpos' (hs.vaultConfigs _ _ hconfig) hhealthy

-- ============================================================= all runs

/-- Never over-lent, in any wired run: right after a draw, and right
after a release of an indebted line, with the same terms on both sides,
the price is `Ok` and the line's debt, all interest included, is
strictly below the warning band of what the vault position holds. -/
theorem never_over_lent (d : Deployment) (txs : List Tx)
    (h : (machine d).Allowed (KeepsWiring d) (machine d).init txs)
    (env : Env) (line : Nat) (w' : World State) :
    let w := (machine d).run (machine d).init txs
    (∀ borrower amount recipient, (machine d).apply
        (.creditLine env (.draw borrower line amount recipient)) w = .ok w' →
      ∃ l, w'.store.creditLine.lines.get line = some l
        ∧ ∀ t, lineTerms w'.store l.asset = some t →
          vaultTerms w'.store l.asset = some t →
          NotOverLent env t w'.store line l)
    ∧ (∀ borrower asset units, (machine d).apply
        (.vault env (.release borrower line asset units)) w = .ok w' →
      ∃ l, w'.store.creditLine.lines.get line = some l
        ∧ (0 < debtNow l env.timestamp →
          ∀ t, lineTerms w'.store l.asset = some t →
            vaultTerms w'.store l.asset = some t →
            NotOverLent env t w'.store line l)) := by
  intro w
  have hm : Mirror d line w.store (closedSince d line txs) :=
    mirror_run h line
  have hs : Sound line w.store := sound_run d txs line
  constructor
  · intro borrower amount recipient happ
    obtain ⟨l, hl, hbound⟩ := draw_bound hm hs happ
    exact ⟨l, hl, fun t ht _ => hbound t ht⟩
  · intro borrower asset units happ
    obtain ⟨l, hl, hasset, hbound⟩ := release_bound hs happ
    refine ⟨l, hl, ?_⟩
    intro hpos t _ ht
    rw [hasset] at ht
    exact hbound hpos t ht

/-- Releasing 3500 of the demo's 5000 units at 1.00 leaves 1000 of debt
against 1500 of collateral, below 70 percent. -/
theorem never_over_lent_demo :
    let tx : Tx := .vault (Demo.env 0 2 10000000)
      (.release Demo.borrower 0 Demo.asset 3500)
    let w' := (machine Demo.deployment).run (machine Demo.deployment).init
      (Demo.lent ++ [tx])
    ∃ l, w'.store.creditLine.lines.get 0 = some l
      ∧ debtNow l 0 = 1000 ∧ held w'.store 0 l.asset = 1500
      ∧ NotOverLent (Demo.env 0 2 10000000)
          ⟨Demo.guard, 0, Demo.thresholds⟩ w'.store 0 l := by
  intro tx w'
  have happ : (machine Demo.deployment).apply tx
      ((machine Demo.deployment).run (machine Demo.deployment).init
        Demo.lent) = .ok w' := Machine.apply_of_isOk (by decide +kernel)
  obtain ⟨l, hl, hbound⟩ := (never_over_lent Demo.deployment Demo.lent
    Demo.lent_wired (Demo.env 0 2 10000000) 0 w').2 _ _ _ happ
  have hline : (w'.store.creditLine.lines.get 0).map
      (fun l => (l.asset, debtNow l 0)) = some (Demo.asset, 1000) := by
    decide +kernel
  rw [hl] at hline
  injection hline with hline
  injection hline with hasset hdebt
  refine ⟨l, hl, hdebt, ?_, hbound ?_ _ ?_ ?_⟩
  · rw [hasset]
    decide +kernel
  · show 0 < debtNow l 0
    omega
  · rw [hasset]
    decide +kernel
  · rw [hasset]
    decide +kernel

end Ballast.Wired
