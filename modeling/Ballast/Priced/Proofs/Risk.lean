/-
No risk at a bad price: what decides a draw, an exit, a release, a
liquidation, a margin call or a default is an `Ok` price of the guard that
runs beside the contracts, whatever was published, removed, configured and
executed before, and a latched halt stops them all until the risk role
has confirmed it.

Settling a repo is not among them: `accept_and_settle` asks for no price.

# The argument

A price that decides a call was told to it in that very transaction by
the guard, which evaluated the asset to answer (`Told.evaluated`).
`Decides.told` goes over the entry points and finds where each of them
asks. What an `Ok` price is, the guard's own results say, and they apply
because the guard in the deployment is reached by calls of its own only
(`guard_reached`).
-/
import Ballast.Priced.Basic
import Ballast.CreditLine.Proofs.Steps
import Ballast.ExitDesk.Proofs.Steps
import Ballast.PledgeVault.Proofs.Steps
import Ballast.PriceGuard.Proofs.Latch
import Ballast.RepoDvp.Proofs.Steps

namespace Ballast.Priced

open Soroban Api
open PriceGuard (OkPrice Halted evaluate)

variable {d : Deployed} {start : Chain} {w w' : World} {c c' : Chain}
  {asks : Option Address} {env : HostEnv} {e : Envelope} {a : Address}

-- ============================================================== one call

/-- A call that committed, with the price it was given. -/
theorem call_ok (h : (machine d start).apply (.call asks env e) w = .ok w') :
    ∃ g, ask d env w.guard asks = .ok (g, w'.guard)
      ∧ (chainMachine d.toDeployed start).apply
          (e.invoke (answered d env g)) w.chain = .ok w'.chain := by
  simp only [machine, bind_ok, pure_ok] at h
  obtain ⟨⟨g, s⟩, hask, c, hc, rfl⟩ := h
  exact ⟨g, hask, hc⟩

theorem answer_ok {g : Option GuardedPrice} {guard : Address}
    {p : GuardedPrice} (h : answer d g guard a = .ok p) :
    g = some p ∧ p.asset = a := by
  simp only [answer, bind_ok, ensure_ok, expect_ok, exists_const,
    Option.filter_eq_some_iff, decide_eq_true_eq] at h
  exact h.2

/-- A price that was given came from an evaluation of its asset. -/
theorem ask_some {s s' : PriceGuard.State} {p : GuardedPrice}
    (h : ask d env s asks = .ok (some p, s')) :
    asks = some p.asset ∧ s.wasm = none
      ∧ evaluate (env.into d.guard) p.asset s = .ok (p, s') := by
  cases asks with
  | none => simp [ask, pure, Except.pure] at h
  | some asset =>
      simp only [ask, bind_ok, ensure_ok, pure_ok, exists_const,
        Prod.mk.injEq, Option.some.injEq] at h
      obtain ⟨hwasm, ⟨g, s₁⟩, heval, rfl, rfl⟩ := h
      obtain ⟨_, _, -, -, hg, -⟩ := PriceGuard.evaluate_ok heval
      have hasset : g.asset = asset := congrArg GuardedPrice.asset hg
      rw [hasset]
      exact ⟨rfl, hwasm, heval⟩

theorem usable_ok {p : GuardedPrice} (h : p.isUsableForNewRisk = true) :
    p.status = .ok := by
  simpa [GuardedPrice.isUsableForNewRisk] using h

-- ===================================================== what a call asks for

/-- The call was told an `Ok` price of `a`. -/
def Told (d : Deployed) (g : Option GuardedPrice) (a : Address) : Prop :=
  ∃ guard p, answer d g guard a = .ok p ∧ p.status = .ok

theorem told_draw {g : Option GuardedPrice} {borrower recipient : Address}
    {line : Nat} {amount : Int} {l : CreditLine.Line}
    (hl : c.lending.creditLine.lines.get line = some l)
    (h : (chainMachine d.toDeployed start).apply
      (Envelope.invoke (answered d env g)
        (.creditLine (.draw borrower line amount recipient))) c
        = .ok c') : Told d g l.asset := by
  obtain ⟨w₁, hw₁, -⟩ := map_ok.mp h
  obtain ⟨w₂, hw₂, -⟩ := map_ok.mp hw₁
  obtain ⟨l', config, p, _, _, _, -, -, hl', -, -, -, -, -, -, hp, hok, -⟩ :=
    CreditLine.draw_ok hw₂
  have hsame : c.lending.creditLine.lines.get line = some l' := hl'
  rw [hl] at hsame
  injection hsame with hsame
  rw [hsame]
  exact ⟨config.priceGuard, p, hp, hok⟩

theorem told_liquidate {g : Option GuardedPrice} {keeper : Address}
    {line : Nat} {route : LiquidationRoute} {l : CreditLine.Line}
    (hl : c.lending.creditLine.lines.get line = some l)
    (h : (chainMachine d.toDeployed start).apply
      (Envelope.invoke (answered d env g)
        (.creditLine (.liquidate keeper line route))) c
        = .ok c') : Told d g l.asset := by
  obtain ⟨w₁, hw₁, -⟩ := map_ok.mp h
  obtain ⟨w₂, hw₂, -⟩ := map_ok.mp hw₁
  obtain ⟨s, hs, -⟩ := map_ok.mp hw₂
  obtain ⟨l', _, view, price, hl', -, -, -, hview, hok, -⟩ :=
    CreditLine.liquidate_ok hs
  obtain ⟨config, p, -, hp, -, hstatus, -⟩ := CreditLine.readLtv_ok hview
  have hsame : c.lending.creditLine.lines.get line = some l' := hl'
  rw [hl] at hsame
  injection hsame with hsame
  rw [hsame]
  exact ⟨config.priceGuard, p, hp, hstatus ▸ hok⟩

/-- The vault asks its credit line what is owed, and then the guard. -/
theorem told_release {g : Option GuardedPrice} {borrower asset : Address}
    {line : Nat} {units debt : Int} {l : CreditLine.Line}
    (hl : c.lending.creditLine.lines.get line = some l)
    (hdebt : CreditLine.debtAt l env.timestamp = .ok debt)
    (hpos : 0 < debt)
    (h : (chainMachine d.toDeployed start).apply
      (Envelope.invoke (answered d env g)
        (.pledgeVault (.release borrower line asset units))) c
        = .ok c') : Told d g asset := by
  obtain ⟨w₁, hw₁, -⟩ := map_ok.mp h
  obtain ⟨w₂, hw₂, -⟩ := map_ok.mp hw₁
  obtain ⟨config, _, _, -, -, -, -, -, hcheck, -⟩ :=
    PledgeVault.release_ok hw₂
  obtain ⟨debt', hdebt', hrisk⟩ := PledgeVault.checkRelease_ok hcheck
  simp only [Wired.Deployment.lineInterface, CreditLine.debtOf,
    CreditLine.readLine, bind_ok, expect_ok] at hdebt'
  obtain ⟨_, -, l', hl', hdebt'⟩ := hdebt'
  have hsame : c.lending.creditLine.lines.get line = some l' := hl'
  rw [hl] at hsame
  injection hsame with hsame
  have hat : CreditLine.debtAt l' env.timestamp = .ok debt' := hdebt'
  rw [← hsame, hdebt] at hat
  injection hat with hat
  obtain ⟨p, _, _, _, hp, hok, -⟩ := hrisk (hat ▸ hpos)
  exact ⟨config.priceGuard, p, hp, hok⟩

theorem told_exit {g : Option GuardedPrice} {holder asset payTo : Address}
    {units minUsdcOut : Int}
    (h : (chainMachine d.toDeployed start).apply
      (Envelope.invoke (answered d env g)
        (.exitDesk (.exit holder asset units minUsdcOut payTo))) c
        = .ok c') : Told d g asset := by
  obtain ⟨w₁, hw₁, -⟩ := map_ok.mp h
  obtain ⟨p, hp, -⟩ := map_ok.mp hw₁
  obtain ⟨_, _, _, -, hquote, -⟩ := ExitDesk.exit_ok hp
  obtain ⟨config, g', -, -, hg', husable, -⟩ :=
    ExitDesk.computeQuote_ok hquote
  exact ⟨config.priceGuard, g', hg', usable_ok husable⟩

/-- A margin evaluated is one of the trade's asset. -/
theorem told_margin {g : Option GuardedPrice} {self : Address}
    {t : RepoDvp.RepoTrade} {config : RepoDvp.RepoAssetConfig}
    {m : RepoDvp.Margin}
    (h : RepoDvp.evaluateMargin ((answered d env g).at self) t config
      = .ok (some m)) : Told d g t.asset := by
  obtain ⟨p, _, hp, husable, -⟩ := RepoDvp.evaluateMargin_ok h
  exact ⟨config.priceGuard, p, hp, usable_ok husable⟩

/-- What decides a call is an `Ok` price it was told. -/
theorem Decides.told {g : Option GuardedPrice} (ha : Decides c env e a)
    (h : (chainMachine d.toDeployed start).apply
      (e.invoke (answered d env g)) c = .ok c') : Told d g a := by
  cases ha with
  | draw hl => exact told_draw hl h
  | liquidate hl => exact told_liquidate hl h
  | release hl hdebt hpos => exact told_release hl hdebt hpos h
  | exit => exact told_exit h
  | callMargin ht =>
      obtain ⟨w₁, hw₁, -⟩ := map_ok.mp h
      obtain ⟨s, hs, -⟩ := map_ok.mp hw₁
      obtain ⟨t, config, m, ht', -, -, heval, -⟩ := RepoDvp.callMargin_ok hs
      have hsame : c.repo.trades.get _ = some t := ht'
      rw [ht] at hsame
      injection hsame with hsame
      rw [hsame]
      exact told_margin heval
  | defaultClose ht =>
      obtain ⟨w₁, hw₁, -⟩ := map_ok.mp h
      obtain ⟨t, config, m, _, _, _, ht', -, -, -, -, -, heval, -⟩ :=
        RepoDvp.defaultClose_ok hw₁
      have hsame : c.repo.trades.get _ = some t := ht'
      rw [ht] at hsame
      injection hsame with hsame
      rw [hsame]
      exact told_margin heval
  | defaultAtMaturity ht =>
      obtain ⟨w₁, hw₁, -⟩ := map_ok.mp h
      obtain ⟨t, config, p, _, _, _, _, -, ht', -, -, -, -, hp, husable, -⟩ :=
        RepoDvp.defaultAtMaturity_ok hw₁
      have hsame : c.repo.trades.get _ = some t := ht'
      rw [ht] at hsame
      injection hsame with hsame
      rw [hsame]
      exact ⟨config.priceGuard, p, hp, usable_ok husable⟩

-- ============================================================== the guard

/-- What the guard of a run is, it is after calls of its own. -/
theorem guard_reached (d : Deployed) (start : Chain) (as : List Tx) :
    ∃ txs, ((machine d start).run (machine d start).init as).guard
      = (PriceGuard.machine d.guard).run
          (PriceGuard.machine d.guard).init txs := by
  refine Machine.run_induction
    (P := fun w : World => ∃ txs, w.guard = (PriceGuard.machine d.guard).run
      (PriceGuard.machine d.guard).init txs) ?_ ⟨[], rfl⟩
    (Machine.allowed_true _ as)
  rintro w tx w' ⟨txs, htxs⟩ - happ
  cases tx with
  | guard tx =>
      obtain ⟨s, hs, rfl⟩ := map_ok.mp happ
      refine ⟨txs ++ [tx], ?_⟩
      rw [Machine.run_snoc, ← htxs, Machine.exec_of_ok hs]
  | call asks env e =>
      obtain ⟨g, hask, -⟩ := call_ok happ
      cases asks with
      | none =>
          simp only [ask, pure_ok, Prod.mk.injEq] at hask
          exact ⟨txs, hask.2 ▸ htxs⟩
      | some asset =>
          simp only [ask, bind_ok, ensure_ok, pure_ok, exists_const,
            Prod.mk.injEq] at hask
          obtain ⟨hwasm, ⟨p, s⟩, heval, -, hs⟩ := hask
          let genv : PriceGuard.GuardEnv :=
            { env with ed25519Verify := fun _ _ _ => true }
          refine ⟨txs ++ [⟨genv, .guardedPrice asset⟩], ?_⟩
          have happ : (PriceGuard.machine d.guard).apply
              ⟨genv, .guardedPrice asset⟩ w.guard = .ok s := by
            simp only [PriceGuard.machine, bind_ok, ensure_ok, exists_const]
            exact ⟨hwasm, map_ok.mpr ⟨(p, s), heval, rfl⟩⟩
          rw [Machine.run_snoc, ← htxs, Machine.exec_of_ok happ]
          exact hs.symm
  | outside tokens =>
      injection happ with happ
      exact ⟨txs, happ ▸ htxs⟩

/-- In a run, a price that was told was evaluated by the guard as it stood,
and is what an `Ok` price has to be. -/
theorem Told.evaluated {as : List Tx} {g : Option GuardedPrice}
    {s : PriceGuard.State} (h : Told d g a)
    (hask : ask d env ((machine d start).run (machine d start).init as).guard
      asks = .ok (g, s)) :
    ∃ p config, answer d g d.guard a = .ok p
      ∧ evaluate (env.into d.guard) a
          ((machine d start).run (machine d start).init as).guard = .ok (p, s)
      ∧ ((machine d start).run (machine d start).init as).guard.config.get a
          = some config
      ∧ OkPrice (env.into d.guard)
          ((machine d start).run (machine d start).init as).guard a config
          p.value
      ∧ s.lastGood.get a = some p.value := by
  obtain ⟨guard, p, hp, hok⟩ := h
  obtain ⟨rfl, rfl⟩ := answer_ok hp
  have hguard : guard = d.guard := by
    simp only [answer, bind_ok, ensure_ok] at hp
    exact hp.choose_spec.1
  obtain ⟨-, -, heval⟩ := ask_some hask
  obtain ⟨txs, htxs⟩ := guard_reached d start as
  rw [htxs] at heval ⊢
  obtain ⟨hr, hprices⟩ := PriceGuard.guardOk_run d.guard txs
  obtain ⟨config, verdict, hconfig, hjudge, heq, hs⟩ :=
    PriceGuard.evaluate_ok heval
  rw [heq] at hok
  cases verdict with
  | latched => cases hok
  | degraded => cases hok
  | tripped held m => cases hok
  | agreed m =>
      have hvalue : p.value = m := congrArg GuardedPrice.value heq
      refine ⟨p, config, hguard ▸ hp, heval, hconfig, ?_, ?_⟩
      · rw [hvalue]
        exact .of_agreed hr hprices hjudge
      · rw [hs, hvalue, PriceGuard.samePrices_status.lastGood]
        exact Store.get_set_self _ _ _

-- ====================================================== at an `Ok` price

/-- Whatever decides by the price of an asset commits at an `Ok` price
alone: what the guard answered in that call was the median of two or more
fresh sources within their bands, and the guard keeps it as its last good
one. -/
theorem decided_at_ok (d : Deployed) (start : Chain) (as : List Tx)
    (h : (machine d start).apply (.call asks env e)
      ((machine d start).run (machine d start).init as) = .ok w')
    (ha : Decides ((machine d start).run (machine d start).init as).chain
      env e a) :
    ∃ g config p,
      (chainMachine d.toDeployed start).apply (e.invoke (answered d env g))
          ((machine d start).run (machine d start).init as).chain
        = .ok w'.chain
      ∧ (answered d env g).guardedPrice d.guard a = .ok p
      ∧ ((machine d start).run (machine d start).init as).guard.config.get a
        = some config
      ∧ OkPrice (env.into d.guard)
          ((machine d start).run (machine d start).init as).guard a config
          p.value
      ∧ w'.guard.lastGood.get a = some p.value := by
  obtain ⟨g, hask, hc⟩ := call_ok h
  obtain ⟨p, config, hanswer, -, hconfig, hok, hlast⟩ :=
    (ha.told hc).evaluated hask
  exact ⟨g, config, p, hc, hanswer, hconfig, hok, hlast⟩

/-- After a draw the line carries its debt below the warning band at the
guard's median. -/
theorem drawn_at_median (d : Deployed) (start : Chain) (as : List Tx)
    {borrower recipient : Address} {line : Nat} {amount : Int}
    (h : (machine d start).apply (.call asks env
        (.creditLine (.draw borrower line amount recipient)))
      ((machine d start).run (machine d start).init as) = .ok w') :
    ∃ l config m cv bps,
      w'.chain.lending.creditLine.lines.get line = some l
      ∧ w'.chain.lending.creditLine.assetConfig.get l.asset = some config
      ∧ w'.guard.lastGood.get l.asset = some m
      ∧ (∃ band, OkPrice (env.into d.guard)
          ((machine d start).run (machine d start).init as).guard l.asset
          band m)
      ∧ l.lastAccrualTs = env.timestamp
      ∧ collateralValue l.pledgedUnits m config.haircutBps = .ok cv
      ∧ ltvBps (l.drawn + l.accruedInterest) cv = .ok bps
      ∧ classify bps config.thresholds = .healthy := by
  obtain ⟨g, hask, hc⟩ := call_ok h
  obtain ⟨w₁, hw₁, hchain⟩ := map_ok.mp hc
  obtain ⟨w₂, hw₂, hlending⟩ := map_ok.mp hw₁
  obtain ⟨l, config, p, delta, cv, bps, -, -, hl, -, -, -, -, -, hconfig, hp,
    hok, hcv, hbps, hhealthy, heq⟩ := CreditLine.draw_ok hw₂
  obtain ⟨p', band, hp', -, -, hprice, hlast⟩ :=
    Told.evaluated ⟨config.priceGuard, p, hp, hok⟩ hask
  have hsame : p' = p := by
    have hg := (answer_ok hp).1
    have hg' := (answer_ok hp').1
    rw [hg] at hg'
    exact (Option.some.inj hg').symm
  rw [hsame] at hprice hlast
  have hstate : w'.chain.lending.creditLine = w₂.store := by
    rw [← hchain, ← hlending]
  refine ⟨{ l with
      accruedInterest := l.accruedInterest + delta
      lastAccrualTs := env.timestamp
      drawn := l.drawn + amount
      marginState := .healthy }, config, p.value, cv, bps, ?_, ?_, hlast,
    ⟨band, hprice⟩, rfl, hcv, ?_, hhealthy⟩
  · rw [hstate, heq]
    exact Store.get_set_self _ _ _
  · rw [hstate, heq]
    exact hconfig
  · have hdebt : l.drawn + amount + (l.accruedInterest + delta)
        = l.drawn + (l.accruedInterest + delta) + amount := by omega
    show ltvBps (l.drawn + amount + (l.accruedInterest + delta)) cv = _
    rw [hdebt]
    exact hbps

-- =============================================================== halted

/-- The risk role's word that the halt of `a` is over. -/
def Tx.Confirms (tx : Tx) (a : Address) : Prop :=
  match tx with
  | .guard tx => tx.entry.Confirms a
  | _ => False

instance : (tx : Tx) → Decidable (tx.Confirms a)
  | .guard tx => inferInstanceAs (Decidable (tx.entry.Confirms a))
  | .call _ _ _ => isFalse id
  | .outside _ => isFalse id

/-- What the transaction commits is not the end of a halt of `a`. -/
def Unconfirmed (d : Deployed) (start : Chain) (a : Address) (tx : Tx)
    (w : World) : Prop :=
  ((machine d start).apply tx w).isOk = true → ¬ tx.Confirms a

instance (tx : Tx) (w : World) : Decidable (Unconfirmed d start a tx w) :=
  inferInstanceAs (Decidable (_ → _))

/-- A halt outlasts every other transaction. -/
theorem halted_step {tx : Tx} (hs : Halted w.guard a)
    (h : (machine d start).apply tx w = .ok w') (hno : ¬ tx.Confirms a) :
    Halted w'.guard a := by
  cases tx with
  | guard tx =>
      obtain ⟨s, happ, rfl⟩ := map_ok.mp h
      exact hs.congr (hs.step (PriceGuard.apply_call happ) hno)
  | call asks env e =>
      obtain ⟨g, hask, -⟩ := call_ok h
      cases asks with
      | none =>
          simp only [ask, pure_ok, Prod.mk.injEq] at hask
          exact hask.2 ▸ hs
      | some asset =>
          simp only [ask, bind_ok, ensure_ok, pure_ok, exists_const,
            Prod.mk.injEq] at hask
          obtain ⟨-, ⟨p, s⟩, heval, -, rfl⟩ := hask
          let genv : PriceGuard.GuardEnv :=
            { env.into d.guard with ed25519Verify := fun _ _ _ => true }
          have hcall : PriceGuard.call genv (.guardedPrice asset) w.guard
              = .ok w'.guard := map_ok.mpr ⟨(p, w'.guard), heval, rfl⟩
          exact hs.congr (hs.step hcall (by simp [PriceGuard.Entry.Confirms]))
  | outside tokens =>
      injection h with h
      exact h ▸ hs

/-- From the halt of an asset until the risk role ends it, nothing that
goes by its price commits: no draw, no exit, no release of what secures a
debt, no liquidation and no default. -/
theorem halt_holds (d : Deployed) (start : Chain) (as more : List Tx)
    (hhalted : Halted ((machine d start).run (machine d start).init as).guard
      a)
    (hno : (machine d start).Allowed (Unconfirmed d start a)
      ((machine d start).run (machine d start).init as) more)
    (h : (machine d start).apply (.call asks env e)
      ((machine d start).run (machine d start).init (as ++ more)) = .ok w') :
    ¬ Decides ((machine d start).run (machine d start).init
      (as ++ more)).chain env e a := by
  intro ha
  have hlatched : Halted ((machine d start).run (machine d start).init
      (as ++ more)).guard a := by
    rw [Machine.run_append]
    refine Machine.run_induction (P := fun w : World => Halted w.guard a)
      ?_ hhalted hno
    intro w tx w' hw hok happ
    exact halted_step hw happ (hok (by rw [happ]; rfl))
  obtain ⟨g, hask, hc⟩ := call_ok h
  obtain ⟨guard, p, hp, hok⟩ := ha.told hc
  obtain ⟨rfl, rfl⟩ := answer_ok hp
  obtain ⟨-, -, heval⟩ := ask_some hask
  obtain ⟨config, verdict, hconfig, hjudge, heq, -⟩ :=
    PriceGuard.evaluate_ok heval
  rw [PriceGuard.judge_latched hlatched] at hjudge
  injection hjudge with hverdict
  rw [heq, ← hverdict] at hok
  cases hok

-- ============================================================ on the demo

/-- The line of the demo is in the asset the guard watches. -/
theorem decides_draw_demo {as : List Tx} {env : HostEnv}
    (h : (((machine Demo.deployed Api.Demo.funded).run
      (machine Demo.deployed Api.Demo.funded).init
        as).chain.lending.creditLine.lines.get 0).map (·.asset)
          = some Wired.Demo.asset) :
    Decides ((machine Demo.deployed Api.Demo.funded).run
      (machine Demo.deployed Api.Demo.funded).init as).chain env
        Demo.drawing Wired.Demo.asset := by
  obtain ⟨l, hl, hasset⟩ := Option.map_eq_some_iff.mp h
  have hdecides : Decides _ env Demo.drawing l.asset := Decides.draw hl
  rw [hasset] at hdecides
  exact hdecides

/-- Two sources agree on 1.00, and 100 are drawn. -/
theorem decided_at_ok_demo :
    ∃ g config p, (answered Demo.deployed (Demo.host 0 2) g).guardedPrice
        Wired.Demo.guard Wired.Demo.asset = .ok p
      ∧ OkPrice ((Demo.host 0 2).into Wired.Demo.guard)
        ((machine Demo.deployed Api.Demo.funded).run
          (machine Demo.deployed Api.Demo.funded).init Demo.agreed).guard
        Wired.Demo.asset config p.value
      ∧ ((machine Demo.deployed Api.Demo.funded).run
          (machine Demo.deployed Api.Demo.funded).init
          Demo.drawn).guard.lastGood.get Wired.Demo.asset
            = some p.value := by
  have hok : ((machine Demo.deployed Api.Demo.funded).apply
      (.call (some Wired.Demo.asset) (Demo.host 0 2) Demo.drawing)
      ((machine Demo.deployed Api.Demo.funded).run
        (machine Demo.deployed Api.Demo.funded).init Demo.agreed)).isOk
      = true := by decide +kernel
  obtain ⟨g, config, p, -, hanswer, -, hprice, hlast⟩ :=
    decided_at_ok Demo.deployed Api.Demo.funded Demo.agreed
      (Machine.apply_of_isOk hok) (decides_draw_demo (by decide +kernel))
  exact ⟨g, config, p, hanswer, hprice, hlast⟩

theorem drawn_at_median_demo :
    ∃ l m, ((machine Demo.deployed Api.Demo.funded).run
          (machine Demo.deployed Api.Demo.funded).init
          Demo.drawn).chain.lending.creditLine.lines.get 0 = some l
      ∧ ((machine Demo.deployed Api.Demo.funded).run
          (machine Demo.deployed Api.Demo.funded).init
          Demo.drawn).guard.lastGood.get l.asset = some m
      ∧ l.lastAccrualTs = 0 := by
  have hok : ((machine Demo.deployed Api.Demo.funded).apply
      (.call (some Wired.Demo.asset) (Demo.host 0 2) Demo.drawing)
      ((machine Demo.deployed Api.Demo.funded).run
        (machine Demo.deployed Api.Demo.funded).init Demo.agreed)).isOk
      = true := by decide +kernel
  obtain ⟨l, config, m, cv, bps, hl, -, hlast, -, hsince, -⟩ :=
    drawn_at_median Demo.deployed Api.Demo.funded Demo.agreed
      (Machine.apply_of_isOk hok)
  exact ⟨l, m, hl, hlast, hsince⟩

/-- They agree on 1.10 a day later, and nothing is drawn any more, not
even when they are back at 1.00. -/
theorem halt_holds_demo :
    ((machine Demo.deployed Api.Demo.funded).apply
      (.call (some Wired.Demo.asset) (Demo.host 90000 3) Demo.drawing)
      ((machine Demo.deployed Api.Demo.funded).run
        (machine Demo.deployed Api.Demo.funded).init
        (Demo.halted ++ Demo.later))).isOk = false := by
  apply Bool.eq_false_iff.mpr
  intro hok
  obtain ⟨w', happ⟩ := exists_of_isOk hok
  have hhalted : (((machine Demo.deployed Api.Demo.funded).run
      (machine Demo.deployed Api.Demo.funded).init
      Demo.halted).guard.halted.get Wired.Demo.asset).getD false = true := by
    decide +kernel
  exact halt_holds Demo.deployed Api.Demo.funded Demo.halted Demo.later
    hhalted (by decide +kernel) happ (decides_draw_demo (by decide +kernel))

end Ballast.Priced
