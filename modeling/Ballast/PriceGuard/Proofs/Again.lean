/-
Reading a price twice at one ledger time.

An evaluation may latch a halt, move the last good price and refresh the
reference, so a second one runs over other storage than the first. What
makes the two agree is that each verdict leaves behind exactly what
makes it come out again: a halt finds its latch, and an agreed median
finds itself as the last good price, no distance away from itself, and
as the reference if it was due. `Stands` says that of a state: the
verdict is the one the guard would reach again, and writing it back
writes nothing. It reads only the one asset's storage, so evaluations of
other assets in between keep it.
-/
import Ballast.PriceGuard.Proofs.AssetPrice
import Ballast.PriceGuard.Proofs.Settings

namespace Ballast.PriceGuard

open Soroban

variable {env : HostEnv} {s s' : State} {a b asset : Address}
  {config : AssetGuardConfig} {values : List Int}

-- =================================================== the rules, once more

/-- The rules read one asset's price and nothing else of the storage. -/
theorem judge_congr (h : priceOf s' a = priceOf s a) :
    judge s' a config values = judge s a config values := by
  have hgood : s'.lastGood.get a = s.lastGood.get a :=
    congrArg AssetPrice.lastGood h
  have href : s'.rollingReference.get a = s.rollingReference.get a :=
    congrArg AssetPrice.reference h
  have hhalt : s'.halted.get a = s.halted.get a :=
    congrArg AssetPrice.halted h
  unfold judge
  rw [hgood, href, hhalt]

/-- A price is no distance from itself. -/
theorem movedTooFar_self {m : Int} {bandBps : Nat} (hm : 0 < m) :
    movedTooFar (some m) m bandBps = .ok false := by
  have hzero : ¬ ((bandBps : Int) < Int.tdiv 0 m) := by
    rw [Int.zero_tdiv]
    omega
  simp only [movedTooFar, if_pos hm, bind_ok, I128.sub_ok, I128.checked_ok,
    I128.mul_ok, pure_ok, sub_self]
  exact ⟨0, ⟨by decide, rfl⟩, 0, ⟨by decide, rfl⟩, 0, ⟨by decide, rfl⟩,
    decide_eq_false hzero⟩

/-- An agreed median, found as the last good price, agrees again: with
the reference it agreed with, or as the reference itself. -/
theorem judge_agreed_again {m : Int} (hm : 0 < m)
    (h : judge s a config values = .ok (.agreed m))
    (hhalt : s'.halted.get a = s.halted.get a)
    (hgood : s'.lastGood.get a = some m)
    (href : s'.rollingReference.get a = some m
      ∨ s'.rollingReference.get a = s.rollingReference.get a) :
    judge s' a config values = .ok (.agreed m) := by
  unfold judge at h ⊢
  simp only [hhalt, hgood] at h ⊢
  split at h
  · cases h
  next hlatch =>
  split at h
  · cases h
  next htwo =>
  rw [if_neg hlatch, if_neg htwo]
  simp only [bind_ok] at h ⊢
  obtain ⟨buf, hbuf, m', hm', agree, hagree, h⟩ := h
  refine ⟨buf, hbuf, m', hm', agree, hagree, ?_⟩
  split at h
  · cases h
  next hagreed =>
  rw [if_neg hagreed]
  simp only [bind_ok] at h ⊢
  obtain ⟨daily, -, h⟩ := h
  split at h
  · cases h
  simp only [bind_ok] at h
  obtain ⟨drift, hdrift, h⟩ := h
  split at h
  · cases h
  next hstill =>
  injection h with h
  injection h with h
  subst h
  refine ⟨false, movedTooFar_self hm, ?_⟩
  rw [if_neg (by decide)]
  simp only [bind_ok]
  refine ⟨false, ?_, rfl⟩
  rcases href with hself | hold
  · rw [hself]
    exact movedTooFar_self hm
  · rw [hold, hdrift, Bool.eq_false_iff.mpr hstill]

-- ====================================================== writing it back

/-- A verdict that trips a halt. -/
def Verdict.Trips : Verdict → Prop
  | .tripped .. => True
  | _ => False

/-- A verdict that trips nothing and moves no price writes nothing. -/
theorem writeBack_idle {v : Verdict} (hv : ¬ v.Trips)
    (h : (priceOf s a).after env.timestamp config.windowSeconds v
      = priceOf s a) : (writeBack env s a config v).1 = s := by
  cases v with
  | latched => rfl
  | degraded => rfl
  | tripped held m => exact absurd trivial hv
  | agreed m =>
      have hagree : (priceOf s a).agree env.timestamp config.windowSeconds m
          = priceOf s a := h
      unfold AssetPrice.agree at hagree
      unfold writeBack refreshReference
      simp only [due_iff]
      by_cases hdue : (priceOf s a).Due env.timestamp config.windowSeconds
      · rw [if_pos hdue] at hagree
        rw [if_pos hdue]
        have hgood : s.lastGood.get a = some m :=
          (congrArg AssetPrice.lastGood hagree).symm
        have href : s.rollingReference.get a = some m :=
          (congrArg AssetPrice.reference hagree).symm
        have hupd : s.rollingReferenceUpdated.get a = some env.timestamp :=
          (congrArg AssetPrice.updated hagree).symm
        rw [Store.set_get hgood, Store.set_get href, Store.set_get hupd]
      · rw [if_neg hdue] at hagree
        rw [if_neg hdue]
        have hgood : s.lastGood.get a = some m :=
          (congrArg AssetPrice.lastGood hagree).symm
        rw [Store.set_get hgood]

/-- Status and value of a verdict that trips nothing, read off the
asset's price. -/
theorem writeBack_report {v : Verdict} (hv : ¬ v.Trips)
    (h : s'.lastGood.get a = s.lastGood.get a) :
    (writeBack env s' a config v).2 = (writeBack env s a config v).2 := by
  cases v with
  | latched => simp only [writeBack, h]
  | degraded => simp only [writeBack, h]
  | tripped held m => exact absurd trivial hv
  | agreed m => rfl

/-- After a status check the status on record is the one checked. -/
theorem lastStatus_checked {status : PriceStatus} {v : Int} :
    (checkAndEmitStatusChange s a status v).lastStatus.get a
      = some status := by
  unfold checkAndEmitStatusChange
  simp only
  split
  · next h => exact h
  · exact Store.get_set_self _ _ _

/-- The status on record is checked for nothing. -/
theorem checkStatus_idle {status : PriceStatus} {v : Int}
    (h : s.lastStatus.get a = some status) :
    checkAndEmitStatusChange s a status v = s := by
  unfold checkAndEmitStatusChange
  rw [if_pos h]

/-- Agreeing on the price just agreed on moves nothing. -/
theorem AssetPrice.agree_twice (p : AssetPrice) (now window : Nat)
    (m : Int) : (p.agree now window m).agree now window m
      = p.agree now window m := by
  by_cases hdue : p.Due now window
  · have hset : p.agree now window m = { p with
        lastGood := some m, reference := some m, updated := some now } :=
      if_pos hdue
    rw [hset]
    unfold AssetPrice.agree
    split <;> rfl
  · have hkeep : p.agree now window m = { p with lastGood := some m } :=
      if_neg hdue
    have hsame : ¬ AssetPrice.Due { p with lastGood := some m } now window :=
      hdue
    rw [hkeep]
    unfold AssetPrice.agree
    rw [if_neg hsame]

-- ================================================= a price that stands

/-- The guard's answer for `a`, and nothing left to write about it. -/
structure Stands (env : HostEnv) (a : Address) (g : GuardedPrice)
    (s : State) (config : AssetGuardConfig) (v : Verdict) : Prop where
  configured : s.config.get a = some config
  judged : judge s a config ((freshSources env s a
    config.maxStalenessS).map (·.value)) = .ok v
  quiet : ¬ v.Trips
  unmoved : (priceOf s a).after env.timestamp config.windowSeconds v
    = priceOf s a
  answer : g = ⟨a, (writeBack env s a config v).2.2,
    (writeBack env s a config v).2.1, env.timestamp,
    freshSources env s a config.maxStalenessS⟩
  status : s.lastStatus.get a = some g.status

variable {g : GuardedPrice} {v : Verdict}

/-- Freshness is a matter of the time alone. -/
theorem freshSources_at {env' : HostEnv}
    (h : env'.timestamp = env.timestamp) (n : Nat) :
    freshSources env' s a n = freshSources env s a n := by
  unfold freshSources isFresh
  rw [h]

theorem freshSources_congr (env : HostEnv) (a : Address)
    (h : SameReadings s s') (n : Nat) :
    freshSources env s' a n = freshSources env s a n := by
  unfold freshSources readAllSources
  rw [sourceNames_congr h.srcNames, h.source]

/-- A price that stands is answered again, and nothing is written. -/
theorem Stands.again {env' : HostEnv} (h : Stands env a g s config v)
    (hnow : env'.timestamp = env.timestamp) :
    evaluate env' a s = .ok (g, s) := by
  have hunmoved := h.unmoved
  rw [← hnow] at hunmoved
  have hback : (writeBack env' s a config v).1 = s :=
    writeBack_idle h.quiet hunmoved
  have hreport : (writeBack env' s a config v).2
      = (writeBack env s a config v).2 := by
    cases v <;> rfl
  have hstatus := h.status
  rw [h.answer] at hstatus
  simp only [evaluate, readConfig, bind_ok, expect_ok, pure_ok]
  refine ⟨config, h.configured, v, ?_, ?_⟩
  · have hjudged := h.judged
    rw [← freshSources_at hnow] at hjudged
    exact hjudged
  · have hfresh : (readAllSources s a).filter (fun source =>
        isFresh env' source config.maxStalenessS)
        = freshSources env s a config.maxStalenessS :=
      freshSources_at hnow config.maxStalenessS
    rw [hfresh, hnow]
    show (_, checkAndEmitStatusChange (writeBack env' s a config v).1 a
      (writeBack env' s a config v).2.1 (writeBack env' s a config v).2.2)
        = (g, s)
    rw [hreport, hback, checkStatus_idle hstatus, h.answer, ← hreport]

/-- An evaluation leaves a price that stands. -/
theorem evaluate_stands (hr : ReadingsOk s) (hp : PricesOk s)
    (h : evaluate env a s = .ok (g, s')) :
    ∃ config v, Stands env a g s' config v := by
  have hread := evaluate_readings h
  have hsettings := evaluate_settings h
  obtain ⟨config, v, hconfig, hjudge, hg, hs'⟩ := evaluate_ok h
  have hprice : priceOf s' a
      = (priceOf s a).after env.timestamp config.windowSeconds v := by
    rw [hs', samePrices_status.priceOf, priceOf_writeBack]
  have hconfig' : s'.config.get a = some config := by
    rw [← hconfig]
    exact congrArg (fun t : Settings => t.config.get a) hsettings
  have hfresh := freshSources_congr env a hread config.maxStalenessS
  have hstatus : s'.lastStatus.get a = some g.status := by
    rw [hs', hg]
    exact lastStatus_checked
  have hpos := freshSources_pos env a hr config.maxStalenessS
  cases v with
  | latched =>
      refine ⟨config, .latched, hconfig', ?_, id, rfl, ?_, hstatus⟩
      · rw [hfresh, judge_congr hprice]
        exact hjudge
      · rw [hg, hfresh, writeBack_report id
          (congrArg AssetPrice.lastGood hprice)]
  | degraded =>
      refine ⟨config, .degraded, hconfig', ?_, id, rfl, ?_, hstatus⟩
      · rw [hfresh, judge_congr hprice]
        exact hjudge
      · rw [hg, hfresh, writeBack_report id
          (congrArg AssetPrice.lastGood hprice)]
  | tripped held m =>
      -- the latch just set is what the next evaluation reads first
      obtain ⟨-, hheld, -⟩ := judge_tripped hpos
        (fun r hr => (hp.reference a r hr).2) hjudge
      have hhalt : s'.halted.get a = some true :=
        congrArg AssetPrice.halted hprice
      have hgood : s'.lastGood.get a = s.lastGood.get a :=
        congrArg AssetPrice.lastGood hprice
      refine ⟨config, .latched, hconfig', ?_, id, rfl, ?_, hstatus⟩
      · unfold judge
        simp only [hhalt, Option.getD_some, if_true]
        rfl
      · rw [hg, hfresh, hheld, ← hgood]
        rfl
  | agreed m =>
      obtain ⟨hband, -, -⟩ := judge_agreed hpos hjudge
      have hgood : s'.lastGood.get a = some m := by
        have hfield := congrArg AssetPrice.lastGood hprice
        simp only [AssetPrice.after, AssetPrice.agree] at hfield
        split at hfield <;> exact hfield
      have hhalt : s'.halted.get a = s.halted.get a := by
        have hfield := congrArg AssetPrice.halted hprice
        simp only [AssetPrice.after, AssetPrice.agree] at hfield
        split at hfield <;> exact hfield
      have href : s'.rollingReference.get a = some m
          ∨ s'.rollingReference.get a = s.rollingReference.get a := by
        have hfield := congrArg AssetPrice.reference hprice
        simp only [AssetPrice.after, AssetPrice.agree] at hfield
        split at hfield
        · exact .inl hfield
        · exact .inr hfield
      refine ⟨config, .agreed m, hconfig', ?_, id, ?_, ?_, hstatus⟩
      · rw [hfresh]
        exact judge_agreed_again hband.pos hjudge hhalt hgood href
      · rw [hprice]
        exact AssetPrice.agree_twice _ _ _ _
      · rw [hg, hfresh]
        rfl

-- ===================================================== reads in between

theorem lastStatus_writeBack (env : HostEnv) (s : State) (asset : Address)
    (config : AssetGuardConfig) (v : Verdict) :
    (writeBack env s asset config v).1.lastStatus = s.lastStatus := by
  cases v with
  | agreed m =>
      unfold writeBack refreshReference
      simp only
      split <;> rfl
  | _ => rfl

/-- Evaluating another asset is not seen. -/
theorem evaluate_ne {g' : GuardedPrice} (hb : b ≠ a)
    (h : evaluate env b s = .ok (g', s')) :
    priceOf s' a = priceOf s a
      ∧ s'.lastStatus.get a = s.lastStatus.get a := by
  obtain ⟨config, v, -, -, -, hs'⟩ := evaluate_ok h
  constructor
  · rw [hs', samePrices_status.priceOf, priceOf_writeBack_ne v hb.symm]
  · rw [hs', ← lastStatus_writeBack env s b config v]
    unfold checkAndEmitStatusChange
    simp only
    split
    · rfl
    · exact Store.get_set_ne _ _ hb.symm

theorem Stands.other {env' : HostEnv} {g' : GuardedPrice}
    (hs : Stands env a g s config v) (hb : b ≠ a)
    (h : evaluate env' b s = .ok (g', s')) :
    Stands env a g s' config v := by
  obtain ⟨hprice, hlast⟩ := evaluate_ne hb h
  have hfresh := freshSources_congr env a (evaluate_readings h)
    config.maxStalenessS
  have hsettings := evaluate_settings h
  refine ⟨?_, ?_, hs.quiet, ?_, ?_, ?_⟩
  · rw [← hs.configured]
    exact congrArg (fun t : Settings => t.config.get a) hsettings
  · rw [hfresh, judge_congr hprice]
    exact hs.judged
  · rw [hprice]
    exact hs.unmoved
  · rw [hfresh, writeBack_report hs.quiet
      (congrArg AssetPrice.lastGood hprice)]
    exact hs.answer
  · rw [hlast]
    exact hs.status

/-- Guarded prices of several assets, read one after another in one
transaction. -/
def readAll (env : HostEnv) : List Address → State →
    Call (List GuardedPrice × State)
  | [], s => return ([], s)
  | a :: as, s => do
      let (g, s) ← evaluate env a s
      let (gs, s) ← readAll env as s
      return (g :: gs, s)

/-- However many reads follow, of whatever assets, the price stands. -/
theorem Stands.readAll {env' : HostEnv} {as : List Address}
    {gs : List GuardedPrice} (hs : Stands env a g s config v)
    (hnow : env'.timestamp = env.timestamp)
    (h : PriceGuard.readAll env' as s = .ok (gs, s')) :
    Stands env a g s' config v := by
  induction as generalizing s gs with
  | nil =>
      injection h with h
      injection h with _ h
      subst h
      exact hs
  | cons b as ih =>
      simp only [PriceGuard.readAll, bind_ok, pure_ok, Prod.mk.injEq] at h
      obtain ⟨⟨g', s₁⟩, hb, ⟨gs', s₂⟩, hrest, -, rfl⟩ := h
      by_cases hba : b = a
      · -- the price itself, read again: nothing was written
        rw [hba, hs.again hnow] at hb
        injection hb with hb
        injection hb with _ hb
        subst hb
        exact ih hs hrest
      · exact ih (hs.other hba hb) hrest

/-- Once a configured asset's price was read at a ledger time, reading it
again at that time answers the same and writes nothing, at once or after
reads of any assets in between. -/
theorem price_read_again (self : Address) (txs : List Tx) (a : Address)
    (env env' : HostEnv) (g : GuardedPrice) (s' : State)
    (hnow : env'.timestamp = env.timestamp)
    (h : evaluate env a ((machine self).run (machine self).init txs)
      = .ok (g, s')) :
    evaluate env' a s' = .ok (g, s')
    ∧ ∀ as gs s'', readAll env' as s' = .ok (gs, s'') →
      evaluate env' a s'' = .ok (g, s'') := by
  obtain ⟨hr, hp⟩ := guardOk_run self txs
  obtain ⟨config, v, hstands⟩ := evaluate_stands hr hp h
  refine ⟨hstands.again hnow, ?_⟩
  intro as gs s'' hreads
  exact (hstands.readAll hnow hreads).again hnow

/-- The demo's asset after a day's drift: the read at the window's
boundary, and the same read over what it left. -/
theorem price_read_again_demo :
    let s := (machine Demo.self).run (machine Demo.self).init
      (Demo.setup ++ Demo.drift)
    ∃ g s', evaluate (Demo.env 90000).toHostEnv Demo.asset s = .ok (g, s')
      ∧ evaluate (Demo.env 90000).toHostEnv Demo.asset s' = .ok (g, s') := by
  intro s
  obtain ⟨⟨g, s'⟩, h⟩ : ∃ p, evaluate (Demo.env 90000).toHostEnv Demo.asset s
      = .ok p := exists_of_isOk (by decide +kernel)
  exact ⟨g, s', h, (price_read_again Demo.self _ Demo.asset _ _ g s' rfl
    h).1⟩

end Ballast.PriceGuard
