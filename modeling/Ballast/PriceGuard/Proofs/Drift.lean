/-
Slow drift is bounded: whatever a publisher does, `Ok` prices move by at
most one window band per window.

# The bound

A price is checked against the reference before it can become one, and
the reference moves at most once per window. So after `n` windows the
reference has moved at most `n` times since the first price, each time
by less than a factor of `(10001 + w) / 10000`, and a price is one such
factor from the reference (`Within`). The extra one in 10001 is what
flooring the bps figure gives away.

# The run

`okPrices` lists the `Ok` evaluations of an asset along a trace. The
invariant (`Drifting`) ties the stored reference to the first of them,
and carries the bound of all the others.
-/
import Ballast.PriceGuard.Proofs.AssetPrice
import Ballast.PriceGuard.Proofs.Queues
import Mathlib.Tactic.Linarith
import Mathlib.Tactic.Positivity
import Mathlib.Tactic.Ring

namespace Ballast.PriceGuard

open Soroban Machine

-- ============================================================ the bound

/-- `v` is below `v₀` times `n` steps of `w` bps, rounded up. -/
def Within (w n : Nat) (v₀ v : Int) : Prop :=
  v * 10000 ^ n < v₀ * (10001 + w) ^ n

section Bound

variable {w j n : Nat} {v₀ r v : Int}

/-- More steps allow more. -/
theorem Within.mono (hv₀ : 0 < v₀) (h : Within w j v₀ v) (hjn : j ≤ n) :
    Within w n v₀ v := by
  obtain ⟨i, rfl⟩ := Nat.exists_eq_add_of_le hjn
  unfold Within at *
  have hpow : (10000 : Int) ^ i ≤ (10001 + w) ^ i := by
    apply pow_le_pow_left₀ (by decide)
    omega
  have hside : 0 ≤ v₀ * (10001 + (w : Int)) ^ j := by positivity
  calc v * 10000 ^ (j + i)
      = v * 10000 ^ j * 10000 ^ i := by ring
    _ < v₀ * (10001 + w) ^ j * 10000 ^ i :=
        mul_lt_mul_of_pos_right h (by positivity)
    _ ≤ v₀ * (10001 + w) ^ j * (10001 + w) ^ i :=
        mul_le_mul_of_nonneg_left hpow hside
    _ = v₀ * (10001 + w) ^ (j + i) := by ring

/-- One step from a reference that is `j` steps away. -/
theorem Within.step (hr : r * 10000 ^ j ≤ v₀ * (10001 + w) ^ j)
    (hv : v * 10000 < r * (10001 + w)) : Within w (j + 1) v₀ v := by
  have hpos : (0 : Int) < 10000 ^ j := by positivity
  have hw : (0 : Int) ≤ 10001 + w := by omega
  calc v * 10000 ^ (j + 1)
      = v * 10000 * 10000 ^ j := by ring
    _ < r * (10001 + w) * 10000 ^ j := mul_lt_mul_of_pos_right hv hpos
    _ = r * 10000 ^ j * (10001 + w) := by ring
    _ ≤ v₀ * (10001 + w) ^ j * (10001 + w) :=
        mul_le_mul_of_nonneg_right hr hw
    _ = v₀ * (10001 + w) ^ (j + 1) := by ring

/-- What the move check says about the two prices. -/
theorem lt_of_not_moved (hr : 0 < r)
    (h : movedTooFar (some r) v w = .ok false) :
    v * 10000 < r * (10001 + w) := by
  have hband := movedTooFar_false hr h
  have hlt : |v - r| * 10000 / r < w + 1 := by omega
  have hmul := (Int.ediv_lt_iff_lt_mul hr).mp hlt
  have habs := le_abs_self (v - r)
  nlinarith

end Bound

-- ==================================================== the ok evaluations

/-- The price of `a` a committed call evaluated. -/
def evaluatedIn (self a : Address) (c : Committed State Tx) :
    Option GuardedPrice :=
  match enteredState c.before c.call.entry with
  | some (b, s₁) =>
      if b = a then (evaluate (c.call.env.at self).toHostEnv a
        s₁).toOption.map Prod.fst
      else none
  | none => none

/-- The time and the value of an `Ok` evaluation of `a`. -/
def okPrice (self a : Address) (c : Committed State Tx) :
    Option (Nat × Int) :=
  (evaluatedIn self a c).bind fun g =>
    if g.status = .ok then some (c.call.time, g.value) else none

/-- The `Ok` evaluations of `a` along a trace. -/
def okPrices (self a : Address) (tr : List (Committed State Tx)) :
    List (Nat × Int) :=
  tr.filterMap (okPrice self a)

/-- The call rewrote the window's reference of `a`. -/
def Refreshes (a : Address) (c : Committed State Tx) : Prop :=
  (c.after.rollingReference.get a, c.after.rollingReferenceUpdated.get a)
    ≠ (c.before.rollingReference.get a,
      c.before.rollingReferenceUpdated.get a)

variable {self a : Address} {c : Committed State Tx} {s s' : State}

/-- A committed call that confirms no halt of `a` agrees on a price for
it, or leaves what prices are compared with alone. -/
inductive DriftStep (self a : Address) (c : Committed State Tx) : Prop
  | still : okPrice self a c = none →
      (priceOf c.after a).reference = (priceOf c.before a).reference →
      (priceOf c.after a).updated = (priceOf c.before a).updated →
      DriftStep self a c
  | agreed {config : AssetGuardConfig} {m : Int} :
      okPrice self a c = some (c.call.time, m) →
      c.before.config.get a = some config → 0 < m →
      (∀ r, (priceOf c.before a).reference = some r →
        movedTooFar (some r) m config.windowMoveBandBps = .ok false) →
      priceOf c.after a = (priceOf c.before a).agree c.call.time
        config.windowSeconds m → DriftStep self a c

theorem call_drift (hr : ReadingsOk c.before)
    (h : call (c.call.env.at self) c.call.entry c.before = .ok c.after)
    (hc : ¬ c.call.entry.Confirms a) : DriftStep self a c := by
  obtain ⟨⟨env, e⟩, s, s'⟩ := c
  cases call_price h a with
  | same _ hent heq =>
      refine .still ?_ (congrArg AssetPrice.reference heq)
        (congrArg AssetPrice.updated heq)
      unfold okPrice evaluatedIn
      simp only
      split
      · next b s₁ hs₁ =>
        rw [if_neg]
        · rfl
        · intro hb
          rw [hb] at hs₁
          exact hent s₁ hs₁
      · rfl
  | confirmed => exact absurd ⟨_, rfl⟩ hc
  | @judged _ s₁ config verdict _ hent hin hconfig hjudge heval hbefore
      heq =>
      have hprice : okPrice self a ⟨⟨env, e⟩, s, s'⟩
          = if (writeBack (env.at self).toHostEnv s₁ a config
              verdict).2.1 = .ok
            then some (env.timestamp, (writeBack (env.at self).toHostEnv s₁
              a config verdict).2.2) else none := by
        simp only [okPrice, evaluatedIn, hent, heval, Except.toOption,
          if_pos, Option.map_some, Option.bind_some]
        rfl
      cases verdict with
      | latched =>
          exact .still hprice (congrArg AssetPrice.reference heq)
            (congrArg AssetPrice.updated heq)
      | degraded =>
          exact .still hprice (congrArg AssetPrice.reference heq)
            (congrArg AssetPrice.updated heq)
      | tripped held m =>
          refine .still hprice ?_ ?_
          · rw [heq]
            rfl
          · rw [heq]
            rfl
      | agreed m =>
          obtain ⟨hband, -, hwindow⟩ := judge_agreed
            (freshSources_pos (env.at self).toHostEnv a (hr.entered hin)
              config.maxStalenessS) hjudge
          refine .agreed hprice hconfig hband.pos ?_ heq
          intro r href
          have href' : (priceOf s₁ a).reference = some r := by
            rw [hbefore]
            exact href
          change s₁.rollingReference.get a = some r at href'
          rw [href'] at hwindow
          exact hwindow

-- ======================================================== the invariant

/-- The stored reference is at most one step away from the first price
for each window passed since, and so was every later price when it was
agreed on. -/
inductive Drifting (W w : Nat) (p : AssetPrice) : List (Nat × Int) → Prop
  | fresh : p.reference = none → p.updated = none → Drifting W w p []
  | moving {t₀ u : Nat} {v₀ r : Int} {rest : List (Nat × Int)} :
      p.reference = some r → p.updated = some u → 0 < v₀ → 0 < r →
      t₀ ≤ u →
      r * 10000 ^ ((u - t₀) / W) ≤ v₀ * (10001 + w) ^ ((u - t₀) / W) →
      (∀ q ∈ rest, t₀ ≤ q.1 ∧ Within w ((q.1 - t₀) / W + 1) v₀ q.2) →
      Drifting W w p ((t₀, v₀) :: rest)

/-- A reference that is due has been there for a window. -/
theorem AssetPrice.Due.le {p : AssetPrice} {now W u : Nat}
    (h : p.Due now W) (hW : 0 < W) (hu : p.updated = some u) :
    u + W ≤ now := by
  have hdue := h u hu
  omega

theorem Drifting.congr {W w : Nat} {p p' : AssetPrice}
    {prices : List (Nat × Int)} (h : Drifting W w p prices)
    (href : p'.reference = p.reference) (hupd : p'.updated = p.updated) :
    Drifting W w p' prices := by
  cases h with
  | fresh hr hu => exact .fresh (href.trans hr) (hupd.trans hu)
  | moving hr hu hv₀ hr₀ ht hdrift hrest =>
      exact .moving (href.trans hr) (hupd.trans hu) hv₀ hr₀ ht hdrift hrest

/-- The step: a new price, checked against the reference before it may
replace it. -/
theorem Drifting.agree {W w now : Nat} {p : AssetPrice} {m : Int}
    {prices : List (Nat × Int)} (h : Drifting W w p prices) (hW : 0 < W)
    (hm : 0 < m)
    (hband : ∀ r, p.reference = some r →
      movedTooFar (some r) m w = .ok false)
    (hnow : ∀ u, p.updated = some u → u ≤ now) :
    Drifting W w (p.agree now W m) (prices ++ [(now, m)]) := by
  cases h with
  | fresh hr hu =>
      have hdue : p.Due now W := by
        intro ts hts
        rw [hu] at hts
        cases hts
      rw [AssetPrice.agree, if_pos hdue]
      exact .moving rfl rfl hm hm le_rfl (by simp) (by simp)
  | @moving t₀ u v₀ r rest hr hu hv₀ hr₀ ht hdrift hrest =>
      have hle := hnow u hu
      have hstep : Within w ((u - t₀) / W + 1) v₀ m :=
        .step hdrift (lt_of_not_moved hr₀ (hband r hr))
      have hall : ∀ q ∈ rest ++ [(now, m)],
          t₀ ≤ q.1 ∧ Within w ((q.1 - t₀) / W + 1) v₀ q.2 := by
        intro q hq
        rcases List.mem_append.mp hq with hq | hq
        · exact hrest q hq
        · rw [List.mem_singleton.mp hq]
          refine ⟨ht.trans hle, hstep.mono hv₀ (Nat.succ_le_succ ?_)⟩
          exact Nat.div_le_div_right (Nat.sub_le_sub_right hle t₀)
      unfold AssetPrice.agree
      by_cases hdue : p.Due now W
      · rw [if_pos hdue]
        -- a whole window lies between the two references
        have hwin : (u - t₀) / W + 1 ≤ (now - t₀) / W := by
          rw [Nat.le_div_iff_mul_le hW, Nat.succ_mul]
          have hfloor := Nat.div_mul_le_self (u - t₀) W
          have hspace := hdue.le hW hu
          omega
        have hnew : Within w ((now - t₀) / W) v₀ m := hstep.mono hv₀ hwin
        exact .moving rfl rfl hv₀ hm (ht.trans hle) (le_of_lt hnew) hall
      · rw [if_neg hdue]
        exact .moving hr hu hv₀ hr₀ ht hdrift hall

-- ============================================================= all runs

/-- A reference and its time are stored together. -/
def AssetPrice.Paired (p : AssetPrice) : Prop :=
  p.updated.isSome = p.reference.isSome

theorem AssetPrice.Paired.after {p : AssetPrice} (hp : p.Paired)
    (now window : Nat) (v : Verdict) : (p.after now window v).Paired := by
  cases v with
  | latched => exact hp
  | degraded => exact hp
  | tripped held m => exact hp
  | agreed m =>
      show (p.agree now window m).Paired
      unfold AssetPrice.agree
      split
      · rfl
      · exact hp

theorem AssetPrice.Paired.confirm {p : AssetPrice} (hp : p.Paired)
    (now : Nat) : (p.confirm now).Paired := by
  unfold AssetPrice.confirm
  split
  · rfl
  · exact hp

theorem paired_run (self : Address) (txs : List Tx) (a : Address) :
    (priceOf ((machine self).run (machine self).init txs) a).Paired := by
  refine price_run (P := AssetPrice.Paired) rfl ?_ ?_ self txs
  · intro p now window v hp
    exact hp.after now window v
  · intro p now hp
    exact hp.confirm now

/-- No halt of `a` is confirmed along the run, and its configuration
stays as it is. -/
def Steady (self a : Address) (s : State) (txs : List Tx) : Prop :=
  ∀ c ∈ (machine self).trace s txs, ¬ c.call.entry.Confirms a
    ∧ c.after.config.get a = c.before.config.get a

/-- What holds along a steady run that starts without a reference. -/
structure DriftOk (contract a : Address) (config : AssetGuardConfig)
    (s : State) (tr : List (Committed State Tx)) : Prop where
  stored : s.config.get a = some config
  prices : Drifting config.windowSeconds config.windowMoveBandBps
    (priceOf s a) (okPrices contract a tr)
  /-- the reference was last refreshed by one of the calls -/
  past : ∀ u, (priceOf s a).updated = some u → ∃ c ∈ tr, c.call.time = u
  spaced : tr.Pairwise fun c d => Refreshes a c → Refreshes a d →
    c.call.time + config.windowSeconds ≤ d.call.time
  /-- and by none of them earlier -/
  latest : ∀ c ∈ tr, Refreshes a c →
    ∃ u, (priceOf s a).updated = some u ∧ c.call.time ≤ u

theorem refreshes_iff : Refreshes a c ↔
    ¬ ((priceOf c.after a).reference = (priceOf c.before a).reference
      ∧ (priceOf c.after a).updated = (priceOf c.before a).updated) := by
  unfold Refreshes priceOf
  simp

/-- A call that leaves the reference alone. -/
theorem DriftOk.still {config : AssetGuardConfig}
    {tr : List (Committed State Tx)} (h : DriftOk self a config c.before tr)
    (hstored : c.after.config.get a = some config)
    (hprice : okPrice self a c = none)
    (href : (priceOf c.after a).reference = (priceOf c.before a).reference)
    (hupd : (priceOf c.after a).updated = (priceOf c.before a).updated) :
    DriftOk self a config c.after (tr ++ [c]) := by
  have hno : ¬ Refreshes a c := by
    rw [refreshes_iff]
    exact fun hn => hn ⟨href, hupd⟩
  refine ⟨hstored, ?_, ?_, ?_, ?_⟩
  · have hnew : okPrices self a (tr ++ [c]) = okPrices self a tr := by
      simp [okPrices, hprice]
    rw [hnew]
    exact h.prices.congr href hupd
  · intro u hu
    obtain ⟨d, hd, ht⟩ := h.past u (hupd.symm.trans hu)
    exact ⟨d, List.mem_append_left _ hd, ht⟩
  · refine List.pairwise_append.mpr ⟨h.spaced, List.pairwise_singleton _ _,
      ?_⟩
    intro d _ e he _ hrefresh
    rw [List.mem_singleton.mp he] at hrefresh
    exact absurd hrefresh hno
  · intro d hd hrefresh
    rcases List.mem_append.mp hd with hd | hd
    · rw [hupd]
      exact h.latest d hd hrefresh
    · rw [List.mem_singleton.mp hd] at hrefresh
      exact absurd hrefresh hno

/-- A call that agrees on a price. -/
theorem DriftOk.agreed {config : AssetGuardConfig} {m : Int}
    {tr : List (Committed State Tx)} (h : DriftOk self a config c.before tr)
    (hW : 0 < config.windowSeconds)
    (htime : ∀ d ∈ tr, d.call.time ≤ c.call.time)
    (hstored : c.after.config.get a = some config)
    (hprice : okPrice self a c = some (c.call.time, m)) (hm : 0 < m)
    (hband : ∀ r, (priceOf c.before a).reference = some r →
      movedTooFar (some r) m config.windowMoveBandBps = .ok false)
    (heq : priceOf c.after a = (priceOf c.before a).agree c.call.time
      config.windowSeconds m) :
    DriftOk self a config c.after (tr ++ [c]) := by
  have hnow : ∀ u, (priceOf c.before a).updated = some u →
      u ≤ c.call.time := by
    intro u hu
    obtain ⟨d, hd, rfl⟩ := h.past u hu
    exact htime d hd
  have hupd : (priceOf c.after a).updated
      = if (priceOf c.before a).Due c.call.time config.windowSeconds
        then some c.call.time else (priceOf c.before a).updated := by
    rw [heq, AssetPrice.agree]
    split <;> rfl
  -- the reference is taken anew only when it was due
  have hdue : Refreshes a c → (priceOf c.before a).Due c.call.time
      config.windowSeconds := by
    intro hrefresh
    by_contra hno
    rw [AssetPrice.agree, if_neg hno] at heq
    exact refreshes_iff.mp hrefresh (by rw [heq]; exact ⟨rfl, rfl⟩)
  refine ⟨hstored, ?_, ?_, ?_, ?_⟩
  · have hnew : okPrices self a (tr ++ [c])
        = okPrices self a tr ++ [(c.call.time, m)] := by
      simp [okPrices, hprice]
    rw [hnew, heq]
    exact h.prices.agree hW hm hband hnow
  · intro u hu
    rw [hupd] at hu
    split at hu
    · injection hu with hu
      exact ⟨c, by simp, hu⟩
    · obtain ⟨d, hd, ht⟩ := h.past u hu
      exact ⟨d, List.mem_append_left _ hd, ht⟩
  · refine List.pairwise_append.mpr ⟨h.spaced, List.pairwise_singleton _ _,
      ?_⟩
    intro d hd e he hd' hrefresh
    rw [List.mem_singleton.mp he] at hrefresh ⊢
    obtain ⟨u, hu, hle⟩ := h.latest d hd hd'
    -- and then a window has passed since the last time
    have hspace := (hdue hrefresh).le hW hu
    omega
  · intro d hd hrefresh
    rw [hupd]
    rcases List.mem_append.mp hd with hd | hd
    · obtain ⟨u, hu, hle⟩ := h.latest d hd hrefresh
      split
      · exact ⟨_, rfl, htime d hd⟩
      · exact ⟨u, hu, hle⟩
    · rw [List.mem_singleton.mp hd] at hrefresh ⊢
      rw [if_pos (hdue hrefresh)]
      exact ⟨_, rfl, le_rfl⟩

theorem driftOk_run (self a : Address) (pre more : List Tx)
    {config : AssetGuardConfig}
    (hconfig : ((machine self).run (machine self).init pre).config.get a
      = some config)
    (hW : 0 < config.windowSeconds)
    (href : ((machine self).run (machine self).init
      pre).rollingReference.get a = none)
    (hchron : Chronological Tx.time more)
    (hsteady : Steady self a ((machine self).run (machine self).init pre)
      more) :
    DriftOk self a config
      ((machine self).run ((machine self).run (machine self).init pre) more)
      ((machine self).trace ((machine self).run (machine self).init pre)
        more) := by
  refine trace_induction_prefix ?_ ?_
  · have hpaired := paired_run self pre a
    have hnone : (priceOf ((machine self).run (machine self).init pre)
        a).updated = none := by
      have href' : (priceOf ((machine self).run (machine self).init pre)
        a).reference = none := href
      rw [AssetPrice.Paired, href'] at hpaired
      simpa using hpaired
    refine ⟨hconfig, .fresh href hnone, ?_, .nil, by simp⟩
    intro u hu
    rw [hnone] at hu
    cases hu
  · intro p tx post s' hmore h happ
    have hmem : (⟨tx, (machine self).run ((machine self).run
        (machine self).init pre) p, s'⟩ : Committed State Tx) ∈
        (machine self).trace ((machine self).run (machine self).init pre)
          more := by
      rw [hmore, trace_append, trace_cons_ok _ happ]
      simp
    obtain ⟨hconf, hsame⟩ := hsteady _ hmem
    have hok : ReadingsOk ((machine self).run ((machine self).run
        (machine self).init pre) p) := by
      rw [← run_append]
      exact (guardOk_run self (pre ++ p)).1
    have hstored : s'.config.get a = some config := hsame.trans h.stored
    cases call_drift hok (apply_call happ) hconf with
    | still hprice href hupd => exact h.still hstored hprice href hupd
    | agreed hprice hconfig' hm hband heq =>
        cases Option.some.inj (h.stored.symm.trans hconfig')
        refine h.agreed hW ?_ hstored hprice hm hband heq
        intro d hd
        rw [hmore] at hchron
        exact hchron.le_call hd

/-- Over every steady run that starts with the asset configured and no
price stored: an `Ok` price that comes `n` windows after the first is
less than `n + 1` steps of the window band above it, and the reference
is refreshed at most once per window. -/
theorem drift_bounded (self a : Address) (pre more : List Tx)
    (config : AssetGuardConfig)
    (hconfig : ((machine self).run (machine self).init pre).config.get a
      = some config)
    (hW : 0 < config.windowSeconds)
    (_ : ((machine self).run (machine self).init pre).lastGood.get a = none)
    (href : ((machine self).run (machine self).init
      pre).rollingReference.get a = none)
    (hchron : Chronological Tx.time more)
    (hsteady : Steady self a ((machine self).run (machine self).init pre)
      more) :
    (∀ t₀ v₀ rest, okPrices self a ((machine self).trace
        ((machine self).run (machine self).init pre) more)
          = (t₀, v₀) :: rest →
      ∀ q ∈ rest, t₀ ≤ q.1 ∧ Within config.windowMoveBandBps
        ((q.1 - t₀) / config.windowSeconds + 1) v₀ q.2)
      ∧ ((machine self).trace ((machine self).run (machine self).init pre)
          more).Pairwise fun c d => Refreshes a c → Refreshes a d →
        c.call.time + config.windowSeconds ≤ d.call.time := by
  have h := driftOk_run self a pre more hconfig hW href hchron hsteady
  refine ⟨?_, h.spaced⟩
  intro t₀ v₀ rest hprices
  have hdrift := h.prices
  rw [hprices] at hdrift
  cases hdrift with
  | moving _ _ _ _ _ _ hrest => exact hrest

theorem drift_bounded_demo :
    okPrices Demo.self Demo.asset ((machine Demo.self).trace
        ((machine Demo.self).run (machine Demo.self).init Demo.setup)
        Demo.drift) = [(0, 1000000), (90000, 1005000)]
      ∧ Within 100 2 1000000 1005000 := by
  have hprices : okPrices Demo.self Demo.asset ((machine Demo.self).trace
      ((machine Demo.self).run (machine Demo.self).init Demo.setup)
      Demo.drift) = [(0, 1000000), (90000, 1005000)] := by decide +kernel
  have hsteady : Steady Demo.self Demo.asset ((machine Demo.self).run
      (machine Demo.self).init Demo.setup) Demo.drift := by
    unfold Steady
    decide +kernel
  have h := drift_bounded Demo.self Demo.asset Demo.setup Demo.drift
    ⟨50, 200, 3600, 86400, 100⟩ (by decide) (by decide) (by decide)
    (by decide) (by unfold Chronological; decide) hsteady
  have hdrift := h.1 0 1000000 _ hprices (90000, 1005000) (by simp)
  exact ⟨hprices, hdrift.2⟩

end Ballast.PriceGuard
