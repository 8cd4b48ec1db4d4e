/-
The halt latch: set by a median that moved too far, opened by the risk
role alone.

The flag and the pending value are set together, by a tripped verdict,
and cleared together, by a confirmed halt. While the flag is set every
verdict is `latched`, which writes nothing, so the asset's price stays
as it was through whatever is published, removed, read, configured or
executed.

# What set it

That a value is pending says that some call of the trace found the asset
running and its median too far away, and that no halt has been confirmed
since (`LatchedIn`). A halted asset is a configured one, because only an
evaluation sets the flag and a configuration is never removed; so its
evaluations answer `Halted` and do not abort.
-/
import Ballast.PriceGuard.Proofs.AssetPrice
import Ballast.PriceGuard.Proofs.Loosening

namespace Ballast.PriceGuard

open Soroban Machine Sorting

-- ============================================================ the latch

/-- The halt flag of `a` is set. -/
def Halted (s : State) (a : Address) : Prop :=
  (s.halted.get a).getD false = true

/-- In `s` the median of the fresh values of `a` is `m`, and `m` is
further from the last good price or from the window's reference than its
band allows. -/
def Trips (env : HostEnv) (s : State) (a : Address) (m : Int) : Prop :=
  ∃ config, s.config.get a = some config
    ∧ m = median (freshValues env s a config.maxStalenessS)
    ∧ ((∃ last, s.lastGood.get a = some last
        ∧ (config.dailyMoveBandBps : Int) < |m - last| * 10000 / last)
      ∨ ∃ ref, s.rollingReference.get a = some ref
        ∧ (config.windowMoveBandBps : Int) < |m - ref| * 10000 / ref)

/-- A call of the trace found `a` running, evaluated it and tripped on
`m`; none since confirmed the halt. -/
def LatchedIn (self : Address) (tr : List (Committed State Tx))
    (a : Address) (m : Int) : Prop :=
  ∃ l₁ c l₂ s₁, tr = l₁ ++ c :: l₂ ∧ ¬ Halted c.before a
    ∧ enteredState c.before c.call.entry = some (a, s₁)
    ∧ Trips (c.call.env.at self).toHostEnv s₁ a m
    ∧ ∀ d ∈ l₂, ¬ d.call.entry.Confirms a

variable {env : GuardEnv} {s s' s₁ : State} {a : Address} {e : Entry}

-- ========================================================= the automaton

/-- The flag is set exactly while a value is pending. -/
def AssetPrice.LatchOk (p : AssetPrice) : Prop :=
  p.halted.getD false = true ↔ ∃ m, p.pending = some m

theorem AssetPrice.LatchOk.after {p : AssetPrice} (hp : p.LatchOk)
    (now window : Nat) (v : Verdict) : (p.after now window v).LatchOk := by
  cases v with
  | latched => exact hp
  | degraded => exact hp
  | tripped held m => simp [LatchOk, AssetPrice.after]
  | agreed m =>
      show (p.agree now window m).LatchOk
      unfold AssetPrice.agree
      split
      · exact hp
      · exact hp

theorem AssetPrice.LatchOk.confirm (p : AssetPrice) (now : Nat) :
    (p.confirm now).LatchOk := by
  unfold LatchOk AssetPrice.confirm
  cases p.pending with
  | none => simp
  | some m => simp

theorem latchOk_run (self : Address) (txs : List Tx) (a : Address) :
    (priceOf ((machine self).run (machine self).init txs) a).LatchOk := by
  refine price_run (P := AssetPrice.LatchOk) ?_ ?_ ?_ self txs
  · simp [AssetPrice.LatchOk, priceOf, State.empty]
  · intro p now window v hp
    exact hp.after now window v
  · intro p now _
    exact .confirm p now

-- ======================================================= while it is set

/-- Under a set flag there is one verdict. -/
theorem judge_latched {config : AssetGuardConfig} {values : List Int}
    (h : Halted s a) : judge s a config values = .ok .latched := by
  have hflag : (s.halted.get a).getD false = true := h
  simp [judge, hflag, pure, Except.pure]

theorem Halted.congr (h : priceOf s' a = priceOf s a) (hs : Halted s a) :
    Halted s' a := by
  have hflag : s'.halted.get a = s.halted.get a :=
    congrArg AssetPrice.halted h
  rw [Halted, hflag]
  exact hs

/-- Nothing but a confirmed halt moves a halted price. -/
theorem Halted.step (hs : Halted s a) (h : call env e s = .ok s')
    (he : ¬ e.Confirms a) : priceOf s' a = priceOf s a := by
  cases call_price h a with
  | same _ _ heq => exact heq
  | judged _ _ hin _ hjudge _ hbefore heq =>
      rw [judge_latched (hs.congr hbefore)] at hjudge
      injection hjudge with hverdict
      rw [heq, ← hverdict]
      rfl
  | confirmed => exact absurd ⟨_, rfl⟩ he

/-- Nor does any run without one. -/
theorem Halted.run (self : Address) {more : List Tx} (hs : Halted s a)
    (h : ∀ c ∈ (machine self).trace s more, ¬ c.call.entry.Confirms a) :
    priceOf ((machine self).run s more) a = priceOf s a := by
  refine run_of_trace (P := fun t => priceOf t a = priceOf s a) rfl ?_
  intro c hc hbefore
  have happ := apply_of_mem_trace hc
  rw [(hs.congr hbefore).step (apply_call happ) (h c hc), hbefore]

-- ================================================== configured throughout

theorem applyChange_config {c : ConfigChange}
    (h : applyChange s c = .ok s') (ha : (s.config.get a).isSome) :
    (s'.config.get a).isSome := by
  have hset : ∀ b v, ((s.config.set b v).get a).isSome := by
    intro b v
    rw [Store.get_set]
    split
    · rfl
    · exact ha
  have hupdate : ∀ b f, updateConfig s b f = .ok s' →
      (s'.config.get a).isSome := by
    intro b f hf
    simp only [updateConfig, bind_ok, pure_ok] at hf
    obtain ⟨_, -, rfl⟩ := hf
    exact hset _ _
  cases c with
  | asset =>
      simp only [applyChange, pure_ok] at h
      subst h
      exact hset _ _
  | issuerPubKey =>
      simp only [applyChange, pure_ok] at h
      subst h
      exact ha
  | requireNavSignature =>
      simp only [applyChange, pure_ok] at h
      subst h
      exact ha
  | _ => exact hupdate _ _ h

/-- A configured asset stays configured. -/
theorem config_stays (h : call env e s = .ok s')
    (ha : (s.config.get a).isSome) : (s'.config.get a).isSome := by
  rcases call_strict h with hs | ⟨id, rfl⟩ | hoff
  · obtain ⟨old, hold⟩ := Option.isSome_iff_exists.mp ha
    obtain ⟨new, hnew, -⟩ := hs.config a old hold
    rw [hnew]
    rfl
  · simp only [call, executeConfig, bind_ok, pure_ok] at h
    obtain ⟨_, -, _, -, s₂, hs₂, rfl⟩ := h
    have hsome : (s₂.config.get a).isSome := applyChange_config hs₂ ha
    exact hsome
  · obtain ⟨-, -, -, hconfig, -⟩ := hoff
    rw [hconfig]
    exact ha

/-- A halted asset is configured. -/
def HaltedConfigured (s : State) : Prop :=
  ∀ a, Halted s a → (s.config.get a).isSome

theorem HaltedConfigured.step (hs : HaltedConfigured s)
    (h : call env e s = .ok s') : HaltedConfigured s' := by
  intro a ha
  apply config_stays h
  cases call_price h a with
  | same _ _ heq => exact hs a (ha.congr heq.symm)
  | judged _ _ _ hconfig =>
      rw [hconfig]
      rfl
  | confirmed heq =>
      have hflag : s'.halted.get a = none := by
        have hcong := congrArg AssetPrice.halted heq
        unfold AssetPrice.confirm at hcong
        split at hcong
        · exact hcong
        · exact hcong
      rw [Halted, hflag] at ha
      cases ha

theorem haltedConfigured_run (self : Address) (txs : List Tx) :
    HaltedConfigured ((machine self).run (machine self).init txs) := by
  refine run_induction (P := HaltedConfigured) ?_ ?_ (allowed_true _ txs)
  · intro s tx s' hs _ happ
    exact hs.step (apply_call happ)
  · intro a ha
    cases ha

/-- A halted asset that is configured evaluates to `Halted`. -/
theorem evaluate_halted (env : HostEnv) (hs : Halted s a)
    (hconfig : (s.config.get a).isSome) :
    ∃ g s', evaluate env a s = .ok (g, s') ∧ g.status = .halted := by
  obtain ⟨config, hconfig⟩ := Option.isSome_iff_exists.mp hconfig
  have hjudge : judge s a config ((freshSources env s a
      config.maxStalenessS).map (·.value)) = .ok .latched :=
    judge_latched hs
  obtain ⟨s', heval⟩ := evaluate_of_judge hconfig hjudge
  exact ⟨_, s', heval, rfl⟩

-- ========================================================== what set it

/-- A tripped verdict is a median that moved too far. -/
theorem trips_of_judge {env : HostEnv} {config : AssetGuardConfig}
    {held m : Int} (hr : ReadingsOk s)
    (hconfig : s.config.get a = some config)
    (h : judge s a config ((freshSources env s a config.maxStalenessS).map
      (·.value)) = .ok (.tripped held m)) : Trips env s a m := by
  obtain ⟨hband, hmoved⟩ := judge_moved
    (freshSources_pos env a hr config.maxStalenessS) h
  refine ⟨config, hconfig, ?_, ?_⟩
  · rw [← freshSources_values env a hr]
    exact hband.median
  · rcases hmoved with hdaily | hwindow
    · obtain ⟨last, hlast, -, hfar⟩ := movedTooFar_true hdaily
      exact .inl ⟨last, hlast, hfar⟩
    · obtain ⟨ref, href, -, hfar⟩ := movedTooFar_true hwindow
      exact .inr ⟨ref, href, hfar⟩

theorem LatchedIn.snoc {self : Address} {tr : List (Committed State Tx)}
    {m : Int} (h : LatchedIn self tr a m) {c : Committed State Tx}
    (hc : ¬ c.call.entry.Confirms a) : LatchedIn self (tr ++ [c]) a m := by
  obtain ⟨l₁, b, l₂, s₁, htr, hrun, hent, htrips, hnone⟩ := h
  refine ⟨l₁, b, l₂ ++ [c], s₁, by rw [htr]; simp, hrun, hent, htrips, ?_⟩
  intro d hd
  rcases List.mem_append.mp hd with hd | hd
  · exact hnone d hd
  · rw [List.mem_singleton.mp hd]
    exact hc

/-- What is pending after a committed call was pending before it, or has
just been tripped on. -/
theorem pending_step {self : Address} {tr : List (Committed State Tx)}
    {tx : Tx} (hr : ReadingsOk s)
    (h : call (tx.env.at self) tx.entry s = .ok s')
    (htr : ∀ m, s.pendingHaltValue.get a = some m → LatchedIn self tr a m)
    {m : Int} (hm : s'.pendingHaltValue.get a = some m) :
    LatchedIn self (tr ++ [⟨tx, s, s'⟩]) a m := by
  obtain ⟨env, e⟩ := tx
  have hpending : (priceOf s' a).pending = some m := hm
  cases call_price h a with
  | same hconf _ heq =>
      rw [heq] at hpending
      exact (htr m hpending).snoc hconf
  | @judged _ s₁ config verdict hconf hent hin hconfig hjudge _ hbefore
      heq =>
      rw [heq] at hpending
      cases verdict with
      | latched => exact (htr m hpending).snoc hconf
      | degraded => exact (htr m hpending).snoc hconf
      | agreed v =>
          have hsame : ((priceOf s a).agree (env.at self).timestamp
              config.windowSeconds v).pending = (priceOf s a).pending := by
            unfold AssetPrice.agree
            split <;> rfl
          refine (htr m ?_).snoc hconf
          exact hsame.symm.trans hpending
      | tripped held v =>
          injection hpending with hpending
          subst hpending
          refine ⟨tr, ⟨⟨env, e⟩, s, s'⟩, [], s₁, rfl, ?_, hent, ?_,
            by simp⟩
          · intro hhalted
            rw [judge_latched (hhalted.congr hbefore)] at hjudge
            cases hjudge
          · refine trips_of_judge (hr.entered hin) ?_ hjudge
            rw [hin.config_eq, hconfig]
  | confirmed heq =>
      rw [heq] at hpending
      unfold AssetPrice.confirm at hpending
      split at hpending
      · cases hpending
      · next hnone =>
        have hnone' : (priceOf s a).pending = some m := hpending
        rw [hnone] at hnone'
        cases hnone'

theorem pending_run (self : Address) (txs : List Tx) :
    ∀ a m, ((machine self).run (machine self).init
        txs).pendingHaltValue.get a = some m →
      LatchedIn self ((machine self).trace (machine self).init txs) a m := by
  have h := trace_induction (M := machine self)
    (P := fun s tr => GuardOk s ∧ ∀ a m,
      s.pendingHaltValue.get a = some m → LatchedIn self tr a m)
    (s := (machine self).init) ⟨guardOk_run self [], by
      intro a m hm
      cases hm⟩ ?_ (allowed_true _ txs)
  · exact h.2
  · intro s tr tx s' hs _ happ
    have hcall := apply_call happ
    refine ⟨hs.1.effect (call_effect hcall), ?_⟩
    intro a m hm
    exact pending_step hs.1.1 hcall (hs.2 a) hm

-- ============================================================= all runs

/-- A confirmed halt is the risk role's, and makes the pending value the
baseline. -/
theorem confirm_promotes (h : call env e s = .ok s') (he : e.Confirms a) :
    (∃ r, s.roles = some r ∧ env.Grants r.risk)
      ∧ ∀ m, s.pendingHaltValue.get a = some m →
        s'.lastGood.get a = some m ∧ s'.rollingReference.get a = some m
          ∧ ¬ Halted s' a := by
  obtain ⟨risk, rfl⟩ := he
  constructor
  · simp only [call, confirmHaltCleared, requireRisk, bind_ok,
      requireRole_ok] at h
    obtain ⟨-, -, _, ⟨r, hr, hgrants, -⟩, -⟩ := h
    exact ⟨r, hr, hgrants⟩
  · intro m hm
    have hpending : (priceOf s a).pending = some m := hm
    cases call_price h a with
    | same hconf => exact absurd ⟨risk, rfl⟩ hconf
    | judged hconf => exact absurd ⟨risk, rfl⟩ hconf
    | confirmed heq =>
        rw [AssetPrice.confirm, hpending] at heq
        have hflag : s'.halted.get a = none :=
          congrArg AssetPrice.halted heq
        refine ⟨congrArg AssetPrice.lastGood heq,
          congrArg AssetPrice.reference heq, ?_⟩
        rw [Halted, hflag]
        decide

/-- The latch over a run: set exactly while a value is pending, the value
being the median that tripped; untouched by every continuation without a
confirmed halt, whatever is called and evaluated meanwhile; and opened by
the risk role onto the pending value. -/
theorem halt_latch (self : Address) (txs : List Tx) (a : Address) :
    let s := (machine self).run (machine self).init txs
    (Halted s a ↔ ∃ m, s.pendingHaltValue.get a = some m)
      ∧ (∀ m, s.pendingHaltValue.get a = some m →
        LatchedIn self ((machine self).trace (machine self).init txs) a m)
      ∧ (Halted s a → ∀ more,
        (∀ c ∈ (machine self).trace s more, ¬ c.call.entry.Confirms a) →
        let s' := (machine self).run s more
        Halted s' a ∧ s'.lastGood.get a = s.lastGood.get a
          ∧ s'.rollingReference.get a = s.rollingReference.get a
          ∧ s'.pendingHaltValue.get a = s.pendingHaltValue.get a
          ∧ ∀ env s₁, Entered env s' a s₁ →
            ∃ g s₂, evaluate env a s₁ = .ok (g, s₂)
              ∧ g.status = .halted)
      ∧ ∀ tx s', (machine self).apply tx s = .ok s' →
        tx.entry.Confirms a →
        (∃ r, s.roles = some r ∧ (tx.env.at self).Grants r.risk)
          ∧ ∀ m, s.pendingHaltValue.get a = some m →
            s'.lastGood.get a = some m
              ∧ s'.rollingReference.get a = some m ∧ ¬ Halted s' a := by
  intro s
  refine ⟨latchOk_run self txs a, pending_run self txs a, ?_, ?_⟩
  · intro hs more hno s'
    have hsame : priceOf s' a = priceOf s a := hs.run self hno
    have hhalted : Halted s' a := hs.congr hsame
    have hconfig : (s'.config.get a).isSome := by
      have hrun := haltedConfigured_run self (txs ++ more)
      rw [run_append] at hrun
      exact hrun a hhalted
    refine ⟨hhalted, congrArg AssetPrice.lastGood hsame,
      congrArg AssetPrice.reference hsame,
      congrArg AssetPrice.pending hsame, ?_⟩
    intro env s₁ hin
    refine evaluate_halted env (hhalted.congr (hin.prices.priceOf a)) ?_
    rw [hin.config_eq]
    exact hconfig
  · intro tx s' happ hconf
    exact confirm_promotes (apply_call happ) hconf

end Ballast.PriceGuard
