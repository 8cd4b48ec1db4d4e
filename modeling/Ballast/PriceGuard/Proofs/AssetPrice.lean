/-
One asset's price as an automaton of its own: what the guard remembers
about it (`AssetPrice`) and the three things that move it.

A verdict of the rules moves it (`AssetPrice.after`), a confirmed halt
moves it (`AssetPrice.confirm`), and everything else leaves it alone,
evaluations of other assets included. `call_price` is the simulation:
whatever the call, the asset's price makes one of these steps. The
latch and the drift bound are about this automaton.

The storage keeps the parts of an asset's price in separate maps, the
last good one, the reference and its time, the flag and the pending
value; `priceOf` reads them together. `price_run` turns any property
that the two moves keep into one of every run and every asset, so the
results on prices never look at the maps again.
-/
import Ballast.PriceGuard.Proofs.Prices

namespace Ballast.PriceGuard

open Soroban

-- ======================================================== the automaton

/-- What is stored about the price of one asset. -/
structure AssetPrice where
  lastGood : Option Int
  reference : Option Int
  updated : Option Nat
  halted : Option Bool
  pending : Option Int
  deriving DecidableEq, Repr

/-- The price of `a` in a state. -/
def priceOf (s : State) (a : Address) : AssetPrice where
  lastGood := s.lastGood.get a
  reference := s.rollingReference.get a
  updated := s.rollingReferenceUpdated.get a
  halted := s.halted.get a
  pending := s.pendingHaltValue.get a

namespace AssetPrice

/-- The reference is due: never set, or set a window ago. -/
def Due (p : AssetPrice) (now window : Nat) : Prop :=
  ∀ ts, p.updated = some ts → window ≤ now - ts

instance (p : AssetPrice) (now window : Nat) :
    Decidable (p.Due now window) :=
  decidable_of_iff (p.updated.all fun ts => decide (window ≤ now - ts)) (by
    cases hp : p.updated with
    | none => simp [Due, hp]
    | some ts => simp [Due, hp])

/-- After a new price: the last good one, and the reference if due. -/
def agree (p : AssetPrice) (now window : Nat) (m : Int) : AssetPrice :=
  if p.Due now window then
    { p with lastGood := some m, reference := some m, updated := some now }
  else { p with lastGood := some m }

/-- After a verdict. -/
def after (p : AssetPrice) (now window : Nat) : Verdict → AssetPrice
  | .latched => p
  | .degraded => p
  | .tripped _ m => { p with halted := some true, pending := some m }
  | .agreed m => p.agree now window m

/-- After a confirmed halt. -/
def confirm (p : AssetPrice) (now : Nat) : AssetPrice :=
  match p.pending with
  | some m => ⟨some m, some m, some now, none, none⟩
  | none => { p with halted := none }

end AssetPrice

-- ======================================================= the simulation

variable {env : HostEnv} {s s' s₁ : State} {a asset : Address} {e : Entry}
  {config : AssetGuardConfig}

theorem SamePrices.priceOf (h : SamePrices s s') (a : Address) :
    priceOf s' a = priceOf s a := by
  unfold PriceGuard.priceOf
  rw [h.lastGood, h.reference, h.updated, h.halted, h.pending]

theorem due_iff {now window : Nat} :
    ((s.rollingReferenceUpdated.get asset).elim true fun ts =>
      decide (window ≤ now - ts)) = true ↔
        (priceOf s asset).Due now window := by
  unfold AssetPrice.Due priceOf
  cases s.rollingReferenceUpdated.get asset with
  | none => simp
  | some ts => simp

/-- What is written back for a verdict on `asset`. -/
theorem priceOf_writeBack (verdict : Verdict) :
    priceOf (writeBack env s asset config verdict).1 asset
      = (priceOf s asset).after env.timestamp config.windowSeconds
        verdict := by
  cases verdict with
  | latched => rfl
  | degraded => rfl
  | tripped held m =>
      simp [priceOf, writeBack, latchHalt, publish, AssetPrice.after]
  | agreed m =>
      unfold writeBack refreshReference
      simp only [due_iff, AssetPrice.after, AssetPrice.agree]
      by_cases hdue : (priceOf s asset).Due env.timestamp
          config.windowSeconds
      · simp only [if_pos hdue]
        simp [priceOf]
      · simp only [if_neg hdue]
        simp [priceOf]

/-- Nothing of that concerns another asset. -/
theorem priceOf_writeBack_ne (verdict : Verdict) (ha : a ≠ asset) :
    priceOf (writeBack env s asset config verdict).1 a = priceOf s a := by
  cases verdict with
  | latched => rfl
  | degraded => rfl
  | tripped held m =>
      simp [priceOf, writeBack, latchHalt, publish, ha]
  | agreed m =>
      simp only [writeBack, refreshReference, priceOf]
      split <;> simp [ha]

/-- The call confirms a halt of `a`. -/
def Entry.Confirms (e : Entry) (a : Address) : Prop :=
  ∃ risk, e = .confirmHaltCleared risk a

instance (e : Entry) (a : Address) : Decidable (e.Confirms a) :=
  decidable_of_iff ((match e with
    | .confirmHaltCleared _ b => some b
    | _ => none) = some a) (by cases e <;> simp [Entry.Confirms])

/-- What a committed call does to the price of `a`. -/
inductive PriceStep (env : HostEnv) (s s' : State) (a : Address) :
    Entry → Prop
  | same {e : Entry} : ¬ e.Confirms a →
      (∀ s₁, enteredState s e ≠ some (a, s₁)) →
      priceOf s' a = priceOf s a → PriceStep env s s' a e
  | judged {e : Entry} {s₁ : State} {config : AssetGuardConfig}
      {verdict : Verdict} : ¬ e.Confirms a →
      enteredState s e = some (a, s₁) → Entered env s a s₁ →
      s.config.get a = some config →
      judge s₁ a config ((freshSources env s₁ a config.maxStalenessS).map
        (·.value)) = .ok verdict →
      evaluate env a s₁ = .ok (⟨a, (writeBack env s₁ a config verdict).2.2,
        (writeBack env s₁ a config verdict).2.1, env.timestamp,
        freshSources env s₁ a config.maxStalenessS⟩, s') →
      priceOf s₁ a = priceOf s a →
      priceOf s' a = (priceOf s a).after env.timestamp
        config.windowSeconds verdict → PriceStep env s s' a e
  | confirmed {risk : Address} :
      priceOf s' a = (priceOf s a).confirm env.timestamp →
      PriceStep env s s' a (.confirmHaltCleared risk a)

theorem Entered.config_eq (h : Entered env s asset s₁) :
    s₁.config = s.config := by
  cases h with
  | read => rfl
  | published _ _ _ _ _ _ hconfig => exact hconfig
  | removed _ _ _ _ hconfig => exact hconfig

/-- A call that evaluates `asset` judges it, and leaves the other assets'
prices alone. -/
theorem PriceStep.of_evaluate {g : GuardedPrice}
    (hconf : ∀ a, ¬ e.Confirms a)
    (hent : enteredState s e = some (asset, s₁))
    (hin : Entered env s asset s₁)
    (h : evaluate env asset s₁ = .ok (g, s')) (a : Address) :
    PriceStep env s s' a e := by
  obtain ⟨config, verdict, hconfig, hjudge, hg, hs'⟩ := evaluate_ok h
  have hbefore := hin.prices.priceOf
  have hafter : ∀ a, priceOf s' a
      = priceOf (writeBack env s₁ asset config verdict).1 a := by
    intro a
    rw [hs']
    exact samePrices_status.priceOf a
  by_cases ha : a = asset
  · subst ha
    rw [hin.config_eq] at hconfig
    subst hg
    refine .judged (hconf a) hent hin hconfig hjudge h (hbefore a) ?_
    rw [hafter, priceOf_writeBack, hbefore]
  · refine .same (hconf a) ?_ ?_
    · intro s₂ h₂
      rw [hent] at h₂
      injection h₂ with h₂
      injection h₂ with h₂ _
      exact ha h₂.symm
    · rw [hafter, priceOf_writeBack_ne verdict ha, hbefore]

/-- Clearing a halt. -/
theorem priceOf_cleared (env : HostEnv) (s : State) (asset : Address) :
    priceOf (cleared env s asset) asset
      = (priceOf s asset).confirm env.timestamp := by
  unfold cleared promotePending AssetPrice.confirm
  simp only [priceOf]
  cases hp : s.pendingHaltValue.get asset with
  | none => simp [hp]
  | some m => simp

theorem priceOf_cleared_ne (env : HostEnv) (s : State) (ha : a ≠ asset) :
    priceOf (cleared env s asset) a = priceOf s a := by
  unfold cleared promotePending
  simp only [priceOf]
  cases hp : s.pendingHaltValue.get asset with
  | none => simp [ha]
  | some m => simp [ha]

/-- Every committed call moves the price of every asset by one step of
the automaton. -/
theorem call_price {env : GuardEnv} (h : call env e s = .ok s')
    (a : Address) : PriceStep env.toHostEnv s s' a e := by
  have hquiet : ¬ e.Pricing → enteredState s e = none →
      PriceStep env.toHostEnv s s' a e := by
    intro he hent
    refine .same ?_ ?_ ((call_quiet h he).prices.priceOf a)
    · intro hconf
      obtain ⟨risk, rfl⟩ := hconf
      exact he trivial
    · rw [hent]
      simp
  cases e with
  | removeSource =>
      obtain ⟨s₁, g, hent, hin, heval⟩ := removeSource_ok h
      exact .of_evaluate (by simp [Entry.Confirms]) hent hin heval a
  | publishNav =>
      obtain ⟨s₁, g, hent, hin, -, heval⟩ := publishNav_ok h
      exact .of_evaluate (by simp [Entry.Confirms]) hent hin heval a
  | publishSource =>
      obtain ⟨s₁, g, hent, hin, heval⟩ := publishSource_ok h
      exact .of_evaluate (by simp [Entry.Confirms]) hent hin heval a
  | guardedPrice =>
      obtain ⟨⟨g, s₂⟩, heval, rfl⟩ := map_ok.mp h
      exact .of_evaluate (by simp [Entry.Confirms]) rfl .read heval a
  | confirmHaltCleared risk asset =>
      obtain ⟨-, hprices⟩ := confirmHaltCleared_ok h
      by_cases ha : a = asset
      · subst ha
        refine .confirmed ?_
        rw [hprices.priceOf, priceOf_cleared]
      · refine .same ?_ (by simp [enteredState]) ?_
        · intro hconf
          obtain ⟨r, hr⟩ := hconf
          injection hr with _ hr
          exact ha hr.symm
        · rw [hprices.priceOf, priceOf_cleared_ne _ _ ha]
  | _ => exact hquiet id rfl

/-- The invariant rule of the automaton: what no verdict and no confirmed
halt breaks holds of every asset's price in every run. -/
theorem price_run {P : AssetPrice → Prop}
    (hinit : P (priceOf State.empty asset))
    (hafter : ∀ p now window v, P p → P (p.after now window v))
    (hconfirm : ∀ p now, P p → P (p.confirm now)) (self : Address)
    (txs : List Tx) :
    P (priceOf ((machine self).run (machine self).init txs) asset) := by
  refine Machine.run_induction (P := fun s => P (priceOf s asset)) ?_ hinit
    (Machine.allowed_true _ txs)
  intro s tx s' hs _ happ
  obtain ⟨env, e⟩ := tx
  cases call_price (apply_call happ) asset with
  | same _ _ heq =>
      rw [heq]
      exact hs
  | judged _ _ _ _ _ _ _ heq =>
      rw [heq]
      exact hafter _ _ _ _ hs
  | confirmed heq =>
      rw [heq]
      exact hconfirm _ _ hs

end Ballast.PriceGuard
