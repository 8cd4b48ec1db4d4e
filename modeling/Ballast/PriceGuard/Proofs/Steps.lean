/-
What a committed `PriceGuard` call does to readings and prices
(`Effect`), and what every stored reading and price satisfies.

A call either leaves both alone, publishes or removes one reading and
evaluates, evaluates only, or clears a halt. `evaluate` itself never
touches a reading, and what it writes to the prices follows from its
verdict (`evaluate_ok`).

# Entering and evaluating

A publication or a removal first enters its change of the readings
(`Entered`) and then evaluates, all in one call, so an evaluation that
traps takes the change back with it. `enteredState` is the storage in
between. The calls that evaluate are told apart only by it, which is why
the results about prices are stated for an evaluation from any storage,
and the results about readings for any entry.
-/
import Ballast.PriceGuard.Proofs.Rules

namespace Ballast.PriceGuard

open Soroban Sorting

variable {env : HostEnv} {s s' s₁ : State} {asset : Address} {e : Entry}

-- ======================================================= what may change

/-- The readings are as they were. -/
structure SameReadings (s s' : State) : Prop where
  source : s'.source = s.source
  srcNames : s'.srcNames = s.srcNames

/-- The prices and the latch are as they were. -/
structure SamePrices (s s' : State) : Prop where
  lastGood : s'.lastGood = s.lastGood
  reference : s'.rollingReference = s.rollingReference
  updated : s'.rollingReferenceUpdated = s.rollingReferenceUpdated
  halted : s'.halted = s.halted
  pending : s'.pendingHaltValue = s.pendingHaltValue

theorem SamePrices.refl (s : State) : SamePrices s s :=
  ⟨rfl, rfl, rfl, rfl, rfl⟩

/-- The state `evaluate` runs in when a call enters it on `asset`: the
one the call found, or that with one reading written or removed. -/
inductive Entered (env : HostEnv) (s : State) (asset : Address) :
    State → Prop
  | read : Entered env s asset s
  | published (name : Symbol) {value : Int} {ts : Nat} {s₁ : State} :
      0 < value → ts ≤ U64.satAdd env.timestamp maxFutureSkewS →
      s₁.source = s.source.set (asset, name) ⟨name, value, ts, false⟩ →
      s₁.srcNames = (trackSourceName s asset name).srcNames →
      SamePrices s s₁ → s₁.config = s.config → Entered env s asset s₁
  | removed (name : Symbol) {s₁ : State} :
      s₁.source = s.source.remove (asset, name) →
      s₁.srcNames = (removeSourceInternal s asset name).srcNames →
      SamePrices s s₁ → s₁.config = s.config → Entered env s asset s₁

/-- The storage once a halt is cleared. -/
def cleared (env : HostEnv) (s : State) (asset : Address) : State :=
  { (promotePending env s asset).1 with
    halted := (promotePending env s asset).1.halted.remove asset }

/-- What a committed call does to readings and prices. -/
inductive Effect (env : HostEnv) (s s' : State) : Entry → Prop
  | quiet {e : Entry} : SameReadings s s' → SamePrices s s' →
      Effect env s s' e
  | evaluated {e : Entry} {asset : Address} {s₁ : State}
      {g : GuardedPrice} : Entered env s asset s₁ →
      evaluate env asset s₁ = .ok (g, s') → Effect env s s' e
  | confirmed {risk asset : Address} : SameReadings s s' →
      SamePrices (cleared env s asset) s' →
      Effect env s s' (.confirmHaltCleared risk asset)

-- ======================================================== the inversions

/-- The fresh readings of an asset, in the order of its source names. -/
def freshSources (env : HostEnv) (s : State) (asset : Address)
    (maxStalenessS : Nat) : List PriceSource :=
  (readAllSources s asset).filter fun x => isFresh env x maxStalenessS

/-- What an evaluation that returns has done: it judged the fresh
readings, wrote the verdict back, and announced the status if that is
new. -/
theorem evaluate_ok {g : GuardedPrice}
    (h : evaluate env asset s = .ok (g, s')) :
    ∃ config verdict, s.config.get asset = some config
      ∧ judge s asset config ((freshSources env s asset
          config.maxStalenessS).map (·.value)) = .ok verdict
      ∧ g = ⟨asset, (writeBack env s asset config verdict).2.2,
          (writeBack env s asset config verdict).2.1, env.timestamp,
          freshSources env s asset config.maxStalenessS⟩
      ∧ s' = checkAndEmitStatusChange (writeBack env s asset config
          verdict).1 asset (writeBack env s asset config verdict).2.1
          (writeBack env s asset config verdict).2.2 := by
  simp only [evaluate, readConfig, bind_ok, expect_ok, pure_ok,
    Prod.mk.injEq] at h
  obtain ⟨config, hconfig, verdict, hjudge, hg, hs'⟩ := h
  exact ⟨config, verdict, hconfig, hjudge, hg.symm, hs'.symm⟩

/-- A verdict is all `evaluate` needs. -/
theorem evaluate_of_judge {config : AssetGuardConfig} {v : Verdict}
    (hconfig : s.config.get asset = some config)
    (hjudge : judge s asset config ((freshSources env s asset
      config.maxStalenessS).map (·.value)) = .ok v) :
    ∃ s', evaluate env asset s = .ok (⟨asset,
      (writeBack env s asset config v).2.2,
      (writeBack env s asset config v).2.1, env.timestamp,
      freshSources env s asset config.maxStalenessS⟩, s') := by
  simp only [evaluate, readConfig, bind_ok, expect_ok, pure_ok]
  exact ⟨_, config, hconfig, v, hjudge, rfl⟩

/-- Announcing a status touches no price. -/
theorem samePrices_status {status : PriceStatus} {v : Int} :
    SamePrices s (checkAndEmitStatusChange s asset status v) := by
  unfold checkAndEmitStatusChange
  simp only
  split <;> exact ⟨rfl, rfl, rfl, rfl, rfl⟩

/-- Nor any reading. -/
theorem sameReadings_status {status : PriceStatus} {v : Int} :
    SameReadings s (checkAndEmitStatusChange s asset status v) := by
  unfold checkAndEmitStatusChange
  simp only
  split <;> exact ⟨rfl, rfl⟩

/-- A verdict changes prices and halts, and no reading. -/
theorem sameReadings_writeBack (env : HostEnv) (s : State)
    (asset : Address) (config : AssetGuardConfig) (v : Verdict) :
    SameReadings s (writeBack env s asset config v).1 := by
  cases v with
  | agreed m =>
      unfold writeBack refreshReference
      simp only
      split <;> exact ⟨rfl, rfl⟩
  | _ => exact ⟨rfl, rfl⟩

/-- `evaluate` leaves the readings alone. -/
theorem evaluate_readings {g : GuardedPrice}
    (h : evaluate env asset s = .ok (g, s')) : SameReadings s s' := by
  obtain ⟨config, verdict, -, -, -, rfl⟩ := evaluate_ok h
  have hback := sameReadings_writeBack env s asset config verdict
  exact ⟨sameReadings_status.source.trans hback.source,
    sameReadings_status.srcNames.trans hback.srcNames⟩

/-- A reading is taken if it is positive and not from the future, a small
skew allowed. -/
theorem requireSaneReading_ok {value : Int} {ts : Nat} {u : Unit} :
    requireSaneReading env value ts = .ok u ↔
      0 < value ∧ ts ≤ U64.satAdd env.timestamp maxFutureSkewS := by
  simp only [requireSaneReading, bind_ok, ensure_ok, exists_const]

/-- The publisher's checks include those of the reading. -/
theorem requirePublisher_ok {env : GuardEnv} {publisher : Address}
    {value : Int} {ts : Nat} {u : Unit}
    (h : requirePublisher env publisher asset value ts s = .ok u) :
    0 < value ∧ ts ≤ U64.satAdd env.timestamp maxFutureSkewS := by
  simp only [requirePublisher, bind_ok, requireSaneReading_ok] at h
  obtain ⟨-, -, -, -, -, -, hsane⟩ := h
  exact hsane

/-- A name is added to the list once. -/
theorem srcNames_track (s : State) (asset : Address) (name : Symbol) :
    (trackSourceName s asset name).srcNames
      = if name ∈ sourceNames s asset then s.srcNames
        else s.srcNames.set asset (sourceNames s asset ++ [name]) := by
  unfold trackSourceName
  split <;> rfl

/-- Tracking a name writes the names only. -/
theorem trackSourceName_eq (s : State) (asset : Address) (name : Symbol) :
    trackSourceName s asset name
      = { s with srcNames := (trackSourceName s asset name).srcNames } := by
  unfold trackSourceName
  split <;> rfl

/-- Removing a source takes its name off the list. -/
theorem srcNames_remove (s : State) (asset : Address) (name : Symbol) :
    (removeSourceInternal s asset name).srcNames
      = if name ∈ sourceNames s asset then
          s.srcNames.set asset ((sourceNames s asset).erase name)
        else s.srcNames := by
  unfold removeSourceInternal
  simp only
  split <;> rfl

/-- Removing a source writes its name and its reading only. -/
theorem removeSourceInternal_eq (s : State) (asset : Address)
    (name : Symbol) :
    removeSourceInternal s asset name
      = { s with
          srcNames := (removeSourceInternal s asset name).srcNames
          source := s.source.remove (asset, name) } := by
  unfold removeSourceInternal
  simp only
  split <;> rfl

/-- The state both publishers hand to `evaluate`. -/
theorem entered_publish {s₀ : State} {name : Symbol} {value : Int}
    {ts : Nat} {ev : Event} (hvalue : 0 < value)
    (hts : ts ≤ U64.satAdd env.timestamp maxFutureSkewS)
    (hsame : SameReadings s s₀) (hprices : SamePrices s s₀)
    (hconfig : s₀.config = s.config) :
    Entered env s asset (publish (writeSource (trackSourceName s₀ asset name)
      asset name value ts) ev) := by
  have hnames : sourceNames s₀ asset = sourceNames s asset := by
    unfold sourceNames
    rw [hsame.srcNames]
  have hframe := trackSourceName_eq s₀ asset name
  refine .published name hvalue hts ?_ ?_ ⟨?_, ?_, ?_, ?_, ?_⟩ ?_
  · show (trackSourceName s₀ asset name).source.set _ _ = _
    rw [hframe, ← hsame.source]
  · show (trackSourceName s₀ asset name).srcNames = _
    rw [srcNames_track, srcNames_track, hnames, hsame.srcNames]
  · show (trackSourceName s₀ asset name).lastGood = _
    rw [hframe, ← hprices.lastGood]
  · show (trackSourceName s₀ asset name).rollingReference = _
    rw [hframe, ← hprices.reference]
  · show (trackSourceName s₀ asset name).rollingReferenceUpdated = _
    rw [hframe, ← hprices.updated]
  · show (trackSourceName s₀ asset name).halted = _
    rw [hframe, ← hprices.halted]
  · show (trackSourceName s₀ asset name).pendingHaltValue = _
    rw [hframe, ← hprices.pending]
  · show (trackSourceName s₀ asset name).config = _
    rw [hframe, ← hconfig]

/-- The state a call hands to `evaluate`, and the asset it evaluates. -/
def enteredState (s : State) : Entry → Option (Address × State)
  | .removeSource _ asset name =>
      some (asset, publish (removeSourceInternal s asset name)
        (.sourceRemoved asset name))
  | .publishNav _ asset _ value ts sig =>
      let s₀ := { s with
        navRecord := s.navRecord.set asset ⟨value, ts, sig⟩ }
      some (asset, publish (writeSource (trackSourceName s₀ asset
        issuerSource) asset issuerSource value ts)
          (.navPublished asset issuerSource value ts))
  | .publishSource _ asset source value ts =>
      some (asset, publish (writeSource (trackSourceName s asset source)
        asset source value ts) (.sourcePublished asset source value ts))
  | .guardedPrice asset => some (asset, s)
  | _ => none

/-- A signed publication enters one reading, under the issuer's name, and
evaluates. -/
theorem publishNav_ok {env : GuardEnv} {publisher : Address}
    {assetCode : Bytes} {value : Int} {ts : Nat} {sig : BytesN 64}
    (h : publishNav env publisher asset assetCode value ts sig s = .ok s') :
    ∃ s₁ g, enteredState s (.publishNav publisher asset assetCode value ts
        sig) = some (asset, s₁)
      ∧ Entered env.toHostEnv s asset s₁
      ∧ verifyNav env asset assetCode value ts sig s = .ok ()
      ∧ evaluate env.toHostEnv asset s₁ = .ok (g, s') := by
  simp only [publishNav, bind_ok, pure_ok] at h
  obtain ⟨_, hpub, ⟨⟩, hverify, ⟨g, s₂⟩, heval, rfl⟩ := h
  obtain ⟨hvalue, hts⟩ := requirePublisher_ok hpub
  refine ⟨_, g, rfl, ?_, hverify, heval⟩
  exact entered_publish hvalue hts ⟨rfl, rfl⟩ ⟨rfl, rfl, rfl, rfl, rfl⟩ rfl

/-- An unsigned one enters one under the name it gives, and evaluates. -/
theorem publishSource_ok {env : GuardEnv} {publisher : Address}
    {source : Symbol} {value : Int} {ts : Nat}
    (h : publishSource env publisher asset source value ts s = .ok s') :
    ∃ s₁ g, enteredState s (.publishSource publisher asset source value ts)
        = some (asset, s₁)
      ∧ Entered env.toHostEnv s asset s₁
      ∧ evaluate env.toHostEnv asset s₁ = .ok (g, s') := by
  simp only [publishSource, bind_ok, pure_ok] at h
  obtain ⟨_, hpub, ⟨g, s₂⟩, heval, rfl⟩ := h
  obtain ⟨hvalue, hts⟩ := requirePublisher_ok hpub
  refine ⟨_, g, rfl, ?_, heval⟩
  exact entered_publish hvalue hts ⟨rfl, rfl⟩ (.refl s) rfl

/-- A removal takes one reading out, and evaluates. -/
theorem removeSource_ok {env : GuardEnv} {admin : Address} {name : Symbol}
    (h : removeSource env admin asset name s = .ok s') :
    ∃ s₁ g, enteredState s (.removeSource admin asset name)
        = some (asset, s₁)
      ∧ Entered env.toHostEnv s asset s₁
      ∧ evaluate env.toHostEnv asset s₁ = .ok (g, s') := by
  simp only [removeSource, bind_ok, pure_ok] at h
  obtain ⟨_, -, _, -, ⟨g, s₂⟩, heval, rfl⟩ := h
  have hframe := removeSourceInternal_eq s asset name
  refine ⟨_, g, rfl, .removed name ?_ ?_ ⟨?_, ?_, ?_, ?_, ?_⟩ ?_, heval⟩
  · show (removeSourceInternal s asset name).source = _
    rw [hframe]
  · rfl
  · show (removeSourceInternal s asset name).lastGood = _
    rw [hframe]
  · show (removeSourceInternal s asset name).rollingReference = _
    rw [hframe]
  · show (removeSourceInternal s asset name).rollingReferenceUpdated = _
    rw [hframe]
  · show (removeSourceInternal s asset name).halted = _
    rw [hframe]
  · show (removeSourceInternal s asset name).pendingHaltValue = _
    rw [hframe]
  · show (removeSourceInternal s asset name).config = _
    rw [hframe]

/-- Nothing about readings, prices or the signed record changed. -/
structure Quiet (s s' : State) : Prop where
  readings : SameReadings s s'
  prices : SamePrices s s'
  navRecord : s'.navRecord = s.navRecord

/-- A change of configuration is quiet: it touches no reading and no
price. -/
theorem applyChange_ok {c : ConfigChange} (h : applyChange s c = .ok s') :
    Quiet s s' := by
  have hupdate : ∀ a f, updateConfig s a f = .ok s' → Quiet s s' := by
    intro a f hf
    simp only [updateConfig, bind_ok, pure_ok] at hf
    obtain ⟨_, -, rfl⟩ := hf
    exact ⟨⟨rfl, rfl⟩, ⟨rfl, rfl, rfl, rfl, rfl⟩, rfl⟩
  cases c with
  | asset =>
      simp only [applyChange, pure_ok] at h
      subst h
      exact ⟨⟨rfl, rfl⟩, ⟨rfl, rfl, rfl, rfl, rfl⟩, rfl⟩
  | issuerPubKey =>
      simp only [applyChange, pure_ok] at h
      subst h
      exact ⟨⟨rfl, rfl⟩, ⟨rfl, rfl, rfl, rfl, rfl⟩, rfl⟩
  | requireNavSignature =>
      simp only [applyChange, pure_ok] at h
      subst h
      exact ⟨⟨rfl, rfl⟩, ⟨rfl, rfl, rfl, rfl, rfl⟩, rfl⟩
  | _ => exact hupdate _ _ h

/-- Promoting the value that tripped the halt touches no reading. -/
theorem promotePending_readings (env : HostEnv) (s : State)
    (asset : Address) : SameReadings s (promotePending env s asset).1 := by
  unfold promotePending
  split <;> exact ⟨rfl, rfl⟩

/-- A confirmed halt is lifted, and the price that tripped it is the new
baseline. -/
theorem confirmHaltCleared_ok {env : GuardEnv} {risk : Address}
    (h : confirmHaltCleared env risk asset s = .ok s') :
    SameReadings s s' ∧ SamePrices (cleared env.toHostEnv s asset) s' := by
  simp only [confirmHaltCleared, bind_ok, pure_ok] at h
  obtain ⟨_, -, _, -, rfl⟩ := h
  have hread := promotePending_readings env.toHostEnv s asset
  exact ⟨⟨hread.source, hread.srcNames⟩, ⟨rfl, rfl, rfl, rfl, rfl⟩⟩

/-- The entry points for prices. -/
def Entry.Pricing : Entry → Prop
  | .removeSource .. => True
  | .publishNav .. => True
  | .publishSource .. => True
  | .guardedPrice .. => True
  | .confirmHaltCleared .. => True
  | _ => False

/-- The others leave readings, prices and the signed record alone. -/
theorem call_quiet {env : GuardEnv} (h : call env e s = .ok s')
    (he : ¬ e.Pricing) : Quiet s s' := by
  cases e with
  | initContract =>
      simp only [call, initContract, bind_ok, pure_ok] at h
      obtain ⟨_, -, rfl⟩ := h
      exact ⟨⟨rfl, rfl⟩, ⟨rfl, rfl, rfl, rfl, rfl⟩, rfl⟩
  | proposeAdmin =>
      simp only [call, proposeAdmin, bind_ok, pure_ok] at h
      obtain ⟨_, -, rfl⟩ := h
      exact ⟨⟨rfl, rfl⟩, ⟨rfl, rfl, rfl, rfl, rfl⟩, rfl⟩
  | acceptAdmin =>
      simp only [call, acceptAdmin, bind_ok, pure_ok] at h
      obtain ⟨_, -, rfl⟩ := h
      exact ⟨⟨rfl, rfl⟩, ⟨rfl, rfl, rfl, rfl, rfl⟩, rfl⟩
  | queueRoleChange =>
      obtain ⟨p, hp, rfl⟩ := map_ok.mp h
      simp only [queueRoleChange, bind_ok, pure_ok] at hp
      obtain ⟨_, -, _, -, _, -, rfl⟩ := hp
      exact ⟨⟨rfl, rfl⟩, ⟨rfl, rfl, rfl, rfl, rfl⟩, rfl⟩
  | executeRoleChange =>
      simp only [call, executeRoleChange, bind_ok, pure_ok] at h
      obtain ⟨_, -, rfl⟩ := h
      exact ⟨⟨rfl, rfl⟩, ⟨rfl, rfl, rfl, rfl, rfl⟩, rfl⟩
  | queueUpgrade =>
      obtain ⟨p, hp, rfl⟩ := map_ok.mp h
      simp only [queueUpgrade, bind_ok, pure_ok] at hp
      obtain ⟨_, -, _, -, _, -, rfl⟩ := hp
      exact ⟨⟨rfl, rfl⟩, ⟨rfl, rfl, rfl, rfl, rfl⟩, rfl⟩
  | cancelUpgrade =>
      simp only [call, cancelUpgrade, bind_ok, pure_ok] at h
      obtain ⟨_, -, _, -, rfl⟩ := h
      exact ⟨⟨rfl, rfl⟩, ⟨rfl, rfl, rfl, rfl, rfl⟩, rfl⟩
  | executeUpgrade =>
      simp only [call, executeUpgrade, bind_ok, pure_ok] at h
      obtain ⟨_, -, _, -, rfl⟩ := h
      exact ⟨⟨rfl, rfl⟩, ⟨rfl, rfl, rfl, rfl, rfl⟩, rfl⟩
  | configureAsset =>
      simp only [call, configureAsset, bind_ok, pure_ok] at h
      obtain ⟨_, -, _, -, rfl⟩ := h
      exact ⟨⟨rfl, rfl⟩, ⟨rfl, rfl, rfl, rfl, rfl⟩, rfl⟩
  | configureIssuerKey =>
      simp only [call, configureIssuerKey, bind_ok, pure_ok] at h
      obtain ⟨_, -, _, -, rfl⟩ := h
      exact ⟨⟨rfl, rfl⟩, ⟨rfl, rfl, rfl, rfl, rfl⟩, rfl⟩
  | configureSignatureRequirement =>
      simp only [call, configureSignatureRequirement, bind_ok, pure_ok] at h
      obtain ⟨_, -, _, -, rfl⟩ := h
      exact ⟨⟨rfl, rfl⟩, ⟨rfl, rfl, rfl, rfl, rfl⟩, rfl⟩
  | queueConfig =>
      obtain ⟨p, hp, rfl⟩ := map_ok.mp h
      simp only [queueConfig, bind_ok, pure_ok] at hp
      obtain ⟨_, -, _, -, _, -, rfl⟩ := hp
      exact ⟨⟨rfl, rfl⟩, ⟨rfl, rfl, rfl, rfl, rfl⟩, rfl⟩
  | cancelConfig =>
      simp only [call, cancelConfig, bind_ok, pure_ok] at h
      obtain ⟨_, -, _, -, rfl⟩ := h
      exact ⟨⟨rfl, rfl⟩, ⟨rfl, rfl, rfl, rfl, rfl⟩, rfl⟩
  | executeConfig =>
      simp only [call, executeConfig, bind_ok, pure_ok] at h
      obtain ⟨_, -, _, -, s₂, hs₂, rfl⟩ := h
      obtain ⟨hread, hprices, hnav⟩ := applyChange_ok hs₂
      exact ⟨⟨hread.source, hread.srcNames⟩, ⟨hprices.lastGood,
        hprices.reference, hprices.updated, hprices.halted,
        hprices.pending⟩, hnav⟩
  | _ => exact absurd trivial he

/-- The summary: every committed call has one of the effects. -/
theorem call_effect {env : GuardEnv} (h : call env e s = .ok s') :
    Effect env.toHostEnv s s' e := by
  have hquiet : ¬ e.Pricing → Effect env.toHostEnv s s' e := by
    intro he
    have hq := call_quiet h he
    exact .quiet hq.readings hq.prices
  cases e with
  | removeSource =>
      obtain ⟨s₁, g, -, hin, heval⟩ := removeSource_ok h
      exact .evaluated hin heval
  | publishNav =>
      obtain ⟨s₁, g, -, hin, -, heval⟩ := publishNav_ok h
      exact .evaluated hin heval
  | publishSource =>
      obtain ⟨s₁, g, -, hin, heval⟩ := publishSource_ok h
      exact .evaluated hin heval
  | guardedPrice =>
      obtain ⟨⟨g, s₂⟩, heval, rfl⟩ := map_ok.mp h
      exact .evaluated .read heval
  | confirmHaltCleared =>
      obtain ⟨hread, hprices⟩ := confirmHaltCleared_ok h
      exact .confirmed hread hprices
  | _ => exact hquiet id

/-- A committed transaction is a committed call. -/
theorem apply_call {self : Address} {tx : Tx}
    (h : (machine self).apply tx s = .ok s') :
    call (tx.env.at self) tx.entry s = .ok s' := by
  simp only [machine, bind_ok, ensure_ok, exists_const] at h
  exact h.2

end Ballast.PriceGuard
