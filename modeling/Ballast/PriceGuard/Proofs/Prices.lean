/-
What a guarded price stands for.

# The purpose

An `Ok` price is the median of the readings that are fresh, at least
two of them and from different sources; these agree to within the band,
and the median has not moved further from the last good price, nor from
the rolling reference, than the move bands allow. Anything less and the
last good price is reported, unchanged.

# What it rests on

`freshReadings` is the multiset of fresh readings in storage, with no
regard to the list of source names the contract walks. The two are the
same because every stored reading is tracked under its name, once
(`ReadingsOk`). Prices are positive wherever they are stored, and a
rolling reference never comes without a last good price (`PricesOk`),
so no move check is skipped.
-/
import Ballast.PriceGuard.Proofs.Steps

namespace Ballast.PriceGuard

open Soroban Sorting

variable {env : HostEnv} {s s' s₁ : State} {asset : Address} {e : Entry}
  {config : AssetGuardConfig}

-- ========================================================== the purpose

/-- Observed no later than a minute from now, and not too long ago. -/
def FreshAt (now maxStalenessS : Nat) (x : PriceSource) : Prop :=
  x.observedAt ≤ now + 60 ∧ now - x.observedAt ≤ maxStalenessS

instance (now n : Nat) (x : PriceSource) : Decidable (FreshAt now n x) :=
  inferInstanceAs (Decidable (_ ∧ _))

/-- The reading stored under a key, if it is `asset`'s and fresh. -/
def freshUnder (env : HostEnv) (s : State) (asset : Address)
    (maxStalenessS : Nat) (k : Address × Symbol) : Option PriceSource :=
  (s.source.get k).filter fun x =>
    decide (k.1 = asset ∧ FreshAt env.timestamp maxStalenessS x)

/-- The fresh readings of an asset, in no order. -/
def freshReadings (env : HostEnv) (s : State) (asset : Address)
    (maxStalenessS : Nat) : Multiset PriceSource :=
  s.source.keys.val.filterMap (freshUnder env s asset maxStalenessS)

/-- Their values. -/
def freshValues (env : HostEnv) (s : State) (asset : Address)
    (maxStalenessS : Nat) : Multiset Int :=
  (freshReadings env s asset maxStalenessS).map (·.value)

/-- A fresh reading of `asset` from the source `name`. -/
def FreshFrom (env : HostEnv) (s : State) (asset : Address)
    (maxStalenessS : Nat) (name : Symbol) : Prop :=
  ∃ x, s.source.get (asset, name) = some x ∧ x.name = name
    ∧ FreshAt env.timestamp maxStalenessS x

/-- What an `Ok` price of `v` says about the readings and the prices
before it. -/
structure OkPrice (env : HostEnv) (s : State) (asset : Address)
    (config : AssetGuardConfig) (v : Int) : Prop where
  sources : ∃ n₁ n₂, n₁ ≠ n₂
    ∧ FreshFrom env s asset config.maxStalenessS n₁
    ∧ FreshFrom env s asset config.maxStalenessS n₂
  median : v = median (freshValues env s asset config.maxStalenessS)
  spread : ∃ lo hi, lo ∈ freshValues env s asset config.maxStalenessS
    ∧ hi ∈ freshValues env s asset config.maxStalenessS
    ∧ (∀ x ∈ freshValues env s asset config.maxStalenessS, lo ≤ x ∧ x ≤ hi)
    ∧ lo ≤ v ∧ v ≤ hi ∧ 0 < lo ∧ (hi - lo) * 10000 / lo ≤ config.bandBps
  daily : ∀ last, s.lastGood.get asset = some last →
    0 < last ∧ |v - last| * 10000 / last ≤ config.dailyMoveBandBps
  window : ∀ ref, s.rollingReference.get asset = some ref →
    0 < ref ∧ |v - ref| * 10000 / ref ≤ config.windowMoveBandBps

/-- The same readings, with the source names first published in another
order. -/
def reorder (s : State) (asset : Address) (names : List Symbol) : State :=
  { s with srcNames := s.srcNames.set asset names }

-- ======================================================= the invariants

/-- Every reading is stored under its source's name, is one a publisher
could write, and is tracked once. -/
structure ReadingsOk (s : State) : Prop where
  nodup : ∀ a, (sourceNames s a).Nodup
  tracked : ∀ a n, n ∈ sourceNames s a ↔ (s.source.get (a, n)).isSome
  reading : ∀ a n x, s.source.get (a, n) = some x →
    x.name = n ∧ 0 < x.value ∧ x.stale = false ∧ x.observedAt ≤ u64Max

/-- Stored prices are positive, and a reference comes with a last good
price. -/
structure PricesOk (s : State) : Prop where
  lastGood : ∀ a v, s.lastGood.get a = some v → 0 < v
  reference : ∀ a v, s.rollingReference.get a = some v →
    0 < v ∧ ∃ last, s.lastGood.get a = some last
  pending : ∀ a v, s.pendingHaltValue.get a = some v → 0 < v

/-- The names of an asset are read off one list. -/
theorem sourceNames_congr (h : s'.srcNames = s.srcNames) (a : Address) :
    sourceNames s' a = sourceNames s a := by
  unfold sourceNames
  rw [h]

/-- The invariant of the readings is about readings and names. -/
theorem ReadingsOk.same (hs : ReadingsOk s) (h : SameReadings s s') :
    ReadingsOk s' := by
  have hnames := sourceNames_congr h.srcNames
  refine ⟨?_, ?_, ?_⟩
  · intro a
    rw [hnames]
    exact hs.nodup a
  · intro a n
    rw [hnames, h.source]
    exact hs.tracked a n
  · intro a n x hx
    rw [h.source] at hx
    exact hs.reading a n x hx

/-- The invariant of the prices is about prices. -/
theorem PricesOk.same (hs : PricesOk s) (h : SamePrices s s') :
    PricesOk s' := by
  refine ⟨?_, ?_, ?_⟩
  · rw [h.lastGood]
    exact hs.lastGood
  · rw [h.reference, h.lastGood]
    exact hs.reference
  · rw [h.pending]
    exact hs.pending

/-- The names after a publication. -/
theorem sourceNames_track {name : Symbol}
    (h : s₁.srcNames = (trackSourceName s asset name).srcNames)
    (a : Address) :
    sourceNames s₁ a = if a = asset ∧ name ∉ sourceNames s asset
      then sourceNames s a ++ [name] else sourceNames s a := by
  rw [sourceNames, h, srcNames_track]
  by_cases hmem : name ∈ sourceNames s asset
  · rw [if_pos hmem, if_neg fun hc => hc.2 hmem]
    rfl
  · rw [if_neg hmem, Store.get_set]
    by_cases ha : a = asset
    · rw [if_pos ha, if_pos ⟨ha, hmem⟩, ha]
      rfl
    · rw [if_neg ha, if_neg fun hc => ha hc.1]
      rfl

/-- The names after a removal. -/
theorem sourceNames_remove {name : Symbol}
    (h : s₁.srcNames = (removeSourceInternal s asset name).srcNames)
    (a : Address) :
    sourceNames s₁ a = if a = asset then (sourceNames s a).erase name
      else sourceNames s a := by
  rw [sourceNames, h, srcNames_remove]
  by_cases hmem : name ∈ sourceNames s asset
  · rw [if_pos hmem, Store.get_set]
    by_cases ha : a = asset
    · rw [if_pos ha, if_pos ha, ha]
      rfl
    · rw [if_neg ha, if_neg ha]
      rfl
  · rw [if_neg hmem]
    by_cases ha : a = asset
    · rw [if_pos ha, ha, List.erase_of_not_mem hmem]
      rfl
    · rw [if_neg ha]
      rfl

/-- A reading that is entered is positive, not from the far future, and
tracked under its name. -/
theorem ReadingsOk.publish {name : Symbol} {value : Int} {ts : Nat}
    (hs : ReadingsOk s) (hvalue : 0 < value) (hts : ts ≤ u64Max)
    (hsource : s₁.source = s.source.set (asset, name)
      ⟨name, value, ts, false⟩)
    (hnames : s₁.srcNames = (trackSourceName s asset name).srcNames) :
    ReadingsOk s₁ := by
  have hlist := sourceNames_track hnames
  refine ⟨?_, ?_, ?_⟩
  · intro a
    rw [hlist]
    split
    · next hnew =>
      obtain ⟨ha, hmem⟩ := hnew
      rw [ha, List.nodup_append]
      refine ⟨hs.nodup asset, List.nodup_singleton _, ?_⟩
      intro x hx y hy hxy
      rw [List.mem_singleton] at hy
      rw [hxy, hy] at hx
      exact hmem hx
    · exact hs.nodup a
  · intro a n
    rw [hlist, hsource, Store.get_set]
    by_cases hk : (a, n) = (asset, name)
    · injection hk with ha hn
      subst ha hn
      rw [if_pos rfl]
      split
      · simp
      · next hc =>
        have hmem : n ∈ sourceNames s a := by
          by_contra hmem
          exact hc ⟨rfl, hmem⟩
        simp [hmem]
    · rw [if_neg hk, ← hs.tracked a n]
      split
      · next hnew =>
        have hn : n ≠ name := fun hn => hk (by rw [hnew.1, hn])
        simp [hn]
      · exact Iff.rfl
  · intro a n x hx
    rw [hsource, Store.get_set] at hx
    split at hx
    · next hk =>
      injection hk with _ hn
      injection hx with hx
      subst hx
      exact ⟨hn.symm, hvalue, rfl, hts⟩
    · exact hs.reading a n x hx

/-- A reading that is taken out takes its name along. -/
theorem ReadingsOk.remove {name : Symbol} (hs : ReadingsOk s)
    (hsource : s₁.source = s.source.remove (asset, name))
    (hnames : s₁.srcNames = (removeSourceInternal s asset name).srcNames) :
    ReadingsOk s₁ := by
  have hlist := sourceNames_remove hnames
  refine ⟨?_, ?_, ?_⟩
  · intro a
    rw [hlist]
    split
    · exact (hs.nodup a).erase name
    · exact hs.nodup a
  · intro a n
    rw [hlist, hsource, Store.get_remove]
    have hold := hs.tracked a n
    by_cases ha : a = asset
    · rw [if_pos ha, (hs.nodup a).mem_erase_iff, hold]
      by_cases hn : n = name
      · simp [ha, hn]
      · simp [hn]
    · simp [ha, hold]
  · intro a n x hx
    rw [hsource, Store.get_remove] at hx
    split at hx
    · cases hx
    · exact hs.reading a n x hx

/-- So both ways of entering keep the readings in order. -/
theorem ReadingsOk.entered (hs : ReadingsOk s)
    (h : Entered env s asset s₁) : ReadingsOk s₁ := by
  cases h with
  | read => exact hs
  | published name hvalue hts hsource hnames _ _ =>
      exact hs.publish hvalue (hts.trans (min_le_right _ _)) hsource hnames
  | removed name hsource hnames _ _ => exact hs.remove hsource hnames

/-- Entering touches no price. -/
theorem Entered.prices (h : Entered env s asset s₁) : SamePrices s s₁ := by
  cases h with
  | read => exact .refl s
  | published _ _ _ _ _ hprices _ => exact hprices
  | removed _ _ _ hprices _ => exact hprices

-- ==================================================== the fresh readings

/-- The keys of an asset's readings are its source names. -/
theorem keys_eq_names (hs : ReadingsOk s) (asset : Address) :
    s.source.keys.val.filter (fun k => k.1 = asset)
      = ((sourceNames s asset).map fun name => (asset, name) :
        List (Address × Symbol)) := by
  apply (Multiset.Nodup.ext (s.source.keys.nodup.filter _) ?_).mpr
  · intro k
    obtain ⟨a, name⟩ := k
    rw [Multiset.mem_filter, Finset.mem_val, s.source.mem_keys,
      Multiset.mem_coe, List.mem_map]
    constructor
    · intro h
      obtain ⟨hstored, ha⟩ := h
      have ha' : a = asset := ha
      subst ha'
      exact ⟨name, (hs.tracked a name).mpr hstored, rfl⟩
    · intro h
      obtain ⟨name', hmem, hk⟩ := h
      injection hk with ha hn
      subst ha hn
      exact ⟨(hs.tracked _ _).mp hmem, rfl⟩
  · rw [Multiset.coe_nodup]
    apply (hs.nodup asset).map
    intro n₁ n₂ hn
    injection hn

/-- For a reading as they are stored, `isFresh` is about time only. -/
theorem isFresh_eq {x : PriceSource} (hstale : x.stale = false)
    (hmax : x.observedAt ≤ u64Max) (n : Nat) :
    isFresh env x n = decide (FreshAt env.timestamp n x) := by
  have hskew : x.observedAt ≤ U64.satAdd env.timestamp maxFutureSkewS
      ↔ x.observedAt ≤ env.timestamp + 60 := by
    unfold U64.satAdd maxFutureSkewS
    omega
  unfold isFresh FreshAt
  simp [hstale, hskew]

/-- With every reading tracked once, what the contract collects is the
fresh readings. -/
theorem freshSources_eq (hs : ReadingsOk s) (n : Nat) :
    (freshSources env s asset n : Multiset PriceSource)
      = freshReadings env s asset n := by
  -- other assets' keys contribute nothing
  have honly : freshReadings env s asset n
      = (s.source.keys.val.filter fun k => k.1 = asset).filterMap
        (freshUnder env s asset n) := by
    rw [Multiset.filterMap_filter]
    unfold freshReadings
    congr 1
    funext k
    by_cases hk : k.1 = asset
    · rw [if_pos hk]
    · rw [if_neg hk]
      simp [freshUnder, hk]
  rw [honly, keys_eq_names hs, Multiset.filterMap_coe, List.filterMap_map]
  unfold freshSources readAllSources
  rw [List.filter_filterMap]
  congr 1
  apply List.filterMap_congr
  intro name _
  show (s.source.get (asset, name)).filter _
    = (s.source.get (asset, name)).filter _
  cases hx : s.source.get (asset, name) with
  | none => rfl
  | some x =>
      obtain ⟨-, -, hstale, hmax⟩ := hs.reading asset name x hx
      simp only [Option.filter_some, isFresh_eq hstale hmax, true_and]

/-- What `evaluate` judges is the fresh values. -/
theorem freshSources_values (env : HostEnv) (asset : Address)
    (hs : ReadingsOk s) (n : Nat) :
    (((freshSources env s asset n).map (·.value) : List Int) : Multiset Int)
      = freshValues env s asset n := by
  rw [freshValues, ← freshSources_eq hs, Multiset.map_coe]

/-- Where a fresh reading is stored. -/
theorem mem_freshSources {x : PriceSource} {n : Nat}
    (hx : x ∈ freshSources env s asset n) :
    ∃ name ∈ sourceNames s asset, s.source.get (asset, name) = some x
      ∧ isFresh env x n = true := by
  unfold freshSources readAllSources at hx
  rw [List.mem_filter, List.mem_filterMap] at hx
  obtain ⟨⟨name, hmem, hget⟩, hfresh⟩ := hx
  exact ⟨name, hmem, hget, hfresh⟩

/-- Readings an evaluation looks at are positive. -/
theorem freshSources_pos (env : HostEnv) (asset : Address)
    (hs : ReadingsOk s) (n : Nat) :
    ∀ v ∈ (freshSources env s asset n).map (·.value), 0 < v := by
  intro v hv
  obtain ⟨x, hx, rfl⟩ := List.mem_map.mp hv
  obtain ⟨name, -, hget, -⟩ := mem_freshSources hx
  exact (hs.reading asset name x hget).2.1

/-- A collected reading is a fresh one of its own source. -/
theorem freshFrom_of_mem (hs : ReadingsOk s) {x : PriceSource} {n : Nat}
    (hx : x ∈ freshSources env s asset n) :
    FreshFrom env s asset n x.name := by
  obtain ⟨name, -, hget, hfresh⟩ := mem_freshSources hx
  obtain ⟨hname, -, hstale, hmax⟩ := hs.reading asset name x hget
  rw [isFresh_eq hstale hmax] at hfresh
  rw [hname]
  exact ⟨x, hget, hname, of_decide_eq_true hfresh⟩

/-- No source is collected twice. -/
theorem freshSources_names (env : HostEnv) (asset : Address)
    (hs : ReadingsOk s) (n : Nat) :
    ((freshSources env s asset n).map (·.name)).Nodup := by
  have hall : ((readAllSources s asset).map (·.name)).Sublist
      (sourceNames s asset) := by
    have hnames : ∀ l : List Symbol, ((l.filterMap fun name =>
        s.source.get (asset, name)).map (·.name)).Sublist l := by
      intro l
      induction l with
      | nil => exact .slnil
      | cons name l ih =>
          cases hx : s.source.get (asset, name) with
          | none =>
              simp only [List.filterMap_cons, hx]
              exact ih.cons name
          | some x =>
              simp only [List.filterMap_cons, hx, List.map_cons,
                (hs.reading asset name x hx).1]
              exact ih.cons_cons name
    exact hnames _
  have hsub : ((freshSources env s asset n).map (·.name)).Sublist
      ((readAllSources s asset).map (·.name)) :=
    List.filter_sublist.map _
  exact (hsub.trans hall).nodup (hs.nodup asset)

/-- Two fresh readings are from two sources. -/
theorem two_sources (hs : ReadingsOk s) {n : Nat}
    (h : 2 ≤ (freshSources env s asset n).length) :
    ∃ n₁ n₂, n₁ ≠ n₂ ∧ FreshFrom env s asset n n₁
      ∧ FreshFrom env s asset n n₂ := by
  have hnodup := freshSources_names env asset hs n
  match hl : freshSources env s asset n with
  | [] =>
      rw [hl] at h
      cases h
  | [_] =>
      rw [hl] at h
      simp at h
  | x :: y :: rest =>
      have hx : x ∈ freshSources env s asset n := by
        rw [hl]
        simp
      have hy : y ∈ freshSources env s asset n := by
        rw [hl]
        simp
      refine ⟨x.name, y.name, ?_, freshFrom_of_mem hs hx,
        freshFrom_of_mem hs hy⟩
      intro heq
      rw [hl] at hnodup
      simp [heq] at hnodup

-- =========================================================== the prices

/-- A refresh writes the reference of its own asset, if any. -/
theorem refreshReference_get {m v : Int} {a : Address}
    (h : (refreshReference env s asset config m).rollingReference.get a
      = some v) :
    a = asset ∧ v = m ∨ s.rollingReference.get a = some v := by
  unfold refreshReference at h
  split at h
  · rw [Store.get_set] at h
    split at h
    · next ha =>
      injection h with h
      exact .inl ⟨ha, h.symm⟩
    · exact .inr h
  · exact .inr h

/-- Nothing else of what prices are made of. -/
theorem refreshReference_frame (env : HostEnv) (s : State)
    (asset : Address) (config : AssetGuardConfig) (m : Int) :
    (refreshReference env s asset config m).lastGood = s.lastGood
    ∧ (refreshReference env s asset config m).pendingHaltValue
      = s.pendingHaltValue := by
  unfold refreshReference
  split <;> exact ⟨rfl, rfl⟩

/-- A median of agreeing readings becomes the last good price, and the
reference if that has aged. -/
theorem PricesOk.agreed {m : Int} (hp : PricesOk s) (hm : 0 < m) :
    PricesOk (writeBack env s asset config (.agreed m)).1 := by
  obtain ⟨hlast, hpend⟩ := refreshReference_frame env s asset config m
  have hget : ∀ a, (writeBack env s asset config (.agreed m)).1.lastGood.get a
      = if a = asset then some m else s.lastGood.get a := by
    intro a
    rw [← hlast, ← Store.get_set]
    rfl
  refine ⟨?_, ?_, ?_⟩
  · intro a v hv
    rw [hget] at hv
    split at hv
    · injection hv with hv
      omega
    · exact hp.lastGood a v hv
  · intro a v hv
    rw [hget]
    rcases refreshReference_get hv with ⟨ha, rfl⟩ | hold
    · rw [if_pos ha]
      exact ⟨hm, v, rfl⟩
    · obtain ⟨hpos, last, hl⟩ := hp.reference a v hold
      refine ⟨hpos, ?_⟩
      split
      · exact ⟨m, rfl⟩
      · exact ⟨last, hl⟩
  · intro a v hv
    have hv' : s.pendingHaltValue.get a = some v := by
      rw [← hpend]
      exact hv
    exact hp.pending a v hv'

/-- One that moved too far is latched, and the prices stay. -/
theorem PricesOk.tripped {held m : Int} (hp : PricesOk s) (hm : 0 < m) :
    PricesOk (latchHalt s asset held m) := by
  refine ⟨hp.lastGood, hp.reference, ?_⟩
  intro a v hv
  have hv' : (s.pendingHaltValue.set asset m).get a = some v := hv
  rw [Store.get_set] at hv'
  split at hv'
  · injection hv' with hv'
    omega
  · exact hp.pending a v hv'

/-- So every evaluation keeps the prices in order. -/
theorem PricesOk.evaluate {g : GuardedPrice} (hr : ReadingsOk s)
    (hp : PricesOk s) (h : evaluate env asset s = .ok (g, s')) :
    PricesOk s' := by
  obtain ⟨config, verdict, -, hjudge, -, rfl⟩ := evaluate_ok h
  refine PricesOk.same ?_ samePrices_status
  have hpos := freshSources_pos env asset hr config.maxStalenessS
  cases verdict with
  | latched => exact hp
  | degraded => exact hp
  | tripped held m =>
      have hband := (judge_tripped hpos
        (fun r hr => (hp.reference asset r hr).2) hjudge).1
      exact hp.tripped hband.pos
  | agreed m => exact hp.agreed (judge_agreed hpos hjudge).1.pos

/-- A confirmed halt promotes a price that is positive already. -/
theorem PricesOk.promote (hp : PricesOk s) :
    PricesOk (promotePending env s asset).1 := by
  unfold promotePending
  split
  · next pending hpend =>
    have hpos := hp.pending asset pending hpend
    refine ⟨?_, ?_, ?_⟩
    · intro a v hv
      rw [Store.get_set] at hv
      split at hv
      · injection hv with hv
        omega
      · exact hp.lastGood a v hv
    · intro a v hv
      rw [Store.get_set] at hv ⊢
      split at hv
      · next ha =>
        injection hv with hv
        rw [if_pos ha]
        exact ⟨by omega, pending, rfl⟩
      · next ha =>
        rw [if_neg ha]
        exact hp.reference a v hv
    · intro a v hv
      rw [Store.get_remove] at hv
      split at hv
      · cases hv
      · exact hp.pending a v hv
  · exact hp

/-- The latch is no price. -/
theorem PricesOk.cleared (h : PricesOk (promotePending env s asset).1) :
    PricesOk (cleared env s asset) :=
  ⟨h.lastGood, h.reference, h.pending⟩

-- ================================================================= runs

/-- What holds of every reached state. -/
def GuardOk (s : State) : Prop := ReadingsOk s ∧ PricesOk s

/-- So does every call. -/
theorem GuardOk.effect (hs : GuardOk s) (h : Effect env s s' e) :
    GuardOk s' := by
  obtain ⟨hr, hp⟩ := hs
  cases h with
  | quiet hread hprices => exact ⟨hr.same hread, hp.same hprices⟩
  | evaluated hin heval =>
      have hr₁ := hr.entered hin
      exact ⟨hr₁.same (evaluate_readings heval),
        (hp.same hin.prices).evaluate hr₁ heval⟩
  | @confirmed risk asset hread hprices =>
      exact ⟨hr.same hread, hp.promote.cleared.same hprices⟩

/-- In every state of every run. -/
theorem guardOk_run (self : Address) (txs : List Tx) :
    GuardOk ((machine self).run (machine self).init txs) := by
  refine Machine.run_induction (P := GuardOk) ?_ ?_
    (Machine.allowed_true _ txs)
  · intro s tx s' hs _ happ
    exact hs.effect (call_effect (apply_call happ))
  · refine ⟨⟨?_, ?_, ?_⟩, ⟨?_, ?_, ?_⟩⟩
    · intro a
      exact List.nodup_nil
    · intro a n
      constructor
      · intro h
        cases h
      · intro h
        cases h
    · intro a n x hx
      cases hx
    · intro a v hv
      cases hv
    · intro a v hv
      cases hv
    · intro a v hv
      cases hv

-- =========================================================== the verdict

/-- Judged on the same values, the same verdict, whatever the order of
the source names. -/
theorem evaluate_reorder {m : Int} {names : List Symbol}
    (hconfig : s.config.get asset = some config)
    (hjudge : judge s asset config ((freshSources env s asset
      config.maxStalenessS).map (·.value)) = .ok (.agreed m))
    (hperm : names.Perm (sourceNames s asset)) :
    ∃ g s', evaluate env asset (reorder s asset names) = .ok (g, s')
      ∧ g.status = .ok ∧ g.value = m := by
  have hread : (readAllSources (reorder s asset names) asset).Perm
      (readAllSources s asset) := by
    have hnames : sourceNames (reorder s asset names) asset = names := by
      unfold sourceNames reorder
      rw [Store.get_set_self]
      rfl
    unfold readAllSources
    rw [hnames]
    exact hperm.filterMap _
  have hvalues : ((freshSources env (reorder s asset names) asset
      config.maxStalenessS).map (·.value)).Perm
      ((freshSources env s asset config.maxStalenessS).map (·.value)) :=
    (hread.filter _).map _
  have hjudge' : judge (reorder s asset names) asset config
      ((freshSources env (reorder s asset names) asset
        config.maxStalenessS).map (·.value)) = .ok (.agreed m) := by
    rw [← hjudge, ← judge_perm hvalues]
    rfl
  have hconfig' : (reorder s asset names).config.get asset = some config :=
    hconfig
  obtain ⟨s', hs'⟩ := evaluate_of_judge hconfig' hjudge'
  exact ⟨_, s', hs', rfl, rfl⟩

/-- The rules' own checks, read as a statement about the readings. -/
theorem OkPrice.of_agreed {m : Int} (hr : ReadingsOk s) (hp : PricesOk s)
    (hjudge : judge s asset config ((freshSources env s asset
      config.maxStalenessS).map (·.value)) = .ok (.agreed m)) :
    OkPrice env s asset config m := by
  obtain ⟨hband, hdaily, hwindow⟩ := judge_agreed
    (freshSources_pos env asset hr config.maxStalenessS) hjudge
  have hvalues := freshSources_values env asset hr config.maxStalenessS
  obtain ⟨htwo, hmedian, lo, hi, hlomem, hlole, himem, hhile, hlo, hspread⟩ :=
    hband
  rw [hvalues] at hmedian
  have hmem : ∀ x, x ∈ (freshSources env s asset
      config.maxStalenessS).map (·.value)
      ↔ x ∈ freshValues env s asset config.maxStalenessS := by
    intro x
    rw [← hvalues, Multiset.mem_coe]
  simp only [hmem] at hlomem hlole himem hhile
  have hcard : 0 < (freshValues env s asset config.maxStalenessS).card :=
    Multiset.card_pos_iff_exists_mem.mpr ⟨lo, hlomem⟩
  refine ⟨?_, hmedian, ?_, ?_, ?_⟩
  · rw [List.length_map] at htwo
    exact two_sources hr htwo
  · refine ⟨lo, hi, hlomem, himem, ?_, ?_, ?_, hlo, hspread⟩
    · intro x hx
      exact ⟨hlole x hx, hhile x hx⟩
    · rw [hmedian]
      exact le_median hcard hlole
    · rw [hmedian]
      exact median_le hcard hhile
  · intro last hlast
    have hpos := hp.lastGood asset last hlast
    rw [hlast] at hdaily
    exact ⟨hpos, movedTooFar_false hpos hdaily⟩
  · intro ref href
    have hpos := (hp.reference asset ref href).1
    rw [href] at hwindow
    exact ⟨hpos, movedTooFar_false hpos hwindow⟩

/-- Short of agreement, the last good price is reported and kept. -/
theorem lastGood_kept {g : GuardedPrice} (hr : ReadingsOk s)
    (hp : PricesOk s) (h : evaluate env asset s = .ok (g, s'))
    (hstatus : g.status ≠ .ok) :
    g.value = (s.lastGood.get asset).getD 0
      ∧ s'.lastGood = s.lastGood := by
  obtain ⟨config, verdict, -, hjudge, rfl, rfl⟩ := evaluate_ok h
  rw [samePrices_status.lastGood]
  cases verdict with
  | latched => exact ⟨rfl, rfl⟩
  | degraded => exact ⟨rfl, rfl⟩
  | tripped held m =>
      have hheld := (judge_tripped
        (freshSources_pos env asset hr config.maxStalenessS)
        (fun r hr => (hp.reference asset r hr).2) hjudge).2.1
      exact ⟨hheld, rfl⟩
  | agreed m => exact absurd rfl hstatus

/-- In every reached state, wherever a call evaluates an asset: an `Ok`
price is what it should be, becomes the last good one, and would have
been the same with the sources in any other order; any other status
reports the last good price and leaves it as it was. -/
theorem ok_price_sound (self : Address) (txs : List Tx) {env : HostEnv}
    {asset : Address} {s s' : State} {g : GuardedPrice}
    (hin : Entered env ((machine self).run (machine self).init txs) asset s)
    (h : evaluate env asset s = .ok (g, s')) :
    (g.status = .ok → ∃ config, s.config.get asset = some config
      ∧ OkPrice env s asset config g.value
      ∧ s'.lastGood.get asset = some g.value
      ∧ ∀ names, names.Perm (sourceNames s asset) →
        ∃ g₁ s₁, evaluate env asset (reorder s asset names) = .ok (g₁, s₁)
          ∧ g₁.status = .ok ∧ g₁.value = g.value)
    ∧ (g.status ≠ .ok → g.value = (s.lastGood.get asset).getD 0
      ∧ s'.lastGood = s.lastGood) := by
  obtain ⟨hr₀, hp₀⟩ := guardOk_run self txs
  have hr := hr₀.entered hin
  have hp := hp₀.same hin.prices
  refine ⟨?_, lastGood_kept hr hp h⟩
  intro hok
  obtain ⟨config, verdict, hconfig, hjudge, rfl, rfl⟩ := evaluate_ok h
  refine ⟨config, hconfig, ?_⟩
  cases verdict with
  | latched => cases hok
  | degraded => cases hok
  | tripped held m => cases hok
  | agreed m =>
      refine ⟨.of_agreed hr hp hjudge, ?_, ?_⟩
      · rw [samePrices_status.lastGood]
        exact Store.get_set_self _ _ _
      · intro names hperm
        exact evaluate_reorder hconfig hjudge hperm

/-- Readings of 1000, 1003 and 1004, and the first of them stale by the
time of the read: the price is 1003, the mean of the other two rounded
down. -/
theorem ok_price_sound_demo :
    let txs := Demo.setup ++ [Demo.reading "nav" 1000 10,
      Demo.reading "feed" 1003 5000, Demo.reading "redemption" 1004 5010]
    ∃ g s', evaluate (Demo.env 5020).toHostEnv Demo.asset
        ((machine Demo.self).run (machine Demo.self).init txs) = .ok (g, s')
      ∧ g.value = 1003
      ∧ OkPrice (Demo.env 5020).toHostEnv
          ((machine Demo.self).run (machine Demo.self).init txs) Demo.asset
          ⟨50, 200, 3600, 86400, 100⟩ 1003
      ∧ s'.lastGood.get Demo.asset = some 1003 := by
  intro txs
  have hprice : ((evaluate (Demo.env 5020).toHostEnv Demo.asset
      ((machine Demo.self).run (machine Demo.self).init txs)).toOption.map
        fun p => (p.1.status, p.1.value)) = some (.ok, 1003) := by
    decide +kernel
  obtain ⟨⟨g, s'⟩, heval⟩ : ∃ p, evaluate (Demo.env 5020).toHostEnv
      Demo.asset ((machine Demo.self).run (machine Demo.self).init txs)
      = .ok p := exists_of_isOk (by decide +kernel)
  rw [heval] at hprice
  have hvals : g.status = .ok ∧ g.value = 1003 := by
    simpa [Except.toOption] using hprice
  obtain ⟨config, hconfig, hok, hlast, -⟩ :=
    (ok_price_sound Demo.self txs .read heval).1 hvals.1
  have hc : config = ⟨50, 200, 3600, 86400, 100⟩ := by
    have hstored : ((machine Demo.self).run (machine Demo.self).init
        txs).config.get Demo.asset = some ⟨50, 200, 3600, 86400, 100⟩ := by
      decide +kernel
    rw [hstored] at hconfig
    exact (Option.some.inj hconfig).symm
  rw [hc, hvals.2] at hok
  rw [hvals.2] at hlast
  exact ⟨g, s', heval, hvals.2, hok, hlast⟩

end Ballast.PriceGuard
