/-
Keyed contract storage: a finite map, with the sum of a quantity over
its entries.

A contract's bookkeeping properties are about totals ("what all lines
together may still claim"), and every storage write touches one key.
So the one law this file is for is `total_set`: writing key `k` moves
the total by the difference of `k`'s new and old contribution. Finite
support is a field, so a total is always an honest finite sum and a
store with infinitely many entries cannot be written down. Two stores
with the same lookups are equal (`Store.ext`), so the key set is not
observable beyond what `get` says.

# Reading after writing

Every operation has one law that says what a lookup finds after it, with
a case for the key that was written and one for the others (`get_set`,
`get_remove`, `get_adjust`), and the two cases as separate rewriting
rules for when the keys are known (`get_set_self`, `get_set_ne`). Proofs
about a storage write go through these and never open a store.

# Sums over entries

`total` sums any quantity into any commutative group, so the same laws
serve balances, counts and units per asset. The ordered section adds
what needs an order: a sum of parts that are not negative is at least
each part of it.
-/
import Mathlib.Algebra.BigOperators.Group.Finset.Basic
import Mathlib.Algebra.BigOperators.Intervals
import Mathlib.Algebra.Order.BigOperators.Group.Finset
import Mathlib.Tactic.Abel

namespace Ballast.Soroban

/-- A finite map from keys to stored values. -/
structure Store (κ ν : Type) where
  keys : Finset κ
  get : κ → Option ν
  mem_keys : ∀ k, k ∈ keys ↔ (get k).isSome

namespace Store

variable {κ ν : Type}

/-- Two stores with the same lookups are one. -/
@[ext] theorem ext {s t : Store κ ν} (h : ∀ k, s.get k = t.get k) :
    s = t := by
  have hget : s.get = t.get := funext h
  have hkeys : s.keys = t.keys := by
    apply Finset.ext
    intro k
    rw [s.mem_keys, t.mem_keys, h]
  cases s
  cases t
  simp_all

/-- Nothing stored. -/
def empty : Store κ ν := ⟨∅, fun _ => none, by simp⟩

@[simp] theorem get_empty (k : κ) : (empty : Store κ ν).get k = none := rfl

/-- A key outside the key set has no entry. -/
theorem not_mem_keys {s : Store κ ν} {k : κ} :
    k ∉ s.keys ↔ s.get k = none := by
  rw [s.mem_keys]
  simp

variable [DecidableEq κ]

/-- `storage.set(&k, &v)`. -/
def set (s : Store κ ν) (k : κ) (v : ν) : Store κ ν where
  keys := insert k s.keys
  get := fun k' => if k' = k then some v else s.get k'
  mem_keys := by
    intro k'
    by_cases h : k' = k
    · simp [h]
    · simp [h, s.mem_keys]

/-- `storage.remove(&k)`. -/
def remove (s : Store κ ν) (k : κ) : Store κ ν where
  keys := s.keys.erase k
  get := fun k' => if k' = k then none else s.get k'
  mem_keys := by
    intro k'
    by_cases h : k' = k
    · simp [h]
    · simp [h, s.mem_keys]

/-- What was written is found. -/
@[simp] theorem get_set_self (s : Store κ ν) (k : κ) (v : ν) :
    (s.set k v).get k = some v := by
  simp [set]

/-- Other keys are as they were. -/
@[simp] theorem get_set_ne (s : Store κ ν) {k k' : κ} (v : ν)
    (h : k' ≠ k) : (s.set k v).get k' = s.get k' := by
  simp [set, h]

/-- Both cases of a lookup after a write. -/
theorem get_set (s : Store κ ν) (k k' : κ) (v : ν) :
    (s.set k v).get k' = if k' = k then some v else s.get k' := rfl

/-- Writing back what is there changes nothing. -/
theorem set_get {s : Store κ ν} {k : κ} {v : ν} (h : s.get k = some v) :
    s.set k v = s := by
  apply ext
  intro k'
  rw [get_set]
  split
  · next hk => rw [hk, h]
  · rfl

/-- What was removed is gone. -/
@[simp] theorem get_remove_self (s : Store κ ν) (k : κ) :
    (s.remove k).get k = none := by
  simp [remove]

/-- Other keys are as they were. -/
@[simp] theorem get_remove_ne (s : Store κ ν) {k k' : κ} (h : k' ≠ k) :
    (s.remove k).get k' = s.get k' := by
  simp [remove, h]

/-- Both cases of a lookup after a removal. -/
theorem get_remove (s : Store κ ν) (k k' : κ) :
    (s.remove k).get k' = if k' = k then none else s.get k' := rfl

/-- A write, seen through a reading of the entries. -/
theorem map_get_set {ω : Type} (s : Store κ ν) (k k' : κ) (v : ν)
    (f : ν → ω) :
    ((s.set k v).get k').map f
      = if k' = k then some (f v) else (s.get k').map f := by
  rw [get_set]
  split <;> rfl

/-- A removal, seen through a reading of the entries. -/
theorem map_get_remove {ω : Type} (s : Store κ ν) (k k' : κ) (f : ν → ω) :
    ((s.remove k).get k').map f
      = if k' = k then none else (s.get k').map f := by
  rw [get_remove]
  split <;> rfl

/-- The entries `keep` keeps. -/
def filter (s : Store κ ν) (keep : κ → ν → Bool) : Store κ ν where
  keys := s.keys.filter fun k => ((s.get k).filter (keep k)).isSome
  get := fun k => (s.get k).filter (keep k)
  mem_keys := by
    intro k
    rw [Finset.mem_filter, s.mem_keys]
    cases s.get k <;> simp

omit [DecidableEq κ] in
/-- A filter keeps an entry or drops it, by its own key and value. -/
theorem get_filter (s : Store κ ν) (keep : κ → ν → Bool) (k : κ) :
    (s.filter keep).get k = (s.get k).filter (keep k) := rfl

/-- Every stored value, rewritten. -/
def map (s : Store κ ν) (f : κ → ν → ν) : Store κ ν where
  keys := s.keys
  get := fun k => (s.get k).map (f k)
  mem_keys := by
    intro k
    rw [s.mem_keys, Option.isSome_map]

omit [DecidableEq κ] in
/-- A map changes each entry by itself. -/
theorem get_map (s : Store κ ν) (f : κ → ν → ν) (k : κ) :
    (s.map f).get k = (s.get k).map (f k) := rfl

/-- The stored value at `k`, if there is one, rewritten. -/
def adjust (s : Store κ ν) (k : κ) (f : ν → ν) : Store κ ν :=
  match s.get k with
  | some v => s.set k (f v)
  | none => s

/-- An entry that is there is rewritten. -/
theorem adjust_some {s : Store κ ν} {k : κ} {v : ν} (f : ν → ν)
    (h : s.get k = some v) : s.adjust k f = s.set k (f v) := by
  simp [adjust, h]

/-- Without an entry nothing happens: this is SQL's `update ... where`. -/
theorem adjust_none {s : Store κ ν} {k : κ} (f : ν → ν)
    (h : s.get k = none) : s.adjust k f = s := by
  simp [adjust, h]

/-- Both cases of a lookup after an update. -/
theorem get_adjust (s : Store κ ν) (k k' : κ) (f : ν → ν) :
    (s.adjust k f).get k'
      = if k' = k then (s.get k).map f else s.get k' := by
  cases h : s.get k with
  | none =>
      rw [adjust_none f h]
      split
      · next hk => rw [hk, h]; rfl
      · rfl
  | some v => rw [adjust_some f h, get_set]; rfl

-- ================================================================ totals

variable {μ : Type} [AddCommGroup μ]

/-- What the entry at `k` contributes to a total; nothing when there
is no entry. -/
def part (s : Store κ ν) (f : κ → ν → μ) (k : κ) : μ :=
  match s.get k with
  | some v => f k v
  | none => 0

/-- The sum of `f` over the stored entries. -/
def total (s : Store κ ν) (f : κ → ν → μ) : μ := ∑ k ∈ s.keys, s.part f k

omit [DecidableEq κ] in
/-- The part of an entry that is there. -/
theorem part_some {s : Store κ ν} {k : κ} {v : ν} (f : κ → ν → μ)
    (h : s.get k = some v) : s.part f k = f k v := by
  simp [part, h]

omit [DecidableEq κ] in
/-- A key without an entry has no part in a sum. -/
theorem part_none {s : Store κ ν} {k : κ} (f : κ → ν → μ)
    (h : s.get k = none) : s.part f k = 0 := by
  simp [part, h]

omit [DecidableEq κ] in
/-- A default that contributes nothing may be read where nothing is. -/
theorem part_getD (s : Store κ ν) {f : κ → ν → μ} {k : κ} {v : ν}
    (h : f k v = 0) : s.part f k = f k ((s.get k).getD v) := by
  cases hv : s.get k with
  | none => rw [part_none f hv, Option.getD_none, h]
  | some v => rw [part_some f hv, Option.getD_some]

omit [DecidableEq κ] in
/-- Nothing sums to zero. -/
@[simp] theorem total_empty (f : κ → ν → μ) :
    (empty : Store κ ν).total f = 0 := by
  simp [total, empty]

omit [DecidableEq κ] in
/-- A total may be taken over any finite set that has the keys. -/
theorem total_eq_sum {s : Store κ ν} {ks : Finset κ} (f : κ → ν → μ)
    (h : s.keys ⊆ ks) : s.total f = ∑ k ∈ ks, s.part f k := by
  apply Finset.sum_subset h
  intro k _ hk
  exact part_none f (not_mem_keys.mp hk)

/-- Totals depend only on the contributions. -/
theorem total_congr {ν' : Type} {s : Store κ ν} {t : Store κ ν'}
    {f : κ → ν → μ} {g : κ → ν' → μ}
    (h : ∀ k, s.part f k = t.part g k) : s.total f = t.total g := by
  have hs : s.keys ⊆ s.keys ∪ t.keys := Finset.subset_union_left
  have ht : t.keys ⊆ s.keys ∪ t.keys := Finset.subset_union_right
  rw [total_eq_sum f hs, total_eq_sum g ht]
  exact Finset.sum_congr rfl fun k _ => h k

/-- Changing the contribution of one key changes the total by the
difference. -/
theorem total_update {ν' : Type} {s : Store κ ν}
    {t : Store κ ν'} {f : κ → ν → μ} {g : κ → ν' → μ} (k : κ)
    (h : ∀ k', k' ≠ k → t.part g k' = s.part f k') :
    t.total g = s.total f - s.part f k + t.part g k := by
  have hk : k ∈ insert k (s.keys ∪ t.keys) := by simp
  have hs : s.keys ⊆ insert k (s.keys ∪ t.keys) := by
    intro x hx
    simp [hx]
  have ht : t.keys ⊆ insert k (s.keys ∪ t.keys) := by
    intro x hx
    simp [hx]
  have hrest : ∑ x ∈ (insert k (s.keys ∪ t.keys)).erase k, t.part g x
      = ∑ x ∈ (insert k (s.keys ∪ t.keys)).erase k, s.part f x :=
    Finset.sum_congr rfl fun x hx => h x (Finset.ne_of_mem_erase hx)
  rw [total_eq_sum f hs, total_eq_sum g ht, ← Finset.add_sum_erase _ _ hk,
    ← Finset.add_sum_erase _ _ hk, hrest]
  abel

/-- One write moves the total by the difference it makes at its key. -/
theorem total_set (s : Store κ ν) (f : κ → ν → μ) (k : κ) (v : ν) :
    (s.set k v).total f = s.total f - s.part f k + f k v := by
  rw [total_update (s := s) (f := f) k]
  · rw [part_some f (get_set_self s k v)]
  · intro k' hk
    simp [part, get_set_ne s v hk]

end Store

-- ==================================================== ordered totals

namespace Store

variable {κ ν : Type}

/-- Every contribution is non-negative, so is the total. -/
theorem total_nonneg {s : Store κ ν} {f : κ → ν → Int}
    (h : ∀ k v, s.get k = some v → 0 ≤ f k v) : 0 ≤ s.total f := by
  apply Finset.sum_nonneg
  intro k _
  cases hv : s.get k with
  | none => rw [part_none f hv]
  | some v =>
      rw [part_some f hv]
      exact h k v hv

/-- One entry is at most the whole, when the others are non-negative. -/
theorem part_le_total {s : Store κ ν} {f : κ → ν → Int} {k : κ} {v : ν}
    (h : ∀ k v, s.get k = some v → 0 ≤ f k v) (hk : s.get k = some v) :
    f k v ≤ s.total f := by
  have hmem : k ∈ s.keys := by
    rw [s.mem_keys, hk]
    rfl
  rw [← part_some f hk]
  apply Finset.single_le_sum (f := s.part f) _ hmem
  intro x _
  cases hx : s.get x with
  | none => rw [part_none f hx]
  | some w =>
      rw [part_some f hx]
      exact h x w hx

/-- Totals of two stores compare key by key. -/
theorem total_le_of_part {ν' : Type} [DecidableEq κ] {s : Store κ ν}
    {t : Store κ ν'} {f : κ → ν → Int} {g : κ → ν' → Int}
    (h : ∀ k, s.part f k ≤ t.part g k) : s.total f ≤ t.total g := by
  have hs : s.keys ⊆ s.keys ∪ t.keys := Finset.subset_union_left
  have ht : t.keys ⊆ s.keys ∪ t.keys := Finset.subset_union_right
  rw [total_eq_sum f hs, total_eq_sum g ht]
  exact Finset.sum_le_sum fun k _ => h k

/-- Totals are monotone in the contributions. -/
theorem total_le_total {s : Store κ ν} {f g : κ → ν → Int}
    (h : ∀ k v, s.get k = some v → f k v ≤ g k v) :
    s.total f ≤ s.total g := by
  apply Finset.sum_le_sum
  intro k _
  cases hv : s.get k with
  | none => rw [part_none f hv, part_none g hv]
  | some v =>
      rw [part_some f hv, part_some g hv]
      exact h k v hv

end Store

end Ballast.Soroban
