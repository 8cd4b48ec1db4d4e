/-
Sorting by insertion, and the median of a multiset.

# Insertion

An array sort that scans down from the right leaves, around the slot it
stops at, a left part whose last entry is small enough and a right part
of larger entries (`Slot`). That is all insertion sort needs: the slot
keeps a sorted list sorted (`Slot.sorted`) and moves nothing in or out
(`insert_perm`).

# The median

`median` is a function of the multiset, so it cannot depend on the
order its values came in. It rounds the mean of two middle values down,
and lies between any bounds of the values (`le_median`, `median_le`).
-/
import Mathlib.Algebra.Order.Ring.Int
import Mathlib.Data.List.GetD
import Mathlib.Data.Multiset.Sort

namespace Ballast.Sorting

-- ============================================================ insertion

section Insertion

variable {α : Type} [LinearOrder α]

/-- `x` goes between `l` and `r`: scanning down from the right, `r` was
passed over and `l` stopped the scan. -/
structure Slot (x : α) (l r : List α) : Prop where
  stop : ∀ y, l.getLast? = some y → y ≤ x
  passed : ∀ y ∈ r, x < y

/-- Everything to the left of the slot is small enough, not only the
entry that stopped the scan. -/
theorem Slot.left_le {x : α} {l r : List α} (h : Slot x l r)
    (hs : (l ++ r).Pairwise (· ≤ ·)) : ∀ y ∈ l, y ≤ x := by
  intro y hy
  rcases List.eq_nil_or_concat l with hnil | ⟨l', z, hl⟩
  · rw [hnil] at hy
    cases hy
  · rw [List.concat_eq_append] at hl
    have hz : z ≤ x := h.stop z (by rw [hl]; simp)
    rw [hl, List.append_assoc, List.pairwise_append] at hs
    rw [hl] at hy
    rcases List.mem_append.mp hy with hy | hy
    · exact (hs.2.2 y hy z (by simp)).trans hz
    · rw [List.mem_singleton] at hy
      rw [hy]
      exact hz

theorem Slot.sorted {x : α} {l r : List α} (h : Slot x l r)
    (hs : (l ++ r).Pairwise (· ≤ ·)) :
    (l ++ x :: r).Pairwise (· ≤ ·) := by
  have hleft := h.left_le hs
  obtain ⟨hl, hr, hlr⟩ := List.pairwise_append.mp hs
  refine List.pairwise_append.mpr ⟨hl, ?_, ?_⟩
  · exact List.pairwise_cons.mpr ⟨fun y hy => (h.passed y hy).le, hr⟩
  · intro y hy z hz
    rcases List.mem_cons.mp hz with hz | hz
    · rw [hz]
      exact hleft y hy
    · exact hlr y hy z hz

omit [LinearOrder α] in
/-- Where it goes, nothing else changes. -/
theorem insert_perm {x : α} {l r : List α} :
    (l ++ x :: r).Perm ((l ++ r) ++ [x]) :=
  List.perm_middle.trans (List.perm_append_singleton x (l ++ r)).symm

/-- The values of a multiset in ascending order. -/
def ascending (m : Multiset α) : List α := m.sort

@[simp] theorem mem_ascending {m : Multiset α} {x : α} :
    x ∈ ascending m ↔ x ∈ m :=
  Multiset.mem_sort _

@[simp] theorem length_ascending (m : Multiset α) :
    (ascending m).length = m.card :=
  Multiset.length_sort _

/-- A sorted rearrangement of a list is its multiset in order. -/
theorem ascending_of_perm {l l' : List α} (hs : l.Pairwise (· ≤ ·))
    (hp : l.Perm l') : ascending (l' : Multiset α) = l := by
  have hsort : (ascending (l' : Multiset α)).Perm l := by
    rw [← Multiset.coe_eq_coe, ascending, Multiset.sort_eq,
      Multiset.coe_eq_coe]
    exact hp.symm
  exact hsort.eq_of_pairwise' (Multiset.pairwise_sort _ _) hs

end Insertion

-- =========================================================== the median

/-- The middle value of an odd number of values; the mean of the two
middle ones, rounded down, of an even number. -/
def median (m : Multiset Int) : Int :=
  if m.card % 2 = 1 then (ascending m).getD (m.card / 2) 0
  else ((ascending m).getD (m.card / 2 - 1) 0
    + (ascending m).getD (m.card / 2) 0) / 2

variable {m : Multiset Int} {x : Int}

theorem ascending_getD_mem {i : Nat} (hi : i < m.card) :
    (ascending m).getD i 0 ∈ m := by
  have hlen : i < (ascending m).length := by
    rw [length_ascending]
    exact hi
  rw [List.getD_eq_getElem _ _ hlen, ← mem_ascending]
  exact List.getElem_mem hlen

theorem le_median (hne : 0 < m.card) (h : ∀ y ∈ m, x ≤ y) :
    x ≤ median m := by
  unfold median
  have hhi : x ≤ (ascending m).getD (m.card / 2) 0 :=
    h _ (ascending_getD_mem (by omega))
  split
  · exact hhi
  · have hlo : x ≤ (ascending m).getD (m.card / 2 - 1) 0 :=
      h _ (ascending_getD_mem (by omega))
    omega

theorem median_le (hne : 0 < m.card) (h : ∀ y ∈ m, y ≤ x) :
    median m ≤ x := by
  unfold median
  have hhi : (ascending m).getD (m.card / 2) 0 ≤ x :=
    h _ (ascending_getD_mem (by omega))
  split
  · exact hhi
  · have hlo : (ascending m).getD (m.card / 2 - 1) 0 ≤ x :=
      h _ (ascending_getD_mem (by omega))
    omega

end Ballast.Sorting
