/-
Stretches of a list: the longest runs of elements that pass a test.

A stretch is begun where an element before it fails the test, or at the
head of the list, and ended by the element after it. Every element that
fails right after one that passes ends exactly such a stretch
(`exists_stretch`).

The elements are whatever is kept of a run, and the test is whatever is
waited for: a state in which a line is in margin call, say, with the
first state past it as the one that ends the stretch. The theorem turns
an end that is seen into the whole stretch behind it.
-/
import Mathlib.Data.List.DropRight

namespace Ballast

variable {α : Type} {p : α → Bool} {l pre mid : List α} {e : α}

/-- After `pre`, `mid` is a stretch of `p`, and `e` ends it. -/
structure Stretch (p : α → Bool) (pre mid : List α) (e : α) : Prop where
  nonempty : mid ≠ []
  inside : ∀ x ∈ mid, p x = true
  ended : p e = false
  begun : ∀ x ∈ pre.getLast?, p x = false

theorem exists_stretch (hend : p e = false)
    (hlast : ∃ x ∈ l.getLast?, p x = true) :
    ∃ pre mid, l = pre ++ mid ∧ Stretch p pre mid e := by
  obtain ⟨x, hx, hpass⟩ := hlast
  refine ⟨l.rdropWhile p, l.rtakeWhile p,
    (List.rdropWhile_append_rtakeWhile ..).symm, ?_, ?_, hend, ?_⟩
  · intro hnil
    have hne : l ≠ [] := by
      rintro rfl
      cases hx
    have hfails := List.rtakeWhile_eq_nil_iff.mp hnil hne
    rw [List.getLast?_eq_some_getLast hne] at hx
    injection hx with hx
    exact hfails (hx ▸ hpass)
  · exact fun y hy => List.mem_rtakeWhile_imp hy
  · intro y hy
    have hne : l.rdropWhile p ≠ [] := by
      intro hnil
      rw [hnil] at hy
      cases hy
    have hfails := List.rdropWhile_last_not p l hne
    rw [List.getLast?_eq_some_getLast hne] at hy
    injection hy with hy
    simpa [hy] using hfails

end Ballast
