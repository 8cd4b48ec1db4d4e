/-
Marks counted in fixed windows, seen through a sliding one.

A window is opened by its first mark, no earlier than the one before it
has run out, and takes at most `bound` marks. An interval as long as a
window meets at most two of them, so it holds at most twice as many marks.
`Sliding` is that as an invariant of the marks one after another: `lo` is
where the interval begins, `start` where the current window was opened,
`m` its marks and `n` those of the interval, all of them until `now`.
-/
import Mathlib.Algebra.Order.Group.Nat
import Mathlib.Tactic.Ring

namespace Ballast.FixedWindow

/-- One, if the mark is in the interval. -/
def inside (width lo t : Nat) : Nat :=
  if lo ≤ t ∧ t < lo + width then 1 else 0

structure Sliding (width bound lo start m n now : Nat) : Prop where
  begun : start ≤ now
  marks : m ≤ bound
  /-- the window ran out before the interval -/
  before : start + width ≤ lo → n = 0
  /-- the interval begins in the window -/
  first : start ≤ lo → n ≤ m
  /-- the window is opened in the interval -/
  second : lo < start → start < lo + width → n ≤ bound + m
  /-- the window is opened after the interval -/
  after : lo + width ≤ start → n ≤ 2 * bound

variable {width bound lo start m n now t : Nat}

theorem Sliding.le (h : Sliding width bound lo start m n now) :
    n ≤ 2 * bound := by
  have hm := h.marks
  rcases Nat.lt_or_ge lo start with hlo | hlo
  · rcases Nat.lt_or_ge start (lo + width) with hhi | hhi
    · have := h.second hlo hhi
      omega
    · exact h.after hhi
  · have := h.first hlo
    omega

/-- The very first mark. -/
theorem Sliding.opened (hbound : 1 ≤ bound) :
    Sliding width bound lo t 1 (inside width lo t) t := by
  unfold inside
  refine ⟨le_rfl, hbound, ?_, ?_, ?_, ?_⟩ <;> intros <;> split <;> omega

/-- Another mark in the window. -/
theorem Sliding.marked (h : Sliding width bound lo start m n now)
    (hnow : now ≤ t) (hopen : t < start + width) (hm : m + 1 ≤ bound) :
    Sliding width bound lo start (m + 1) (n + inside width lo t) t := by
  have hbegun := h.begun
  unfold inside
  refine ⟨hbegun.trans hnow, hm, fun hlo => ?_, fun hlo => ?_,
    fun hlo hhi => ?_, fun hlo => ?_⟩
  · rw [if_neg (by omega), h.before hlo]
  · have := h.first hlo
    split <;> omega
  · have := h.second hlo hhi
    split <;> omega
  · rw [if_neg (by omega)]
    exact h.after hlo

/-- The next window. -/
theorem Sliding.reopened (h : Sliding width bound lo start m n now)
    (hout : start + width ≤ t) (hbound : 1 ≤ bound) :
    Sliding width bound lo t 1 (n + inside width lo t) t := by
  have hm := h.marks
  unfold inside
  refine ⟨le_rfl, hbound, fun hlo => ?_, fun hlo => ?_, fun hlo hhi => ?_,
    fun hlo => ?_⟩
  · rw [if_neg (by omega), h.before (by omega)]
  · rw [h.before (by omega)]
    split <;> omega
  · have hfirst := h.first (by omega)
    split <;> omega
  · have hle := h.le
    rw [if_neg (by omega)]
    exact hle

theorem Sliding.later (h : Sliding width bound lo start m n now)
    (hnow : now ≤ t) : Sliding width bound lo start m n t :=
  ⟨h.begun.trans hnow, h.marks, h.before, h.first, h.second, h.after⟩

end Ballast.FixedWindow
