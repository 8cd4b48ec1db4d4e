/-
Texts joined by a separator come apart at the first one, or at the last,
when the part before it, or after it, holds none.

Both are about reading back what was written: a text is put together as
a part, a separator and a rest, and a reader that cuts it at a separator
gets the part and the rest again, provided the part holds none. The text
may be of any type, and the separator any element of it.
-/
import Mathlib.Data.List.Basic

namespace Ballast

variable {α : Type} {a : α} {x y u v : List α}

/-- Two texts cut at their first separator. -/
theorem cut_first (hx : a ∉ x)
    (hy : a ∉ y) (h : x ++ a :: u = y ++ a :: v) : x = y ∧ u = v := by
  induction x generalizing y with
  | nil =>
      cases y with
      | nil => exact ⟨rfl, (List.cons.inj h).2⟩
      | cons c y =>
          have hc : a = c := (List.cons.inj h).1
          exact absurd (hc ▸ List.mem_cons_self) hy
  | cons b x ih =>
      cases y with
      | nil =>
          have hb : b = a := (List.cons.inj h).1
          exact absurd (hb ▸ List.mem_cons_self) hx
      | cons c y =>
          obtain ⟨hbc, hrest⟩ := List.cons.inj h
          have hx' : a ∉ x := fun hm => hx (List.mem_cons_of_mem _ hm)
          have hy' : a ∉ y := fun hm => hy (List.mem_cons_of_mem _ hm)
          obtain ⟨hxy, huv⟩ := ih hx' hy' hrest
          exact ⟨by rw [hbc, hxy], huv⟩

/-- Two texts cut at their last separator. -/
theorem cut_last (hu : a ∉ u)
    (hv : a ∉ v) (h : x ++ a :: u = y ++ a :: v) : x = y ∧ u = v := by
  have hrev : u.reverse ++ a :: x.reverse = v.reverse ++ a :: y.reverse := by
    have := congrArg List.reverse h
    simpa using this
  obtain ⟨huv, hxy⟩ := cut_first (by simpa using hu) (by simpa using hv)
    hrev
  exact ⟨List.reverse_inj.mp hxy, List.reverse_inj.mp huv⟩

end Ballast
