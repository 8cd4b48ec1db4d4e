/-
A log of changes: of readings taken one after another, one is noted when
it differs from the one noted last.

What the log says of the past is exact at the changes and complete
between them: since an entry, no reading was of a kind that the log does
not have since that entry (`since_noted`).

A program that looks only at the log sees less than one that looks at
every reading: a reading that came and went between two entries is lost
if it was equal to the one noted before it, and only then. So for a
question about a kind of reading the log is enough, and for a question
about how often it was read it is not.
-/
import Mathlib.Data.List.Basic
import Mathlib.Data.List.Induction
import Mathlib.Data.List.TakeWhile

namespace Ballast.Changes

variable {α β : Type} [DecidableEq β] {key : α → β} {xs : List α}

/-- The log after one more reading. -/
def note (key : α → β) (log : List α) (x : α) : List α :=
  if log.getLast?.map key = some (key x) then log else log ++ [x]

/-- What is noted of some readings. -/
def changes (key : α → β) (xs : List α) : List α := xs.foldl (note key) []

theorem changes_snoc (key : α → β) (xs : List α) (x : α) :
    changes key (xs ++ [x]) = note key (changes key xs) x := by
  unfold changes
  rw [List.foldl_append]
  rfl

/-- Every entry was read, and what was read since is in the log since. -/
theorem since_noted {pre post : List α} {e : α}
    (h : changes key xs = pre ++ e :: post) :
    ∃ before after, xs = before ++ e :: after
      ∧ ∀ x ∈ after, ∃ y ∈ e :: post, key y = key x := by
  induction xs using List.reverseRecOn generalizing pre post e with
  | nil => simp [changes] at h
  | append_singleton xs x ih =>
      rw [changes_snoc, note] at h
      split at h
      next hlast =>
        obtain ⟨before, after, rfl, hafter⟩ := ih h
        refine ⟨before, after ++ [x], by simp, fun y hy => ?_⟩
        rcases List.mem_append.mp hy with hy | hy
        · exact hafter y hy
        · rw [List.mem_singleton.mp hy]
          rw [h, List.getLast?_append_cons] at hlast
          obtain ⟨z, hz, hkey⟩ := Option.map_eq_some_iff.mp hlast
          exact ⟨z, List.mem_of_getLast? hz, hkey⟩
      · induction post using List.reverseRecOn with
        | nil =>
            obtain ⟨-, heq⟩ := List.append_inj' h rfl
            injection heq with heq
            subst heq
            exact ⟨xs, [], rfl, fun _ hy => nomatch hy⟩
        | append_singleton post z _ =>
            rw [← List.cons_append, ← List.append_assoc] at h
            obtain ⟨hlog, heq⟩ := List.append_inj' h rfl
            injection heq with heq
            subst heq
            obtain ⟨before, after, rfl, hafter⟩ := ih hlog
            refine ⟨before, after ++ [x], by simp, fun y hy => ?_⟩
            rcases List.mem_append.mp hy with hy | hy
            · obtain ⟨w, hw, hkey⟩ := hafter y hy
              exact ⟨w, List.mem_append_left _ hw, hkey⟩
            · rw [List.mem_singleton.mp hy]
              exact ⟨x, by simp, rfl⟩

/-- The oldest of the entries that pass a test, back to one that does not
or to the last that is looked at. -/
theorem oldest_passing {p : α → Bool} {log : List α} {n : Nat} {e : α}
    (h : ((log.reverse.take n).takeWhile p).getLast? = some e) :
    ∃ pre post, log = pre ++ e :: post ∧ ∀ y ∈ e :: post, p y = true := by
  obtain ⟨init, hrun⟩ := List.getLast?_eq_some_iff.mp h
  have hall : ∀ y ∈ init ++ [e], p y = true := by
    intro y hy
    rw [← hrun] at hy
    exact List.mem_takeWhile_imp hy
  have hprefix : (log.reverse.take n).takeWhile p <+: log.reverse :=
    (List.takeWhile_prefix p).trans (List.take_prefix n _)
  obtain ⟨rest, hrest⟩ := hprefix
  refine ⟨rest.reverse, init.reverse, ?_, ?_⟩
  · rw [← List.reverse_reverse log, ← hrest, hrun]
    simp
  · intro y hy
    apply hall
    simpa [or_comm] using hy

end Ballast.Changes
