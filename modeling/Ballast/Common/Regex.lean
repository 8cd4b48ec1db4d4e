/-
Backtracking regular expressions.

A backtracking matcher tries its choices in a fixed order and takes the
first that lets the rest of the pattern match. `runs` lists every way a
pattern can match a prefix in the order the matcher would come to them,
so the match is the head of the list: the left of an alternative before
the right, and of a star one more round before none. As in ECMAScript, a
round that consumes nothing does not count.

The rules here give the head of a list from the heads of its parts
(`head_seq`, `head_alt`, `head_repeats`); `mem_runs` says a match and
what it leaves are the text.
-/
import Mathlib.Data.List.Basic

namespace Ballast

variable {α : Type}

inductive Regex (α : Type) where
  /-- a character class -/
  | one (ok : α → Bool)
  | seq (r s : Regex α)
  | alt (r s : Regex α)
  /-- `r*`, greedy -/
  | star (r : Regex α)
  /-- `$`: nothing is left -/
  | stop

namespace Regex

/-- One way to match: what it consumed and what is left. -/
abbrev Run (α : Type) := List α × List α

/-- One match, then another of what it left. -/
def chain (first : List (Run α)) (next : List α → List (Run α)) :
    List (Run α) :=
  first.flatMap fun m => (next m.2).map fun m' => (m.1 ++ m'.1, m'.2)

/-- At most `n` rounds, as many as possible first. -/
def repeats (round : List α → List (Run α)) : Nat → List α → List (Run α)
  | 0, s => [([], s)]
  | n + 1, s =>
      chain ((round s).filter fun m => !m.1.isEmpty) (repeats round n)
        ++ [([], s)]

/-- The ways `r` matches a prefix, in the order they are tried. -/
def runs : Regex α → List α → List (Run α)
  | .one _, [] => []
  | .one ok, c :: s => if ok c then [([c], s)] else []
  | .seq r r', s => chain (runs r s) (runs r')
  | .alt r r', s => runs r s ++ runs r' s
  -- every round consumes, so there are no more than characters
  | .star r, s => repeats (runs r) s.length s
  | .stop, [] => [([], [])]
  | .stop, _ :: _ => []

theorem runs_alt (r r' : Regex α) (s : List α) :
    runs (.alt r r') s = runs r s ++ runs r' s := rfl

-- ============================================================== soundness

theorem mem_chain {first : List (Run α)} {next : List α → List (Run α)}
    {m : Run α} (h : m ∈ chain first next) :
    ∃ a ∈ first, ∃ b ∈ next a.2, m = (a.1 ++ b.1, b.2) := by
  obtain ⟨a, ha, hm⟩ := List.mem_flatMap.mp h
  obtain ⟨b, hb, rfl⟩ := List.mem_map.mp hm
  exact ⟨a, ha, b, hb, rfl⟩

theorem mem_repeats {round : List α → List (Run α)}
    (hround : ∀ s, ∀ m ∈ round s, m.1 ++ m.2 = s) (n : Nat) :
    ∀ s, ∀ m ∈ repeats round n s, m.1 ++ m.2 = s := by
  induction n with
  | zero =>
      intro s m hm
      rw [repeats, List.mem_singleton] at hm
      rw [hm, List.nil_append]
  | succ n ih =>
      intro s m hm
      rcases List.mem_append.mp hm with hm | hm
      · obtain ⟨a, ha, b, hb, rfl⟩ := mem_chain hm
        have hfirst := hround s a (List.mem_filter.mp ha).1
        rw [List.append_assoc, ih a.2 b hb, hfirst]
      · rw [List.mem_singleton.mp hm, List.nil_append]

/-- A match and what it leaves are the text. -/
theorem mem_runs {r : Regex α} : ∀ {s : List α} {m : Run α},
    m ∈ runs r s → m.1 ++ m.2 = s := by
  induction r with
  | one ok =>
      intro s m hm
      cases s with
      | nil => cases hm
      | cons c s =>
          rw [runs] at hm
          split at hm
          · rw [List.mem_singleton.mp hm, List.singleton_append]
          · cases hm
  | seq r r' ih ih' =>
      intro s m hm
      obtain ⟨a, ha, b, hb, rfl⟩ := mem_chain hm
      rw [List.append_assoc, ih' hb, ih ha]
  | alt r r' ih ih' =>
      intro s m hm
      rcases List.mem_append.mp hm with hm | hm
      · exact ih hm
      · exact ih' hm
  | star r ih =>
      intro s m hm
      exact mem_repeats (fun s m hm => ih hm) s.length s m hm
  | stop =>
      intro s m hm
      cases s with
      | nil => rw [List.mem_singleton.mp hm, List.nil_append]
      | cons c s => cases hm

/-- Every match consumes something. -/
def Consumes (r : Regex α) : Prop := ∀ s, ∀ m ∈ runs r s, m.1 ≠ []

theorem consumes_one (ok : α → Bool) : Consumes (.one ok) := by
  intro s m hm
  cases s with
  | nil => cases hm
  | cons c s =>
      rw [runs] at hm
      split at hm
      · rw [List.mem_singleton.mp hm]
        exact List.cons_ne_nil c []
      · cases hm

theorem Consumes.seq {r : Regex α} (h : Consumes r) (r' : Regex α) :
    Consumes (.seq r r') := by
  intro s m hm
  obtain ⟨a, ha, b, -, rfl⟩ := mem_chain hm
  intro hnil
  exact h s a ha (List.append_eq_nil_iff.mp hnil).1

-- ============================================================== the match

theorem head_chain {first : List (Run α)} {next : List α → List (Run α)}
    {a b : Run α} (ha : first.head? = some a)
    (hb : (next a.2).head? = some b) :
    (chain first next).head? = some (a.1 ++ b.1, b.2) := by
  cases first with
  | nil => cases ha
  | cons m first =>
      injection ha with ha
      subst ha
      rw [chain, List.flatMap_cons, List.head?_append, List.head?_map, hb]
      rfl

/-- A sequence goes on with the first match of its first part, if the
rest matches there. -/
theorem head_seq {r r' : Regex α} {s : List α} {a b : Run α}
    (ha : (runs r s).head? = some a) (hb : (runs r' a.2).head? = some b) :
    (runs (.seq r r') s).head? = some (a.1 ++ b.1, b.2) :=
  head_chain ha hb

/-- An alternative takes its left when that matches. -/
theorem head_alt {r r' : Regex α} {s : List α} {m : Run α}
    (h : (runs r s).head? = some m) :
    (runs (.alt r r') s).head? = some m := by
  rw [runs, List.head?_append, h]
  rfl

/-- And its right when the left cannot. -/
theorem head_alt_right {r r' : Regex α} {s : List α} {m : Run α}
    (h : runs r s = []) (h' : (runs r' s).head? = some m) :
    (runs (.alt r r') s).head? = some m := by
  rw [runs, h, List.nil_append, h']

/-- A star takes one more round when it can. -/
theorem head_repeats {round : List α → List (Run α)} {n : Nat}
    {s : List α} {a b : Run α} (ha : (round s).head? = some a)
    (hne : a.1 ≠ []) (hb : (repeats round n a.2).head? = some b) :
    (repeats round (n + 1) s).head? = some (a.1 ++ b.1, b.2) := by
  have hround : ((round s).filter fun m => !m.1.isEmpty).head? = some a := by
    cases hrun : round s with
    | nil => rw [hrun] at ha; cases ha
    | cons m ms =>
        rw [hrun] at ha
        injection ha with ha
        subst ha
        rw [List.filter_cons, if_pos (by simpa using hne)]
        rfl
  rw [repeats, List.head?_append, head_chain hround hb]
  rfl

/-- And stops where it cannot. -/
theorem head_repeats_stop {round : List α → List (Run α)} {s : List α}
    (h : round s = []) (n : Nat) :
    (repeats round n s).head? = some ([], s) := by
  cases n with
  | zero => rfl
  | succ n =>
      rw [repeats, h]
      rfl

/-- The star of a class takes all it can. -/
theorem head_star_one (ok : α → Bool) (s : List α) :
    (runs (.star (.one ok)) s).head?
      = some (s.takeWhile ok, s.dropWhile ok) := by
  have hn : ∀ n, s.length ≤ n →
      (repeats (runs (.one ok)) n s).head?
        = some (s.takeWhile ok, s.dropWhile ok) := by
    induction s with
    | nil => exact fun n _ => head_repeats_stop rfl n
    | cons c s ih =>
        intro n hn
        by_cases hc : ok c = true
        · obtain ⟨n, rfl⟩ : ∃ k, n = k + 1 := by
            exact ⟨n - 1, by simp at hn; omega⟩
          rw [List.takeWhile_cons_of_pos hc, List.dropWhile_cons_of_pos hc]
          exact head_repeats (a := ([c], s)) (by rw [runs, if_pos hc]; rfl)
            (List.cons_ne_nil c []) (ih n (by simpa using hn))
        · rw [List.takeWhile_cons_of_neg hc, List.dropWhile_cons_of_neg hc]
          exact head_repeats_stop (by rw [runs, if_neg hc]) n
  exact hn s.length (Nat.le_refl _)

end Regex

end Ballast
