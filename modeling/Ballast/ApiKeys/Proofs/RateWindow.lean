/-
The counter of the authentication hook: what a hit does to the map, that
nobody can tell whether it is swept, and what its entries say of the marks
counted so far.

# The sweep

A map of more than ten thousand entries is swept when a hit comes in.
What is swept had run out, and an entry that has run out is treated as
one that is missing, so a swept map and one never swept answer alike as
long as time does not go back (`sweep_unseen`).

# The entries

`Tracked` is the invariant of one key: how many marks it has had, and
how many of them are in the current window. The bound over any sliding
minute is twice the limit of a window, since such a minute meets at most
two of them.
-/
import Ballast.ApiKeys.AuthHook
import Ballast.Common.FixedWindow

namespace Ballast.ApiKeys

open Soroban FixedWindow

variable {w : RateWindow} {key k : Text} {hits hits' plain : Hits}
  {now t : Nat}

-- ==================================================================== a hit

theorem found_some {e : Window} :
    found key t hits = some e ↔ hits.get key = some e ∧ t < e.resetAt := by
  rw [found, Option.filter_eq_some_iff]
  simp [Window.live]

theorem found_set_self (e : Window) :
    found key t (hits.set key e) = (some e).filter (Window.live t) := by
  rw [found, Store.get_set_self]

theorem found_set_ne (e : Window) (h : k ≠ key) :
    found k t (hits.set key e) = found k t hits := by
  rw [found, Store.get_set_ne _ _ h, found]

/-- What is swept was not to be found any more. -/
theorem found_sweep (h : now ≤ t) :
    found k t (sweep now hits) = found k t hits := by
  apply Option.ext
  intro e
  rw [found_some, found_some, sweep, Store.get_filter,
    Option.filter_eq_some_iff]
  simp only [Window.live, decide_eq_true_eq]
  constructor
  · rintro ⟨⟨hget, -⟩, hlive⟩
    exact ⟨hget, hlive⟩
  · rintro ⟨hget, hlive⟩
    exact ⟨⟨hget, by omega⟩, hlive⟩

/-- What a hit answers and leaves. -/
inductive Hit (w : RateWindow) (key : Text) (t : Nat) (hits : Hits) :
    Bool → Hits → Prop where
  | opened {hits' : Hits} (hnone : found key t hits = none)
      (hself : hits'.get key = some ⟨1, t + w.windowMs⟩)
      (hothers : ∀ k, k ≠ key → hits'.get k = hits.get k
        ∨ hits'.get k = none ∧ found k t hits = none) :
      Hit w key t hits true hits'
  | counted {e : Window} (he : hits.get key = some e)
      (hlive : t < e.resetAt) :
      Hit w key t hits (decide (e.count + 1 ≤ w.limit))
        (hits.set key { e with count := e.count + 1 })

theorem hit_did (w : RateWindow) (key : Text) (t : Nat) (hits : Hits)
    (hwidth : 0 < w.windowMs) :
    Hit w key t hits (w.hit key t hits).1 (w.hit key t hits).2 := by
  unfold RateWindow.hit
  split
  next hnone =>
    refine .opened hnone ?_ ?_
    · dsimp only
      split
      · rw [sweep, Store.get_filter, Store.get_set_self]
        simp [Window.live, hwidth]
      · exact Store.get_set_self _ _ _
    · intro k hk
      dsimp only
      split
      · rw [sweep, Store.get_filter, Store.get_set_ne _ _ hk]
        cases hget : hits.get k with
        | none => exact Or.inl rfl
        | some e =>
            by_cases hlive : t < e.resetAt
            · left
              simp [Window.live, hlive]
            · right
              simp only [found, hget, Option.filter, Window.live,
                decide_eq_true_eq, hlive, if_false, and_self]
      · exact Or.inl (Store.get_set_ne _ _ hk)
  next e he =>
    obtain ⟨hget, hlive⟩ := found_some.mp he
    exact .counted hget hlive

-- ================================================================= the sweep

/-- `hit` without the sweep. -/
def RateWindow.plainHit (w : RateWindow) (key : Text) (nowMs : Nat)
    (hits : Hits) : Bool × Hits :=
  match found key nowMs hits with
  | none => (true, hits.set key ⟨1, nowMs + w.windowMs⟩)
  | some e =>
      (decide (e.count + 1 ≤ w.limit),
        hits.set key { e with count := e.count + 1 })

/-- Calls one after another: what each answers, and the map at the end. -/
def answers (hit : Text → Nat → Hits → Bool × Hits) :
    Hits → List (Nat × Text) → List Bool × Hits
  | hits, [] => ([], hits)
  | hits, (t, key) :: calls =>
      let (answer, hits) := hit key t hits
      let (rest, hits) := answers hit hits calls
      (answer :: rest, hits)

theorem answers_cons (hit : Text → Nat → Hits → Bool × Hits) (hits : Hits)
    (c : Nat × Text) (calls : List (Nat × Text)) :
    answers hit hits (c :: calls)
      = ((hit c.2 c.1 hits).1
          :: (answers hit (hit c.2 c.1 hits).2 calls).1,
        (answers hit (hit c.2 c.1 hits).2 calls).2) := rfl

/-- From now on the two maps show the same. -/
def Alike (now : Nat) (hits plain : Hits) : Prop :=
  ∀ k t, now ≤ t → found k t hits = found k t plain

theorem Alike.hit (w : RateWindow) (key : Text) (h : Alike now hits plain)
    (hnow : now ≤ t) :
    (w.hit key t hits).1 = (w.plainHit key t plain).1
      ∧ Alike t (w.hit key t hits).2 (w.plainHit key t plain).2 := by
  have hset : ∀ e, Alike t (hits.set key e) (plain.set key e) := by
    intro e k t' ht
    by_cases hk : k = key
    · rw [hk, found_set_self, found_set_self]
    · rw [found_set_ne _ hk, found_set_ne _ hk]
      exact h k t' (hnow.trans ht)
  unfold RateWindow.hit RateWindow.plainHit
  rw [h key t hnow]
  cases found key t plain with
  | none =>
      refine ⟨rfl, ?_⟩
      dsimp only
      split
      · intro k t' ht
        rw [found_sweep ht]
        exact hset _ k t' ht
      · exact hset _
  | some e => exact ⟨rfl, hset _⟩

/-- Nobody can tell whether the map is swept: as long as the clock does not
go back, `hit` and `count` answer as without it. -/
theorem sweep_unseen (w : RateWindow) (calls : List (Nat × Text))
    (hclock : calls.Pairwise (·.1 ≤ ·.1)) :
    (answers w.hit Store.empty calls).1
        = (answers w.plainHit Store.empty calls).1
      ∧ ∀ key t, (∀ c ∈ calls, c.1 ≤ t) →
        count key t (answers w.hit Store.empty calls).2
          = count key t (answers w.plainHit Store.empty calls).2 := by
  have hall : ∀ (calls : List (Nat × Text)) (now : Nat) (hits plain : Hits),
      Alike now hits plain → calls.Pairwise (·.1 ≤ ·.1) →
      (∀ c ∈ calls, now ≤ c.1) →
      (answers w.hit hits calls).1 = (answers w.plainHit plain calls).1
        ∧ ∀ t, now ≤ t → (∀ c ∈ calls, c.1 ≤ t) →
          Alike t (answers w.hit hits calls).2
            (answers w.plainHit plain calls).2 := by
    intro calls
    induction calls with
    | nil =>
        intro now hits plain h _ _
        exact ⟨rfl, fun t ht _ k t' ht' => h k t' (ht.trans ht')⟩
    | cons c calls ih =>
        intro now hits plain h hclock hnow
        rw [List.pairwise_cons] at hclock
        obtain ⟨hanswer, halike⟩ := Alike.hit w c.2 h
          (hnow c List.mem_cons_self)
        obtain ⟨hrest, hend⟩ := ih c.1 _ _ halike hclock.2 hclock.1
        rw [answers_cons, answers_cons]
        refine ⟨?_, ?_⟩
        · dsimp only
          rw [hanswer, hrest]
        · intro t _ hle
          exact hend t (hle c List.mem_cons_self)
            fun c' hc' => hle c' (List.mem_cons_of_mem _ hc')
  obtain ⟨hanswers, hend⟩ := hall calls 0 Store.empty Store.empty
    (fun _ _ _ => rfl) hclock fun _ _ => Nat.zero_le _
  refine ⟨hanswers, fun key t hle => ?_⟩
  rw [count, count, hend t (Nat.zero_le _) hle key t le_rfl]

/-- Ten thousand and two addresses fail once each, ten milliseconds apart:
the last two calls find more than ten thousand entries, most of them of
windows that have run out, and sweep. -/
def Demo.crowd : List (Nat × Text) :=
  (List.range 10002).map fun i => (10 * i, Nat.toDigits 10 i)

theorem sweep_unseen_demo :
    (answers failures.hit Store.empty Demo.crowd).1
        = (answers failures.plainHit Store.empty Demo.crowd).1
      ∧ ∀ key t, (∀ c ∈ Demo.crowd, c.1 ≤ t) →
        count key t (answers failures.hit Store.empty Demo.crowd).2
          = count key t
            (answers failures.plainHit Store.empty Demo.crowd).2 := by
  have hclock : Demo.crowd.Pairwise (·.1 ≤ ·.1) := by
    refine List.pairwise_map.mpr (List.pairwise_lt_range.imp ?_)
    intro i j hij
    show 10 * i ≤ 10 * j
    omega
  exact sweep_unseen failures Demo.crowd hclock

-- =============================================================== the entries

/-- What the entry of a key says of the marks of the key so far: `marks` of
its count are in the current window. -/
def Tracked (width bound lo : Nat) (marks : Nat → Nat) (k : Text)
    (hits : Hits) (n now : Nat) : Prop :=
  hits.get k = none ∧ n = 0
    ∨ ∃ start m, Sliding width bound lo start m n now
      ∧ (∀ e, hits.get k = some e → e.resetAt = start + width
        ∧ marks e.count = m)
      ∧ (hits.get k = none → start + width ≤ now)

variable {width bound lo n : Nat} {marks : Nat → Nat}

theorem Tracked.le (h : Tracked width bound lo marks k hits n now) :
    n ≤ 2 * bound := by
  rcases h with ⟨-, rfl⟩ | ⟨start, m, h, -, -⟩
  · exact Nat.zero_le _
  · exact h.le

theorem Tracked.later (h : Tracked width bound lo marks k hits n now)
    (hnow : now ≤ t) : Tracked width bound lo marks k hits n t := by
  rcases h with h | ⟨start, m, h, hsome, hnone⟩
  · exact Or.inl h
  · exact Or.inr ⟨start, m, h.later hnow, hsome,
      fun hget => (hnone hget).trans hnow⟩

/-- A hit of another key. -/
theorem Tracked.other (width : Nat) {answer : Bool}
    (h : Tracked width bound lo marks k hits n now) (hnow : now ≤ t)
    (hhit : Hit w key t hits answer hits') (hk : k ≠ key) :
    Tracked width bound lo marks k hits' n t := by
  have hkept : hits'.get k = hits.get k
      ∨ hits'.get k = none ∧ found k t hits = none := by
    cases hhit with
    | opened hnone hself hothers => exact hothers k hk
    | counted he hlive => exact Or.inl (Store.get_set_ne _ _ hk)
  rcases hkept with hsame | ⟨hgone, hout⟩
  · have h' := h.later hnow
    unfold Tracked at h' ⊢
    rw [hsame]
    exact h'
  · rcases h with ⟨-, rfl⟩ | ⟨start, m, h, hsome, hnone⟩
    · exact Or.inl ⟨hgone, rfl⟩
    · refine Or.inr ⟨start, m, h.later hnow, ?_, fun _ => ?_⟩
      · intro e he
        rw [hgone] at he
        cases he
      · cases hget : hits.get k with
        | none => exact (hnone hget).trans hnow
        | some e =>
            rw [← (hsome e hget).1]
            by_contra hlive
            have hfound : found k t hits = some e :=
              found_some.mpr ⟨hget, by omega⟩
            rw [hout] at hfound
            cases hfound

/-- A hit that opens a window, and is a mark. -/
theorem Tracked.opened (h : Tracked width bound lo marks k hits n now)
    (hnow : now ≤ t) (hnone : found k t hits = none)
    (hself : hits'.get k = some ⟨1, t + width⟩) (hbound : 1 ≤ bound)
    (hmarks : marks 1 = 1) :
    Tracked width bound lo marks k hits' (n + inside width lo t) t := by
  have hentry : (∀ e, hits'.get k = some e → e.resetAt = t + width
      ∧ marks e.count = 1) ∧ (hits'.get k = none → t + width ≤ t) := by
    rw [hself]
    refine ⟨?_, fun hget => nomatch hget⟩
    intro e he
    injection he with he
    rw [← he]
    exact ⟨rfl, hmarks⟩
  rcases h with ⟨-, rfl⟩ | ⟨start, m, h, hsome, hout⟩
  · rw [Nat.zero_add]
    exact Or.inr ⟨t, 1, Sliding.opened hbound, hentry.1, hentry.2⟩
  · refine Or.inr ⟨t, 1, h.reopened ?_ hbound, hentry.1, hentry.2⟩
    cases hget : hits.get k with
    | none => exact (hout hget).trans hnow
    | some e =>
        rw [← (hsome e hget).1]
        by_contra hlive
        have hfound : found k t hits = some e :=
          found_some.mpr ⟨hget, by omega⟩
        rw [hnone] at hfound
        cases hfound

/-- A hit in the window: a mark, or one over the limit. -/
theorem Tracked.counted (h : Tracked width bound lo marks k hits n now)
    (hnow : now ≤ t) {e : Window} (he : hits.get k = some e)
    (hlive : t < e.resetAt) :
    (marks (e.count + 1) = marks e.count + 1 → marks (e.count + 1) ≤ bound →
      Tracked width bound lo marks k
        (hits.set k { e with count := e.count + 1 })
        (n + inside width lo t) t)
    ∧ (marks (e.count + 1) = marks e.count →
      Tracked width bound lo marks k
        (hits.set k { e with count := e.count + 1 }) n t) := by
  rcases h with ⟨hnone, -⟩ | ⟨start, m, h, hsome, -⟩
  · rw [he] at hnone
    cases hnone
  obtain ⟨hreset, hm⟩ := hsome e he
  have hentry : ∀ m', marks (e.count + 1) = m' →
      (∀ e', (hits.set k { e with count := e.count + 1 }).get k = some e' →
        e'.resetAt = start + width ∧ marks e'.count = m')
      ∧ ((hits.set k { e with count := e.count + 1 }).get k = none →
        start + width ≤ t) := by
    intro m' hm'
    rw [Store.get_set_self]
    refine ⟨?_, fun hget => nomatch hget⟩
    intro e' he'
    injection he' with he'
    rw [← he']
    exact ⟨hreset, hm'⟩
  constructor
  · intro hmark hle
    obtain ⟨hsome', hnone'⟩ := hentry (m + 1) (by rw [hmark, hm])
    refine Or.inr ⟨start, m + 1, ?_, hsome', hnone'⟩
    exact h.marked hnow (hreset ▸ hlive) (by rw [← hm, ← hmark]; exact hle)
  · intro hsame
    obtain ⟨hsome', hnone'⟩ := hentry m (by rw [hsame, hm])
    exact Or.inr ⟨start, m, h.later hnow, hsome', hnone'⟩

end Ballast.ApiKeys
