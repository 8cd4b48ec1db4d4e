/-
Timelocked queues: items wait under an id for a fixed delay and are
then executed, or cancelled before that.

# The queue

A contract may keep several kinds of items in key spaces of their own;
the ids come from one counter, which other things may draw from too.
`Queue.Move` is everything a call may do to such a queue, with a note
of what it did. A machine whose committed calls all make such moves is
a `Timelock`: the law is a field, so a contract proves it once and
every result below applies.

# Exactly once

`Accounted` ties the queue to the trace: what waits was queued in it,
waits for the delay from then on, and nothing in the trace has ended
it. So an execution always has its own queueing call, the delay before
it, and neither a cancellation nor another execution of the id anywhere
before (`executed_once`).

# The notice period

What was not waiting when a call came cannot be executed within the
delay after it (`waiting_since`). So a property that only executions
break survives the notice period unless one of the items already
waiting breaks it (`holds_for_notice`).
-/
import Ballast.Soroban.Machine

namespace Ballast.Soroban

open Machine

-- ============================================================ the queue

/-- The next id, and what waits under each kind and id: an item and the
time it is ready at. -/
structure Queue (κ ι : Type) where
  next : Nat
  waiting : κ → Nat → Option (ι × Nat)

/-- What a committed call did to a queue. -/
inductive Note (κ ι : Type) where
  | queued (kind : κ) (id : Nat) (item : ι)
  | cancelled (kind : κ) (id : Nat)
  | executed (kind : κ) (id : Nat) (item : ι)

namespace Queue

variable {κ ι : Type} [DecidableEq κ]

/-- The queue's entries with one of them replaced. -/
def entry (q : Queue κ ι) (kind : κ) (id : Nat) (v : Option (ι × Nat)) :
    κ → Nat → Option (ι × Nat) :=
  fun k n => if k = kind ∧ n = id then v else q.waiting k n

/-- One move at time `now`, and what is noted of it. -/
inductive Move (delay now : Nat) (q q' : Queue κ ι) :
    Option (Note κ ι) → Prop
  | quiet : q.next ≤ q'.next → q'.waiting = q.waiting →
      Move delay now q q' none
  | queued {kind : κ} {item : ι} : q'.next = q.next + 1 →
      q'.waiting = q.entry kind q.next (some (item, now + delay)) →
      Move delay now q q' (some (.queued kind q.next item))
  | cancelled {kind : κ} {id : Nat} : (q.waiting kind id).isSome →
      q'.next = q.next → q'.waiting = q.entry kind id none →
      Move delay now q q' (some (.cancelled kind id))
  | executed {kind : κ} {id readyAt : Nat} {item : ι} :
      q.waiting kind id = some (item, readyAt) → readyAt ≤ now →
      q'.next = q.next → q'.waiting = q.entry kind id none →
      Move delay now q q' (some (.executed kind id item))

/-- An entry that is ready before its delay from `now` was there
already. -/
theorem Move.waiting_of_ready {delay now : Nat} {q q' : Queue κ ι}
    {note : Option (Note κ ι)} (h : Move delay now q q' note) {k : κ}
    {n : Nat} {item : ι} {readyAt : Nat}
    (hw : q'.waiting k n = some (item, readyAt))
    (hready : readyAt < now + delay) :
    q.waiting k n = some (item, readyAt) := by
  cases h with
  | quiet _ heq => rw [← heq, hw]
  | queued _ heq =>
      rw [heq, entry] at hw
      split at hw
      · injection hw with hw
        injection hw with _ hr
        omega
      · exact hw
  | cancelled _ _ heq =>
      rw [heq, entry] at hw
      split at hw
      · cases hw
      · exact hw
  | executed _ _ _ heq =>
      rw [heq, entry] at hw
      split at hw
      · cases hw
      · exact hw

end Queue

-- ========================================================= the timelock

/-- A machine whose committed calls move a queue, each noting what it
did. -/
structure Timelock {σ α : Type} (M : Machine σ α) (κ ι : Type)
    [DecidableEq κ] where
  delay : Nat
  time : α → Nat
  queue : σ → Queue κ ι
  note : Committed σ α → Option (Note κ ι)
  init : ∀ k n, (queue M.init).waiting k n = none
  move : ∀ c, M.apply c.call c.before = .ok c.after →
    Queue.Move delay (time c.call) (queue c.before) (queue c.after)
      (note c)

namespace Timelock

variable {σ α κ ι : Type} [DecidableEq κ] {M : Machine σ α}
  (T : Timelock M κ ι)

/-- `c` minted the id `n`. -/
def Mints (c : Committed σ α) (n : Nat) : Prop :=
  ∃ k item, T.note c = some (.queued k n item)

/-- `c` took what waited under `k` and `n` out of the queue. -/
def Ends (c : Committed σ α) (k : κ) (n : Nat) : Prop :=
  T.note c = some (.cancelled k n)
    ∨ ∃ item, T.note c = some (.executed k n item)

/-- The trace accounts for the queue it led to. -/
structure Accounted (q : Queue κ ι) (tr : List (Committed σ α)) :
    Prop where
  minted : ∀ c ∈ tr, ∀ n, T.Mints c n → n < q.next
  ended : ∀ c ∈ tr, ∀ k n, T.Ends c k n → n < q.next
  distinct : tr.Pairwise fun c d =>
    ∀ n n', T.Mints c n → T.Mints d n' → n < n'
  waiting : ∀ k n item readyAt, q.waiting k n = some (item, readyAt) →
    ∃ l₁ c l₂, tr = l₁ ++ c :: l₂ ∧ T.note c = some (.queued k n item)
      ∧ T.time c.call + T.delay = readyAt ∧ ∀ d ∈ tr, ¬ T.Ends d k n

variable {T} {q q' : Queue κ ι} {tr : List (Committed σ α)}
  {c : Committed σ α}

/-- Ids that wait were minted. -/
theorem Accounted.waiting_lt (h : T.Accounted q tr) {k : κ} {n : Nat}
    (hn : (q.waiting k n).isSome) : n < q.next := by
  obtain ⟨⟨item, readyAt⟩, hw⟩ := Option.isSome_iff_exists.mp hn
  obtain ⟨l₁, c, l₂, htr, hc, -, -⟩ := h.waiting k n item readyAt hw
  exact h.minted c (by rw [htr]; simp) n ⟨k, item, hc⟩

/-- A call that notes no queueing mints nothing. -/
theorem not_mints_of_note {note : Option (Note κ ι)} (hc : T.note c = note)
    (h : ∀ k n item, note ≠ some (.queued k n item)) (n : Nat) :
    ¬ T.Mints c n := by
  intro hn
  obtain ⟨k, item, hn⟩ := hn
  rw [hc] at hn
  exact h k n item hn

/-- A call that notes neither a cancellation nor an execution ends
nothing. -/
theorem not_ends_of_note {note : Option (Note κ ι)} (hc : T.note c = note)
    (hcancel : ∀ k n, note ≠ some (.cancelled k n))
    (hexecute : ∀ k n item, note ≠ some (.executed k n item)) (k : κ)
    (n : Nat) : ¬ T.Ends c k n := by
  intro hn
  rw [Ends, hc] at hn
  rcases hn with hn | ⟨item, hn⟩
  · exact hcancel k n hn
  · exact hexecute k n item hn

/-- A call that only moves entries on or out keeps the account. -/
theorem Accounted.snoc (h : T.Accounted q tr) (hnext : q.next ≤ q'.next)
    (hmints : ∀ n, ¬ T.Mints c n)
    (hends : ∀ k n, T.Ends c k n → n < q.next)
    (hwaiting : ∀ k n v, q'.waiting k n = some v →
      q.waiting k n = some v ∧ ¬ T.Ends c k n) :
    T.Accounted q' (tr ++ [c]) := by
  refine ⟨?_, ?_, ?_, ?_⟩
  · intro d hd n hn
    rcases List.mem_append.mp hd with hold | hnew
    · exact (h.minted d hold n hn).trans_le hnext
    · rw [List.mem_singleton.mp hnew] at hn
      exact absurd hn (hmints n)
  · intro d hd k n hn
    rcases List.mem_append.mp hd with hold | hnew
    · exact (h.ended d hold k n hn).trans_le hnext
    · rw [List.mem_singleton.mp hnew] at hn
      exact (hends k n hn).trans_le hnext
  · refine List.pairwise_append.mpr
      ⟨h.distinct, List.pairwise_singleton _ _, ?_⟩
    intro d _ c' hc' n n' _ hn'
    rw [List.mem_singleton.mp hc'] at hn'
    exact absurd hn' (hmints n')
  · intro k n item readyAt hw
    obtain ⟨hold, hopen⟩ := hwaiting k n _ hw
    obtain ⟨l₁, d, l₂, htr, hd, htime, hnone⟩ :=
      h.waiting k n item readyAt hold
    refine ⟨l₁, d, l₂ ++ [c], by rw [htr]; simp, hd, htime, ?_⟩
    intro x hx
    rcases List.mem_append.mp hx with hx | hx
    · exact hnone x hx
    · rw [List.mem_singleton.mp hx]
      exact hopen

/-- The new entry's id is one no earlier call knows. -/
theorem Accounted.snoc_queued (h : T.Accounted q tr) {kind : κ} {item : ι}
    (hc : T.note c = some (.queued kind q.next item))
    (hnext : q'.next = q.next + 1)
    (hw : q'.waiting = q.entry kind q.next
      (some (item, T.time c.call + T.delay))) :
    T.Accounted q' (tr ++ [c]) := by
  -- this call mints one id, the next, and ends none
  have hmints : ∀ n, T.Mints c n → n = q.next := by
    intro n hn
    obtain ⟨k, i, hn⟩ := hn
    rw [hc] at hn
    injection hn with hn
    injection hn with _ hn _
    exact hn.symm
  have hends : ∀ k n, ¬ T.Ends c k n :=
    not_ends_of_note hc (by simp) (by simp)
  refine ⟨?_, ?_, ?_, ?_⟩
  · intro d hd n hn
    rcases List.mem_append.mp hd with hold | hnew
    · have hlt := h.minted d hold n hn
      omega
    · rw [List.mem_singleton.mp hnew] at hn
      have heq := hmints n hn
      omega
  · intro d hd k n hn
    rcases List.mem_append.mp hd with hold | hnew
    · have hlt := h.ended d hold k n hn
      omega
    · rw [List.mem_singleton.mp hnew] at hn
      exact absurd hn (hends k n)
  · refine List.pairwise_append.mpr
      ⟨h.distinct, List.pairwise_singleton _ _, ?_⟩
    intro d hd c' hc' n n' hn hn'
    rw [List.mem_singleton.mp hc'] at hn'
    rw [hmints n' hn']
    exact h.minted d hd n hn
  · intro k n i readyAt hwait
    rw [hw, Queue.entry] at hwait
    split at hwait
    · next hk =>
      obtain ⟨hk, hn⟩ := hk
      subst hk hn
      injection hwait with hwait
      injection hwait with hi hr
      subst hi
      -- the new entry was queued by this very call
      refine ⟨tr, c, [], rfl, hc, hr, ?_⟩
      intro d hd hdone
      rcases List.mem_append.mp hd with hold | hnew
      · exact absurd (h.ended d hold _ _ hdone) (Nat.lt_irrefl _)
      · rw [List.mem_singleton.mp hnew] at hdone
        exact hends _ _ hdone
    · obtain ⟨l₁, d, l₂, htr, hd, htime, hnone⟩ :=
        h.waiting k n i readyAt hwait
      refine ⟨l₁, d, l₂ ++ [c], by rw [htr]; simp, hd, htime, ?_⟩
      intro x hx
      rcases List.mem_append.mp hx with hx | hx
      · exact hnone x hx
      · rw [List.mem_singleton.mp hx]
        exact hends k n

/-- An entry that left stays out, and the others are untouched. -/
theorem Accounted.snoc_ended (h : T.Accounted q tr) {kind : κ} {id : Nat}
    (hsome : (q.waiting kind id).isSome) (hmints : ∀ n, ¬ T.Mints c n)
    (hends : ∀ k n, T.Ends c k n → k = kind ∧ n = id)
    (hnext : q'.next = q.next) (hw : q'.waiting = q.entry kind id none) :
    T.Accounted q' (tr ++ [c]) := by
  refine h.snoc hnext.ge hmints ?_ ?_
  · intro k n hn
    rw [(hends k n hn).2]
    exact h.waiting_lt hsome
  · intro k n v hv
    rw [hw, Queue.entry] at hv
    split at hv
    · cases hv
    · next hk => exact ⟨hv, fun hn => hk (hends k n hn)⟩

theorem Accounted.move (h : T.Accounted q tr)
    (hmove : Queue.Move T.delay (T.time c.call) q q' (T.note c)) :
    T.Accounted q' (tr ++ [c]) := by
  generalize hnote : T.note c = note at hmove
  cases hmove with
  | quiet hnext hw =>
      have hmints : ∀ n, ¬ T.Mints c n :=
        not_mints_of_note hnote (by simp)
      have hends : ∀ k n, ¬ T.Ends c k n :=
        not_ends_of_note hnote (by simp) (by simp)
      refine h.snoc hnext hmints (fun k n hn => absurd hn (hends k n)) ?_
      intro k n v hv
      rw [hw] at hv
      exact ⟨hv, hends k n⟩
  | queued hnext hw => exact h.snoc_queued hnote hnext hw
  | cancelled hsome hnext hw =>
      refine h.snoc_ended hsome (not_mints_of_note hnote (by simp)) ?_
        hnext hw
      · intro k n hn
        rcases hn with hn | ⟨i, hn⟩
        · rw [hnote] at hn
          injection hn with hn
          injection hn with hk hn
          exact ⟨hk.symm, hn.symm⟩
        · rw [hnote] at hn
          cases hn
  | executed hwait _ hnext hw =>
      refine h.snoc_ended (by rw [hwait]; rfl)
        (not_mints_of_note hnote (by simp)) ?_ hnext hw
      · intro k n hn
        rcases hn with hn | ⟨i, hn⟩
        · rw [hnote] at hn
          cases hn
        · rw [hnote] at hn
          injection hn with hn
          injection hn with hk hn _
          exact ⟨hk.symm, hn.symm⟩

-- ============================================================ all runs

variable (T)

theorem accounted_run (as : List α) :
    T.Accounted (T.queue (M.run M.init as)) (M.trace M.init as) := by
  refine trace_induction (P := fun s tr => T.Accounted (T.queue s) tr)
    ?_ ?_ (allowed_true _ as)
  · refine ⟨by simp, by simp, .nil, ?_⟩
    intro k n item readyAt hw
    rw [T.init] at hw
    cases hw
  · intro s tr a s' h _ happ
    exact h.move (T.move ⟨a, s, s'⟩ happ)

/-- No id is minted twice: a later one is larger, whatever the kind. -/
theorem ids_increase (as : List α) :
    (M.trace M.init as).Pairwise fun c d =>
      ∀ n n', T.Mints c n → T.Mints d n' → n < n' :=
  (T.accounted_run as).distinct

/-- An execution has its own queueing call before it, the delay between
the two, and nothing that ended the entry in the whole trace before. -/
theorem executed_once {as : List α} {l₁ l₂ : List (Committed σ α)}
    {c : Committed σ α} {k : κ} {n : Nat} {item : ι}
    (h : M.trace M.init as = l₁ ++ c :: l₂)
    (hc : T.note c = some (.executed k n item)) :
    ∃ l₃ b l₄, l₁ = l₃ ++ b :: l₄ ∧ T.note b = some (.queued k n item)
      ∧ T.time b.call + T.delay ≤ T.time c.call
      ∧ ∀ d ∈ l₁, ¬ T.Ends d k n := by
  obtain ⟨pre, post, -, hbefore, happ, hl₁, -⟩ := trace_split h
  have hacc := T.accounted_run pre
  have hmove := T.move c happ
  rw [hl₁, ← hbefore] at hacc
  rw [hc] at hmove
  cases hmove with
  | executed hwait hready =>
      obtain ⟨l₃, b, l₄, hl, hb, htime, hnone⟩ :=
        hacc.waiting k n item _ hwait
      exact ⟨l₃, b, l₄, hl, hb, htime ▸ hready, hnone⟩

-- ==================================================== the notice period

/-- An entry that is ready before the delay has passed since `now` was
there at `now`. -/
theorem waiting_since {s : σ} {as : List α} {now : Nat} {k : κ} {n : Nat}
    {item : ι} {readyAt : Nat} (hnow : ∀ a ∈ as, now ≤ T.time a)
    (h : (T.queue (M.run s as)).waiting k n = some (item, readyAt))
    (hready : readyAt < now + T.delay) :
    (T.queue s).waiting k n = some (item, readyAt) := by
  induction as using List.reverseRecOn with
  | nil => exact h
  | append_singleton as a ih =>
      have hpast : ∀ b ∈ as, now ≤ T.time b :=
        fun b hb => hnow b (List.mem_append_left _ hb)
      apply ih hpast
      rw [run_snoc] at h
      cases ha : M.apply a (M.run s as) with
      | error e =>
          rw [exec_of_error ha] at h
          exact h
      | ok s' =>
          rw [exec_of_ok ha] at h
          have hmove := T.move ⟨a, M.run s as, s'⟩ ha
          refine hmove.waiting_of_ready h ?_
          have ha' := hnow a (by simp)
          exact hready.trans_le (Nat.add_le_add_right ha' _)

/-- A property that holds after `c` and that only executions break holds
through the notice period after `c`, unless an item that was waiting
before `c` is executed in it and breaks the property. -/
theorem holds_for_notice {P : σ → Prop} {B : ι → σ → Prop}
    (hlaw : ∀ d, M.apply d.call d.before = .ok d.after → P d.before →
      (¬ P d.after ↔ ∃ k n item, T.note d = some (.executed k n item)
        ∧ B item d.before))
    {s : σ} {as : List α} {l₁ l₂ : List (Committed σ α)}
    (hchron : Chronological T.time as)
    (hsplit : M.trace s as = l₁ ++ c :: l₂) (hc : P c.after) :
    (∀ d ∈ l₂, T.time d.call < T.time c.call + T.delay → P d.after) ↔
      ∀ d ∈ l₂, T.time d.call < T.time c.call + T.delay →
        ∀ k n item readyAt, T.note d = some (.executed k n item) →
        (T.queue d.before).waiting k n = some (item, readyAt) →
        (T.queue c.before).waiting k n = some (item, readyAt) →
        ¬ B item d.before := by
  have happ := apply_of_split hsplit
  have hlater : ∀ d ∈ l₂, M.apply d.call d.before = .ok d.after := by
    intro d hd
    have hmem : d ∈ M.trace s as := by
      rw [hsplit]
      exact List.mem_append_right _ (List.mem_cons_of_mem _ hd)
    exact apply_of_mem_trace hmem
  constructor
  · intro h d hd hwindow k n item readyAt hnote _ _ hbreaks
    obtain ⟨mid, hdbefore, -, hin⟩ := hchron.later_call hsplit hd
    have hP : P d.before := by
      rw [hdbefore]
      refine run_of_trace hc ?_
      intro e he _
      obtain ⟨hmem, hle⟩ := hin e he
      exact h e hmem (hle.trans_lt hwindow)
    exact (hlaw d (hlater d hd) hP).mpr ⟨k, n, item, hnote, hbreaks⟩
      (h d hd hwindow)
  · intro h
    have hkeep : ∀ e ∈ l₂, T.time e.call < T.time c.call + T.delay →
        P e.before → P e.after := by
      intro e he hwindow hP
      by_contra hnot
      obtain ⟨k, n, item, hnote, hbreaks⟩ :=
        (hlaw e (hlater e he) hP).mp hnot
      have hmove := T.move e (hlater e he)
      rw [hnote] at hmove
      cases hmove with
      | executed hwait hready =>
          -- ready inside the notice period, so it was there before `c`
          obtain ⟨mid, hebefore, htimes, -⟩ := hchron.later_call hsplit he
          have hsince := hwait
          rw [hebefore] at hsince
          have hafter := T.waiting_since htimes hsince
            (hready.trans_lt hwindow)
          have hthen := (T.move c happ).waiting_of_ready hafter
            (hready.trans_lt hwindow)
          exact h e he hwindow k n item _ hnote hwait hthen hbreaks
    intro d hd hwindow
    obtain ⟨mid, hdbefore, -, hin⟩ := hchron.later_call hsplit hd
    apply hkeep d hd hwindow
    rw [hdbefore]
    refine run_of_trace hc ?_
    intro e he
    obtain ⟨hmem, hle⟩ := hin e he
    exact hkeep e hmem (hle.trans_lt hwindow)

end Timelock

end Ballast.Soroban
