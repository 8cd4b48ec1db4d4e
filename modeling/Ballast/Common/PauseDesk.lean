/-
The pause flags and the queue that lifts them: one small machine that
`Registry`, `ExitDesk` and `RepoDvp` each keep.

# The desk

`PauseDesk.Step` is all a call may do to it: set a flag, queue, cancel
or execute an unpause, or nothing. A contract whose committed calls take
such steps is `Pausing`, and its unpauses are a timelock.

# How long a pause holds

Setting a flag and lifting it know nothing of each other: an unpause
may be queued while nothing is paused, waits there for as long as it
likes, and is executed by anyone. So a pause holds for the notice period
exactly when no unpause that was waiting before it is executed in that
time and leaves the scope running (`pause_holds_iff`).
-/
import Ballast.Common.Access
import Ballast.Soroban.Timelock

namespace Ballast

open Soroban Machine

-- ============================================================== the desk

/-- What a call asks of the desk. -/
inductive PauseAct where
  | other
  | pause (scope : PauseScope)
  | queue (scope : PauseScope)
  | cancel (id : Nat)
  | execute (id : Nat)
  deriving DecidableEq, Repr

/-- The flags, and the unpauses queued under ids. -/
structure PauseDesk where
  flags : Store PauseScope Bool
  queue : Queue Unit PauseScope

/-- One step of the desk at time `now`. -/
inductive PauseDesk.Step (now : Nat) (d d' : PauseDesk) : PauseAct → Prop
  | other : d'.flags = d.flags → d.queue.next ≤ d'.queue.next →
      d'.queue.waiting = d.queue.waiting → Step now d d' .other
  | pause {scope : PauseScope} : d'.flags = d.flags.set scope true →
      d'.queue = d.queue → Step now d d' (.pause scope)
  | queue {scope : PauseScope} : d'.flags = d.flags →
      d'.queue.next = d.queue.next + 1 →
      d'.queue.waiting = d.queue.entry () d.queue.next
        (some (scope, now + timelockDelaySeconds)) →
      Step now d d' (.queue scope)
  | cancel {id : Nat} : (d.queue.waiting () id).isSome →
      d'.flags = d.flags → d'.queue.next = d.queue.next →
      d'.queue.waiting = d.queue.entry () id none →
      Step now d d' (.cancel id)
  | execute {id readyAt : Nat} {scope : PauseScope} :
      d.queue.waiting () id = some (scope, readyAt) → readyAt ≤ now →
      d'.flags = d.flags.set scope false →
      d'.queue.next = d.queue.next →
      d'.queue.waiting = d.queue.entry () id none →
      Step now d d' (.execute id)

/-- The desk of a contract that stores its flags, its counter and the
unpauses under their ids. -/
def PauseDesk.stored {ρ : Type} (flags : Store PauseScope Bool)
    (nextId : Nat) (pending : Store Nat ρ) (read : ρ → PauseScope × Nat) :
    PauseDesk where
  flags := flags
  queue := ⟨nextId, fun _ n => (pending.get n).map read⟩

namespace PauseDesk

variable {ρ : Type} {flags : Store PauseScope Bool} {nextId now id : Nat}
  {pending : Store Nat ρ} {read : ρ → PauseScope × Nat} {item : ρ}

/-- Filing an unpause for 48 hours from now queues it. -/
theorem stored_queue
    (hdue : (read item).2 = now + timelockDelaySeconds) :
    Step now (stored flags nextId pending read)
      (stored flags (nextId + 1) (pending.set nextId item) read)
      (.queue (read item).1) := by
  refine .queue rfl rfl ?_
  funext k n
  simp [stored, Queue.entry, Store.map_get_set, ← hdue]

/-- Dropping a waiting unpause cancels it. -/
theorem stored_cancel (hitem : pending.get id = some item) :
    Step now (stored flags nextId pending read)
      (stored flags nextId (pending.remove id) read) (.cancel id) := by
  refine .cancel (by simp [stored, hitem]) rfl rfl ?_
  funext k n
  simp [stored, Queue.entry, Store.map_get_remove]

/-- Dropping one whose time has come, and the flag of its scope with it,
executes it. -/
theorem stored_execute (hitem : pending.get id = some item)
    (hdue : (read item).2 ≤ now) :
    Step now (stored flags nextId pending read)
      (stored (flags.set (read item).1 false) nextId (pending.remove id)
        read) (.execute id) := by
  have hwait : (stored flags nextId pending read).queue.waiting () id
      = some ((read item).1, (read item).2) := by
    simp [stored, hitem]
  refine .execute hwait hdue rfl rfl ?_
  funext k n
  simp [stored, Queue.entry, Store.map_get_remove]

end PauseDesk

/-- A machine that keeps a desk. -/
structure Pausing {σ α : Type} (M : Machine σ α) where
  time : α → Nat
  act : α → PauseAct
  desk : σ → PauseDesk
  init : ∀ n, (desk M.init).queue.waiting () n = none
  step : ∀ c : Committed σ α,
    M.apply c.call c.before = .ok c.after →
    PauseDesk.Step (time c.call) (desk c.before) (desk c.after)
      (act c.call)

namespace Pausing

variable {σ α : Type} {M : Machine σ α} (N : Pausing M)

/-- What a committed call did to the queue. -/
def note (c : Committed σ α) : Option (Note Unit PauseScope) :=
  match N.act c.call with
  | .queue scope => some (.queued () (N.desk c.before).queue.next scope)
  | .cancel id => some (.cancelled () id)
  | .execute id => ((N.desk c.before).queue.waiting () id).map fun p =>
      .executed () id p.1
  | _ => none

/-- The unpauses are a timelock. -/
def timelock : Timelock M Unit PauseScope where
  delay := timelockDelaySeconds
  time := N.time
  queue s := (N.desk s).queue
  note := N.note
  init _ n := N.init n
  move c happ := by
    have hstep := N.step c happ
    unfold note
    cases hact : N.act c.call with
    | other =>
        rw [hact] at hstep
        cases hstep with
        | other _ hnext hw => exact .quiet hnext hw
    | pause scope =>
        rw [hact] at hstep
        cases hstep with
        | pause _ hq => exact .quiet (by rw [hq]) (by rw [hq])
    | queue scope =>
        rw [hact] at hstep
        cases hstep with
        | queue _ hnext hw => exact .queued hnext hw
    | cancel id =>
        rw [hact] at hstep
        cases hstep with
        | cancel hsome _ hnext hw => exact .cancelled hsome hnext hw
    | execute id =>
        rw [hact] at hstep
        cases hstep with
        | execute hwait hready _ hnext hw =>
            simp only [hwait, Option.map_some]
            exact .executed hwait hready hnext hw

/-- After the pause `c`, and after every later call of the trace that
comes before the notice period is out, `scope` is paused. -/
def HoldsNotice (c : Committed σ α) (later : List (Committed σ α))
    (scope : PauseScope) : Prop :=
  ∀ d ∈ c :: later, N.time d.call < N.time c.call + 172800 →
    isPaused (N.desk d.after).flags scope = true

/-- `d` executes an unpause that was waiting in `s`, and the flags it
leaves let `scope` run. -/
def Lifts (s : σ) (scope : PauseScope) (d : Committed σ α) : Prop :=
  ∃ id entry, N.act d.call = .execute id
    ∧ (N.desk d.before).queue.waiting () id = some entry
    ∧ (N.desk s).queue.waiting () id = some entry
    ∧ isPaused ((N.desk d.before).flags.set entry.1 false) scope = false

end Pausing

-- ============================================================= the flags

theorem isPaused_set_self (flags : Store PauseScope Bool)
    (scope : PauseScope) : isPaused (flags.set scope true) scope = true := by
  unfold isPaused
  by_cases hall : scope = .all
  · subst hall
    simp
  · simp [hall]

/-- Setting a flag unpauses nothing. -/
theorem isPaused_set_true {flags : Store PauseScope Bool}
    {scope : PauseScope} (h : isPaused flags scope = true)
    (scope' : PauseScope) : isPaused (flags.set scope' true) scope = true := by
  unfold isPaused at *
  simp only [Store.get_set]
  by_cases hall : PauseScope.all = scope'
  · simp [hall]
  · by_cases hscope : scope = scope'
    · subst hscope
      simp [Ne.symm hall]
    · simpa [hall, hscope] using h

namespace Pausing

variable {σ α : Type} {M : Machine σ α} (N : Pausing M)
  {c : Committed σ α} {scope : PauseScope}

/-- Only an executed unpause lets a paused scope run. -/
theorem lifted_iff (happ : M.apply c.call c.before = .ok c.after)
    (hpaused : isPaused (N.desk c.before).flags scope = true) :
    ¬ isPaused (N.desk c.after).flags scope = true ↔
      ∃ k n lifted, N.note c = some (.executed k n lifted)
        ∧ isPaused ((N.desk c.before).flags.set lifted false) scope
          = false := by
  have hstep := N.step c happ
  unfold note
  cases hact : N.act c.call with
  | other =>
      rw [hact] at hstep
      cases hstep with
      | other hflags => simp [hflags, hpaused]
  | pause scope' =>
      rw [hact] at hstep
      cases hstep with
      | pause hflags => simp [hflags, isPaused_set_true hpaused]
  | queue scope' =>
      rw [hact] at hstep
      cases hstep with
      | queue hflags => simp [hflags, hpaused]
  | cancel id =>
      rw [hact] at hstep
      cases hstep with
      | cancel _ hflags => simp [hflags, hpaused]
  | execute id =>
      rw [hact] at hstep
      cases hstep with
      | execute hwait _ hflags =>
          simp only [hwait, hflags, Option.map_some, Option.some.injEq,
            Note.executed.injEq, Bool.not_eq_true]
          constructor
          · intro h
            exact ⟨(), id, _, ⟨trivial, rfl, rfl⟩, h⟩
          · intro h
            obtain ⟨_, _, _, ⟨-, -, rfl⟩, h⟩ := h
            exact h

/-- A pause holds for the notice period exactly when no unpause that was
waiting before it lifts it in that time. -/
theorem pause_holds_iff {s : σ} {as : List α}
    {l₁ l₂ : List (Committed σ α)} (hchron : Chronological N.time as)
    (hsplit : M.trace s as = l₁ ++ c :: l₂)
    (hc : N.act c.call = .pause scope) :
    N.HoldsNotice c l₂ scope ↔
      ∀ d ∈ l₂, N.time d.call < N.time c.call + 172800 →
        ¬ N.Lifts c.before scope d := by
  have happ : M.apply c.call c.before = .ok c.after :=
    apply_of_split hsplit
  have hset : isPaused (N.desk c.after).flags scope = true := by
    have hstep := N.step c happ
    rw [hc] at hstep
    cases hstep with
    | pause hflags =>
        rw [hflags]
        exact isPaused_set_self _ _
  have hnotice := N.timelock.holds_for_notice
    (P := fun s => isPaused (N.desk s).flags scope = true)
    (B := fun lifted s =>
      isPaused ((N.desk s).flags.set lifted false) scope = false)
    (fun d hd hP => N.lifted_iff hd hP) hchron hsplit hset
  rw [HoldsNotice, List.forall_mem_cons]
  constructor
  · intro h d hd hwindow hlifts
    obtain ⟨id, entry, hact, hnow, hwait, hruns⟩ := hlifts
    have hnote : N.note d = some (.executed () id entry.1) := by
      simp [note, hact, hnow]
    exact hnotice.mp h.2 d hd hwindow () id entry.1 entry.2 hnote hnow
      hwait hruns
  · intro h
    refine ⟨fun _ => hset, hnotice.mpr ?_⟩
    intro d hd hwindow k n lifted readyAt hnote hnow hwait hruns
    refine h d hd hwindow ⟨n, (lifted, readyAt), ?_, hnow, hwait, hruns⟩
    change N.note d = _ at hnote
    unfold note at hnote
    cases hact : N.act d.call with
    | execute id =>
        simp only [hact, Option.map_eq_some_iff, Note.executed.injEq]
          at hnote
        obtain ⟨_, -, -, rfl, -⟩ := hnote
        rfl
    | _ => simp [hact] at hnote

/-- A run that pauses and next commits a call after which `scope` runs
again, all within the notice period. -/
theorem not_holdsNotice (s : σ) (as : List α) (a b : α)
    (scope : PauseScope)
    (ha : (M.apply a (M.run s as)).isOk = true)
    (hb : (M.apply b (M.run s (as ++ [a]))).isOk = true)
    (hwindow : N.time b < N.time a + 172800)
    (hruns : isPaused (N.desk (M.run s (as ++ [a] ++ [b]))).flags scope
      = false) :
    ∃ l₁ c l₂, M.trace s (as ++ [a, b]) = l₁ ++ c :: l₂ ∧ c.call = a
      ∧ ¬ N.HoldsNotice c l₂ scope := by
  refine ⟨_, _, _, trace_two M s as ha hb, rfl, ?_⟩
  intro h
  have hpaused := h _ (List.mem_cons_of_mem _ (List.mem_singleton_self _))
    hwindow
  rw [hruns] at hpaused
  cases hpaused

end Pausing

end Ballast
