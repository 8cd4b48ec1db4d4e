/-
Which margin stretches are announced as cured.

The events of a transition are computed from its two ends alone, and
`margin.cured` only when it starts from `MarginCall`. What the monitor
records of a line is linked: each event starts where the one before it
ended, and the first one from `Healthy` (`linked_run`). So the end of a
stretch is announced exactly when the last state of the stretch is
`MarginCall`; one that ends in `Liquidation` is not
(`cured_announced_iff`). Nothing else is ever announced as cured.

A stretch is in the eye of the log: it is made of the states the monitor
noted, which is each state it read once it differed from the one before.
The announcement looks at one transition, from the state last noted, and
so sees the last state of a stretch and not its first.
-/
import Ballast.Common.Stretches
import Ballast.MarginMonitor.Basic
import Ballast.Webhooks.Outbox

namespace Ballast.Webhooks

open Soroban Machine MarginMonitor

-- ============================================================= the stretches

/-- The line is in a margin call or worse from here on. -/
def unhealthy (e : MarginEvent) : Bool :=
  e.toState = .marginCall ∨ e.toState = .liquidation

/-- What a subscriber to everything is told of a transition. -/
def announced (e : MarginEvent) : List WebhookEvent :=
  eventsForMarginTransition e.fromState e.toState

/-- The stretch has one `margin.cured`, on the transition that ends it. -/
def CuredOnce (mid : List MarginEvent) (e : MarginEvent) : Prop :=
  (mid.flatMap announced).count .marginCured = 0
    ∧ (announced e).count .marginCured = 1

/-- Every transition starts where the one before it ended. -/
def Linked : MarginState → List MarginEvent → Prop
  | _, [] => True
  | m, e :: es => e.fromState = m ∧ Linked e.toState es

/-- What is recorded of a line, in order. -/
def history (s : Monitor) (line : Id) : List MarginEvent :=
  s.db.marginEvent.filter (·.creditLineId = line)

-- ============================================================== transitions

variable {e : MarginEvent} {es pre mid post : List MarginEvent}
  {m : MarginState} {s s' : Monitor} {line : Id}

theorem count_cured (e : MarginEvent) :
    (announced e).count .marginCured
      = if e.fromState = .marginCall ∧ unhealthy e = false then 1 else 0 := by
  unfold announced unhealthy
  cases e.fromState with
  | healthy => cases e.toState <;> rfl
  | warning => cases e.toState <;> rfl
  | marginCall => cases e.toState <;> rfl
  | liquidation => cases e.toState <;> rfl

/-- Inside a stretch nothing is announced as cured. -/
theorem count_cured_inside (h : ∀ x ∈ mid, unhealthy x = true) :
    (mid.flatMap announced).count .marginCured = 0 := by
  induction mid with
  | nil => rfl
  | cons x mid ih =>
      have hx := h x List.mem_cons_self
      have hrest := ih fun y hy => h y (List.mem_cons_of_mem x hy)
      rw [List.flatMap_cons, List.count_append, hrest, count_cured,
        if_neg (by simp [hx])]

-- =================================================================== linked

theorem linked_append :
    Linked m (pre ++ post) ↔ Linked m pre
      ∧ Linked ((pre.getLast?.map (·.toState)).getD m) post := by
  induction pre generalizing m with
  | nil => simp [Linked]
  | cons x pre ih =>
      rw [List.cons_append, Linked, Linked, ih, and_assoc]
      cases pre with
      | nil => simp
      | cons y pre =>
          simp only [List.getLast?_cons_cons]
          have hlast : ∃ z, (y :: pre).getLast? = some z :=
            ⟨_, List.getLast?_eq_some_getLast (List.cons_ne_nil y pre)⟩
          obtain ⟨z, hz⟩ := hlast
          simp [hz]

-- ================================================================ the runs

/-- The table is in the order of its clock, and the events of every line
are linked. -/
structure Recorded (s : Monitor) : Prop where
  sorted : s.db.marginEvent.Pairwise (·.createdAt < ·.createdAt)
  linked : ∀ line, Linked .healthy (history s line)

/-- The newest event of a line is the last one recorded of it. -/
theorem newest_history (h : s.db.marginEvent.Pairwise
    (·.createdAt < ·.createdAt)) (line : Id) :
    newest (·.createdAt) (history s line) = (history s line).getLast? := by
  have hsorted : (history s line).Pairwise (·.createdAt < ·.createdAt) :=
    h.filter _
  induction hrows : history s line using List.reverseRecOn with
  | nil => rfl
  | append_singleton rows e _ =>
      rw [hrows] at hsorted
      rw [newest_concat, List.getLast?_concat]
      intro x hx
      exact (List.pairwise_append.mp hsorted).2.2 x hx e (by simp)

theorem recorded_step {a : Act} (hr : Recorded s)
    (h : step a s = .ok s') : Recorded s' := by
  cases a with
  | outside pledge priceSnapshot =>
      injection h with h
      subst h
      exact ⟨hr.sorted, hr.linked⟩
  | recomputeLine line ltv now =>
      simp only [step, recomputeLine, bind_ok, ensure_ok, pure_ok,
        decide_eq_true_eq] at h
      obtain ⟨-, hclock, ⟨result, s₁⟩, ⟨view, -, hview⟩, rfl⟩ := h
      split at hview
      · injection hview with hview
        injection hview with _ hview
        subst hview
        refine ⟨?_, fun k => ?_⟩
        · refine List.pairwise_append.mpr
            ⟨hr.sorted, List.pairwise_singleton _ _, ?_⟩
          intro x hx y hy
          rw [List.mem_singleton.mp hy]
          exact hclock x hx
        · unfold history
          rw [List.filter_append]
          by_cases hk : line = k
          · subst hk
            rw [linked_append]
            refine ⟨hr.linked line, ?_⟩
            have hnewest := newest_history hr.sorted line
            unfold history at hnewest
            rw [← hnewest]
            simp [Linked]
          · simpa [hk, history] using hr.linked k
      · injection hview with hview
        injection hview with _ hview
        exact hview ▸ hr

theorem recorded_run (acts : List Act) :
    Recorded (machine.run machine.init acts) :=
  run_induction (P := Recorded) (fun _ _ _ hr _ happ => recorded_step hr happ)
    ⟨List.Pairwise.nil, fun _ => trivial⟩ (allowed_true _ acts)

-- ========================================================= the announcements

/-- The state a linked list of events has led to. -/
theorem linked_at (h : Linked m (pre ++ e :: post)) :
    e.fromState = (pre.getLast?.map (·.toState)).getD m :=
  (linked_append.mp h).2.1

/-- A stretch of a linked list is announced as cured exactly when it ends
in a margin call. -/
theorem curedOnce_iff (hl : Linked .healthy (pre ++ mid ++ e :: post))
    (hs : Stretch unhealthy pre mid e) :
    CuredOnce mid e ↔ mid.getLast?.map (·.toState) = some .marginCall := by
  have hfrom := linked_at hl
  rw [List.getLast?_append_of_ne_nil _ hs.nonempty,
    List.getLast?_eq_some_getLast hs.nonempty] at hfrom
  rw [CuredOnce, count_cured, List.getLast?_eq_some_getLast hs.nonempty,
    Option.map_some, Option.some.injEq]
  rw [Option.map_some, Option.getD_some] at hfrom
  rw [← hfrom]
  constructor
  · rintro ⟨-, hone⟩
    by_contra hne
    rw [if_neg fun h => hne h.1] at hone
    cases hone
  · intro hcall
    exact ⟨count_cured_inside hs.inside, if_pos ⟨hcall, hs.ended⟩⟩

/-- What is announced as cured ends a stretch. -/
theorem stretch_of_cured (hl : Linked .healthy (pre ++ e :: post))
    (h : .marginCured ∈ announced e) :
    ∃ before mid, pre = before ++ mid ∧ Stretch unhealthy before mid e := by
  have hcount : (announced e).count .marginCured ≠ 0 :=
    Nat.pos_iff_ne_zero.mp (List.count_pos_iff.mpr h)
  rw [count_cured] at hcount
  have hcured : e.fromState = .marginCall ∧ unhealthy e = false := by
    by_contra hno
    exact hcount (if_neg hno)
  obtain ⟨hcall, hended⟩ := hcured
  have hfrom := linked_at hl
  rw [hcall] at hfrom
  cases hlast : pre.getLast? with
  | none =>
      rw [hlast] at hfrom
      cases hfrom
  | some x =>
      rw [hlast] at hfrom
      refine exists_stretch hended ⟨x, hlast, ?_⟩
      rw [unhealthy, ← show MarginState.marginCall = x.toState from hfrom]
      rfl

/-- In every run, of what is recorded of a line: the end of a stretch is
announced as cured, once, exactly when the stretch ends in a margin call;
and nothing is announced as cured but the end of a stretch. -/
theorem cured_announced_iff (acts : List Act) (line : MarginMonitor.Id) :
    let events := history (machine.run machine.init acts) line
    (∀ pre mid e post, events = pre ++ mid ++ e :: post →
      Stretch unhealthy pre mid e →
      (CuredOnce mid e
        ↔ mid.getLast?.map (·.toState) = some .marginCall))
    ∧ ∀ pre e post, events = pre ++ e :: post →
      .marginCured ∈ announced e →
      ∃ before mid, pre = before ++ mid
        ∧ Stretch unhealthy before mid e := by
  intro events
  have hl : Linked .healthy events := (recorded_run acts).linked line
  constructor
  · intro pre mid e post hevents hs
    exact curedOnce_iff (hevents ▸ hl) hs
  · intro pre e post hevents hcured
    exact stretch_of_cured (hevents ▸ hl) hcured

-- ============================================================= two stretches

namespace Demo

/-- The line goes from a margin call to liquidation and recovers. -/
def recovers : List Act :=
  [.recomputeLine 7 (.ok ⟨.marginCall, 8000⟩) 1,
   .recomputeLine 7 (.ok ⟨.liquidation, 9000⟩) 2,
   .recomputeLine 7 (.ok ⟨.healthy, 5000⟩) 3]

/-- It comes back through a margin call. -/
def returns : List Act :=
  [.recomputeLine 7 (.ok ⟨.liquidation, 9000⟩) 1,
   .recomputeLine 7 (.ok ⟨.marginCall, 8000⟩) 2,
   .recomputeLine 7 (.ok ⟨.warning, 7500⟩) 3]

end Demo

/-- The second is announced, -/
theorem cured_announced_iff_returns :
    let events := history (machine.run machine.init Demo.returns) 7
    CuredOnce (events.take 2) (events.getLast (by decide)) :=
  ((cured_announced_iff Demo.returns 7).1 [] _ _ [] (by decide)
    ⟨by decide, by decide, by decide, by decide⟩).mpr (by decide)

/-- and the first is not. -/
theorem liquidation_not_cured :
    let events := history (machine.run machine.init Demo.recovers) 7
    ∃ mid e, events = [] ++ mid ++ e :: []
      ∧ Stretch unhealthy [] mid e ∧ ¬ CuredOnce mid e
      ∧ (events.flatMap announced).count .marginCured = 0 := by
  let events := history (machine.run machine.init Demo.recovers) 7
  refine ⟨events.take 2, events.getLast (by decide), by decide,
    ⟨by decide, by decide, by decide, by decide⟩, ?_, by decide⟩
  rintro ⟨-, hone⟩
  exact absurd hone (by decide)

end Ballast.Webhooks
