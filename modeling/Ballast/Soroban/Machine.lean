/-
Contracts as machines: a state, a set of calls, and the runs they
generate.

A call either commits a new state or aborts and leaves the old one
(`exec`), so every list of calls is a run and no run gets stuck. A
property of all runs is proved from what one committed call preserves
(`run_induction`), with the side condition the claim puts on its calls
carried as `ok`: `Allowed ok` says each call of the list met it in the
state the call was made in, committed or not.

Properties that speak about the past ("the most recent evaluation
found ...") are stated over an observed machine: `observe` folds an
observer along the run, and never changes what the run does
(`run_observe_fst`).

Properties that relate one call to another ("every execution was queued
before") are stated over the run's `trace`: its committed calls in
order, each with the state it found and the state it left.
-/
import Ballast.Soroban.Host
import Mathlib.Data.List.Induction

namespace Ballast.Soroban

/-- A state space, its initial state, and what a call does. -/
structure Machine (σ α : Type) where
  init : σ
  apply : α → σ → Call σ

namespace Machine

variable {σ α β : Type}

/-- A call as the host runs it: committed, or rolled back. -/
def exec (M : Machine σ α) (s : σ) (a : α) : σ :=
  match M.apply a s with
  | .ok s' => s'
  | .error _ => s

/-- A run: the calls in order. -/
def run (M : Machine σ α) (s : σ) (as : List α) : σ :=
  as.foldl M.exec s

/-- Every call of the list meets `ok` in the state it is made in. -/
def Allowed (M : Machine σ α) (ok : α → σ → Prop) : σ → List α → Prop
  | _, [] => True
  | s, a :: as => ok a s ∧ M.Allowed ok (M.exec s a) as

variable {M : Machine σ α}

@[simp] theorem run_nil (s : σ) : M.run s [] = s := rfl

@[simp] theorem run_cons (s : σ) (a : α) (as : List α) :
    M.run s (a :: as) = M.run (M.exec s a) as := rfl

/-- A run goes through the state its first part ends in. -/
theorem run_append (s : σ) (as bs : List α) :
    M.run s (as ++ bs) = M.run (M.run s as) bs := by
  unfold run
  rw [List.foldl_append]

/-- The last call of a run finds what the others left. -/
theorem run_snoc (s : σ) (as : List α) (a : α) :
    M.run s (as ++ [a]) = M.exec (M.run s as) a := by
  rw [run_append]
  rfl

/-- A call that commits leaves what it committed. -/
theorem exec_of_ok {s s' : σ} {a : α} (h : M.apply a s = .ok s') :
    M.exec s a = s' := by
  simp [exec, h]

/-- A call that aborts leaves the state it found. -/
theorem exec_of_error {s : σ} {a : α} {e : String}
    (h : M.apply a s = .error e) : M.exec s a = s := by
  simp [exec, h]

/-- A call either commits or changes nothing. -/
theorem exec_cases (M : Machine σ α) (s : σ) (a : α) :
    M.apply a s = .ok (M.exec s a) ∨ M.exec s a = s := by
  cases h : M.apply a s with
  | ok s' => exact Or.inl (by rw [exec_of_ok h])
  | error e => exact Or.inr (exec_of_error h)

/-- A call that commits at the end of a run ends the longer run. -/
theorem apply_of_isOk {as : List α} {a : α} {s : σ}
    (h : (M.apply a (M.run s as)).isOk = true) :
    M.apply a (M.run s as) = .ok (M.run s (as ++ [a])) := by
  obtain ⟨s', hs'⟩ := exists_of_isOk h
  rw [run_snoc, exec_of_ok hs', hs']

/-- Whether a run is allowed is decided call by call. -/
def decideAllowed (M : Machine σ α) (ok : α → σ → Prop)
    [∀ a s, Decidable (ok a s)] :
    ∀ (s : σ) (as : List α), Decidable (M.Allowed ok s as)
  | _, [] => isTrue trivial
  | s, a :: as =>
      have := M.decideAllowed ok (M.exec s a) as
      inferInstanceAs (Decidable (_ ∧ _))

instance (M : Machine σ α) (ok : α → σ → Prop)
    [∀ a s, Decidable (ok a s)] (s : σ) (as : List α) :
    Decidable (M.Allowed ok s as) := M.decideAllowed ok s as

/-- A run is allowed if its parts are, each from where it begins. -/
theorem Allowed.append {ok : α → σ → Prop} {s : σ} {as bs : List α} :
    M.Allowed ok s (as ++ bs) ↔
      M.Allowed ok s as ∧ M.Allowed ok (M.run s as) bs := by
  induction as generalizing s with
  | nil => simp [Allowed]
  | cons a as ih =>
      simp only [List.cons_append, Allowed, run_cons, ih, and_assoc]

/-- Two side conditions on one run are one. -/
theorem Allowed.and {p q : α → σ → Prop} {s : σ} {as : List α}
    (hp : M.Allowed p s as) (hq : M.Allowed q s as) :
    M.Allowed (fun a s => p a s ∧ q a s) s as := by
  induction as generalizing s with
  | nil => trivial
  | cons a as ih => exact ⟨⟨hp.1, hq.1⟩, ih hp.2 hq.2⟩

/-- A weaker side condition. -/
theorem Allowed.imp {p q : α → σ → Prop} (hpq : ∀ a s, p a s → q a s)
    {s : σ} {as : List α} (h : M.Allowed p s as) : M.Allowed q s as := by
  induction as generalizing s with
  | nil => trivial
  | cons a as ih => exact ⟨hpq a s h.1, ih h.2⟩

/-- A run is allowed when each of its calls is, in the state the calls
before it lead to. -/
theorem allowed_of_prefix {ok : α → σ → Prop} {s : σ} {as : List α}
    (h : ∀ pre a post, as = pre ++ a :: post → ok a (M.run s pre)) :
    M.Allowed ok s as := by
  induction as generalizing s with
  | nil => trivial
  | cons a as ih =>
      refine ⟨h [] a as rfl, ih ?_⟩
      intro pre b post has
      exact h (a :: pre) b post (by rw [has]; rfl)

/-- With no side condition every run is allowed. -/
theorem allowed_true (s : σ) (as : List α) :
    M.Allowed (fun _ _ => True) s as := by
  apply allowed_of_prefix
  intro _ _ _ _
  trivial

/-- The invariant rule: what every allowed committed call preserves,
every allowed run preserves. -/
theorem run_induction {ok : α → σ → Prop} {P : σ → Prop}
    (hstep : ∀ s a s', P s → ok a s → M.apply a s = .ok s' → P s')
    {s : σ} {as : List α} (hs : P s) (has : M.Allowed ok s as) :
    P (M.run s as) := by
  induction as generalizing s with
  | nil => exact hs
  | cons a as ih =>
      obtain ⟨ha, has⟩ := has
      rw [run_cons]
      apply ih _ has
      rcases M.exec_cases s a with h | h
      · exact hstep s a _ hs ha h
      · rw [h]
        exact hs

/-- The invariant rule with the past at hand: a step may use anything
known about the run that led to it. -/
theorem run_induction_prefix {ok : α → σ → Prop} {P : σ → Prop} {s : σ}
    {as : List α} (hs : P s)
    (hstep : ∀ pre a post s', as = pre ++ a :: post → P (M.run s pre) →
      ok a (M.run s pre) → M.apply a (M.run s pre) = .ok s' → P s')
    (has : M.Allowed ok s as) : P (M.run s as) := by
  induction as using List.reverseRecOn with
  | nil => exact hs
  | append_singleton as a ih =>
      obtain ⟨has, ha, -⟩ := Allowed.append.mp has
      have hbefore : P (M.run s as) := by
        apply ih _ has
        intro pre b post s' heq
        exact hstep pre b (post ++ [a]) s' (by rw [heq]; simp)
      rw [run_snoc]
      rcases M.exec_cases (M.run s as) a with h | h
      · exact hstep as a [] _ rfl hbefore ha h
      · rw [h]
        exact hbefore

/-- What every step keeps except at a hit is still there at the end, or
some step was a hit. -/
theorem run_until {ok : α → σ → Prop} (P : σ → Prop)
    (hit : σ → α → σ → Prop)
    (hstep : ∀ s a s', P s → ok a s → M.apply a s = .ok s' →
      P s' ∨ hit s a s')
    {s : σ} {as : List α} (hs : P s) (has : M.Allowed ok s as) :
    P (M.run s as) ∨ ∃ pre a post, as = pre ++ a :: post ∧
      hit (M.run s pre) a (M.run s (pre ++ [a])) := by
  induction as generalizing s with
  | nil => exact Or.inl hs
  | cons a as ih =>
      obtain ⟨ha, has⟩ := has
      have hnext : P (M.exec s a) ∨ hit s a (M.exec s a) := by
        rcases M.exec_cases s a with h | h
        · exact hstep s a _ hs ha h
        · rw [h]
          exact Or.inl hs
      rcases hnext with hP | hhit
      · rcases ih hP has with hend | ⟨pre, b, post, rfl, hhit⟩
        · exact Or.inl hend
        · exact Or.inr ⟨a :: pre, b, post, rfl, hhit⟩
      · exact Or.inr ⟨[], a, as, rfl, hhit⟩

-- ============================================================ observers

/-- The machine with an observer riding along: `obs b a s s'` is the
new observation after call `a` committed `s'` from `s`. Aborted calls
are not observed. -/
def observe (M : Machine σ α) (b₀ : β) (obs : β → α → σ → σ → β) :
    Machine (σ × β) α where
  init := (M.init, b₀)
  apply a p := (M.apply a p.1).map fun s' => (s', obs p.2 a p.1 s')

variable {b₀ : β} {obs : β → α → σ → σ → β}

/-- The observed machine commits exactly when the machine does, and notes
the call. -/
theorem observe_apply_ok {a : α} {p p' : σ × β} :
    (M.observe b₀ obs).apply a p = .ok p' ↔
      M.apply a p.1 = .ok p'.1 ∧ p'.2 = obs p.2 a p.1 p'.1 := by
  simp only [observe, map_ok]
  constructor
  · intro h
    obtain ⟨s', hs', rfl⟩ := h
    exact ⟨hs', rfl⟩
  · intro h
    obtain ⟨hs', hb⟩ := h
    exact ⟨p'.1, hs', by rw [← hb]⟩

/-- Observing changes nothing of what is observed. -/
theorem exec_observe_fst (p : σ × β) (a : α) :
    ((M.observe b₀ obs).exec p a).1 = M.exec p.1 a := by
  simp only [exec, observe]
  cases M.apply a p.1 <;> rfl

/-- Observing a run does not change it. -/
theorem run_observe_fst (p : σ × β) (as : List α) :
    ((M.observe b₀ obs).run p as).1 = M.run p.1 as := by
  induction as generalizing p with
  | nil => rfl
  | cons a as ih => rw [run_cons, run_cons, ih, exec_observe_fst]

/-- What an observer of `M` has recorded when the run `as` from the
initial state ends. -/
def recorded (M : Machine σ α) (b₀ : β) (obs : β → α → σ → σ → β)
    (as : List α) : β :=
  ((M.observe b₀ obs).run (M.init, b₀) as).2

/-- The run `as` and what was observed along it, as one state of the
observed machine. -/
theorem observed_run (as : List α) :
    (M.observe b₀ obs).run (M.init, b₀) as
      = (M.run M.init as, M.recorded b₀ obs as) := by
  have hfst : ((M.observe b₀ obs).run (M.init, b₀) as).1
      = M.run M.init as := run_observe_fst _ _
  rw [← hfst]
  rfl

/-- A committed call extends the recording by one observation. -/
theorem recorded_snoc {as : List α} {a : α} {s' : σ}
    (h : M.apply a (M.run M.init as) = .ok s') :
    M.recorded b₀ obs (as ++ [a])
      = obs (M.recorded b₀ obs as) a (M.run M.init as) s' := by
  have happ : (M.observe b₀ obs).apply a
      (M.run M.init as, M.recorded b₀ obs as)
      = .ok (s', obs (M.recorded b₀ obs as) a (M.run M.init as) s') :=
    observe_apply_ok.mpr ⟨h, rfl⟩
  show ((M.observe b₀ obs).run (M.init, b₀) (as ++ [a])).2 = _
  rw [run_snoc, observed_run, exec_of_ok happ]

/-- A side condition on calls does not read the observation. -/
theorem allowed_observe {ok : α → σ → Prop} (p : σ × β) (as : List α) :
    (M.observe b₀ obs).Allowed (fun a q => ok a q.1) p as ↔
      M.Allowed ok p.1 as := by
  induction as generalizing p with
  | nil => simp [Allowed]
  | cons a as ih => simp only [Allowed, ih, exec_observe_fst]

/-- The invariant rule for a state and what was observed on the way
to it. -/
theorem recorded_induction {ok : α → σ → Prop} {P : σ → β → Prop}
    (hinit : P M.init b₀)
    (hstep : ∀ s b a s', P s b → ok a s → M.apply a s = .ok s' →
      P s' (obs b a s s'))
    {as : List α} (has : M.Allowed ok M.init as) :
    P (M.run M.init as) (M.recorded b₀ obs as) := by
  have hallowed : (M.observe b₀ obs).Allowed (fun a q => ok a q.1)
      (M.init, b₀) as := (allowed_observe (M.init, b₀) as).mpr has
  have h : P ((M.observe b₀ obs).run (M.init, b₀) as).1
      ((M.observe b₀ obs).run (M.init, b₀) as).2 := by
    refine run_induction (P := fun p : σ × β => P p.1 p.2) ?_ hinit
      hallowed
    intro p a p' hp hok happ
    obtain ⟨hs', hb⟩ := observe_apply_ok.mp happ
    show P p'.1 p'.2
    rw [hb]
    exact hstep p.1 p.2 a p'.1 hp hok hs'
  rw [observed_run] at h
  exact h

-- =============================================================== traces

/-- A call that committed, the state it found and the state it left. -/
structure Committed (σ α : Type) where
  call : α
  before : σ
  after : σ

/-- The committed calls of a run, in order. -/
def trace (M : Machine σ α) : σ → List α → List (Committed σ α)
  | _, [] => []
  | s, a :: as =>
      match M.apply a s with
      | .ok s' => ⟨a, s, s'⟩ :: M.trace s' as
      | .error _ => M.trace s as

/-- A committed call is on the trace. -/
theorem trace_cons_ok {s s' : σ} {a : α} (as : List α)
    (h : M.apply a s = .ok s') :
    M.trace s (a :: as) = ⟨a, s, s'⟩ :: M.trace s' as := by
  simp [trace, h]

/-- An aborted one is not. -/
theorem trace_cons_error {s : σ} {a : α} {e : String} (as : List α)
    (h : M.apply a s = .error e) :
    M.trace s (a :: as) = M.trace s as := by
  simp [trace, h]

/-- The trace of a run is that of its parts. -/
theorem trace_append (s : σ) (as bs : List α) :
    M.trace s (as ++ bs) = M.trace s as ++ M.trace (M.run s as) bs := by
  induction as generalizing s with
  | nil => rfl
  | cons a as ih =>
      cases h : M.apply a s with
      | ok s' =>
          rw [List.cons_append, trace_cons_ok _ h, trace_cons_ok _ h, ih,
            run_cons, exec_of_ok h]
          rfl
      | error e =>
          rw [List.cons_append, trace_cons_error _ h, trace_cons_error _ h,
            ih, run_cons, exec_of_error h]

/-- One call of a trace, back in its run: what was called before it, what
came after, and that it committed. -/
theorem trace_split {s : σ} {as : List α} {l₁ l₂ : List (Committed σ α)}
    {c : Committed σ α} (h : M.trace s as = l₁ ++ c :: l₂) :
    ∃ pre post, as = pre ++ c.call :: post ∧ c.before = M.run s pre
      ∧ M.apply c.call c.before = .ok c.after ∧ M.trace s pre = l₁
      ∧ M.trace c.after post = l₂ := by
  induction as generalizing s l₁ with
  | nil => cases l₁ <;> cases h
  | cons a as ih =>
      cases ha : M.apply a s with
      | error e =>
          rw [trace_cons_error _ ha] at h
          obtain ⟨pre, post, has, hbefore, happ, hpre, hpost⟩ := ih h
          refine ⟨a :: pre, post, by rw [has]; rfl, ?_, happ, ?_, hpost⟩
          · rw [hbefore, run_cons, exec_of_error ha]
          · rw [trace_cons_error _ ha, hpre]
      | ok s' =>
          rw [trace_cons_ok _ ha] at h
          cases l₁ with
          | nil =>
              injection h with hc hrest
              subst hc
              exact ⟨[], as, rfl, rfl, ha, rfl, hrest⟩
          | cons d l₁ =>
              injection h with hd hrest
              subst hd
              obtain ⟨pre, post, has, hbefore, happ, hpre, hpost⟩ := ih hrest
              refine ⟨a :: pre, post, by rw [has]; rfl, ?_, happ, ?_, hpost⟩
              · rw [hbefore, run_cons, exec_of_ok ha]
              · rw [trace_cons_ok _ ha, hpre]

/-- Every call of a trace committed. -/
theorem apply_of_split {s : σ} {as : List α} {l₁ l₂ : List (Committed σ α)}
    {c : Committed σ α} (h : M.trace s as = l₁ ++ c :: l₂) :
    M.apply c.call c.before = .ok c.after := by
  obtain ⟨pre, post, -, -, happ, -, -⟩ := trace_split h
  exact happ

/-- Every entry of a trace is a call that committed there. -/
theorem apply_of_mem_trace {s : σ} {as : List α} {c : Committed σ α}
    (h : c ∈ M.trace s as) : M.apply c.call c.before = .ok c.after := by
  obtain ⟨l₁, l₂, hsplit⟩ := List.append_of_mem h
  exact apply_of_split hsplit

/-- The calls of a trace are calls of the run, in the run's order. -/
theorem trace_sublist (s : σ) (as : List α) :
    ((M.trace s as).map (·.call)).Sublist as := by
  induction as generalizing s with
  | nil => exact .slnil
  | cons a as ih =>
      cases h : M.apply a s with
      | ok s' =>
          rw [trace_cons_ok _ h]
          exact (ih s').cons_cons a
      | error e =>
          rw [trace_cons_error _ h]
          exact (ih s).cons a

/-- A call that commits at the end of a run ends its trace. -/
theorem trace_snoc (M : Machine σ α) (s : σ) (as : List α) {a : α}
    (h : (M.apply a (M.run s as)).isOk = true) :
    M.trace s (as ++ [a]) = M.trace s as
      ++ [⟨a, M.run s as, M.run s (as ++ [a])⟩] := by
  rw [trace_append, trace_cons_ok _ (apply_of_isOk h)]
  rfl

/-- So do two that commit one after the other. -/
theorem trace_two (M : Machine σ α) (s : σ) (as : List α) {a b : α}
    (ha : (M.apply a (M.run s as)).isOk = true)
    (hb : (M.apply b (M.run s (as ++ [a]))).isOk = true) :
    M.trace s (as ++ [a, b]) = M.trace s as
      ++ ⟨a, M.run s as, M.run s (as ++ [a])⟩
      :: [⟨b, M.run s (as ++ [a]), M.run s (as ++ [a] ++ [b])⟩] := by
  have hsplit : as ++ [a, b] = as ++ [a] ++ [b] := by simp
  rw [hsplit, trace_snoc M s _ hb, trace_snoc M s _ ha]
  simp

/-- The invariant rule for a state and the trace that led to it; a step
may use where in the run the call stands. -/
theorem trace_induction_prefix {P : σ → List (Committed σ α) → Prop}
    {s : σ} {as : List α} (hinit : P s [])
    (hstep : ∀ pre a post t', as = pre ++ a :: post →
      P (M.run s pre) (M.trace s pre) → M.apply a (M.run s pre) = .ok t' →
      P t' (M.trace s pre ++ [⟨a, M.run s pre, t'⟩])) :
    P (M.run s as) (M.trace s as) := by
  induction as using List.reverseRecOn with
  | nil => exact hinit
  | append_singleton as a ih =>
      have hbefore : P (M.run s as) (M.trace s as) := by
        apply ih
        intro pre b post t' heq
        exact hstep pre b (post ++ [a]) t' (by rw [heq]; simp)
      rw [run_snoc, trace_append]
      cases h : M.apply a (M.run s as) with
      | ok t' =>
          rw [exec_of_ok h, trace_cons_ok _ h]
          exact hstep as a [] t' rfl hbefore h
      | error e =>
          rw [exec_of_error h, trace_cons_error _ h]
          simpa [trace] using hbefore

/-- The same with a side condition on the calls in place of the run. -/
theorem trace_induction {ok : α → σ → Prop}
    {P : σ → List (Committed σ α) → Prop} {s : σ} (hinit : P s [])
    (hstep : ∀ t tr a t', P t tr → ok a t → M.apply a t = .ok t' →
      P t' (tr ++ [⟨a, t, t'⟩]))
    {as : List α} (has : M.Allowed ok s as) :
    P (M.run s as) (M.trace s as) := by
  refine trace_induction_prefix hinit ?_
  intro pre a post t' heq hbefore happ
  rw [heq] at has
  obtain ⟨-, ha, -⟩ := Allowed.append.mp has
  exact hstep _ _ a t' hbefore ha happ

/-- What every call of the trace preserves holds when the run ends. -/
theorem run_of_trace {P : σ → Prop} {s : σ} {as : List α} (hs : P s)
    (h : ∀ c ∈ M.trace s as, P c.before → P c.after) :
    P (M.run s as) := by
  induction as generalizing s with
  | nil => exact hs
  | cons a as ih =>
      rw [run_cons]
      cases ha : M.apply a s with
      | ok s' =>
          rw [trace_cons_ok _ ha] at h
          rw [exec_of_ok ha]
          have hs' : P s' := h ⟨a, s, s'⟩ List.mem_cons_self hs
          exact ih hs' fun c hc => h c (List.mem_cons_of_mem _ hc)
      | error e =>
          rw [trace_cons_error _ ha] at h
          rw [exec_of_error ha]
          exact ih hs h

/-- Something every call of a trace does only while a door is open, and
shuts it by doing, is done at most once; whoever did it finds the door
shut for good. -/
theorem once_of_trace (done : σ → Nat) (shut : σ → Prop) {s : σ}
    {as : List α} (hs : done s = 0)
    (h : ∀ c ∈ M.trace s as,
      (done c.after = done c.before ∧ (shut c.before → shut c.after))
      ∨ (¬ shut c.before ∧ done c.after = done c.before + 1
        ∧ shut c.after)) :
    done (M.run s as) ≤ 1 ∧ (0 < done (M.run s as) → shut (M.run s as)) := by
  refine run_of_trace (P := fun t => done t ≤ 1 ∧ (0 < done t → shut t))
    ⟨by omega, by omega⟩ ?_
  intro c hc hbefore
  obtain ⟨hle, hshut⟩ := hbefore
  rcases h c hc with ⟨hsame, hkeep⟩ | ⟨hopen, hone, hafter⟩
  · rw [hsame]
    exact ⟨hle, fun hpos => hkeep (hshut hpos)⟩
  · have hnone : done c.before = 0 := by
      by_contra hne
      exact hopen (hshut (by omega))
    exact ⟨by omega, fun _ => hafter⟩

/-- What every call of an initial stretch of the trace preserves holds
after each of them. -/
theorem after_of_trace {P : σ → Prop} {s : σ} {as : List α}
    {l₁ l₂ : List (Committed σ α)} (hs : P s)
    (hsplit : M.trace s as = l₁ ++ l₂)
    (h : ∀ c ∈ l₁, P c.before → P c.after) {c : Committed σ α}
    (hc : c ∈ l₁) : P c.after := by
  obtain ⟨k₁, k₂, hl₁⟩ := List.append_of_mem hc
  rw [hl₁, List.append_assoc, List.cons_append] at hsplit
  obtain ⟨pre, post, -, hbefore, -, hpre, -⟩ := trace_split hsplit
  apply h c hc
  rw [hbefore]
  refine run_of_trace hs ?_
  intro d hd
  apply h d
  rw [hpre] at hd
  rw [hl₁]
  exact List.mem_append_left _ hd

/-- Ledger time never runs backwards along the run. -/
def Chronological (time : α → Nat) (as : List α) : Prop :=
  as.Pairwise fun a b => time a ≤ time b

/-- Nor along its trace. -/
theorem Chronological.trace {time : α → Nat} {as : List α}
    (h : Chronological time as) (s : σ) :
    (M.trace s as).Pairwise fun c d => time c.call ≤ time d.call := by
  have hcalls := List.Pairwise.sublist (trace_sublist (M := M) s as) h
  rw [List.pairwise_map] at hcalls
  exact hcalls

/-- What comes later in a trace is no earlier in time. -/
theorem Chronological.le {time : α → Nat} {as : List α}
    (h : Chronological time as) {s : σ} {l₁ l₂ : List (Committed σ α)}
    {c d : Committed σ α} (hsplit : M.trace s as = l₁ ++ c :: l₂)
    (hd : d ∈ l₂) : time c.call ≤ time d.call := by
  have hpair := h.trace (M := M) s
  rw [hsplit, List.pairwise_append] at hpair
  exact List.rel_of_pairwise_cons hpair.2.1 hd

/-- What a run committed before a call is no later than the call. -/
theorem Chronological.le_call {time : α → Nat} {pre post : List α} {a : α}
    (h : Chronological time (pre ++ a :: post)) {s : σ}
    {c : Committed σ α} (hc : c ∈ M.trace s pre) :
    time c.call ≤ time a := by
  have hmem : c.call ∈ pre :=
    (trace_sublist s pre).subset (List.mem_map_of_mem hc)
  rw [Chronological, List.pairwise_append] at h
  exact h.2.2 _ hmem a List.mem_cons_self

/-- Where a later call `d` of a trace stands: some calls after `c`, all
of them no earlier than `c`, and what they committed is no later than
`d`. -/
theorem Chronological.later_call {time : α → Nat} {as : List α}
    (h : Chronological time as) {s : σ} {l₁ l₂ : List (Committed σ α)}
    {c d : Committed σ α} (hsplit : M.trace s as = l₁ ++ c :: l₂)
    (hd : d ∈ l₂) :
    ∃ mid, d.before = M.run c.after mid
      ∧ (∀ a ∈ mid, time c.call ≤ time a)
      ∧ ∀ e ∈ M.trace c.after mid, e ∈ l₂ ∧ time e.call ≤ time d.call := by
  obtain ⟨pre, post, has, -, -, -, hpost⟩ := trace_split hsplit
  obtain ⟨l₃, l₄, hl₂⟩ := List.append_of_mem hd
  rw [hl₂] at hpost
  obtain ⟨mid, rest, hmid, hbefore, -, hl₃, -⟩ := trace_split hpost
  refine ⟨mid, hbefore, ?_, ?_⟩
  · intro a ha
    rw [Chronological, has, List.pairwise_append] at h
    refine List.rel_of_pairwise_cons h.2.1 ?_
    rw [hmid]
    exact List.mem_append_left _ ha
  · intro e he
    rw [hl₃] at he
    obtain ⟨l₅, l₆, hl⟩ := List.append_of_mem he
    refine ⟨by rw [hl₂, hl]; simp, ?_⟩
    have hsplit' : M.trace s as
        = (l₁ ++ c :: l₅) ++ e :: (l₆ ++ d :: l₄) := by
      rw [hsplit, hl₂, hl]
      simp
    exact h.le hsplit' (by simp)

-- ============================================================ the clock

/-- The machine with the ledger's clock in its calls: each is made at a
time, which `stamp` writes into what the call sees. -/
def clocked (M : Machine σ α) (stamp : Nat → α → α) :
    Machine σ (Nat × α) where
  init := M.init
  apply a s := M.apply (stamp a.1 a.2) s

end Machine

end Ballast.Soroban
