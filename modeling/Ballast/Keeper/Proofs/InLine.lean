/-
One job of a process at a time.

A lane holds a name once, and only its first has begun; a call that is not
the first of its process's lane is past its deadline. So two calls of one
process overlap only when one of them was to be abandoned.

# The lane

A process keeps the names of its lane in `inFlight` and the calls in
`lane`, and nothing but the program keeps the two in step (`LaneSound`).
A call leaves the lane when it settles or when its deadline passes, and
goes on running in the second case: such calls are what `late` speaks
of, and why jobs of one process can overlap at all.
-/
import Ballast.Keeper.Proofs.Mutex

namespace Ballast.Keeper.Lane

open Soroban

variable {cfg : Config} {s s' : System} {a : Act}

-- ================================================================= the lane

/-- The call of the first of a lane, once it has begun. -/
def first (proc : Process) : Option Nat := proc.lane.head?.bind (·.call)

structure LaneSound (proc : Process) : Prop where
  names : proc.inFlight = proc.lane.map (·.name)
  nodup : (proc.lane.map (·.name)).Nodup
  behind : ∀ e ∈ proc.lane.tail, e.call = none

structure Lanes (cfg : Config) (s : System) : Prop where
  sound : ∀ p proc, s.processes.get p = some proc → LaneSound proc
  /-- the first of a lane is a call of its process -/
  begun : ∀ p proc j, s.processes.get p = some proc →
    first proc = some j → ∃ job, s.jobs.get j = some job ∧ job.process = p
  /-- a call is the first of its lane, or late -/
  late : ∀ j job, s.jobs.get j = some job →
    ∃ proc, s.processes.get job.process = some proc
      ∧ (first proc = some j ∨ job.startedAt + cfg.timeoutMs ≤ s.now)

/-- Counting a skip does not touch the lane. -/
theorem LaneSound.skipped {proc : Process} (h : LaneSound proc) (n : Nat) :
    LaneSound { proc with skipped := n } := ⟨h.names, h.nodup, h.behind⟩

/-- Nor does the flag of a shutdown. -/
theorem LaneSound.shuttingDown {proc : Process} (h : LaneSound proc) :
    LaneSound { proc with shuttingDown := true } :=
  ⟨h.names, h.nodup, h.behind⟩

/-- When the first leaves, its name leaves too. -/
theorem LaneSound.leaveLane {proc : Process} (h : LaneSound proc) :
    LaneSound (leaveLane proc) := by
  unfold Lane.leaveLane
  split
  · exact h
  next e rest hlane =>
    have hnames := h.names
    have hnodup := h.nodup
    have hbehind := h.behind
    rw [hlane] at hnames hnodup hbehind
    rw [List.map_cons, List.nodup_cons] at hnodup
    refine ⟨?_, hnodup.2, ?_⟩
    · show proc.inFlight.erase e.name = rest.map (·.name)
      rw [hnames, List.map_cons, List.erase_cons_head]
    · intro e' he'
      exact hbehind e' (List.mem_of_mem_tail he')

/-- The next one has not begun. -/
theorem first_leaveLane {proc : Process} (h : LaneSound proc) :
    first (leaveLane proc) = none := by
  unfold Lane.leaveLane
  split
  next hlane => rw [first, hlane]; rfl
  next e rest hlane =>
    have hbehind := h.behind
    rw [hlane] at hbehind
    cases rest with
    | nil => rfl
    | cons e' rest => exact hbehind e' List.mem_cons_self

/-- A call that settles takes its own place out of the lane, or none. -/
theorem LaneSound.settleLane {proc : Process} (h : LaneSound proc)
    (j : Nat) : LaneSound (settleLane j proc) := by
  unfold Lane.settleLane
  split
  · exact h.leaveLane
  · exact h

/-- A call that settles leaves no other's place. -/
theorem first_settleLane {proc : Process} (h : LaneSound proc) (j : Nat) :
    first (settleLane j proc)
      = if first proc = some j then none else first proc := by
  unfold Lane.settleLane
  show first (if first proc = some j then leaveLane proc else proc) = _
  split
  · exact first_leaveLane h
  · rfl

/-- A name joins the lane only if it is not in it. -/
theorem LaneSound.queued {proc : Process} (h : LaneSound proc)
    {name : String} (hname : name ∉ proc.inFlight) (now : Nat) :
    LaneSound { proc with
      lane := proc.lane ++ [⟨name, now, proc.lane.length, none⟩]
      inFlight := proc.inFlight ++ [name] } := by
  refine ⟨?_, ?_, ?_⟩
  · show proc.inFlight ++ [name] = (proc.lane ++ [_]).map _
    rw [List.map_append, h.names]
    rfl
  · show ((proc.lane ++ [_]).map _).Nodup
    rw [List.map_append]
    exact h.nodup.append (List.nodup_singleton _)
      (List.disjoint_singleton.mpr (h.names ▸ hname))
  · intro e he
    cases hlane : proc.lane with
    | nil =>
        rw [hlane] at he
        cases he
    | cons e' rest =>
        rw [hlane] at he
        rcases List.mem_append.mp he with he | he
        · have hbehind := h.behind
          rw [hlane] at hbehind
          exact hbehind e he
        · rw [List.mem_singleton] at he
          rw [he]

/-- A job that joins changes who is first only of an empty lane, and has
not begun. -/
theorem first_queued {proc : Process} {j : Nat} (name : String)
    (now : Nat) : first { proc with
      lane := proc.lane ++ [⟨name, now, proc.lane.length, none⟩]
      inFlight := proc.inFlight ++ [name] } = some j
        ↔ first proc = some j := by
  unfold first
  cases proc.lane <;> simp

/-- The first begins, and stays the first. -/
theorem LaneSound.begin {proc : Process} (h : LaneSound proc) {e : Entry}
    {rest : List Entry} (hlane : proc.lane = e :: rest) (j : Nat) :
    LaneSound { proc with lane := { e with call := some j } :: rest } := by
  have hnames := h.names
  have hnodup := h.nodup
  have hbehind := h.behind
  rw [hlane] at hnames hnodup hbehind
  exact ⟨hnames, hnodup, hbehind⟩

-- ============================================================ every action

/-- A process's lane changes, and no call. -/
theorem Lanes.process (h : Lanes cfg s) {p : Nat} {proc proc' : Process}
    (hp : s.processes.get p = some proc) (hsound : LaneSound proc')
    (hfirst : ∀ j, first proc' = some j ↔ first proc = some j) :
    Lanes cfg { s with processes := s.processes.set p proc' } := by
  refine ⟨?_, ?_, ?_⟩
  · intro q proc'' hq
    rcases get_of_set hq with ⟨-, rfl⟩ | ⟨-, hq⟩
    · exact hsound
    · exact h.sound q proc'' hq
  · intro q proc'' j hq hj
    rcases get_of_set hq with ⟨rfl, rfl⟩ | ⟨-, hq⟩
    · exact h.begun q proc j hp ((hfirst j).mp hj)
    · exact h.begun q proc'' j hq hj
  · intro j job hj
    obtain ⟨proc'', hq, hlate⟩ := h.late j job hj
    by_cases heq : job.process = p
    · rw [heq, hp] at hq
      injection hq with hq
      subst hq
      refine ⟨proc', by rw [heq]; exact Store.get_set_self _ _ _, ?_⟩
      exact hlate.imp_left (hfirst j).mpr
    · exact ⟨proc'', (Store.get_set_ne _ _ heq).trans hq, hlate⟩

/-- A call moves on, where it was. -/
theorem Lanes.job (h : Lanes cfg s) {j : Nat} {job : Job}
    (hj : s.jobs.get j = some job) (stage : Stage)
    (locks : List (Nat × Int)) : Lanes cfg { s with
      locks := locks
      jobs := s.jobs.set j { job with stage := stage } } := by
  refine ⟨h.sound, ?_, ?_⟩
  · intro p proc i hp hi
    obtain ⟨other, hother, hof⟩ := h.begun p proc i hp hi
    by_cases heq : i = j
    · subst heq
      rw [hj] at hother
      injection hother with hother
      subst hother
      exact ⟨_, Store.get_set_self _ _ _, hof⟩
    · exact ⟨other, (Store.get_set_ne _ _ heq).trans hother, hof⟩
  · intro i other hi
    rcases get_of_set hi with ⟨rfl, rfl⟩ | ⟨-, hi⟩
    · exact h.late i job hj
    · exact h.late i other hi

/-- A call settles, and its lane moves on if it was first. -/
theorem Lanes.settled (h : Lanes cfg s) {j : Nat} {job : Job}
    (hj : s.jobs.get j = some job) : Lanes cfg (settle s j job) := by
  obtain ⟨proc, hp, -⟩ := h.late j job hj
  have hsound := h.sound _ proc hp
  have hprocs : (settle s j job).processes
      = s.processes.set job.process (settleLane j proc) :=
    Store.adjust_some _ hp
  refine ⟨?_, ?_, ?_⟩
  · intro q proc' hq
    rw [hprocs] at hq
    rcases get_of_set hq with ⟨-, rfl⟩ | ⟨-, hq⟩
    · exact hsound.settleLane j
    · exact h.sound q proc' hq
  · intro q proc' i hq hi
    rw [hprocs] at hq
    have hfirst : ∃ proc'', s.processes.get q = some proc''
        ∧ first proc'' = some i ∧ i ≠ j := by
      rcases get_of_set hq with ⟨rfl, rfl⟩ | ⟨hne, hq'⟩
      · rw [first_settleLane hsound] at hi
        split at hi
        · cases hi
        next hnot => exact ⟨proc, hp, hi, fun heq => hnot (heq ▸ hi)⟩
      · refine ⟨proc', hq', hi, ?_⟩
        rintro rfl
        obtain ⟨other, hother, hof⟩ := h.begun q proc' i hq' hi
        rw [hj] at hother
        injection hother with hother
        subst hother
        exact hne hof.symm
    obtain ⟨proc'', hq', hi', hne⟩ := hfirst
    obtain ⟨other, hother, hof⟩ := h.begun q proc'' i hq' hi'
    exact ⟨other, (Store.get_remove_ne _ hne).trans hother, hof⟩
  · intro i other hi
    obtain ⟨hne, hi⟩ := get_of_remove hi
    obtain ⟨proc', hq, hlate⟩ := h.late i other hi
    rw [hprocs]
    by_cases heq : other.process = job.process
    · rw [heq, hp] at hq
      injection hq with hq
      subst hq
      refine ⟨_, by rw [heq]; exact Store.get_set_self _ _ _, ?_⟩
      refine hlate.imp_left fun hfirst => ?_
      rw [first_settleLane hsound, if_neg]
      · exact hfirst
      · intro hj'
        rw [hfirst] at hj'
        exact hne (Option.some.inj hj')
    · exact ⟨proc', (Store.get_set_ne _ _ heq).trans hq, hlate⟩

/-- Every step keeps the lanes so. -/
theorem Did.lanes (h : Did cfg s a s') (hl : Lanes cfg s) :
    Lanes cfg s' := by
  cases h with
  -- what is late stays late
  | tick ms =>
      refine ⟨hl.sound, hl.begun, ?_⟩
      intro j job hj
      obtain ⟨proc, hp, hlate⟩ := hl.late j job hj
      exact ⟨proc, hp, hlate.imp_right fun hle => hle.trans
        (Nat.le_add_right _ _)⟩
  | @boot p scope hp =>
      refine ⟨?_, ?_, ?_⟩
      · intro q proc hq
        rcases get_of_set hq with ⟨-, rfl⟩ | ⟨-, hq⟩
        · exact ⟨rfl, List.nodup_nil, fun _ he => nomatch he⟩
        · exact hl.sound q proc hq
      · intro q proc j hq hj
        rcases get_of_set hq with ⟨-, rfl⟩ | ⟨-, hq⟩
        · cases hj
        · exact hl.begun q proc j hq hj
      · intro j job hj
        obtain ⟨proc, hq, hlate⟩ := hl.late j job hj
        have hne : job.process ≠ p := by
          rintro rfl
          rw [hp] at hq
          cases hq
        exact ⟨proc, (Store.get_set_ne _ _ hne).trans hq, hlate⟩
  | refused => exact hl
  | skipped hp =>
      exact hl.process hp ((hl.sound _ _ hp).skipped _) fun _ => Iff.rfl
  | queued hp hname =>
      exact hl.process hp ((hl.sound _ _ hp).queued hname _)
        fun _ => first_queued _ _
  | shutdown hp =>
      exact hl.process hp (hl.sound _ _ hp).shuttingDown fun _ => Iff.rfl
  -- the first of the lane begins: it is the call of a new job
  | @begin p j proc e rest hp hj hlane he =>
      have hsound := hl.sound _ _ hp
      have hnone : first proc = none := by
        rw [first, hlane]
        exact he
      refine ⟨?_, ?_, ?_⟩
      · intro q proc' hq
        rcases get_of_set hq with ⟨-, rfl⟩ | ⟨-, hq⟩
        · exact hsound.begin hlane j
        · exact hl.sound q proc' hq
      · intro q proc' i hq hi
        rcases get_of_set hq with ⟨rfl, rfl⟩ | ⟨-, hq⟩
        · injection hi with hi
          subst hi
          exact ⟨_, Store.get_set_self _ _ _, rfl⟩
        · obtain ⟨other, hother, hof⟩ := hl.begun q proc' i hq hi
          have hne : i ≠ j := by
            rintro rfl
            rw [hj] at hother
            cases hother
          exact ⟨other, (Store.get_set_ne _ _ hne).trans hother, hof⟩
      · intro i other hi
        rcases get_of_set hi with ⟨rfl, rfl⟩ | ⟨-, hi⟩
        · exact ⟨_, Store.get_set_self _ _ _, Or.inl rfl⟩
        · obtain ⟨proc', hq, hlate⟩ := hl.late i other hi
          by_cases heq : other.process = p
          · rw [heq, hp] at hq
            injection hq with hq
            subst hq
            refine ⟨_, by rw [heq]; exact Store.get_set_self _ _ _, ?_⟩
            rcases hlate with hfirst | hle
            · rw [hnone] at hfirst
              cases hfirst
            · exact Or.inr hle
          · exact ⟨proc', (Store.get_set_ne _ _ heq).trans hq, hlate⟩
  -- the first leaves, and it is late: that is what the deadline says
  | @deadline p j proc job hp hhead hj hlate =>
      have hsound := hl.sound _ _ hp
      refine ⟨?_, ?_, ?_⟩
      · intro q proc' hq
        rcases get_of_set hq with ⟨-, rfl⟩ | ⟨-, hq⟩
        · exact hsound.leaveLane
        · exact hl.sound q proc' hq
      · intro q proc' i hq hi
        rcases get_of_set hq with ⟨-, rfl⟩ | ⟨-, hq⟩
        · rw [first_leaveLane hsound] at hi
          cases hi
        · exact hl.begun q proc' i hq hi
      · intro i other hi
        obtain ⟨proc', hq, hlate'⟩ := hl.late i other hi
        by_cases heq : other.process = p
        · rw [heq, hp] at hq
          injection hq with hq
          subst hq
          refine ⟨_, by rw [heq]; exact Store.get_set_self _ _ _, Or.inr ?_⟩
          rcases hlate' with hfirst | hle
          · rw [show first proc = some j from hhead] at hfirst
            injection hfirst with hfirst
            subst hfirst
            have hi' : s.jobs.get j = some other := hi
            rw [hj] at hi'
            injection hi' with hi'
            subst hi'
            exact hlate
          · exact hle
        · exact ⟨proc', (Store.get_set_ne _ _ heq).trans hq, hlate'⟩
  | openSession => exact ⟨hl.sound, hl.begun, hl.late⟩
  | reserve hj => exact hl.job hj _ s.locks
  | lock hj => exact hl.job hj _ _
  | @lockLost j session job locks hj _ _ =>
      have hl' : Lanes cfg { s with locks := locks } :=
        ⟨hl.sound, hl.begun, hl.late⟩
      exact hl'.settled hj
  | finish hj => exact hl.job hj _ s.locks
  | unlock hj => exact hl.job hj _ _
  | settled hj => exact hl.settled hj
  | drop => exact ⟨hl.sound, hl.begun, hl.late⟩
  -- its lane and its jobs go together
  | exit p =>
      refine ⟨?_, ?_, ?_⟩
      · intro q proc hq
        exact hl.sound q proc (get_of_remove hq).2
      · intro q proc j hq hj
        obtain ⟨hne, hq⟩ := get_of_remove hq
        obtain ⟨job, hjob, hof⟩ := hl.begun q proc j hq hj
        refine ⟨job, ?_, hof⟩
        show (s.jobs.filter _).get j = _
        rw [Store.get_filter, hjob, Option.filter, if_pos]
        simpa [hof] using hne
      · intro j job hj
        obtain ⟨hj, hkeep⟩ := get_of_filter hj
        obtain ⟨proc, hq, hlate⟩ := hl.late j job hj
        exact ⟨proc, (Store.get_remove_ne _ (of_decide_eq_true hkeep)).trans hq,
          hlate⟩

/-- They are so after every run. -/
theorem lanes_run (cfg : Config) (as : List Act) :
    Lanes cfg ((machine cfg).run (machine cfg).init as) := by
  refine Machine.run_induction (P := Lanes cfg)
    (fun t x t' ht _ happ => (did_of_step happ).lanes ht) ?_
    (Machine.allowed_true _ as)
  exact ⟨fun _ _ hp => (nomatch hp), fun _ _ _ hp => (nomatch hp),
    fun _ _ hj => (nomatch hj)⟩

/-- Two calls of one process overlap only when one of them is past its
deadline. -/
theorem one_at_a_time (cfg : Config) (as : List Act) {i j : Nat} {a b : Job}
    (hi : ((machine cfg).run (machine cfg).init as).jobs.get i = some a)
    (hj : ((machine cfg).run (machine cfg).init as).jobs.get j = some b)
    (hp : a.process = b.process) (hne : i ≠ j) :
    a.startedAt + cfg.timeoutMs
        ≤ ((machine cfg).run (machine cfg).init as).now
      ∨ b.startedAt + cfg.timeoutMs
        ≤ ((machine cfg).run (machine cfg).init as).now := by
  have hl := lanes_run cfg as
  obtain ⟨proc, hproc, hlate⟩ := hl.late i a hi
  obtain ⟨proc', hproc', hlate'⟩ := hl.late j b hj
  rw [hp, hproc'] at hproc
  injection hproc with hproc
  subst hproc
  rcases hlate with hfirst | hle
  · rcases hlate' with hfirst' | hle'
    · rw [hfirst] at hfirst'
      exact absurd (Option.some.inj hfirst') hne
    · exact Or.inr hle'
  · exact Or.inl hle

/-- One job hangs and another has begun: a deadline lies between. -/
theorem one_at_a_time_demo :
    0 + Demo.config.timeoutMs ≤ ((machine Demo.config).run
        (machine Demo.config).init (Demo.queued ++ Demo.stuck)).now
      ∨ 600000 + Demo.config.timeoutMs ≤ ((machine Demo.config).run
        (machine Demo.config).init (Demo.queued ++ Demo.stuck)).now :=
  one_at_a_time Demo.config (Demo.queued ++ Demo.stuck) (i := 0) (j := 1)
    (a := ⟨1, "interest-accrual", "keeper:interest-accrual", 0, .reserving⟩)
    (b := ⟨1, "sync-collateral", "keeper:sync-collateral", 600000,
      .reserving⟩)
    (by decide +kernel) (by decide +kernel) rfl (by decide)

end Ballast.Keeper.Lane
