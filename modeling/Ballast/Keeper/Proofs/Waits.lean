/-
No job waits for ever behind a stuck one.

If timers fire on time, a job begins no later than one deadline for each
other job on the schedule, whether those ever settle or not. The measure
of a place in the lane is when the first began, or the present if it has
not, and one deadline for each place before: no step raises it, and it is
at most the same sum for the places there were when the job was queued.

# Time

Nothing in the program makes time pass; the host does. `OnTime` says
what is asked of it: a tick does not carry the clock past the moment the
first of some lane is due to begin or to be abandoned. A job that never
settles is not excluded, it is what the deadline is for, and it costs
the ones behind it exactly that deadline.
-/
import Ballast.Keeper.Proofs.InLine

namespace Ballast.Keeper.Lane

open Soroban

variable {cfg : Config} {names : List String} {s s' : System} {a : Act}

/-- When the first of a lane began: the present, if it has not. -/
def since (s : System) (proc : Process) : Nat :=
  ((first proc).bind s.jobs.get).elim s.now (·.startedAt)

/-- When the first of a lane is due to begin, or else to leave. -/
def due (cfg : Config) (s : System) (proc : Process) : Nat :=
  if first proc = none then s.now else since s proc + cfg.timeoutMs

/-- Time passes nothing that is due, and the schedule has these jobs. -/
def OnTime (cfg : Config) (names : List String) (a : Act) (s : System) :
    Prop :=
  match a with
  | .tick ms => ∀ p ∈ s.processes.keys, ∀ proc ∈ s.processes.get p,
      proc.lane ≠ [] → s.now + ms ≤ due cfg s proc
  | .runJob _ name => name ∈ names
  | _ => True

instance (a : Act) (s : System) : Decidable (OnTime cfg names a s) := by
  unfold OnTime
  split <;> infer_instance

/-- The places of one lane. -/
structure Waits (cfg : Config) (names : List String) (start now : Nat)
    (lane : List Entry) : Prop where
  past : start ≤ now
  inTime : now ≤ start + cfg.timeoutMs
  line : ∀ i e, lane[i]? = some e →
    start + i * cfg.timeoutMs ≤ e.queuedAt + e.ahead * cfg.timeoutMs
  scheduled : ∀ e ∈ lane, e.name ∈ names ∧ e.ahead < names.length

def Waiting (cfg : Config) (names : List String) (s : System) : Prop :=
  ∀ p proc, s.processes.get p = some proc →
    Waits cfg names (since s proc) s.now proc.lane

/-- A lane whose first has not begun waits from now on. -/
theorem since_none {proc : Process} (h : first proc = none) :
    since s proc = s.now := by
  rw [since, h]
  rfl

/-- One whose first has begun waits from when that began. -/
theorem since_some {proc : Process} {j : Nat} {job : Job}
    (h : first proc = some j) (hj : s.jobs.get j = some job) :
    since s proc = job.startedAt := by
  rw [since, h, Option.bind_some, hj]
  rfl

/-- The measure reads the clock and one starting time. -/
theorem since_congr {proc : Process} (hnow : s'.now = s.now)
    (hjobs : ∀ j, first proc = some j →
      (s'.jobs.get j).map (·.startedAt) = (s.jobs.get j).map (·.startedAt)) :
    since s' proc = since s proc := by
  unfold since
  rw [hnow]
  cases hfirst : first proc with
  | none => rfl
  | some j =>
      have hj := hjobs j hfirst
      rw [Option.bind_some, Option.bind_some]
      cases h : s.jobs.get j <;> cases h' : s'.jobs.get j <;>
        rw [h, h'] at hj
      · cases hj
      · cases hj
      · exact Option.some.inj hj

/-- Nobody is first in an empty lane. -/
theorem first_of_nil {proc : Process} (h : proc.lane = []) :
    first proc = none := by
  rw [first, h]
  rfl

/-- An empty lane waits for nothing. -/
theorem Waits.nil (now : Nat) : Waits cfg names now now [] :=
  ⟨Nat.le_refl _, Nat.le_add_right _ _, fun _ _ h => (nomatch h),
    fun _ h => (nomatch h)⟩

/-- The first leaves, and the next is first. -/
theorem Waits.tail {start now : Nat} {lane : List Entry}
    (h : Waits cfg names start now lane) :
    Waits cfg names now now lane.tail := by
  refine ⟨Nat.le_refl _, Nat.le_add_right _ _, ?_, ?_⟩
  · intro i e hi
    rw [List.getElem?_tail] at hi
    have hline := h.line (i + 1) e hi
    have hin := h.inTime
    rw [Nat.succ_mul] at hline
    omega
  · intro e he
    exact h.scheduled e (List.mem_of_mem_tail he)

/-- A job at the end of the line. -/
theorem Waits.queued {start now : Nat} {lane : List Entry}
    (h : Waits cfg names start now lane)
    (hnodup : (lane.map (·.name)).Nodup) {name : String}
    (hnew : name ∉ lane.map (·.name)) (hname : name ∈ names) :
    Waits cfg names start now
      (lane ++ [⟨name, now, lane.length, none⟩]) := by
  have hshort : lane.length < names.length := by
    have hnodup' : (lane.map (·.name) ++ [name]).Nodup :=
      hnodup.append (List.nodup_singleton _)
        (List.disjoint_singleton.mpr hnew)
    have hsub : lane.map (·.name) ++ [name] ⊆ names := by
      intro n hn
      rcases List.mem_append.mp hn with hn | hn
      · obtain ⟨e, he, rfl⟩ := List.mem_map.mp hn
        exact (h.scheduled e he).1
      · rw [List.mem_singleton.mp hn]
        exact hname
    have hle := (hnodup'.subperm hsub).length_le
    rw [List.length_append, List.length_map, List.length_singleton] at hle
    exact hle
  refine ⟨h.past, h.inTime, ?_, ?_⟩
  · intro i e hi
    rw [List.getElem?_append] at hi
    split at hi
    · exact h.line i e hi
    · rw [List.getElem?_singleton] at hi
      split at hi
      next hge hzero =>
        injection hi with hi
        subst hi
        have hi' : i = lane.length := by omega
        rw [hi']
        exact Nat.add_le_add_right h.past _
      · cases hi
  · intro e he
    rcases List.mem_append.mp he with he | he
    · exact h.scheduled e he
    · rw [List.mem_singleton.mp he]
      exact ⟨hname, hshort⟩

/-- Lanes that stay, begun when they were. -/
theorem Waiting.moved (hw : Waiting cfg names s) (hnow : s'.now = s.now)
    (h : ∀ p proc', s'.processes.get p = some proc' →
      (∃ proc, s.processes.get p = some proc ∧ proc'.lane = proc.lane
        ∧ ∀ j, first proc = some j → (s'.jobs.get j).map (·.startedAt)
          = (s.jobs.get j).map (·.startedAt))
      ∨ Waits cfg names (since s' proc') s.now proc'.lane) :
    Waiting cfg names s' := by
  intro p proc' hp'
  rw [hnow]
  rcases h p proc' hp' with ⟨proc, hp, hlane, hjobs⟩ | hwaits
  · have hfirst : first proc' = first proc := by
      unfold first
      rw [hlane]
    rw [since_congr hnow (by rw [hfirst]; exact hjobs), hlane]
    have hsame : since s proc' = since s proc := by
      unfold since
      rw [hfirst]
    rw [hsame]
    exact hw p proc hp
  · exact hwaits

/-- A process's lane changes, and no call. -/
theorem Waiting.process (hw : Waiting cfg names s) {p : Nat}
    {proc' : Process}
    (h : Waits cfg names (since s proc') s.now proc'.lane) :
    Waiting cfg names
      { s with processes := s.processes.set p proc' } := by
  refine hw.moved rfl fun q proc'' hq => ?_
  rcases get_of_set hq with ⟨-, rfl⟩ | ⟨-, hq⟩
  · exact Or.inr h
  · exact Or.inl ⟨proc'', hq, rfl, fun _ _ => rfl⟩

/-- A call moves on, where it was. -/
theorem Waiting.job (hw : Waiting cfg names s) {j : Nat} {job : Job}
    (hj : s.jobs.get j = some job) (stage : Stage)
    (locks : List (Nat × Int)) : Waiting cfg names { s with
      locks := locks
      jobs := s.jobs.set j { job with stage := stage } } := by
  refine hw.moved rfl fun q proc hq => Or.inl ⟨proc, hq, rfl, ?_⟩
  intro i _
  show ((s.jobs.set j _).get i).map _ = _
  rw [Store.map_get_set]
  split
  next heq => rw [heq, hj]; rfl
  · rfl

/-- Leaving takes the first out of the lane. -/
theorem leaveLane_lane (proc : Process) :
    (leaveLane proc).lane = proc.lane.tail := by
  unfold leaveLane
  split
  next h => rw [h]; rfl
  next h => rw [h]; rfl

/-- A call settles, and its lane moves on if it was first. -/
theorem Waiting.settled (hw : Waiting cfg names s) (hl : Lanes cfg s)
    {j : Nat} {job : Job} (hj : s.jobs.get j = some job) :
    Waiting cfg names (settle s j job) := by
  obtain ⟨proc, hp, -⟩ := hl.late j job hj
  have hprocs : (settle s j job).processes
      = s.processes.set job.process (settleLane j proc) :=
    Store.adjust_some _ hp
  refine hw.moved rfl fun q proc' hq => ?_
  rw [hprocs] at hq
  rcases get_of_set hq with ⟨rfl, rfl⟩ | ⟨hne, hq⟩
  · by_cases hfirst : first proc = some j
    · right
      have hleft : settleLane j proc = leaveLane proc := if_pos hfirst
      rw [hleft, since_none (first_leaveLane (hl.sound _ proc hp)),
        leaveLane_lane]
      exact (hw _ proc hp).tail
    · left
      refine ⟨proc, hp, ?_, ?_⟩
      · rw [show settleLane j proc = proc from if_neg hfirst]
      · intro i hi
        have hij : i ≠ j := by
          rintro rfl
          exact hfirst hi
        show ((s.jobs.remove j).get i).map _ = _
        rw [Store.get_remove_ne _ hij]
  · left
    refine ⟨proc', hq, rfl, fun i hi => ?_⟩
    obtain ⟨other, hother, hof⟩ := hl.begun q proc' i hq hi
    have hij : i ≠ j := by
      rintro rfl
      rw [hj] at hother
      injection hother with hother
      subst hother
      exact hne hof.symm
    show ((s.jobs.remove j).get i).map _ = _
    rw [Store.get_remove_ne _ hij]

/-- Time passes, and nothing that is due. -/
theorem Waiting.tick (hw : Waiting cfg names s) (hl : Lanes cfg s)
    {ms : Nat} (hok : OnTime cfg names (.tick ms) s) :
    Waiting cfg names { s with now := s.now + ms } := by
  intro p proc hp
  replace hp : s.processes.get p = some proc := hp
  have h := hw p proc hp
  have hkey : p ∈ s.processes.keys := by
    rw [s.processes.mem_keys, hp]
    rfl
  have hdue := hok p hkey proc hp
  cases hfirst : first proc with
  | none =>
      rw [since_none (by exact hfirst)]
      by_cases hlane : proc.lane = []
      · rw [hlane]
        exact Waits.nil _
      · have hle := hdue hlane
        rw [due, if_pos hfirst] at hle
        have hms : ms = 0 := by omega
        subst hms
        rw [since_none hfirst] at h
        exact h
  | some j =>
      obtain ⟨job, hj, -⟩ := hl.begun p proc j hp hfirst
      have hlane : proc.lane ≠ [] := by
        intro hnil
        rw [first_of_nil hnil] at hfirst
        cases hfirst
      have hle := hdue hlane
      rw [due, if_neg (by rw [hfirst]; exact Option.some_ne_none j),
        since_some hfirst hj] at hle
      rw [since_some hfirst hj] at h
      rw [since_some (by exact hfirst) (by exact hj)]
      exact ⟨h.past.trans (Nat.le_add_right _ _), hle, h.line, h.scheduled⟩

/-- Every step in time keeps the measure of every place. -/
theorem Did.waiting (h : Did cfg s a s') (hok : OnTime cfg names a s)
    (hl : Lanes cfg s) (hw : Waiting cfg names s) :
    Waiting cfg names s' := by
  cases h with
  | tick ms => exact hw.tick hl hok
  | boot hp => exact hw.process (Waits.nil _)
  | refused => exact hw
  | @skipped p name proc hp => exact hw.process (hw p proc hp)
  | @queued p name proc hp hname =>
      have hsound := hl.sound p proc hp
      apply hw.process
      have hwaits := (hw p proc hp).queued hsound.nodup
        (hsound.names ▸ hname) hok
      have hsince : since s { proc with
          lane := proc.lane ++ [⟨name, s.now, proc.lane.length, none⟩]
          inFlight := proc.inFlight ++ [name] } = since s proc := by
        unfold since
        congr 2
        apply Option.ext
        exact fun j => first_queued name s.now
      rw [hsince]
      exact hwaits
  | @shutdown p proc hp => exact hw.process (hw p proc hp)
  -- from now on the first waits since its beginning, which is now
  | @begin p j proc e rest hp hj hlane he =>
      refine hw.moved rfl fun q proc' hq => ?_
      rcases get_of_set hq with ⟨-, rfl⟩ | ⟨-, hq⟩
      · right
        have hstart := hw p proc hp
        have hnone : first proc = none := by
          rw [first, hlane]
          exact he
        rw [since_none hnone, hlane] at hstart
        rw [since_some rfl (Store.get_set_self _ _ _)]
        refine ⟨hstart.past, hstart.inTime, ?_, ?_⟩
        · intro i e' hi
          cases i with
          | zero =>
              injection hi with hi
              subst hi
              exact hstart.line 0 e rfl
          | succ i => exact hstart.line (i + 1) e' hi
        · intro e' he'
          rcases List.mem_cons.mp he' with rfl | he'
          · exact hstart.scheduled e List.mem_cons_self
          · exact hstart.scheduled e' (List.mem_cons_of_mem _ he')
      · left
        refine ⟨proc', hq, rfl, fun i hi => ?_⟩
        obtain ⟨other, hother, -⟩ := hl.begun q proc' i hq hi
        have hij : i ≠ j := by
          rintro rfl
          rw [hj] at hother
          cases hother
        show ((s.jobs.set j _).get i).map _ = _
        rw [Store.get_set_ne _ _ hij]
  -- everyone behind moves up one place
  | @deadline p j proc job hp hhead hj hlate =>
      apply hw.process
      rw [since_none (first_leaveLane (hl.sound p proc hp)), leaveLane_lane]
      exact (hw p proc hp).tail
  | openSession => exact hw
  | reserve hj => exact hw.job hj _ s.locks
  | lock hj => exact hw.job hj _ _
  | @lockLost j session job locks hj _ _ =>
      have hl' : Lanes cfg { s with locks := locks } :=
        ⟨hl.sound, hl.begun, hl.late⟩
      have hw' : Waiting cfg names { s with locks := locks } := hw
      exact hw'.settled hl' hj
  | finish hj => exact hw.job hj _ s.locks
  | unlock hj => exact hw.job hj _ _
  | settled hj => exact hw.settled hl hj
  | drop => exact hw
  | exit p =>
      refine hw.moved rfl fun q proc hq => Or.inl ?_
      obtain ⟨hne, hq⟩ := get_of_remove hq
      refine ⟨proc, hq, rfl, fun j hfirst => ?_⟩
      obtain ⟨job, hj, hof⟩ := hl.begun q proc j hq hfirst
      show ((s.jobs.filter _).get j).map _ = _
      rw [Store.get_filter, hj, Option.filter, if_pos]
      simpa [hof] using hne

-- ================================================================ it begins

/-- A job in a lane that has not begun. -/
def Queued (p : Nat) (e : Entry) (s : System) : Prop :=
  ∃ proc, s.processes.get p = some proc ∧ e ∈ proc.lane ∧ e.call = none

/-- The job begins, `bound` at the latest. -/
def Begins (p : Nat) (e : Entry) (bound : Nat) (a : Act) (s' : System) :
    Prop :=
  ∃ j job, a = .begin p j ∧ s'.jobs.get j = some job ∧ job.process = p
    ∧ job.name = e.name ∧ job.startedAt ≤ bound

/-- Who has not begun is not the one that leaves. -/
theorem mem_leaveLane {proc : Process} {e : Entry} {j : Nat}
    (he : e ∈ proc.lane) (hcall : e.call = none)
    (hfirst : first proc = some j) : e ∈ (leaveLane proc).lane := by
  rw [leaveLane_lane]
  cases hlane : proc.lane with
  | nil =>
      rw [hlane] at he
      cases he
  | cons e' rest =>
      rw [hlane] at he
      rcases List.mem_cons.mp he with rfl | he
      · rw [first, hlane] at hfirst
        rw [show e.call = some j from hfirst] at hcall
        cases hcall
      · exact he

/-- So a call that settles takes no waiting job with it. -/
theorem mem_settleLane {proc : Process} {e : Entry} (j : Nat)
    (he : e ∈ proc.lane) (hcall : e.call = none) :
    e ∈ (settleLane j proc).lane := by
  unfold settleLane
  split
  next hfirst => exact mem_leaveLane he hcall hfirst
  · exact he

/-- A waiting job stays queued when another process changes, or its own
keeps it. -/
theorem Queued.set {p q : Nat} {e : Entry} {proc' : Process}
    (h : Queued p e s) {jobs : Store Nat Job}
    (hlane : ∀ proc, s.processes.get p = some proc → e ∈ proc.lane →
      p = q → e ∈ proc'.lane) :
    Queued p e { s with
      processes := s.processes.set q proc', jobs := jobs } := by
  obtain ⟨proc, hp, he, hcall⟩ := h
  by_cases heq : p = q
  · refine ⟨proc', ?_, hlane proc hp he heq, hcall⟩
    rw [heq]
    exact Store.get_set_self _ _ _
  · exact ⟨proc, (Store.get_set_ne _ _ heq).trans hp, he, hcall⟩

/-- It stays queued when a call settles. -/
theorem Queued.settled {p : Nat} {e : Entry} (h : Queued p e s) {j : Nat}
    {job : Job} : Queued p e (settle s j job) := by
  obtain ⟨proc, hp, he, hcall⟩ := h
  by_cases heq : p = job.process
  · subst heq
    refine ⟨settleLane j proc, ?_, mem_settleLane j he hcall, hcall⟩
    show (s.processes.adjust job.process (settleLane j)).get _ = _
    rw [Store.adjust_some _ hp]
    exact Store.get_set_self _ _ _
  · refine ⟨proc, ?_, he, hcall⟩
    show (s.processes.adjust job.process (settleLane j)).get _ = _
    rw [Store.get_adjust, if_neg heq, hp]

/-- A job stays in line until it begins. -/
theorem Did.queued_or_begins {p : Nat} {e : Entry} (h : Did cfg s a s')
    (hw : Waiting cfg names s) (ha : a ≠ .exit p) (hq : Queued p e s) :
    Queued p e s'
      ∨ Begins p e (e.queuedAt + (names.length - 1) * cfg.timeoutMs) a s'
      := by
  obtain ⟨proc₀, hp₀, he₀, hcall₀⟩ := id hq
  cases h with
  | tick ms => exact Or.inl hq
  | boot hp =>
      refine Or.inl (hq.set fun proc hp' _ heq => ?_)
      subst heq
      rw [hp] at hp'
      cases hp'
  | refused => exact Or.inl hq
  | skipped hp =>
      refine Or.inl (hq.set fun proc hp' he heq => ?_)
      subst heq
      rw [hp] at hp'
      injection hp' with hp'
      exact hp' ▸ he
  | queued hp _ =>
      refine Or.inl (hq.set fun proc hp' he heq => ?_)
      subst heq
      rw [hp] at hp'
      injection hp' with hp'
      exact List.mem_append_left _ (hp' ▸ he)
  | shutdown hp =>
      refine Or.inl (hq.set fun proc hp' he heq => ?_)
      subst heq
      rw [hp] at hp'
      injection hp' with hp'
      exact hp' ▸ he
  | @begin q j proc e₁ rest hp hj hlane he₁ =>
      by_cases hthis : p = q ∧ e = e₁
      -- it is the one that begins: its sum has run down to its own place
      · obtain ⟨rfl, rfl⟩ := hthis
        right
        refine ⟨j, _, rfl, Store.get_set_self _ _ _, rfl, rfl, ?_⟩
        have hwaits := hw p proc hp
        rw [since_none (by rw [first, hlane]; exact he₁), hlane] at hwaits
        have hline := hwaits.line 0 e rfl
        have hahead := (hwaits.scheduled e List.mem_cons_self).2
        have hle : e.ahead * cfg.timeoutMs
            ≤ (names.length - 1) * cfg.timeoutMs :=
          Nat.mul_le_mul_right _ (by omega)
        show s.now ≤ _
        omega
      · refine Or.inl (hq.set fun proc' hp' he heq => ?_)
        subst heq
        rw [hp] at hp'
        injection hp' with hp'
        rw [← hp', hlane] at he
        rcases List.mem_cons.mp he with heq | he
        · exact absurd ⟨rfl, heq⟩ hthis
        · exact List.mem_cons_of_mem _ he
  -- the one that leaves had begun, and this one has not
  | deadline hp hhead hj _ =>
      refine Or.inl (hq.set fun proc' hp' he heq => ?_)
      subst heq
      rw [hp] at hp'
      injection hp' with hp'
      exact mem_leaveLane (hp' ▸ he) hcall₀ hhead
  | openSession => exact Or.inl hq
  | reserve => exact Or.inl hq
  | lock => exact Or.inl hq
  | @lockLost j session job locks _ _ _ =>
      have hq' : Queued p e { s with locks := locks } := hq
      exact Or.inl hq'.settled
  | finish => exact Or.inl hq
  | unlock => exact Or.inl hq
  | settled => exact Or.inl hq.settled
  | drop => exact Or.inl hq
  | exit q =>
      have hne : p ≠ q := fun heq => ha (by rw [heq])
      exact Or.inl ⟨proc₀, (Store.get_remove_ne _ hne).trans hp₀, he₀,
        hcall₀⟩

/-- A job in line was queued one deadline ago at most for each other job
on the schedule. -/
theorem Waits.recent {start now : Nat} {lane : List Entry} {e : Entry}
    (h : Waits cfg names start now lane) (he : e ∈ lane)
    (hfirst : ∀ e' rest, lane = e' :: rest → e' = e → start = now) :
    now ≤ e.queuedAt + (names.length - 1) * cfg.timeoutMs := by
  obtain ⟨i, hi⟩ := List.mem_iff_getElem?.mp he
  have hline := h.line i e hi
  have hle : e.ahead * cfg.timeoutMs
      ≤ (names.length - 1) * cfg.timeoutMs :=
    Nat.mul_le_mul_right _ (by have := (h.scheduled e he).2; omega)
  cases i with
  | zero =>
      cases lane with
      | nil => cases hi
      | cons e' rest =>
          have hstart := hfirst e' rest rfl (Option.some.inj hi)
          omega
  | succ i =>
      have hin := h.inTime
      rw [Nat.succ_mul] at hline
      omega

/-- A job in line begins, one deadline later at most for each other job
on the schedule, as long as its process lives, and whatever the other
jobs do. -/
theorem begins_in_time (cfg : Config) (names : List String)
    {as bs : List Act} (has : (machine cfg).Allowed (OnTime cfg names)
      (machine cfg).init (as ++ bs))
    {p : Nat} {e : Entry}
    (he : Queued p e ((machine cfg).run (machine cfg).init as))
    (hbs : .exit p ∉ bs)
    (hlate : e.queuedAt + (names.length - 1) * cfg.timeoutMs
      < ((machine cfg).run (machine cfg).init (as ++ bs)).now) :
    ∃ pre a post, bs = pre ++ a :: post
      ∧ Begins p e (e.queuedAt + (names.length - 1) * cfg.timeoutMs) a
        ((machine cfg).run (machine cfg).init (as ++ (pre ++ [a]))) := by
  let good := fun t => Lanes cfg t ∧ Waiting cfg names t
  have hgood : ∀ t x t', good t → OnTime cfg names x t →
      (machine cfg).apply x t = .ok t' → good t' := by
    intro t x t' ht hx happ
    have hdid := did_of_step happ
    exact ⟨hdid.lanes ht.1, hdid.waiting hx ht.1 ht.2⟩
  obtain ⟨has, hbs'⟩ := Machine.Allowed.append.mp has
  have hstart : good ((machine cfg).run (machine cfg).init as) :=
    Machine.run_induction hgood ⟨lanes_run cfg [], fun _ _ hp => nomatch hp⟩
      has
  have hstays : (machine cfg).Allowed (fun x _ => x ≠ .exit p)
      ((machine cfg).run (machine cfg).init as) bs := by
    apply Machine.allowed_of_prefix
    rintro pre x post rfl rfl
    exact hbs (List.mem_append_right _ List.mem_cons_self)
  have hstep : ∀ t x t', (good t ∧ Queued p e t) →
      (OnTime cfg names x t ∧ x ≠ .exit p) →
      (machine cfg).apply x t = .ok t' → (good t' ∧ Queued p e t')
        ∨ Begins p e (e.queuedAt + (names.length - 1) * cfg.timeoutMs) x t'
      := by
    intro t x t' ht hx happ
    rcases (did_of_step happ).queued_or_begins ht.1.2 hx.2 ht.2
      with hq | hbegins
    · exact Or.inl ⟨hgood t x t' ht.1 hx.1 happ, hq⟩
    · exact Or.inr hbegins
  rcases Machine.run_until (fun t => good t ∧ Queued p e t)
      (fun _ x t' =>
        Begins p e (e.queuedAt + (names.length - 1) * cfg.timeoutMs) x t')
      hstep ⟨hstart, he⟩ (hbs'.and hstays)
    with ⟨hend, hq⟩ | ⟨pre, x, post, rfl, hbegins⟩
  · obtain ⟨proc, hp, he, hcall⟩ := hq
    rw [← Machine.run_append] at hend hp
    have hwaits := hend.2 p proc hp
    have hle := hwaits.recent he fun e' rest hlane heq => by
      subst heq
      exact since_none (by rw [first, hlane]; exact hcall)
    omega
  · refine ⟨pre, x, post, rfl, ?_⟩
    rw [Machine.run_append]
    exact hbegins

/-- A job queued behind one that hangs. -/
theorem begins_in_time_demo :
    ∃ pre a post, Demo.stuck = pre ++ a :: post
      ∧ Begins 1 ⟨"sync-collateral", 0, 1, none⟩ 600000 a
        ((machine Demo.config).run (machine Demo.config).init
          (Demo.queued ++ (pre ++ [a]))) :=
  begins_in_time Demo.config Demo.names (by decide +kernel)
    ⟨⟨.job, [⟨"interest-accrual", 0, 0, some 0⟩,
        ⟨"sync-collateral", 0, 1, none⟩],
      Demo.names, 0, false⟩, by decide +kernel, by decide, rfl⟩
    (by decide) (by decide +kernel)

end Ballast.Keeper.Lane
