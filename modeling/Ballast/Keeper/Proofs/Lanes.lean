/-
What each action of the keepers' lanes and locks does.

A process begins a job when its lane lets it, the job asks for its
name's advisory lock on a session of its own, and runs, is turned away
or fails. `Did` has one constructor for each way an action can go, with
what it had to find: which session the job holds, that the lock was free
or was not, that the deadline had passed. The results on lanes, on locks
and on waiting all start from it and none looks into `step`.
-/
import Ballast.Keeper.Lane

namespace Ballast.Keeper.Lane

open Soroban

variable {cfg : Config} {s s' : System} {a : Act}

/-- A committed action. -/
inductive Did (cfg : Config) (s : System) : Act → System → Prop where
  | tick (ms : Nat) : Did cfg s (.tick ms) { s with now := s.now + ms }
  | boot {p : Nat} {scope : KeeperLockScope}
      (hp : s.processes.get p = none) :
      Did cfg s (.boot p scope)
        { s with processes := s.processes.set p ⟨scope, [], [], 0, false⟩ }
  | refused {p : Nat} {name : String} : Did cfg s (.runJob p name) s
  | skipped {p : Nat} {name : String} {proc : Process}
      (hp : s.processes.get p = some proc) :
      Did cfg s (.runJob p name) { s with
        processes := s.processes.set p
          { proc with skipped := proc.skipped + 1 } }
  | queued {p : Nat} {name : String} {proc : Process}
      (hp : s.processes.get p = some proc) (hname : name ∉ proc.inFlight) :
      Did cfg s (.runJob p name) { s with
        processes := s.processes.set p
          { proc with
            lane := proc.lane ++ [⟨name, s.now, proc.lane.length, none⟩]
            inFlight := proc.inFlight ++ [name] } }
  | begin {p j : Nat} {proc : Process} {e : Entry} {rest : List Entry}
      (hp : s.processes.get p = some proc) (hj : s.jobs.get j = none)
      (hlane : proc.lane = e :: rest) (he : e.call = none) :
      Did cfg s (.begin p j) { s with
        processes := s.processes.set p
          { proc with lane := { e with call := some j } :: rest }
        jobs := s.jobs.set j
          ⟨p, e.name, getLockKey e.name proc.scope, s.now, .reserving⟩ }
  | deadline {p j : Nat} {proc : Process} {job : Job}
      (hp : s.processes.get p = some proc)
      (hhead : proc.lane.head?.bind (·.call) = some j)
      (hj : s.jobs.get j = some job)
      (hlate : job.startedAt + cfg.timeoutMs ≤ s.now) :
      Did cfg s (.deadline p)
        { s with processes := s.processes.set p (leaveLane proc) }
  | openSession {p session : Nat} (hpool : s.pool.get session = none)
      (hjobs : ∀ i job, s.jobs.get i = some job →
        job.stage.session ≠ some session) :
      Did cfg s (.openSession p session)
        { s with pool := s.pool.set session p }
  | reserve {j session : Nat} {job : Job} (hj : s.jobs.get j = some job)
      (hstage : job.stage = .reserving)
      (hpool : s.pool.get session = some job.process)
      (hfree : ∀ i other, s.jobs.get i = some other →
        other.stage.session ≠ some session) :
      Did cfg s (.reserve j session) { s with
        jobs := s.jobs.set j { job with stage := .locking session } }
  | lock {j session : Nat} {job : Job} {locks : List (Nat × Int)}
      (hj : s.jobs.get j = some job) (hstage : job.stage = .locking session)
      (hlock : tryLock cfg s session job.lockKey = some locks) :
      Did cfg s (.lock j .acknowledged) { s with
        locks := locks
        jobs := s.jobs.set j { job with stage := .running session } }
  | lockLost {j session : Nat} {job : Job} {locks : List (Nat × Int)}
      (hj : s.jobs.get j = some job) (hstage : job.stage = .locking session)
      (hlock : tryLock cfg s session job.lockKey = some locks) :
      Did cfg s (.lock j .lost) (settle { s with locks := locks } j job)
  | finish {j session : Nat} {job : Job} (hj : s.jobs.get j = some job)
      (hstage : job.stage = .running session) :
      Did cfg s (.finish j) { s with
        jobs := s.jobs.set j { job with stage := .unlocking session } }
  | unlock {j session : Nat} {job : Job} {delivery : Delivery}
      (hj : s.jobs.get j = some job)
      (hstage : job.stage = .unlocking session) :
      Did cfg s (.unlock j delivery) { s with
        locks := if delivery = .rolledBack then s.locks
          else AdvisoryLock.unlock s.locks session
            (cfg.hashtext job.lockKey)
        jobs := s.jobs.set j { job with stage := .releasing session } }
  | settled {a : Act} {j : Nat} {job : Job} (hj : s.jobs.get j = some job)
      (hstage : job.stage.holds = none) : Did cfg s a (settle s j job)
  | drop (session : Nat) : Did cfg s (.drop session) { s with
      pool := s.pool.remove session
      locks := AdvisoryLock.endSessions s.locks (· = session) }
  | exit (p : Nat) : Did cfg s (.exit p) { s with
      processes := s.processes.remove p
      jobs := s.jobs.filter fun _ job => job.process ≠ p
      pool := s.pool.filter fun _ owner => owner ≠ p
      locks := AdvisoryLock.endSessions s.locks
        fun session => s.pool.get session = some p }
  | shutdown {p : Nat} {proc : Process}
      (hp : s.processes.get p = some proc) :
      Did cfg s (.shutdown p) { s with
        processes := s.processes.set p { proc with shuttingDown := true } }

theorem processAt_ok {p : Nat} {proc : Process} :
    processAt s p = .ok proc ↔ s.processes.get p = some proc := expect_ok

theorem jobAt_ok {j : Nat} {job : Job} :
    jobAt s j = .ok job ↔ s.jobs.get j = some job := expect_ok

/-- A session none of the jobs has. -/
theorem not_reserved {session : Nat}
    (h : ∀ i ∈ s.jobs.keys,
      ((s.jobs.get i).bind (·.stage.session)) ≠ some session) :
    ∀ i job, s.jobs.get i = some job →
      job.stage.session ≠ some session := by
  intro i job hi
  have hkey : i ∈ s.jobs.keys := by
    rw [s.jobs.mem_keys, hi]
    rfl
  have hne := h i hkey
  rwa [hi] at hne

/-- Every committed action is one of these. -/
theorem did_of_step (h : step cfg a s = .ok s') : Did cfg s a s' := by
  cases a with
  | tick ms =>
      cases h
      exact .tick ms
  | boot p scope =>
      simp only [step, boot, bind_ok, ensure_ok, pure_ok,
        Option.isNone_iff_eq_none] at h
      obtain ⟨-, hp, rfl⟩ := h
      exact .boot hp
  | runJob p name =>
      obtain ⟨proc, hp, h⟩ := bind_ok.mp h
      rw [processAt_ok] at hp
      split at h
      · cases h
        exact .refused
      · split at h
        · cases h
          exact .skipped hp
        next hname =>
          cases h
          exact .queued hp hname
  | begin p j =>
      obtain ⟨proc, hp, h⟩ := bind_ok.mp h
      obtain ⟨_, hj, h⟩ := bind_ok.mp h
      rw [processAt_ok] at hp
      rw [ensure_ok, Option.isNone_iff_eq_none] at hj
      split at h
      next name queuedAt ahead rest hlane =>
        cases h
        exact .begin hp hj hlane rfl
      · cases h
  | deadline p =>
      simp only [step, deadline, bind_ok, ensure_ok, pure_ok, processAt_ok,
        jobAt_ok, expect_ok] at h
      obtain ⟨proc, hp, j, hhead, job, hj, -, hlate, rfl⟩ := h
      exact .deadline hp hhead hj hlate
  | openSession p session =>
      simp only [step, openSession, bind_ok, ensure_ok, pure_ok,
        Option.isNone_iff_eq_none] at h
      obtain ⟨-, -, -, hpool, -, -, -, hjobs, rfl⟩ := h
      exact .openSession hpool (not_reserved hjobs)
  | reserve j session =>
      simp only [step, reserve, bind_ok, ensure_ok, pure_ok, jobAt_ok] at h
      obtain ⟨job, hj, -, hstage, -, hpool, -, hfree, rfl⟩ := h
      exact .reserve hj hstage hpool (not_reserved hfree)
  | reserveFailed j =>
      simp only [step, reserveFailed, bind_ok, ensure_ok, pure_ok,
        jobAt_ok] at h
      obtain ⟨job, hj, -, hstage, rfl⟩ := h
      exact .settled hj (by rw [hstage]; rfl)
  | lock j delivery =>
      obtain ⟨job, hj, h⟩ := bind_ok.mp h
      rw [jobAt_ok] at hj
      split at h
      next session hstage =>
        have hnone : job.stage.holds = none := by rw [hstage]; rfl
        cases hlock : tryLock cfg s session job.lockKey with
        | none =>
            rw [hlock] at h
            cases h
            exact .settled hj hnone
        | some locks =>
            rw [hlock] at h
            cases delivery <;> cases h
            · exact .lock hj hstage hlock
            · exact .lockLost hj hstage hlock
            · exact .settled hj hnone
      · cases h
  | finish j =>
      obtain ⟨job, hj, h⟩ := bind_ok.mp h
      rw [jobAt_ok] at hj
      split at h <;> cases h
      next session hstage => exact .finish hj hstage
  | unlock j delivery =>
      obtain ⟨job, hj, h⟩ := bind_ok.mp h
      rw [jobAt_ok] at hj
      split at h <;> cases h
      next session hstage => exact .unlock hj hstage
  | release j =>
      obtain ⟨job, hj, h⟩ := bind_ok.mp h
      rw [jobAt_ok] at hj
      split at h <;> cases h
      next session hstage => exact .settled hj (by rw [hstage]; rfl)
  | drop session =>
      cases h
      exact .drop session
  | exit p =>
      obtain ⟨proc, -, h⟩ := bind_ok.mp h
      cases h
      exact .exit p
  | shutdown p =>
      obtain ⟨proc, hp, h⟩ := bind_ok.mp h
      rw [processAt_ok] at hp
      cases h
      exact .shutdown hp

end Ballast.Keeper.Lane
