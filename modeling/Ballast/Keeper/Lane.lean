/-
The keeper's job queue and its lock: `createJobQueue`, `runJob` and
`executeJobWithLock`, in any number of keeper processes over one database.

A process has one lane. A tick queues a job unless one of its name is
queued or running; the first of the lane runs, and leaves it when it
settles or when its deadline passes, whichever is first. A job past its
deadline is abandoned: it goes on running, outside the lane.

A running job takes a session of its process out of the pool, tries the
advisory lock of its key there, runs, unlocks and gives the session back.
Every one of these is an await, and a statement may be lost or rolled
back. Sessions may end at any time, and processes too.
-/
import Ballast.Common.AdvisoryLock
import Ballast.Common.Delivery
import Ballast.Soroban.Machine
import Ballast.Soroban.Store

namespace Ballast.Keeper.Lane

open Soroban

-- ================================================================ the state

inductive KeeperLockScope where
  | global
  | job
  deriving DecidableEq, Repr

def getLockKey (name : String) : KeeperLockScope → String
  | .global => "keeper:global"
  | .job => "keeper:" ++ name

/-- How far `executeJobWithLock` is, and the session it has reserved. -/
inductive Stage where
  | reserving
  | locking (session : Nat)
  | running (session : Nat)
  | unlocking (session : Nat)
  | releasing (session : Nat)
  deriving DecidableEq, Repr

def Stage.session : Stage → Option Nat
  | .reserving => none
  | .locking session => some session
  | .running session => some session
  | .unlocking session => some session
  | .releasing session => some session

/-- The session on which the stage has the lock. -/
def Stage.holds : Stage → Option Nat
  | .running session => some session
  | .unlocking session => some session
  | _ => none

/-- A call of `executeJobWithLock`. -/
structure Job where
  process : Nat
  name : String
  lockKey : String
  startedAt : Nat
  stage : Stage
  deriving DecidableEq, Repr

/-- A job in a lane: when it was queued and how many were ahead of it, and
the call once it has begun. -/
structure Entry where
  name : String
  queuedAt : Nat
  ahead : Nat
  call : Option Nat
  deriving DecidableEq, Repr

structure Process where
  scope : KeeperLockScope
  lane : List Entry
  inFlight : List String
  skipped : Nat
  shuttingDown : Bool
  deriving DecidableEq, Repr

structure System where
  now : Nat
  processes : Store Nat Process
  jobs : Store Nat Job
  /-- the sessions, with the process each belongs to -/
  pool : Store Nat Nat
  locks : List (Nat × Int)

/-- What the keepers run with. -/
structure Config where
  timeoutMs : Nat
  /-- Postgres's -/
  hashtext : String → Int

variable (cfg : Config)

def processAt (s : System) (p : Nat) : Call Process :=
  expect (s.processes.get p) "no such process"

def jobAt (s : System) (j : Nat) : Call Job :=
  expect (s.jobs.get j) "no such job"

-- ================================================================= the lane

/-- A cron tick: `runJob`, and `run` of the queue. -/
def runJob (p : Nat) (name : String) (s : System) : Call System := do
  let proc ← processAt s p
  if proc.shuttingDown then return s
  else if name ∈ proc.inFlight then
    return { s with
      processes := s.processes.set p
        { proc with skipped := proc.skipped + 1 } }
  else
    return { s with
      processes := s.processes.set p
        { proc with
          lane := proc.lane ++ [⟨name, s.now, proc.lane.length, none⟩]
          inFlight := proc.inFlight ++ [name] } }

/-- The first of the lane begins, once all before it have left. -/
def begin (p j : Nat) (s : System) : Call System := do
  let proc ← processAt s p
  ensure ((s.jobs.get j).isNone) "a new call"
  match proc.lane with
  | ⟨name, queuedAt, ahead, none⟩ :: rest =>
      return { s with
        processes := s.processes.set p
          { proc with lane := ⟨name, queuedAt, ahead, some j⟩ :: rest }
        jobs := s.jobs.set j
          ⟨p, name, getLockKey name proc.scope, s.now, .reserving⟩ }
  | _ => throw "nothing to begin"

/-- The first of the lane leaves it. -/
def leaveLane (proc : Process) : Process :=
  match proc.lane with
  | [] => proc
  | e :: rest =>
      { proc with lane := rest, inFlight := proc.inFlight.erase e.name }

/-- The lane of a process when a call has settled: its first leaves, if
that is the call. -/
def settleLane (j : Nat) (proc : Process) : Process :=
  if proc.lane.head?.bind (·.call) = some j then leaveLane proc else proc

/-- A call returned or threw. -/
def settle (s : System) (j : Nat) (job : Job) : System :=
  { s with
    jobs := s.jobs.remove j
    processes := s.processes.adjust job.process (settleLane j) }

/-- The deadline of the first of the lane passes, and it is abandoned. -/
def deadline (p : Nat) (s : System) : Call System := do
  let proc ← processAt s p
  let j ← expect (proc.lane.head?.bind (·.call)) "nothing runs"
  let job ← jobAt s j
  ensure (job.startedAt + cfg.timeoutMs ≤ s.now) "not yet"
  return { s with processes := s.processes.set p (leaveLane proc) }

-- ================================================================= the lock

/-- `reserve()`: a session of the process that nobody has reserved. -/
def reserve (j session : Nat) (s : System) : Call System := do
  let job ← jobAt s j
  ensure (job.stage = .reserving) "nothing to reserve"
  ensure (s.pool.get session = some job.process) "not of this process"
  ensure (∀ i ∈ s.jobs.keys,
    ((s.jobs.get i).bind (·.stage.session)) ≠ some session) "reserved"
  return { s with
    jobs := s.jobs.set j { job with stage := .locking session } }

/-- `reserve()` throws. -/
def reserveFailed (j : Nat) (s : System) : Call System := do
  let job ← jobAt s j
  ensure (job.stage = .reserving) "nothing to reserve"
  return settle s j job

/-- `pg_try_advisory_lock(hashtext(key))`, on a session that is alive. -/
def tryLock (s : System) (session : Nat) (key : String) :
    Option (List (Nat × Int)) :=
  if (s.pool.get session).isSome then
    AdvisoryLock.tryLock s.locks session (cfg.hashtext key)
  else none

/-- The lock is tried; without the lock, or on an
error, the session is given back and the tick skipped. -/
def lock (j : Nat) (delivery : Delivery) (s : System) : Call System := do
  let job ← jobAt s j
  match job.stage with
  | .locking session =>
      match tryLock cfg s session job.lockKey, delivery with
      | some locks, .acknowledged => return { s with
          locks := locks
          jobs := s.jobs.set j { job with stage := .running session } }
      | some locks, .lost => return settle { s with locks := locks } j job
      | _, _ => return settle s j job
  | _ => throw "nothing to lock"

/-- The job's function returned or threw. -/
def finish (j : Nat) (s : System) : Call System := do
  let job ← jobAt s j
  match job.stage with
  | .running session => return { s with
      jobs := s.jobs.set j { job with stage := .unlocking session } }
  | _ => throw "nothing runs"

/-- `pg_advisory_unlock(hashtext(key))`; what it throws is ignored. -/
def unlock (j : Nat) (delivery : Delivery) (s : System) : Call System := do
  let job ← jobAt s j
  match job.stage with
  | .unlocking session => return { s with
      locks := if delivery = .rolledBack then s.locks
        else AdvisoryLock.unlock s.locks session (cfg.hashtext job.lockKey)
      jobs := s.jobs.set j { job with stage := .releasing session } }
  | _ => throw "nothing to unlock"

def release (j : Nat) (s : System) : Call System := do
  let job ← jobAt s j
  match job.stage with
  | .releasing _ => return settle s j job
  | _ => throw "nothing to release"

-- ============================================================ what happens

/-- A process starts. -/
def boot (p : Nat) (scope : KeeperLockScope) (s : System) : Call System := do
  ensure ((s.processes.get p).isNone) "it runs"
  return { s with
    processes := s.processes.set p ⟨scope, [], [], 0, false⟩ }

/-- The pool opens a session. -/
def openSession (p session : Nat) (s : System) : Call System := do
  let _ ← processAt s p
  ensure ((s.pool.get session).isNone) "it is open"
  ensure (∀ l ∈ s.locks, l.1 ≠ session) "a new session"
  ensure (∀ i ∈ s.jobs.keys,
    ((s.jobs.get i).bind (·.stage.session)) ≠ some session) "a new session"
  return { s with pool := s.pool.set session p }

/-- A session ends, and its locks with it. -/
def drop (session : Nat) (s : System) : Call System :=
  return { s with
    pool := s.pool.remove session
    locks := AdvisoryLock.endSessions s.locks (· = session) }

/-- A process ends, with its jobs and its sessions. -/
def exit (p : Nat) (s : System) : Call System := do
  let _ ← processAt s p
  return { s with
    processes := s.processes.remove p
    jobs := s.jobs.filter fun _ job => job.process ≠ p
    pool := s.pool.filter fun _ owner => owner ≠ p
    locks := AdvisoryLock.endSessions s.locks
      fun session => s.pool.get session = some p }

/-- `SIGTERM`. -/
def shutdown (p : Nat) (s : System) : Call System := do
  let proc ← processAt s p
  return { s with
    processes := s.processes.set p { proc with shuttingDown := true } }

-- ============================================================= the machine

inductive Act where
  | tick (ms : Nat)
  | boot (p : Nat) (scope : KeeperLockScope)
  | runJob (p : Nat) (name : String)
  | begin (p j : Nat)
  | deadline (p : Nat)
  | openSession (p session : Nat)
  | reserve (j session : Nat)
  | reserveFailed (j : Nat)
  | lock (j : Nat) (delivery : Delivery)
  | finish (j : Nat)
  | unlock (j : Nat) (delivery : Delivery)
  | release (j : Nat)
  | drop (session : Nat)
  | exit (p : Nat)
  | shutdown (p : Nat)
  deriving DecidableEq

def step (a : Act) (s : System) : Call System :=
  match a with
  | .tick ms => .ok { s with now := s.now + ms }
  | .boot p scope => boot p scope s
  | .runJob p name => runJob p name s
  | .begin p j => begin p j s
  | .deadline p => deadline cfg p s
  | .openSession p session => openSession p session s
  | .reserve j session => reserve j session s
  | .reserveFailed j => reserveFailed j s
  | .lock j delivery => lock cfg j delivery s
  | .finish j => finish j s
  | .unlock j delivery => unlock cfg j delivery s
  | .release j => release j s
  | .drop session => drop session s
  | .exit p => exit p s
  | .shutdown p => shutdown p s

def machine : Machine System Act where
  init := ⟨0, Store.empty, Store.empty, Store.empty, []⟩
  apply := step cfg

namespace Demo

def config : Config := ⟨600000, fun key => key.length⟩

/-- Two keepers, and a job that runs on each. -/
def apart : List Act :=
  [.boot 1 .job, .boot 2 .job, .openSession 1 10, .openSession 2 20,
   .runJob 1 "sync-collateral", .runJob 2 "repo-unwind",
   .begin 1 0, .begin 2 1, .reserve 0 10, .reserve 1 20,
   .lock 0 .acknowledged, .lock 1 .acknowledged]

def names : List String := ["interest-accrual", "sync-collateral"]

/-- A job is queued behind another. -/
def queued : List Act :=
  [.boot 1 .job, .runJob 1 "interest-accrual", .begin 1 0,
   .runJob 1 "sync-collateral"]

/-- The first does not settle, and is abandoned. -/
def stuck : List Act := [.tick 600000, .deadline 1, .begin 1 1, .tick 1]

end Demo

end Ballast.Keeper.Lane
