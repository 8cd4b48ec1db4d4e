/-
Two jobs of one lock key never run at the same time, in whatever
processes, abandoned or not, as long as no session is lost under a running
job.

The invariant ties three things together: a key is held by one session, a
job that runs holds its key on its session, and no two jobs have one
session. A lock that outlives its job, because the unlock failed, stays
with a session that only one job at a time can have.

A session is a connection of a process, taken from its pool for one job
and given back after it. Given back is not ended: what the session has
locked stays locked, and the next job of that process may get the same
session and find that it holds a key already. That does no harm, since
the job before it is over.
-/
import Ballast.Keeper.Proofs.Lanes

namespace Ballast.Keeper.Lane

open Soroban

variable {cfg : Config} {s s' : System} {a : Act}

structure Mutex (cfg : Config) (s : System) : Prop where
  exclusive : AdvisoryLock.Exclusive s.locks
  held : ∀ j job session, s.jobs.get j = some job →
    job.stage.holds = some session →
    (session, cfg.hashtext job.lockKey) ∈ s.locks
  apart : ∀ i j a b session, s.jobs.get i = some a → s.jobs.get j = some b →
    a.stage.session = some session → b.stage.session = some session → i = j
  owned : ∀ j job session, s.jobs.get j = some job →
    job.stage.session = some session →
    s.pool.get session = some job.process ∨ s.pool.get session = none

/-- No session is lost that a job has its lock on. -/
def Connected (a : Act) (s : System) : Prop :=
  match a with
  | .drop session => ∀ j ∈ s.jobs.keys,
      ((s.jobs.get j).bind (·.stage.holds)) ≠ some session
  | _ => True

instance (a : Act) (s : System) : Decidable (Connected a s) := by
  unfold Connected
  split <;> infer_instance

theorem session_of_holds {stage : Stage} {session : Nat}
    (h : stage.holds = some session) : stage.session = some session := by
  cases stage <;> first | exact h | cases h

/-- A store after one write. -/
theorem get_of_set {α : Type} {jobs : Store Nat α} {i j : Nat} {new v : α}
    (h : (jobs.set j new).get i = some v) :
    (i = j ∧ v = new) ∨ (i ≠ j ∧ jobs.get i = some v) := by
  by_cases hij : i = j
  · subst hij
    rw [Store.get_set_self] at h
    injection h with h
    exact Or.inl ⟨rfl, h.symm⟩
  · rw [Store.get_set_ne _ _ hij] at h
    exact Or.inr ⟨hij, h⟩

theorem get_of_remove {α : Type} {jobs : Store Nat α} {i j : Nat} {v : α}
    (h : (jobs.remove j).get i = some v) : i ≠ j ∧ jobs.get i = some v := by
  by_cases hij : i = j
  · subst hij
    rw [Store.get_remove_self] at h
    cases h
  · rw [Store.get_remove_ne _ hij] at h
    exact ⟨hij, h⟩

theorem get_of_filter {α : Type} {jobs : Store Nat α}
    {keep : Nat → α → Bool} {i : Nat} {v : α}
    (h : (jobs.filter keep).get i = some v) :
    jobs.get i = some v ∧ keep i v = true := by
  rw [Store.get_filter] at h
  exact Option.filter_eq_some_iff.mp h

/-- Jobs keep their sessions, or give them up. -/
theorem Mutex.moved (h : Mutex cfg s)
    (hexclusive : AdvisoryLock.Exclusive s'.locks)
    (hheld : ∀ j job session, s'.jobs.get j = some job →
      job.stage.holds = some session →
      (session, cfg.hashtext job.lockKey) ∈ s'.locks)
    (hjobs : ∀ j job session, s'.jobs.get j = some job →
      job.stage.session = some session → ∃ old, s.jobs.get j = some old
        ∧ old.process = job.process ∧ old.stage.session = some session)
    (hpool : ∀ j job session, s'.jobs.get j = some job →
      job.stage.session = some session →
      (s.pool.get session = some job.process ∨ s.pool.get session = none) →
      s'.pool.get session = some job.process
        ∨ s'.pool.get session = none) : Mutex cfg s' where
  exclusive := hexclusive
  held := hheld
  apart i j a b session hi hj ha hb := by
    obtain ⟨olda, hi', -, ha'⟩ := hjobs i a session hi ha
    obtain ⟨oldb, hj', -, hb'⟩ := hjobs j b session hj hb
    exact h.apart i j olda oldb session hi' hj' ha' hb'
  owned j job session hj hs := by
    obtain ⟨old, hj', hp, hs'⟩ := hjobs j job session hj hs
    apply hpool j job session hj hs
    rw [← hp]
    exact h.owned j old session hj' hs'

/-- A job that settles without the lock. -/
theorem Mutex.settled (h : Mutex cfg s) {j : Nat} {job : Job} :
    Mutex cfg (settle s j job) := by
  refine h.moved h.exclusive ?_ ?_ (fun _ _ _ _ _ hp => hp)
  · intro i other session hi hs
    exact h.held i other session (get_of_remove hi).2 hs
  · intro i other session hi hs
    exact ⟨other, (get_of_remove hi).2, rfl, hs⟩

/-- Nothing that concerns the lock. -/
theorem Mutex.same (h : Mutex cfg s) (hjobs : s'.jobs = s.jobs)
    (hlocks : s'.locks = s.locks) (hpool : s'.pool = s.pool) :
    Mutex cfg s' := by
  refine ⟨by rw [hlocks]; exact h.exclusive, ?_, ?_, ?_⟩
  · rw [hjobs, hlocks]
    exact h.held
  · rw [hjobs]
    exact h.apart
  · rw [hjobs, hpool]
    exact h.owned

/-- A job moves on with its session. -/
theorem jobs_of_set {j : Nat} {job : Job} {stage : Stage}
    (hj : s.jobs.get j = some job)
    (hstage : stage.session = job.stage.session) :
    ∀ i other session,
      (s.jobs.set j { job with stage := stage }).get i = some other →
      other.stage.session = some session → ∃ old, s.jobs.get i = some old
        ∧ old.process = other.process
        ∧ old.stage.session = some session := by
  intro i other session hi hs
  rcases get_of_set hi with ⟨rfl, rfl⟩ | ⟨-, hi⟩
  · exact ⟨job, hj, rfl, hstage.symm.trans hs⟩
  · exact ⟨other, hi, rfl, hs⟩

theorem tryLock_some {session : Nat} {key : String}
    {locks : List (Nat × Int)}
    (h : tryLock cfg s session key = some locks) :
    AdvisoryLock.tryLock s.locks session (cfg.hashtext key)
      = some locks := by
  unfold tryLock at h
  split at h
  · exact h
  · cases h

/-- A lock taken leaves the others where they are. -/
theorem Mutex.locked (h : Mutex cfg s) {session : Nat} {key : String}
    {locks : List (Nat × Int)}
    (hlock : tryLock cfg s session key = some locks) :
    Mutex cfg { s with locks := locks }
      ∧ (session, cfg.hashtext key) ∈ locks := by
  have htry := tryLock_some hlock
  have hexcl := AdvisoryLock.exclusive_tryLock h.exclusive htry
  obtain ⟨-, rfl⟩ := AdvisoryLock.tryLock_some htry
  refine ⟨⟨hexcl, ?_, h.apart, h.owned⟩, List.mem_cons_self⟩
  intro i other session' hi hs
  exact List.mem_cons_of_mem _ (h.held i other session' hi hs)

theorem Did.mutex (h : Did cfg s a s') (hok : Connected a s)
    (hm : Mutex cfg s) : Mutex cfg s' := by
  cases h with
  | tick => exact hm.same rfl rfl rfl
  | boot => exact hm.same rfl rfl rfl
  | refused => exact hm
  | skipped => exact hm.same rfl rfl rfl
  | queued => exact hm.same rfl rfl rfl
  | deadline => exact hm.same rfl rfl rfl
  | shutdown => exact hm.same rfl rfl rfl
  -- a job that begins has no session yet
  | begin hp hj hlane he =>
      refine hm.moved hm.exclusive ?_ ?_ (fun _ _ _ _ _ hp => hp)
      · intro i other session hi hs
        rcases get_of_set hi with ⟨rfl, rfl⟩ | ⟨-, hi⟩
        · cases hs
        · exact hm.held i other session hi hs
      · intro i other session hi hs
        rcases get_of_set hi with ⟨rfl, rfl⟩ | ⟨-, hi⟩
        · cases hs
        · exact ⟨other, hi, rfl, hs⟩
  -- the session is new, so no job has it
  | @openSession p session hpool hjobs =>
      refine hm.moved hm.exclusive hm.held
        (fun i other session hi hs => ⟨other, hi, rfl, hs⟩) ?_
      intro i other session' hi hs hp
      have hne : session' ≠ session := fun heq =>
        hjobs i other hi (heq ▸ hs)
      show (s.pool.set session p).get session' = _
        ∨ (s.pool.set session p).get session' = _
      rw [Store.get_set_ne _ _ hne]
      exact hp
  -- it was free, so no other job has it now
  | @reserve j session job hj hstage hpool hfree =>
      refine ⟨hm.exclusive, ?_, ?_, ?_⟩
      · intro i other session' hi hs
        rcases get_of_set hi with ⟨rfl, rfl⟩ | ⟨-, hi⟩
        · cases hs
        · exact hm.held i other session' hi hs
      · intro i k x y session' hi hk hx hy
        rcases get_of_set hi with ⟨rfl, rfl⟩ | ⟨-, hi'⟩ <;>
          rcases get_of_set hk with ⟨rfl, rfl⟩ | ⟨-, hk'⟩
        · rfl
        · injection hx with hx
          exact absurd (hx ▸ hy) (hfree k y hk')
        · injection hy with hy
          exact absurd (hy ▸ hx) (hfree i x hi')
        · exact hm.apart i k x y session' hi' hk' hx hy
      · intro i other session' hi hs
        rcases get_of_set hi with ⟨rfl, rfl⟩ | ⟨-, hi⟩
        · injection hs with hs
          subst hs
          exact Or.inl hpool
        · exact hm.owned i other session' hi hs
  | @lock j session job locks hj hstage hlock =>
      obtain ⟨hm', hmem⟩ := hm.locked hlock
      refine hm'.moved hm'.exclusive ?_
        (jobs_of_set (s := s) hj (by rw [hstage]; rfl))
        (fun _ _ _ _ _ hp => hp)
      intro i other session' hi hs
      rcases get_of_set hi with ⟨rfl, rfl⟩ | ⟨-, hi⟩
      · injection hs with hs
        subst hs
        exact hmem
      · exact hm'.held i other session' hi hs
  | lockLost hj hstage hlock => exact (hm.locked hlock).1.settled
  | @finish j session job hj hstage =>
      refine hm.moved hm.exclusive ?_
        (jobs_of_set hj (by rw [hstage]; rfl)) (fun _ _ _ _ _ hp => hp)
      intro i other session' hi hs
      rcases get_of_set hi with ⟨rfl, rfl⟩ | ⟨-, hi⟩
      · injection hs with hs
        subst hs
        exact hm.held i job session hj (by rw [hstage]; rfl)
      · exact hm.held i other session' hi hs
  -- the unlock may fail; either way the others' sessions are not this one
  | @unlock j session job delivery hj hstage =>
      refine hm.moved ?_ ?_ (jobs_of_set hj (by rw [hstage]; rfl))
        (fun _ _ _ _ _ hp => hp)
      · show AdvisoryLock.Exclusive (if _ then _ else _)
        split
        · exact hm.exclusive
        · exact AdvisoryLock.exclusive_unlock hm.exclusive _ _
      · intro i other session' hi hs
        rcases get_of_set hi with ⟨rfl, rfl⟩ | ⟨hne, hi'⟩
        · cases hs
        · have hmem := hm.held i other session' hi' hs
          have hother : session' ≠ session := by
            intro heq
            subst heq
            exact hne (hm.apart i j other job session' hi' hj
              (session_of_holds hs) (by rw [hstage]; rfl))
          show _ ∈ if _ then _ else _
          split
          · exact hmem
          · exact AdvisoryLock.mem_unlock hmem hother _
  | settled hj hstage => exact hm.settled
  | drop session =>
      refine hm.moved ?_ ?_
        (fun i other session hi hs => ⟨other, hi, rfl, hs⟩) ?_
      · exact AdvisoryLock.exclusive_endSessions hm.exclusive (· = session)
      · intro i other session' hi hs
        have hne : session' ≠ session := by
          rintro rfl
          have hkey : i ∈ s.jobs.keys := by
            rw [s.jobs.mem_keys, hi]
            rfl
          -- the condition: no job is running on the session that goes
          have hno := hok i hkey
          rw [hi] at hno
          exact hno hs
        have hmem := hm.held i other session' hi hs
        exact List.mem_filter.mpr ⟨hmem, by simp [hne]⟩
      · intro i other session' hi hs hp
        show (s.pool.remove session).get session' = _
          ∨ (s.pool.remove session).get session' = _
        by_cases heq : session' = session
        · subst heq
          exact Or.inr (Store.get_remove_self _ _)
        · rw [Store.get_remove_ne _ heq]
          exact hp
  -- the jobs of a process go with its sessions
  | exit p =>
      refine hm.moved ?_ ?_ ?_ ?_
      · exact AdvisoryLock.exclusive_endSessions hm.exclusive
          fun session => s.pool.get session = some p
      · intro i other session' hi hs
        obtain ⟨hi, hother⟩ := get_of_filter hi
        have hstays : s.pool.get session' ≠ some p := by
          intro hp
          rcases hm.owned i other session' hi (session_of_holds hs)
            with hown | hown
          · rw [hp] at hown
            injection hown with hown
            exact of_decide_eq_true hother hown.symm
          · rw [hp] at hown
            cases hown
        have hmem := hm.held i other session' hi hs
        exact List.mem_filter.mpr ⟨hmem, by simp [hstays]⟩
      · intro i other session' hi hs
        exact ⟨other, (get_of_filter hi).1, rfl, hs⟩
      · intro i other session' hi hs hp
        obtain ⟨-, hother⟩ := get_of_filter hi
        show (s.pool.filter _).get session' = _
          ∨ (s.pool.filter _).get session' = _
        rw [Store.get_filter]
        rcases hp with hp | hp
        · left
          rw [hp]
          simp only [Option.filter, hother, if_true]
        · right
          rw [hp]
          rfl

/-- No two jobs that run have one lock key, in whatever processes: not
when one was abandoned at its deadline, not when an unlock failed, not
when a process died. In the global scope no two jobs run at once. -/
theorem mutual_exclusion (cfg : Config) {as : List Act}
    (has : (machine cfg).Allowed Connected (machine cfg).init as)
    {i j session session' : Nat} {a b : Job}
    (hi : ((machine cfg).run (machine cfg).init as).jobs.get i = some a)
    (hj : ((machine cfg).run (machine cfg).init as).jobs.get j = some b)
    (ha : a.stage = .running session) (hb : b.stage = .running session')
    (hne : i ≠ j) : a.lockKey ≠ b.lockKey := by
  intro hkey
  have hinit : Mutex cfg (machine cfg).init :=
    ⟨fun _ hl => (nomatch hl), fun _ _ _ hj => (nomatch hj),
      fun _ _ _ _ _ hi => (nomatch hi), fun _ _ _ hj => (nomatch hj)⟩
  have hm := Machine.run_induction (P := Mutex cfg)
    (fun t x t' ht hok happ => (did_of_step happ).mutex hok ht) hinit has
  have hheld := hm.held i a session hi (by rw [ha]; rfl)
  have hheld' := hm.held j b session' hj (by rw [hb]; rfl)
  have hsame : session = session' :=
    hm.exclusive _ hheld _ hheld' (congrArg cfg.hashtext hkey)
  exact hne (hm.apart i j a b session hi hj (by rw [ha]; rfl)
    (by rw [hb, ← hsame]; rfl))

theorem mutual_exclusion_demo :
    getLockKey "sync-collateral" .job ≠ getLockKey "repo-unwind" .job := by
  have hallowed : (machine Demo.config).Allowed Connected
      (machine Demo.config).init Demo.apart := by decide +kernel
  exact mutual_exclusion Demo.config hallowed (i := 0) (j := 1)
    (a := ⟨1, "sync-collateral", getLockKey "sync-collateral" .job, 0,
      .running 10⟩)
    (b := ⟨2, "repo-unwind", getLockKey "repo-unwind" .job, 0, .running 20⟩)
    (by decide +kernel) (by decide +kernel) rfl rfl (by decide)

end Ballast.Keeper.Lane
