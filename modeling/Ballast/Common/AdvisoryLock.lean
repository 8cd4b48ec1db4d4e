/-
Session-level advisory locks, as Postgres keeps them.

A lock is held by a session, under a key, as often as it was taken. Taking
one fails at once when another session holds the key, and the holder may
take it again. What a session holds goes with the session.

A table of locks is a list of pairs, a session and a key, one for each
time the lock was taken. That no key is held by two sessions
(`Exclusive`) is kept by taking, by releasing and by the end of
sessions, and is all a program gets from the locks: they know nothing of
processes, and a session that is kept after its work is done keeps its
locks.
-/
import Mathlib.Data.List.Basic

namespace Ballast.AdvisoryLock

variable {σ κ : Type} [DecidableEq σ] [DecidableEq κ]
variable {locks locks' : List (σ × κ)} {s : σ} {k : κ} {l : σ × κ}

/-- `pg_try_advisory_lock`. -/
def tryLock (locks : List (σ × κ)) (s : σ) (k : κ) :
    Option (List (σ × κ)) :=
  if ∀ l ∈ locks, l.2 = k → l.1 = s then some ((s, k) :: locks) else none

/-- `pg_advisory_unlock`. -/
def unlock (locks : List (σ × κ)) (s : σ) (k : κ) : List (σ × κ) :=
  locks.erase (s, k)

/-- The sessions that go end. -/
def endSessions (locks : List (σ × κ)) (goes : σ → Bool) : List (σ × κ) :=
  locks.filter fun l => !goes l.1

/-- No key is held by two sessions. -/
def Exclusive (locks : List (σ × κ)) : Prop :=
  ∀ l ∈ locks, ∀ l' ∈ locks, l.2 = l'.2 → l.1 = l'.1

omit [DecidableEq σ] [DecidableEq κ] in
theorem exclusive_of_subset (h : Exclusive locks)
    (hsub : ∀ l ∈ locks', l ∈ locks) : Exclusive locks' :=
  fun l hl l' hl' => h l (hsub l hl) l' (hsub l' hl')

theorem tryLock_some (h : tryLock locks s k = some locks') :
    (∀ l ∈ locks, l.2 = k → l.1 = s) ∧ locks' = (s, k) :: locks := by
  unfold tryLock at h
  split at h
  next hfree =>
    injection h with h
    exact ⟨hfree, h.symm⟩
  · cases h

theorem exclusive_tryLock (he : Exclusive locks)
    (h : tryLock locks s k = some locks') : Exclusive locks' := by
  obtain ⟨hfree, rfl⟩ := tryLock_some h
  intro l hl l' hl' hkey
  rcases List.mem_cons.mp hl with rfl | hl <;>
    rcases List.mem_cons.mp hl' with rfl | hl'
  · rfl
  · exact (hfree l' hl' hkey.symm).symm
  · exact hfree l hl hkey
  · exact he l hl l' hl' hkey

theorem exclusive_unlock (he : Exclusive locks) (s : σ) (k : κ) :
    Exclusive (unlock locks s k) :=
  exclusive_of_subset he fun _ hl => List.mem_of_mem_erase hl

/-- What another session holds stays. -/
theorem mem_unlock (h : l ∈ locks) (hne : l.1 ≠ s) (k : κ) :
    l ∈ unlock locks s k :=
  (List.mem_erase_of_ne fun heq => hne (congrArg Prod.fst heq)).mpr h

omit [DecidableEq σ] [DecidableEq κ] in
theorem exclusive_endSessions (he : Exclusive locks) (goes : σ → Bool) :
    Exclusive (endSessions locks goes) :=
  exclusive_of_subset he fun _ hl => List.mem_of_mem_filter hl

end Ballast.AdvisoryLock
