/-
Roles and timelocked queues together: what a contract built on
`ballast-common` keeps over whole runs.

# A governed contract

`Governed` is a timelock whose queueing calls carry the admin's
signature, beside a `RoleBook` (the stored roles and the proposed
successor) that moves in five ways only. What a call does to the rest
of the storage is what the item it executes does, or else a function of
its own arguments that never sees the queues (`enacted`). All are laws
a contract proves of its own calls.

# What follows

`Integrity` is the statement for one run: ids never repeat, what is
executed was queued by the admin of the time 48 hours earlier and
neither cancelled nor executed since, has its effect then and only then,
roles rotate through the queue only, and the admin's chair changes hands
only between the two who signed. The one fact with a history of its own
is the last: the proposal on file was made by whoever is admin now
(`Proposed`), since the chair cannot change hands without using it up.
-/
import Ballast.Common.Access
import Ballast.Soroban.Timelock

namespace Ballast

open Soroban Machine

-- ======================================================== the role book

/-- The stored roles and the successor proposed for the admin. -/
structure RoleBook where
  roles : Option Roles
  pendingAdmin : Option Address

/-- What a call does to the role book. -/
inductive RoleAct where
  | quiet
  | installed
  | proposed (newAdmin : Address)
  | accepted
  | rotated (role : RoleKind) (newAddress : Address)

/-- One move of the role book. -/
inductive RoleBook.Move (env : HostEnv) (b b' : RoleBook) : RoleAct → Prop
  | quiet : b' = b → Move env b b' .quiet
  | installed {r : Roles} : b.roles = none →
      b' = { b with roles := some r } → Move env b b' .installed
  | proposed {r : Roles} {a : Address} : b.roles = some r →
      env.Grants r.admin → b' = { b with pendingAdmin := some a } →
      Move env b b' (.proposed a)
  | accepted {r : Roles} {a : Address} : b.roles = some r →
      b.pendingAdmin = some a → env.Grants a →
      b' = ⟨some { r with admin := a }, none⟩ → Move env b b' .accepted
  | rotated {r : Roles} {role : RoleKind} {a : Address} :
      b.roles = some r →
      b' = { b with roles := some (r.write role a) } →
      Move env b b' (.rotated role a)

/-- The roles other than the admin. -/
def Roles.rest (r : Roles) : Address × Address × Address × Address :=
  (r.pauser, r.keeper, r.pricePublisher, r.risk)

@[simp] theorem Roles.write_admin (r : Roles) (role : RoleKind)
    (a : Address) : (r.write role a).admin = r.admin := by
  cases role <;> rfl

/-- Stored roles stay, and only an acceptance or a rotation changes
them. -/
theorem RoleBook.Move.roles_cases {env : HostEnv} {b b' : RoleBook}
    {act : RoleAct} (h : RoleBook.Move env b b' act) {r : Roles}
    (hr : b.roles = some r) :
    ∃ r', b'.roles = some r' ∧ (r' = r
      ∨ (act = .accepted ∧ b.pendingAdmin = some r'.admin
        ∧ env.Grants r'.admin ∧ r'.rest = r.rest)
      ∨ ∃ role a, act = .rotated role a ∧ r' = r.write role a) := by
  cases h with
  | quiet hb => exact ⟨r, by rw [hb, hr], .inl rfl⟩
  | installed hnone hb =>
      rw [hnone] at hr
      cases hr
  | proposed _ _ hb => exact ⟨r, by rw [hb, hr], .inl rfl⟩
  | @accepted r₀ a hr' hpending hgrants hb =>
      rw [hr] at hr'
      injection hr' with hr'
      subst hr'
      refine ⟨{ r with admin := a }, by rw [hb], .inr (.inl ?_)⟩
      exact ⟨rfl, hpending, hgrants, rfl⟩
  | @rotated r₀ role a hr' hb =>
      rw [hr] at hr'
      injection hr' with hr'
      subst hr'
      exact ⟨r.write role a, by rw [hb], .inr (.inr ⟨role, a, rfl, rfl⟩)⟩

/-- The book once the proposed successor has accepted. -/
def RoleBook.accept (b : RoleBook) : RoleBook :=
  match b.roles, b.pendingAdmin with
  | some r, some a => ⟨some { r with admin := a }, none⟩
  | _, _ => b

/-- The book with one role handed on. -/
def RoleBook.rotate (b : RoleBook) (role : RoleKind) (a : Address) :
    RoleBook :=
  { b with roles := b.roles.map fun r => r.write role a }

theorem RoleBook.accept_some {b : RoleBook} {r : Roles} {a : Address}
    (hr : b.roles = some r) (ha : b.pendingAdmin = some a) :
    b.accept = ⟨some { r with admin := a }, none⟩ := by
  simp only [accept, hr, ha]

theorem RoleBook.rotate_some {b : RoleBook} {r : Roles}
    (hr : b.roles = some r) (role : RoleKind) (a : Address) :
    b.rotate role a = { b with roles := some (r.write role a) } := by
  simp only [rotate, hr, Option.map_some]

-- =================================================== a governed contract

/-- What a call noted as `note` does: what the item it executed does, or
what it does of itself. -/
def enacted {κ ι ρ : Type} (enact : ι → ρ → ρ) (direct : ρ → ρ)
    (note : Option (Note κ ι)) : ρ → ρ :=
  match note with
  | some (.executed _ _ item) => enact item
  | _ => direct

/-- A timelocked machine with a role book. -/
structure Governed {σ α : Type} (M : Machine σ α) (κ ι ρ : Type)
    [DecidableEq κ] extends Timelock M κ ι where
  env : α → HostEnv
  /-- all that items and calls are there to change -/
  rules : σ → ρ
  /-- what a queued item changes when its time has come -/
  enact : ι → ρ → ρ
  /-- what a call changes by its own arguments -/
  direct : α → ρ → ρ
  book : σ → RoleBook
  act : Committed σ α → RoleAct
  /-- the queued item that rotates a role -/
  rotation : RoleKind → Address → ι
  delay_eq : delay = timelockDelaySeconds
  book_init : (book M.init).pendingAdmin = none
  book_move : ∀ c, M.apply c.call c.before = .ok c.after →
    RoleBook.Move (env c.call) (book c.before) (book c.after) (act c)
  signed : ∀ c, M.apply c.call c.before = .ok c.after →
    ∀ n, toTimelock.Mints c n →
      ∃ r, (book c.before).roles = some r ∧ (env c.call).Grants r.admin
  rotated : ∀ c, M.apply c.call c.before = .ok c.after →
    ∀ role a, act c = .rotated role a →
      ∃ k n, note c = some (.executed k n (rotation role a))
  ruled : ∀ c, M.apply c.call c.before = .ok c.after →
    rules c.after
      = enacted enact (direct c.call) (note c) (rules c.before)

namespace Governed

variable {σ α κ ι ρ : Type} [DecidableEq κ] {M : Machine σ α}
  (G : Governed M κ ι ρ)

/-- `c` was signed by the admin of the time, `a`. -/
def SignedBy (c : Committed σ α) (a : Address) : Prop :=
  ∃ r, (G.book c.before).roles = some r ∧ r.admin = a
    ∧ (G.env c.call).Grants a

/-- A call of the trace proposed `new`, signed by `admin`, the admin of
the time. -/
def ProposedIn (tr : List (Committed σ α)) (admin new : Address) : Prop :=
  ∃ l₁ b l₂, tr = l₁ ++ b :: l₂ ∧ G.act b = .proposed new
    ∧ G.SignedBy b admin

/-- Timelock exactly-once and role integrity of the run `as`. -/
structure Integrity (as : List α) : Prop where
  /-- no two queueing calls return the same id -/
  ids_distinct : (M.trace M.init as).Pairwise fun c d =>
    ∀ n n', G.Mints c n → G.Mints d n' → n ≠ n'
  /-- an item is executed once, 48 hours after the admin of the time
  queued it, and never after a cancellation -/
  exactly_once : ∀ l₁ c l₂ k n item,
    M.trace M.init as = l₁ ++ c :: l₂ →
    G.note c = some (.executed k n item) →
    ∃ l₃ b l₄, l₁ = l₃ ++ b :: l₄ ∧ G.note b = some (.queued k n item)
      ∧ G.time b.call + 172800 ≤ G.time c.call ∧ (∃ a, G.SignedBy b a)
      ∧ ∀ d ∈ l₁, ¬ G.Ends d k n
  /-- an item has its effect in the call that executes it, and no other
  call depends on what waits -/
  takes_effect : ∀ c ∈ M.trace M.init as,
    G.rules c.after
      = enacted G.enact (G.direct c.call) (G.note c) (G.rules c.before)
  /-- roles once stored stay stored -/
  roles_stay : ∀ c ∈ M.trace M.init as, ∀ r,
    (G.book c.before).roles = some r → ∃ r', (G.book c.after).roles = some r'
  /-- the other roles change only by executing a queued rotation -/
  rest_changes : ∀ c ∈ M.trace M.init as, ∀ r r',
    (G.book c.before).roles = some r → (G.book c.after).roles = some r' →
    r'.rest ≠ r.rest → ∃ k n role a,
      G.note c = some (.executed k n (G.rotation role a))
        ∧ r' = r.write role a
  /-- the admin changes only when the successor accepts what the admin
  in office proposed -/
  admin_changes : ∀ l₁ c l₂ r r',
    M.trace M.init as = l₁ ++ c :: l₂ →
    (G.book c.before).roles = some r → (G.book c.after).roles = some r' →
    r'.admin ≠ r.admin → G.act c = .accepted
      ∧ (G.env c.call).Grants r'.admin ∧ G.ProposedIn l₁ r.admin r'.admin
  /-- a proposal on file is the current admin's -/
  proposer : ∀ a, (G.book (M.run M.init as)).pendingAdmin = some a →
    ∃ r, (G.book (M.run M.init as)).roles = some r
      ∧ G.ProposedIn (M.trace M.init as) r.admin a

-- ======================================================= the proposal

variable {G} {tr : List (Committed σ α)} {c : Committed σ α}

/-- The proposal on file was made by the current admin. -/
def Proposed (G : Governed M κ ι ρ) (b : RoleBook)
    (tr : List (Committed σ α)) : Prop :=
  ∀ a, b.pendingAdmin = some a →
    ∃ r, b.roles = some r ∧ G.ProposedIn tr r.admin a

theorem ProposedIn.snoc {admin new : Address}
    (h : G.ProposedIn tr admin new) (c : Committed σ α) :
    G.ProposedIn (tr ++ [c]) admin new := by
  obtain ⟨l₁, b, l₂, htr, hact, hsigned⟩ := h
  exact ⟨l₁, b, l₂ ++ [c], by rw [htr]; simp, hact, hsigned⟩

/-- A move of the book keeps the proposal the current admin's. -/
theorem proposed_move (h : G.Proposed (G.book c.before) tr)
    (hmove : RoleBook.Move (G.env c.call) (G.book c.before)
      (G.book c.after) (G.act c)) :
    G.Proposed (G.book c.after) (tr ++ [c]) := by
  intro a ha
  generalize hact : G.act c = act at hmove
  cases hmove with
  | quiet hb =>
      rw [hb] at ha ⊢
      obtain ⟨r, hr, hin⟩ := h a ha
      exact ⟨r, hr, hin.snoc c⟩
  | installed hnone hb =>
      -- nobody could have proposed before there was an admin
      rw [hb] at ha
      obtain ⟨r, hr, -⟩ := h a ha
      rw [hnone] at hr
      cases hr
  | proposed hr hgrants hb =>
      rw [hb] at ha ⊢
      injection ha with ha
      subst ha
      exact ⟨_, hr, tr, c, [], rfl, hact, _, hr, rfl, hgrants⟩
  | accepted hr hpending hgrants hb =>
      rw [hb] at ha
      cases ha
  | rotated hr hb =>
      rw [hb] at ha ⊢
      obtain ⟨r, hr', hin⟩ := h a ha
      rw [hr] at hr'
      injection hr' with hr'
      subst hr'
      refine ⟨_, rfl, ?_⟩
      rw [Roles.write_admin]
      exact hin.snoc c

variable (G)

theorem proposed_run (as : List α) :
    G.Proposed (G.book (M.run M.init as)) (M.trace M.init as) := by
  refine trace_induction (P := fun s tr => G.Proposed (G.book s) tr) ?_ ?_
    (allowed_true _ as)
  · intro a ha
    rw [G.book_init] at ha
    cases ha
  · intro s tr a s' h _ happ
    exact proposed_move (c := ⟨a, s, s'⟩) h (G.book_move _ happ)

-- ========================================================= the integrity

theorem integrity (as : List α) : G.Integrity as := by
  refine ⟨?_, ?_, ?_, ?_, ?_, ?_, G.proposed_run as⟩
  · refine (G.ids_increase as).imp ?_
    intro c d h n n' hn hn'
    exact (h n n' hn hn').ne
  · intro l₁ c l₂ k n item hsplit hc
    obtain ⟨l₃, b, l₄, hl, hb, htime, hnone⟩ := G.executed_once hsplit hc
    have hmem : b ∈ M.trace M.init as := by
      rw [hsplit, hl]
      simp
    obtain ⟨r, hr, hgrants⟩ := G.signed b (apply_of_mem_trace hmem) n
      ⟨k, item, hb⟩
    refine ⟨l₃, b, l₄, hl, hb, ?_, ⟨r.admin, r, hr, rfl, hgrants⟩, hnone⟩
    rw [G.delay_eq] at htime
    exact htime
  · intro c hc
    exact G.ruled c (apply_of_mem_trace hc)
  · intro c hc r hr
    obtain ⟨r', hr', -⟩ :=
      (G.book_move c (apply_of_mem_trace hc)).roles_cases hr
    exact ⟨r', hr'⟩
  · intro c hc r r' hr hr' hne
    have happ := apply_of_mem_trace hc
    obtain ⟨r₁, hr₁, hcases⟩ := (G.book_move c happ).roles_cases hr
    rw [hr'] at hr₁
    injection hr₁ with hr₁
    subst hr₁
    rcases hcases with rfl | ⟨-, -, -, hrest⟩ | ⟨role, a, hact, hw⟩
    · exact absurd rfl hne
    · exact absurd hrest hne
    · obtain ⟨k, n, hnote⟩ := G.rotated c happ role a hact
      exact ⟨k, n, role, a, hnote, hw⟩
  · intro l₁ c l₂ r r' hsplit hr hr' hne
    obtain ⟨pre, post, -, hbefore, happ, hl₁, -⟩ := trace_split hsplit
    have hprop := G.proposed_run pre
    rw [hl₁, ← hbefore] at hprop
    obtain ⟨r₁, hr₁, hcases⟩ := (G.book_move c happ).roles_cases hr
    rw [hr'] at hr₁
    injection hr₁ with hr₁
    subst hr₁
    rcases hcases with rfl | ⟨hact, hpending, hgrants, -⟩ | ⟨role, a, -, hw⟩
    · exact absurd rfl hne
    · obtain ⟨r₂, hr₂, hin⟩ := hprop _ hpending
      rw [hr] at hr₂
      injection hr₂ with hr₂
      subst hr₂
      exact ⟨hact, hgrants, hin⟩
    · rw [hw, Roles.write_admin] at hne
      exact absurd rfl hne

end Governed

end Ballast
