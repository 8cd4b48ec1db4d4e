/-
`ballast-common`: stored roles and their rotation, the 48-hour timelock,
queued upgrades and the pause flags.

A role check reads the stored address and asks the host for its
authorization, so "only the keeper may call this" is
`requireKeeper`. Ids of everything a contract queues come from one
counter (`nextId`). Storage lifetimes (TTL extension) are not modelled:
the host restores an archived entry on access, so they never change
what a call reads.

# One shape for each kind of call

Queueing, cancelling and executing look alike in every contract: a
guard, a lookup, a change, an event. `queued_ok`, `cancelled_ok` and
`executed_ok` say of each shape what a call of it that returned has
found and left, with the contract's own storage as a parameter, and the
inversion lemmas of the contracts are instances.
-/
import Ballast.Soroban.Store
import Ballast.Common.Risk

namespace Ballast

open Soroban

-- =============================================================== roles

structure Roles where
  admin : Address
  pauser : Address
  keeper : Address
  pricePublisher : Address
  risk : Address
  deriving DecidableEq, Repr

/-- `access::read_roles`. -/
def readRoles (roles : Option Roles) : Call Roles :=
  expect roles "ballast-common: roles not initialized"

/-- The shape of `require_admin`, `require_pauser` and the rest: read
the stored address of a role and authenticate it. -/
def requireRole (env : HostEnv) (roles : Option Roles)
    (pick : Roles → Address) : Call Address := do
  let r ← readRoles roles
  env.requireAuth (pick r)
  return pick r

/-- `access::require_admin`. -/
def requireAdmin (env : HostEnv) (roles : Option Roles) : Call Address :=
  requireRole env roles Roles.admin

/-- `access::require_pauser`. -/
def requirePauser (env : HostEnv) (roles : Option Roles) : Call Address :=
  requireRole env roles Roles.pauser

/-- `access::require_keeper`. -/
def requireKeeper (env : HostEnv) (roles : Option Roles) : Call Address :=
  requireRole env roles Roles.keeper

/-- `access::require_price_publisher`. -/
def requirePricePublisher (env : HostEnv) (roles : Option Roles) :
    Call Address :=
  requireRole env roles Roles.pricePublisher

/-- `access::require_risk`. -/
def requireRisk (env : HostEnv) (roles : Option Roles) : Call Address :=
  requireRole env roles Roles.risk

/-- `access::require_admin_or_keeper`. -/
def requireAdminOrKeeper (env : HostEnv) (roles : Option Roles)
    (caller : Address) : Call Address := do
  env.requireAuth caller
  let r ← readRoles roles
  ensure (caller = r.admin ∨ caller = r.keeper)
    "ballast-common: caller is neither admin nor keeper"
  return caller

theorem requireRole_ok {env : HostEnv} {roles : Option Roles}
    {pick : Roles → Address} {a : Address} :
    requireRole env roles pick = .ok a ↔
      ∃ r, roles = some r ∧ env.Grants (pick r) ∧ pick r = a := by
  simp only [requireRole, readRoles, bind_ok, expect_ok,
    HostEnv.requireAuth_ok, pure_ok, exists_const]

theorem requireAdmin_signed {env : HostEnv} {roles : Option Roles}
    {a : Address} (h : requireAdmin env roles = .ok a) :
    ∃ r, roles = some r ∧ env.Grants r.admin := by
  obtain ⟨r, hr, hgrants, -⟩ := requireRole_ok.mp h
  exact ⟨r, hr, hgrants⟩

-- ============================================================ timelock

/-- `TIMELOCK_DELAY_SECONDS`: 48 hours. -/
def timelockDelaySeconds : Nat := 48 * 60 * 60

/-- `timelock::next_id`: the id minted, and the counter after. -/
def nextId (counter : Nat) : Call (Nat × Nat) := do
  let next ← U64.add counter 1
  return (counter, next)

/-- `timelock::executes_at`. -/
def executesAt (env : HostEnv) : Call Nat :=
  U64.add env.timestamp timelockDelaySeconds

/-- `timelock::is_ready`. -/
def IsReady (env : HostEnv) (executesAt : Nat) : Prop :=
  executesAt ≤ env.timestamp

instance (env : HostEnv) (n : Nat) : Decidable (IsReady env n) :=
  inferInstanceAs (Decidable (_ ≤ _))

theorem nextId_ok {n : Nat} {p : Nat × Nat} :
    nextId n = .ok p ↔ n + 1 ≤ u64Max ∧ p = (n, n + 1) := by
  simp only [nextId, bind_ok, U64.add_ok, pure_ok]
  constructor
  · intro h
    obtain ⟨m, ⟨hm, rfl⟩, rfl⟩ := h
    exact ⟨hm, rfl⟩
  · intro h
    obtain ⟨hm, rfl⟩ := h
    exact ⟨n + 1, ⟨hm, rfl⟩, rfl⟩

theorem executesAt_ok {env : HostEnv} {n : Nat}
    (h : executesAt env = .ok n) :
    n = env.timestamp + timelockDelaySeconds := by
  simp only [executesAt, U64.add_ok] at h
  exact h.2.symm

-- ======================================================== role rotation

/-- `access::RoleKind`: the roles that rotate behind the timelock. -/
inductive RoleKind where
  | pauser
  | keeper
  | pricePublisher
  | risk
  deriving DecidableEq, Repr

/-- `access::PendingRoleChange`. -/
structure PendingRoleChange where
  role : RoleKind
  newAddress : Address
  executesAt : Nat
  deriving DecidableEq, Repr

/-- The roles with one of them replaced. -/
def Roles.write (r : Roles) (role : RoleKind) (a : Address) : Roles :=
  match role with
  | .pauser => { r with pauser := a }
  | .keeper => { r with keeper := a }
  | .pricePublisher => { r with pricePublisher := a }
  | .risk => { r with risk := a }

/-- `access::accept_admin`: the roles after. -/
def acceptAdmin (env : HostEnv) (roles : Option Roles)
    (pendingAdmin : Option Address) : Call Roles := do
  let newAdmin ← expect pendingAdmin
    "ballast-common: no pending admin proposal"
  env.requireAuth newAdmin
  let r ← readRoles roles
  return { r with admin := newAdmin }

/-- `access::execute_role_change`: the roles after. -/
def executeRoleChange (env : HostEnv) (roles : Option Roles)
    (pending : Store Nat PendingRoleChange) (id : Nat) : Call Roles := do
  let change ← expect (pending.get id)
    "ballast-common: no such pending role change"
  ensure (IsReady env change.executesAt)
    "ballast-common: timelock has not elapsed"
  let r ← readRoles roles
  return r.write change.role change.newAddress

section

variable {env : HostEnv} {roles : Option Roles} {r' : Roles}

theorem acceptAdmin_ok {pendingAdmin : Option Address}
    (h : acceptAdmin env roles pendingAdmin = .ok r') :
    ∃ r a, roles = some r ∧ pendingAdmin = some a ∧ env.Grants a
      ∧ r' = { r with admin := a } := by
  simp only [acceptAdmin, readRoles, bind_ok, expect_ok,
    HostEnv.requireAuth_ok, pure_ok, exists_const] at h
  obtain ⟨a, ha, hgrants, r, hr, rfl⟩ := h
  exact ⟨r, a, hr, ha, hgrants, rfl⟩

theorem executeRoleChange_ok {pending : Store Nat PendingRoleChange}
    {id : Nat} (h : executeRoleChange env roles pending id = .ok r') :
    ∃ p r, pending.get id = some p ∧ p.executesAt ≤ env.timestamp
      ∧ roles = some r ∧ r' = r.write p.role p.newAddress := by
  simp only [executeRoleChange, readRoles, bind_ok, expect_ok, ensure_ok,
    pure_ok, exists_const] at h
  obtain ⟨p, hp, hready, r, hr, rfl⟩ := h
  exact ⟨p, r, hp, hready, hr, rfl⟩

end

-- ==================================================== queue, cancel, execute

section

variable {α β ρ : Type} {env : HostEnv} {guard : Call α}
  {pending : Store Nat ρ} {id : Nat} {b : β}

/-- The shape of every `queue_*`: past its guard it mints an id and files
the item for 48 hours from now. What a contract files, and where, is
`file`. -/
theorem queued_ok {counter : Nat} {file : Nat × Nat → Nat → β}
    (h : (do
      let _ ← guard
      let minted ← nextId counter
      let at' ← executesAt env
      return file minted at') = Except.ok b) :
    (∃ a, guard = .ok a)
      ∧ b = file (counter, counter + 1)
          (env.timestamp + timelockDelaySeconds) := by
  simp only [bind_ok, nextId_ok, pure_ok] at h
  obtain ⟨a, hguard, _, ⟨-, rfl⟩, n, hn, rfl⟩ := h
  rw [executesAt_ok hn]
  exact ⟨⟨a, hguard⟩, rfl⟩

/-- The shape of every `cancel_*`: past its guard it drops an item that
is still waiting. -/
theorem cancelled_ok {missing : String} {drop : ρ → β}
    (h : (do
      let _ ← guard
      let item ← expect (pending.get id) missing
      return drop item) = Except.ok b) :
    ∃ item, pending.get id = some item ∧ b = drop item := by
  simp only [bind_ok, expect_ok, pure_ok] at h
  obtain ⟨_, -, item, hitem, rfl⟩ := h
  exact ⟨item, hitem, rfl⟩

/-- The shape of an `execute_*` that cannot fail past the timelock. -/
theorem executed_ok {missing early : String} {due : ρ → Nat}
    {apply : ρ → β}
    (h : (do
      let item ← expect (pending.get id) missing
      ensure (IsReady env (due item)) early
      return apply item) = Except.ok b) :
    ∃ item, pending.get id = some item ∧ due item ≤ env.timestamp
      ∧ b = apply item := by
  simp only [bind_ok, expect_ok, ensure_ok, pure_ok, exists_const] at h
  obtain ⟨item, hitem, hready, rfl⟩ := h
  exact ⟨item, hitem, hready, rfl⟩

end

-- ============================================================= upgrades

/-- `upgrade::PendingUpgrade`. -/
structure PendingUpgrade where
  newWasmHash : BytesN 32
  executesAt : Nat
  deriving DecidableEq, Repr

-- =============================================================== pause

inductive PauseScope where
  | pledges
  | draws
  | exits
  | repos
  | all
  deriving DecidableEq, Repr

/-- `pause::is_paused`: `all` overrides every scope. -/
def isPaused (paused : Store PauseScope Bool) (scope : PauseScope) : Bool :=
  if (paused.get .all).getD false then true
  else if scope = .all then false
  else (paused.get scope).getD false

/-- `pause::require_not_paused`. -/
def requireNotPaused (paused : Store PauseScope Bool)
    (scope : PauseScope) : Call Unit :=
  ensure (isPaused paused scope = false) "ballast-common: paused"

@[simp] theorem requireNotPaused_ok {paused : Store PauseScope Bool}
    {scope : PauseScope} {u : Unit} :
    requireNotPaused paused scope = .ok u ↔
      isPaused paused scope = false := by
  simp [requireNotPaused]

-- ============================================================= custody

/-- `asset::CustodyMode`. -/
inductive CustodyMode where
  | escrow
  | issuerLien
  | custodianLien
  deriving DecidableEq, Repr

end Ballast
