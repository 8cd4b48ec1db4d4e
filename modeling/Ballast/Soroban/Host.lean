/-
The host a contract runs on, as far as contract code can observe it:
calls that either return or abort, checked machine integers, ledger
time, and `require_auth`.

# Aborting calls

A contract call is an `Except String α`: the value it returns, or the
text it panicked with. The host rolls an aborted call back, so the
`error` side carries no state. Every guard a contract writes is an
`ensure` (assert) or an `expect` (unwrap with a message), and the two
`_ok` lemmas plus `bind_ok` turn a successful `do` block into the
conjunction of its guards: the inversion lemmas downstream are all
`simp only` with this set.

# Integers

`i128` is `Int` and the unsigned types are `Nat`; the release profile
these contracts ship with traps on overflow, so every arithmetic
operation is range-checked (`I128.add` and friends). Division is
Rust's, truncating toward zero.

# Authorization

`auth` is the set of addresses that authorised the current invocation:
transaction signers, and the contract that invoked this one directly.
A contract with no `__check_auth` cannot sign, and the host refuses
re-entry, so an invocation never carries the authorization of the very
contract it runs in: `requireAuth` refuses `self`.
-/
import Mathlib.Algebra.Order.Ring.Int
import Mathlib.Tactic.Common

namespace Ballast.Soroban

-- ====================================================== aborting calls

/-- A contract call: the value returned, or the panic text. -/
abbrev Call (α : Type) := Except String α

/-- `assert!(c, msg)`. -/
def ensure (c : Prop) [Decidable c] (msg : String) : Call Unit :=
  if c then .ok () else .error msg

/-- `o.expect(msg)`. -/
def expect {α : Type} (o : Option α) (msg : String) : Call α :=
  match o with
  | some a => .ok a
  | none => .error msg

variable {α β : Type}

/-- A sequence returns if its first part does and its second does with the
result. -/
@[simp] theorem bind_ok {x : Call α} {f : α → Call β} {b : β} :
    (x >>= f) = .ok b ↔ ∃ a, x = .ok a ∧ f a = .ok b := by
  cases x with
  | error e => simp [bind, Except.bind]
  | ok a => simp [bind, Except.bind]

/-- A step that returns, and a rest that does. -/
theorem bind_returns {x : Call α} {f : α → Call β} {a : α}
    (hx : x = .ok a) (hf : ∃ b, f a = .ok b) : ∃ b, (x >>= f) = .ok b := by
  obtain ⟨b, hb⟩ := hf
  exact ⟨b, bind_ok.mpr ⟨a, hx, hb⟩⟩

@[simp] theorem pure_ok {a b : α} :
    (pure a : Call α) = .ok b ↔ a = b := by
  simp [pure, Except.pure]

@[simp] theorem map_ok {x : Call α} {f : α → β} {b : β} :
    x.map f = .ok b ↔ ∃ a, x = .ok a ∧ f a = b := by
  cases x with
  | error e => simp [Except.map]
  | ok a => simp [Except.map]

/-- An assertion lets pass what meets it. -/
@[simp] theorem ensure_ok {c : Prop} [Decidable c] {msg : String}
    {u : Unit} : ensure c msg = .ok u ↔ c := by
  unfold ensure
  split <;> simp [*]

/-- An unwrap gives what is there. -/
@[simp] theorem expect_ok {o : Option α} {msg : String} {a : α} :
    expect o msg = .ok a ↔ o = some a := by
  cases o with
  | none => simp [expect]
  | some b => simp [expect]

/-- Whether a call commits, as a statement that can be evaluated. -/
theorem isOk_iff {x : Call α} : x.isOk = true ↔ ∃ a, x = .ok a := by
  cases x with
  | error e => simp [Except.isOk, Except.toBool]
  | ok a => simp [Except.isOk, Except.toBool]

/-- A call that commits commits to something. -/
theorem exists_of_isOk {x : Call α} (h : x.isOk = true) :
    ∃ a, x = .ok a :=
  isOk_iff.mp h

-- ==================================================== checked integers

/-- The range of `i128`. -/
def I128.Fits (x : Int) : Prop := -2 ^ 127 ≤ x ∧ x < 2 ^ 127

instance (x : Int) : Decidable (I128.Fits x) :=
  inferInstanceAs (Decidable (_ ∧ _))

/-- A result that has to fit `i128`, aborting with `msg` when it does
not (`checked_*` followed by `expect`). -/
def I128.checked (msg : String) (x : Int) : Call Int :=
  if I128.Fits x then .ok x else .error msg

/-- `a + b` under overflow checks. -/
def I128.add (a b : Int) : Call Int :=
  I128.checked "attempt to add with overflow" (a + b)

/-- `a - b` under overflow checks. -/
def I128.sub (a b : Int) : Call Int :=
  I128.checked "attempt to subtract with overflow" (a - b)

/-- `a * b` under overflow checks. -/
def I128.mul (a b : Int) : Call Int :=
  I128.checked "attempt to multiply with overflow" (a * b)

/-- A checked number is the number, if it fits. -/
@[simp] theorem I128.checked_ok {msg : String} {x y : Int} :
    I128.checked msg x = .ok y ↔ I128.Fits x ∧ x = y := by
  unfold I128.checked
  split <;> simp [*]

@[simp] theorem I128.add_ok {a b c : Int} :
    I128.add a b = .ok c ↔ I128.Fits (a + b) ∧ a + b = c := by
  simp [I128.add]

@[simp] theorem I128.sub_ok {a b c : Int} :
    I128.sub a b = .ok c ↔ I128.Fits (a - b) ∧ a - b = c := by
  simp [I128.sub]

@[simp] theorem I128.mul_ok {a b c : Int} :
    I128.mul a b = .ok c ↔ I128.Fits (a * b) ∧ a * b = c := by
  simp [I128.mul]

/-- A value between zero and one that fits, fits. -/
theorem I128.Fits.of_le {x y : Int} (hy : I128.Fits y) (h0 : 0 ≤ x)
    (h : x ≤ y) : I128.Fits x := by
  unfold I128.Fits at *
  omega

/-- `u64::MAX`. -/
def u64Max : Nat := 2 ^ 64 - 1

/-- `u32::MAX`. -/
def u32Max : Nat := 2 ^ 32 - 1

/-- A `u64` result, aborting with `msg` past `u64::MAX`. -/
def U64.checked (msg : String) (x : Nat) : Call Nat :=
  if x ≤ u64Max then .ok x else .error msg

/-- `a + b` on `u64` under overflow checks. -/
def U64.add (a b : Nat) : Call Nat :=
  U64.checked "attempt to add with overflow" (a + b)

/-- The same for unsigned ones. -/
@[simp] theorem U64.checked_ok {msg : String} {x y : Nat} :
    U64.checked msg x = .ok y ↔ x ≤ u64Max ∧ x = y := by
  unfold U64.checked
  split <;> simp [*]

@[simp] theorem U64.add_ok {a b c : Nat} :
    U64.add a b = .ok c ↔ a + b ≤ u64Max ∧ a + b = c := by
  simp [U64.add]

/-- `u64::saturating_add`. -/
def U64.satAdd (a b : Nat) : Nat := min (a + b) u64Max

-- ====================================================== the environment

/-- An account or contract address. -/
structure Address where
  id : Nat
  deriving DecidableEq, Repr

/-- What one invocation can see of the host. -/
structure HostEnv where
  /-- `env.current_contract_address()` -/
  self : Address
  /-- `env.ledger().timestamp()`, seconds -/
  timestamp : Nat
  /-- `env.ledger().sequence()` -/
  sequence : Nat
  /-- `env.storage().max_ttl()`, ledgers -/
  maxTtl : Nat
  /-- addresses that authorised this invocation -/
  auth : Address → Bool

/-- The host grants `a`'s authorization to this invocation. -/
def HostEnv.Grants (env : HostEnv) (a : Address) : Prop :=
  a ≠ env.self ∧ env.auth a = true

instance (env : HostEnv) (a : Address) : Decidable (env.Grants a) :=
  inferInstanceAs (Decidable (_ ∧ _))

/-- `a.require_auth()`. -/
def HostEnv.requireAuth (env : HostEnv) (a : Address) : Call Unit :=
  ensure (env.Grants a) "host: authorization missing"

/-- An authorization that is granted. -/
@[simp] theorem HostEnv.requireAuth_ok {env : HostEnv} {a : Address}
    {u : Unit} : env.requireAuth a = .ok u ↔ env.Grants a := by
  simp [HostEnv.requireAuth]

/-- The environment of a call the running contract makes into the
contract at `callee`: the caller's authorization travels with it. -/
def HostEnv.into (env : HostEnv) (callee : Address) : HostEnv :=
  { env with
    self := callee
    auth := fun a => a == env.self || env.auth a }

end Ballast.Soroban
