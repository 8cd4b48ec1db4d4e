/-
What a call may abort with.

`AbortsOnly P x` says every text `x` can abort with satisfies `P`. It is
a condition per step: a `do` block meets it when each step does, given
what the steps before it returned (`abortsOnly_bind`), and a guard does
when its own text satisfies `P`. So one `simp only` with this file's
lemmas turns a claim about a whole entry point into one obligation per
guard, and leaves standing only the calls that need an argument.

# Steps that always abort alike

Some steps abort with a text of the host's own and not of the
contract's: a refused authorization, an overflow, a transfer that is not
covered. `HostTexts` collects these, so that a claim about a contract's
own messages can set them aside together.
-/
import Ballast.Soroban.Token

namespace Ballast.Soroban

variable {α β : Type} {P : String → Prop}

/-- Every text `x` can abort with satisfies `P`. -/
def AbortsOnly (P : String → Prop) (x : Call α) : Prop :=
  ∀ e, x = .error e → P e

/-- A value aborts with nothing. -/
@[simp] theorem abortsOnly_pure (a : α) :
    AbortsOnly P (pure a : Call α) := by
  intro e h
  cases h

/-- A call that returns aborts with nothing. -/
theorem abortsOnly_ok {x : Call α} {a : α} (h : x = .ok a) :
    AbortsOnly P x := by
  intro e he
  rw [h] at he
  cases he

/-- A sequence aborts where one of its parts does. -/
@[simp] theorem abortsOnly_bind {x : Call α} {f : α → Call β} :
    AbortsOnly P (x >>= f) ↔
      AbortsOnly P x ∧ ∀ a, x = .ok a → AbortsOnly P (f a) := by
  cases x with
  | error e => simp [AbortsOnly, bind, Except.bind]
  | ok a => simp [AbortsOnly, bind, Except.bind]

/-- An assertion aborts with its own text. -/
@[simp] theorem abortsOnly_ensure {c : Prop} [Decidable c] {msg : String} :
    AbortsOnly P (ensure c msg) ↔ (¬ c → P msg) := by
  unfold AbortsOnly ensure
  split <;> simp [*]

/-- An unwrap aborts with its own text. -/
@[simp] theorem abortsOnly_expect {o : Option α} {msg : String} :
    AbortsOnly P (expect o msg) ↔ (o = none → P msg) := by
  cases o <;> simp [AbortsOnly, expect]

/-- Checked arithmetic aborts with the text it is given. -/
@[simp] theorem abortsOnly_checked {msg : String} {x : Int} :
    AbortsOnly P (I128.checked msg x) ↔ (¬ I128.Fits x → P msg) := by
  unfold AbortsOnly I128.checked
  split <;> simp [*]

-- ===================================================== steps by their text

/-- The texts of the host and of the token satisfy `P`. -/
structure HostTexts (P : String → Prop) : Prop where
  auth : P "host: authorization missing"
  add : P "attempt to add with overflow"
  sub : P "attempt to subtract with overflow"
  mul : P "attempt to multiply with overflow"
  tokenAuth : P "token: authorization missing"
  tokenNegative : P "token: negative amount"
  tokenBalance : P "token: insufficient balance"

variable (hP : HostTexts P)

include hP

/-- A refused authorization is the host's. -/
theorem HostTexts.requireAuth (env : HostEnv) (a : Address) :
    AbortsOnly P (env.requireAuth a) :=
  abortsOnly_ensure.mpr fun _ => hP.auth

theorem HostTexts.i128_add (a b : Int) : AbortsOnly P (I128.add a b) :=
  abortsOnly_checked.mpr fun _ => hP.add

theorem HostTexts.i128_sub (a b : Int) : AbortsOnly P (I128.sub a b) :=
  abortsOnly_checked.mpr fun _ => hP.sub

theorem HostTexts.i128_mul (a b : Int) : AbortsOnly P (I128.mul a b) :=
  abortsOnly_checked.mpr fun _ => hP.mul

/-- So is a transfer that is refused. -/
theorem HostTexts.transfer (env : HostEnv) (token src dst : Address)
    (x : Int) (l : Ledger) :
    AbortsOnly P (Ledger.transfer env token src dst x l) := by
  simp only [Ledger.transfer, abortsOnly_bind, abortsOnly_ensure,
    abortsOnly_pure]
  exact ⟨fun _ => hP.tokenAuth, fun _ _ => ⟨fun _ => hP.tokenNegative,
    fun _ _ => ⟨fun _ => hP.tokenBalance, fun _ _ => trivial⟩⟩⟩

end Ballast.Soroban
