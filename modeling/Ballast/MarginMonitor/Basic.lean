/-
The margin monitor: one `recomputeLine` after another, as its polling
loop calls it.

Each reads the line's LTV from the contract (the answer is an argument
here, with its failure), compares the state with the newest
`margin_event` of the line, and records a change. The loop awaits one
call before the next and nothing else writes the table, so a call is one
step. `created_at` is the database's clock, which goes forward.

The state that is recorded is the one the contract reports, and the
contract judges by a guarded price; when it gives none, the call fails
and nothing is recorded. An alert is fired for the two unhealthy states,
on a change only, and the webhook outbox reads the same rows later on
its own.
-/
import Ballast.Common.Risk
import Ballast.Soroban.Machine

namespace Ballast.MarginMonitor

open Soroban

-- ================================================================= tables

/-- A uuid. -/
abbrev Id := Nat

/-- A `margin_event` row. -/
structure MarginEvent where
  creditLineId : Id
  fromState : MarginState
  toState : MarginState
  ltvBps : Nat
  priceSnapshotId : Option Id
  createdAt : Nat
  deriving DecidableEq, Repr

/-- A `pledge` row. -/
structure Pledge where
  creditLineId : Id
  assetId : Id
  deriving DecidableEq, Repr

/-- A `price_snapshot` row. -/
structure PriceSnapshot where
  id : Id
  assetId : Id
  createdAt : Nat
  deriving DecidableEq, Repr

structure Db where
  marginEvent : List MarginEvent
  pledge : List Pledge
  priceSnapshot : List PriceSnapshot
  deriving DecidableEq, Repr

/-- `orderBy(desc(createdAt)).limit(1)`: of two rows of one time, the one
stored later. -/
def newest {α : Type} (createdAt : α → Nat) (rows : List α) : Option α :=
  rows.foldl (fun best row => match best with
    | some b => if createdAt row < createdAt b then some b else some row
    | none => some row) none

theorem newest_snoc {α : Type} (createdAt : α → Nat) (rows : List α)
    (row : α) : newest createdAt (rows ++ [row])
      = match newest createdAt rows with
        | some b => if createdAt row < createdAt b then some b else some row
        | none => some row := by
  rw [newest, List.foldl_append]
  rfl

theorem newest_mem {α : Type} {createdAt : α → Nat} {rows : List α} {x : α}
    (h : newest createdAt rows = some x) : x ∈ rows := by
  induction rows using List.reverseRecOn generalizing x with
  | nil => cases h
  | append_singleton rows row ih =>
      rw [newest_snoc] at h
      cases hold : newest createdAt rows with
      | none =>
          rw [hold] at h
          injection h with h
          simp [h]
      | some b =>
          rw [hold] at h
          simp only at h
          split at h
          · injection h with h
            exact List.mem_append_left _ (ih (hold.trans (by rw [h])))
          · injection h with h
            simp [h]

/-- The newest of rows in the order of their clock is the last one. -/
theorem newest_concat {α : Type} {createdAt : α → Nat} {rows : List α}
    {row : α} (h : ∀ x ∈ rows, createdAt x < createdAt row) :
    newest createdAt (rows ++ [row]) = some row := by
  rw [newest_snoc]
  cases hold : newest createdAt rows with
  | none => rfl
  | some b =>
      have hb := h b (newest_mem hold)
      simp only [if_neg (show ¬ createdAt row < createdAt b by omega)]

-- ============================================================ recomputeLine

/-- What `ltv()` answers. -/
structure LtvView where
  state : MarginState
  ltvBps : Nat
  deriving DecidableEq, Repr

structure RecomputeLineResult where
  changed : Bool
  fromState : Option MarginState
  toState : MarginState
  ltvBps : Nat
  deriving DecidableEq, Repr

/-- What the alerter fires as `margin_call`. -/
structure Alert where
  creditLineId : Id
  state : MarginState
  ltvBps : Nat
  deriving DecidableEq, Repr

structure Monitor where
  db : Db
  alerts : List Alert
  deriving DecidableEq, Repr

/-- The snapshot an event points to: the newest of the first pledge's
asset. -/
def priceSnapshotId (db : Db) (line : Id) : Option Id := do
  let pledgeRow ← db.pledge.find? (·.creditLineId = line)
  let snapshot ← newest (·.createdAt)
    (db.priceSnapshot.filter (·.assetId = pledgeRow.assetId))
  return snapshot.id

/-- `"MarginCall" || "Liquidation"`. -/
def alerting : MarginState → Bool
  | .marginCall => true
  | .liquidation => true
  | _ => false

def recomputeLine (line : Id) (ltv : Call LtvView) (now : Nat)
    (s : Monitor) : Call (RecomputeLineResult × Monitor) := do
  let view ← ltv
  let lastEvent := newest (·.createdAt)
    (s.db.marginEvent.filter (·.creditLineId = line))
  let fromState := lastEvent.map (·.toState)
  let changed := decide (fromState ≠ some view.state)
  let result := ⟨changed, fromState, view.state, view.ltvBps⟩
  if changed then
    let event : MarginEvent :=
      { creditLineId := line
        fromState := fromState.getD .healthy
        toState := view.state
        ltvBps := view.ltvBps
        priceSnapshotId := priceSnapshotId s.db line
        createdAt := now }
    return (result,
      { db := { s.db with marginEvent := s.db.marginEvent ++ [event] }
        alerts := if alerting view.state
          then s.alerts ++ [⟨line, view.state, view.ltvBps⟩]
          else s.alerts })
  else return (result, s)

-- ============================================================ the machine

inductive Act where
  | recomputeLine (line : Id) (ltv : Call LtvView) (now : Nat)
  /-- other services write their tables -/
  | outside (pledge : List Pledge) (priceSnapshot : List PriceSnapshot)

def step (a : Act) (s : Monitor) : Call Monitor :=
  match a with
  | .recomputeLine line ltv now => do
      ensure (decide (∀ e ∈ s.db.marginEvent, e.createdAt < now))
        "the clock goes forward"
      let (_, s) ← recomputeLine line ltv now s
      return s
  | .outside pledge priceSnapshot =>
      return { s with db := { s.db with
        pledge := pledge
        priceSnapshot := priceSnapshot } }

/-- The monitor from its first poll. -/
def machine : Machine Monitor Act where
  init := ⟨⟨[], [], []⟩, []⟩
  apply := step

end Ballast.MarginMonitor
