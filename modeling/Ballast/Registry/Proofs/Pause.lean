/-
`Registry`'s pause flags as a pause desk. Its other queues draw ids from
the same counter and are no business of the desk.

Each entry point is a step of the desk (`call_desk`). Role changes,
haircuts and upgrades are queued under ids of the same counter as
unpauses, so for the desk the counter may run ahead by itself; it never
runs back, and that is all the desk needs for its ids to stay fresh.
-/
import Ballast.Common.PauseDesk
import Ballast.Registry.Proofs.Queues

namespace Ballast.Registry

open Soroban Machine

/-- The pause desk of a state. -/
def desk (s : State) : PauseDesk :=
  .stored s.paused s.nextId s.pendingUnpause fun p =>
    (p.scope, p.executesAt)

/-- What an entry point asks of the desk. -/
def pauseAct : Entry → PauseAct
  | .pause _ scope => .pause scope
  | .queueUnpause _ scope => .queue scope
  | .cancelUnpause _ id => .cancel id
  | .executeUnpause id => .execute id
  | _ => .other

variable {env : HostEnv} {s s' : State} {e : Entry}

theorem call_desk (h : call env e s = .ok s') :
    PauseDesk.Step env.timestamp (desk s) (desk s') (pauseAct e) := by
  cases e with
  | initContract =>
      obtain ⟨-, rfl⟩ := initContract_ok h
      exact .other rfl le_rfl rfl
  | proposeAdmin =>
      obtain ⟨-, rfl⟩ := proposeAdmin_ok h
      exact .other rfl le_rfl rfl
  | acceptAdmin =>
      obtain ⟨r, a, -, -, -, rfl⟩ := acceptAdmin_ok h
      exact .other rfl le_rfl rfl
  | queueRoleChange =>
      obtain ⟨p, hp, rfl⟩ := map_ok.mp h
      obtain ⟨-, rfl⟩ := queueRoleChange_ok hp
      exact .other rfl (Nat.le_succ _) rfl
  | executeRoleChange =>
      obtain ⟨p, r, -, -, -, rfl⟩ := executeRoleChange_ok h
      exact .other rfl le_rfl rfl
  | registerAsset =>
      obtain ⟨-, -, rfl⟩ := registerAsset_ok h
      exact .other rfl le_rfl rfl
  | queueParam =>
      obtain ⟨p, hp, rfl⟩ := map_ok.mp h
      obtain ⟨-, rfl⟩ := queueParam_ok hp
      exact .other rfl (Nat.le_succ _) rfl
  | cancelParam =>
      obtain ⟨p, -, rfl⟩ := cancelParam_ok h
      exact .other rfl le_rfl rfl
  | executeParam =>
      obtain ⟨p, config, -, -, -, -, rfl⟩ := executeParam_ok h
      exact .other rfl le_rfl rfl
  | raiseHaircutNow =>
      obtain ⟨config, -, -, rfl⟩ := raiseHaircutNow_ok h
      exact .other rfl le_rfl rfl
  | pause =>
      rw [pause_ok h]
      exact .pause rfl rfl
  | queueUnpause admin scope =>
      obtain ⟨p, hp, rfl⟩ := map_ok.mp h
      obtain ⟨-, rfl⟩ := queueUnpause_ok hp
      exact PauseDesk.stored_queue rfl
  | cancelUnpause admin id =>
      obtain ⟨p, hp, rfl⟩ := cancelUnpause_ok h
      exact PauseDesk.stored_cancel hp
  | executeUnpause id =>
      obtain ⟨p, hp, hready, rfl⟩ := executeUnpause_ok h
      exact PauseDesk.stored_execute hp hready
  | queueUpgrade =>
      obtain ⟨p, hp, rfl⟩ := map_ok.mp h
      obtain ⟨-, rfl⟩ := queueUpgrade_ok hp
      exact .other rfl (Nat.le_succ _) rfl
  | cancelUpgrade =>
      obtain ⟨p, -, rfl⟩ := cancelUpgrade_ok h
      exact .other rfl le_rfl rfl
  | executeUpgrade =>
      obtain ⟨p, -, -, rfl⟩ := executeUpgrade_ok h
      exact .other rfl le_rfl rfl

/-- The registry keeps a pause desk. -/
def pausing (self : Address) : Pausing (machine self) where
  time := Tx.time
  act tx := pauseAct tx.entry
  desk := desk
  init _ := rfl
  step c happ := by
    have hcall := call_desk (apply_call happ)
    exact hcall

end Ballast.Registry
