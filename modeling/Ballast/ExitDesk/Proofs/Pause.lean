/-
`ExitDesk`'s pause flags as a pause desk.

A pause desk is what the contracts with delayed unpausing have in
common: flags that are set at once, and requests to lift them that wait
out a delay under ids of one counter. What is proved of a pause desk
over all runs holds of every contract whose calls are its steps. Here
each entry point of the exit desk is shown to be one (`call_desk`): the
four about pauses are the desk's own, and the others leave it alone.
-/
import Ballast.Common.PauseDesk
import Ballast.ExitDesk.Proofs.Steps

namespace Ballast.ExitDesk

open Soroban Machine

/-- The pause desk of a state. -/
def desk (s : State) : PauseDesk :=
  .stored s.paused s.nextId s.pendingUnpause fun p =>
    (p.scope, p.executesAt)

/-- What an entry point asks of the desk. -/
def pauseAct : Entry → PauseAct
  | .pause _ scope => .pause scope
  | .queueUnpause _ scope => .queue scope
  | .cancelUnpause _ id => .cancel id
  | .executeUnpause id => .execute id
  | _ => .other

variable {env : Env} {w w' : World State} {e : Entry}

theorem call_desk (h : call env e w = .ok w') :
    PauseDesk.Step env.timestamp (desk w.store) (desk w'.store)
      (pauseAct e) := by
  cases e with
  | initContract =>
      obtain ⟨s', hs', rfl⟩ := onStore_ok h
      obtain ⟨-, rfl⟩ := initContract_ok hs'
      exact .other rfl le_rfl rfl
  | configureAsset =>
      obtain ⟨s', hs', rfl⟩ := onStore_ok h
      obtain ⟨-, -, -, rfl⟩ := configureAsset_ok hs'
      exact .other rfl le_rfl rfl
  | setUsdc =>
      obtain ⟨s', hs', rfl⟩ := onStore_ok h
      rw [setUsdc_ok hs']
      exact .other rfl le_rfl rfl
  | disableAsset =>
      obtain ⟨s', hs', rfl⟩ := onStore_ok h
      rw [disableAsset_ok hs']
      exact .other rfl le_rfl rfl
  | enableAsset =>
      obtain ⟨s', hs', rfl⟩ := onStore_ok h
      rw [enableAsset_ok hs']
      exact .other rfl le_rfl rfl
  | fund =>
      obtain ⟨-, -, -, hs'⟩ := fund_ok h
      rw [hs']
      exact .other rfl le_rfl rfl
  | withdraw =>
      obtain ⟨s', -, -, hrelease, hs'⟩ := withdraw_ok h
      rw [hs', (releaseInventory_ok hrelease).1]
      exact .other rfl le_rfl rfl
  | exit =>
      obtain ⟨p, hp, rfl⟩ := map_ok.mp h
      obtain ⟨quote, config, usdc, -, -, -, -, -, -, -, -, -, -, rfl⟩ :=
        exit_ok hp
      exact .other rfl le_rfl rfl
  | pause =>
      obtain ⟨s', hs', rfl⟩ := onStore_ok h
      rw [pause_ok hs']
      exact .pause rfl rfl
  | queueUnpause admin scope =>
      obtain ⟨s', hs', rfl⟩ := onStore_ok h
      obtain ⟨p, hp, rfl⟩ := map_ok.mp hs'
      rw [queueUnpause_ok hp]
      exact PauseDesk.stored_queue rfl
  | executeUnpause id =>
      obtain ⟨s', hs', rfl⟩ := onStore_ok h
      obtain ⟨p, hp, hready, rfl⟩ := executeUnpause_ok hs'
      exact PauseDesk.stored_execute hp hready
  | cancelUnpause admin id =>
      obtain ⟨s', hs', rfl⟩ := onStore_ok h
      obtain ⟨p, hp, rfl⟩ := cancelUnpause_ok hs'
      exact PauseDesk.stored_cancel hp

/-- What a transaction asks of the desk: token activity elsewhere asks
nothing. -/
def Tx.pauseAct : Tx → PauseAct
  | .call _ e => ExitDesk.pauseAct e
  | .outside _ => .other

/-- The exit desk keeps a pause desk. -/
def pausing (self : Address) : Pausing ((machine self).clocked Tx.at) where
  time := Prod.fst
  act a := a.2.pauseAct
  desk w := desk w.store
  init _ := rfl
  step c happ := by
    obtain ⟨⟨now, tx⟩, w, w'⟩ := c
    cases tx with
    | call env e =>
        have hcall : call (({ env with timestamp := now } : Env).at self) e
            w = .ok w' := happ
        exact call_desk hcall
    | outside tokens =>
        have hw' : { w with tokens := tokens } = w' := by
          simpa [clocked, machine, Tx.at] using happ
        subst hw'
        exact .other rfl le_rfl rfl

end Ballast.ExitDesk
