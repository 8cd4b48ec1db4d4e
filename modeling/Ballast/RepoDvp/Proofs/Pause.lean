/-
`RepoDvp`'s pause flags as a pause desk. Trades draw their ids from the
counter the unpauses use, and never touch the desk otherwise.

Each entry point is a step of the desk (`call_desk`). Since the counter
is shared, a proposal moves it on, and the desk takes that for a step of
somebody else's: ids are never used twice, whether for a trade or for an
unpause.
-/
import Ballast.Common.PauseDesk
import Ballast.RepoDvp.Proofs.Steps

namespace Ballast.RepoDvp

open Soroban Machine

/-- The pause desk of a state. -/
def desk (s : State) : PauseDesk :=
  .stored s.paused s.nextId s.pendingUnpause fun p =>
    (p.scope, p.executesAt)

/-- What an entry point asks of the desk. -/
def pauseAct : Entry → PauseAct
  | .pause _ scope => .pause scope
  | .queueUnpause _ scope => .queue scope
  | .cancelUnpause _ id => .cancel id
  | .executeUnpause id => .execute id
  | _ => .other

variable {env : Env} {w w' : World State} {s s' : State} {e : Entry}

-- ================================================= what leaves it alone

@[simp] theorem desk_publish (s : State) (ev : Event) :
    desk (publish s ev) = desk s := rfl

@[simp] theorem desk_writeTrade (s : State) (t : RepoTrade) :
    desk (writeTrade s t) = desk s := rfl

@[simp] theorem desk_writeBorrowerDue (s : State) (b : Address) (due : Int)
    (n : Nat) : desk (writeBorrowerDue s b due n) = desk s := by
  unfold writeBorrowerDue
  split <;> rfl

/-- A call that leaves the desk as it was. -/
theorem step_of_eq {now : Nat} (h : desk s' = desk s) :
    PauseDesk.Step now (desk s) (desk s') .other := by
  rw [h]
  exact .other rfl le_rfl rfl

theorem setup_desk (he : e.isSetup = true) (h : call env e w = .ok w') :
    PauseDesk.Step env.timestamp (desk w.store) (desk w'.store)
      (pauseAct e) := by
  cases e with
  | initContract =>
      obtain ⟨h, -⟩ := onStore_ok.mp h
      simp only [initContract, bind_ok, ensure_ok, pure_ok,
        exists_const] at h
      obtain ⟨-, hs⟩ := h
      exact step_of_eq (by rw [← hs]; rfl)
  | setUsdc =>
      obtain ⟨h, -⟩ := onStore_ok.mp h
      simp only [setUsdc, bind_ok, pure_ok] at h
      obtain ⟨-, -, hs⟩ := h
      exact step_of_eq (by rw [← hs]; rfl)
  | setCureGrace =>
      obtain ⟨h, -⟩ := onStore_ok.mp h
      simp only [setCureGrace, bind_ok, ensure_ok, pure_ok,
        exists_const] at h
      obtain ⟨-, -, -, hs⟩ := h
      exact step_of_eq (by rw [← hs]; rfl)
  | setMaturityGrace =>
      obtain ⟨h, -⟩ := onStore_ok.mp h
      simp only [setMaturityGrace, bind_ok, ensure_ok, pure_ok,
        exists_const] at h
      obtain ⟨-, -, -, hs⟩ := h
      exact step_of_eq (by rw [← hs]; rfl)
  | configureAsset =>
      obtain ⟨h, -⟩ := onStore_ok.mp h
      simp only [configureAsset, bind_ok, ensure_ok, pure_ok,
        exists_const] at h
      obtain ⟨-, -, -, -, -, hs⟩ := h
      exact step_of_eq (by rw [← hs]; rfl)
  | disableAsset =>
      obtain ⟨h, -⟩ := onStore_ok.mp h
      simp only [disableAsset, bind_ok, pure_ok] at h
      obtain ⟨-, -, -, -, hs⟩ := h
      exact step_of_eq (by rw [← hs]; rfl)
  | enableAsset =>
      obtain ⟨h, -⟩ := onStore_ok.mp h
      simp only [enableAsset, bind_ok, pure_ok] at h
      obtain ⟨-, -, -, -, hs⟩ := h
      exact step_of_eq (by rw [← hs]; rfl)
  | pause =>
      obtain ⟨h, -⟩ := onStore_ok.mp h
      simp only [pause, bind_ok, pure_ok] at h
      obtain ⟨-, -, -, -, hs⟩ := h
      rw [← hs]
      exact .pause rfl rfl
  | queueUnpause admin scope =>
      obtain ⟨h, -⟩ := onStore_ok.mp h
      obtain ⟨⟨id, s'⟩, h, hs⟩ := map_ok.mp h
      obtain ⟨-, hp⟩ := queued_ok h
      rw [← hs, congrArg Prod.snd hp]
      exact PauseDesk.stored_queue rfl
  | cancelUnpause admin id =>
      obtain ⟨h, -⟩ := onStore_ok.mp h
      obtain ⟨p, hp, hs⟩ := cancelled_ok h
      rw [hs]
      exact PauseDesk.stored_cancel hp
  | executeUnpause id =>
      obtain ⟨h, -⟩ := onStore_ok.mp h
      obtain ⟨p, hp, hready, hs⟩ := executed_ok h
      rw [hs]
      exact PauseDesk.stored_execute hp hready
  | _ => cases he

-- =========================================================== every call

theorem call_desk (h : call env e w = .ok w') :
    PauseDesk.Step env.timestamp (desk w.store) (desk w'.store)
      (pauseAct e) := by
  cases e with
  | propose =>
      obtain ⟨⟨id, w₁⟩, hp, rfl⟩ := map_ok.mp h
      obtain ⟨usdc, -, -, -, -, -, rfl⟩ := propose_ok hp
      exact .other rfl (Nat.le_succ _) rfl
  | cancelProposal =>
      obtain ⟨t, tokens, -, -, -, -, rfl⟩ := cancelProposal_ok h
      exact step_of_eq rfl
  | acceptAndSettle =>
      obtain ⟨t, usdc, tokens₁, tokens₂, -, -, -, -, -, -, -, -, -,
        -, rfl⟩ := acceptAndSettle_ok h
      refine step_of_eq ?_
      simp only [desk_publish, desk_writeTrade, desk_writeBorrowerDue]
  | unwind =>
      obtain ⟨t, usdc, start, tokens, -, -, -, -, -, -, -, rfl⟩ :=
        unwind_ok h
      refine step_of_eq ?_
      simp only [desk_publish, desk_writeTrade, desk_writeBorrowerDue]
  | callMargin =>
      obtain ⟨h, -⟩ := onStore_ok.mp h
      obtain ⟨t, -, -, hs | ⟨t', ev, -, hs⟩⟩ :=
        callMargin_marginOnly h
      · exact step_of_eq (by rw [hs])
      · exact step_of_eq (by rw [hs]; rfl)
  | topUp =>
      obtain ⟨t, t', ev, -, -, -, -, -, -, rfl⟩ := topUp_ok h
      exact step_of_eq rfl
  | defaultClose =>
      obtain ⟨t, _, _, _, share, tokens, -, -, -, -, -, -, -, -, -, -, -,
        rfl⟩ := defaultClose_ok h
      refine step_of_eq ?_
      simp only [desk_publish, desk_writeTrade, desk_writeBorrowerDue]
  | defaultAtMaturity =>
      obtain ⟨t, _, _, _, _, share, tokens, -, -, -, -, -, -, -, -, -, -, -,
        rfl⟩ := defaultAtMaturity_ok h
      exact step_of_eq rfl
  | _ => exact setup_desk rfl h

/-- What a transaction asks of the desk: token activity elsewhere asks
nothing. -/
def Tx.pauseAct : Tx → PauseAct
  | .call _ e => RepoDvp.pauseAct e
  | .outside _ => .other

/-- The repo contract keeps a pause desk. -/
def pausing (self : Address) : Pausing ((machine self).clocked Tx.at) where
  time := Prod.fst
  act a := a.2.pauseAct
  desk w := desk w.store
  init _ := rfl
  step c happ := by
    obtain ⟨⟨now, tx⟩, w, w'⟩ := c
    cases tx with
    | call env e =>
        have hcall : call (({ env with timestamp := now } : Env).at self) e
            w = .ok w' := happ
        exact call_desk hcall
    | outside tokens =>
        have hw' : { w with tokens := tokens } = w' := by
          simpa [clocked, machine, Tx.at] using happ
        subst hw'
        exact .other rfl le_rfl rfl

end Ballast.RepoDvp
