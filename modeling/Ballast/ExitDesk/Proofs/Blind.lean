/-
What the exit desk's pause flags decide: `exit`, and nothing else. The
operator's own money moves the same whatever is paused.

The argument is a comparison: two storages that differ in the flags, the
queued unpauses and the events alone are told apart by no entry point
but `exit`, and stay so. `unflagged` forgets exactly that much, and each
lemma says of one entry point that it commutes with forgetting. Setting
a flag or lifting it then changes nothing that anybody but the pauser
sees.
-/
import Ballast.ExitDesk.Proofs.Steps
import Ballast.Soroban.Purge

namespace Ballast.ExitDesk

open Soroban

/-- The storage without the flags, the queued unpauses and the events. -/
def State.unflagged (s : State) : State :=
  { s with
    paused := Store.empty
    pendingUnpause := Store.empty
    events := [] }

/-- What anybody but the pauser sees. -/
def unflagged : World State → World State :=
  World.seen State.unflagged

/-- The same storage with other flags. -/
def State.flagged (flags : Store PauseScope Bool)
    (pending : Store Nat PendingUnpause) (events : List Event) (s : State) :
    State :=
  { s with
    paused := flags
    pendingUnpause := pending
    events := events }

variable {flags : Store PauseScope Bool} {pending : Store Nat PendingUnpause}
  {events : List Event} {env : Env} {s : State} {tokens : Ledger}

theorem flagged_of_unflagged {w w' : World State}
    (h : unflagged w = unflagged w') :
    w' = ⟨w.tokens, w.store.flagged w'.store.paused w'.store.pendingUnpause
      w'.store.events⟩ := by
  obtain ⟨htokens, hstore⟩ := World.seen_inj h
  calc w'
      = ⟨w'.tokens, w'.store.unflagged.flagged w'.store.paused
          w'.store.pendingUnpause w'.store.events⟩ := rfl
    _ = ⟨w.tokens, w.store.unflagged.flagged w'.store.paused
          w'.store.pendingUnpause w'.store.events⟩ := by
        rw [htokens, hstore]

-- ====================================================== the entry points

theorem fund_blind (caller usdc : Address) (amount : Int) :
    (fund env caller usdc amount
        ⟨tokens, s.flagged flags pending events⟩).map unflagged
      = (fund env caller usdc amount ⟨tokens, s⟩).map unflagged := by
  unfold fund
  repeat refine map_bind_congr fun _ => ?_
  rfl

/-- What is left of the inventory, with an event of the withdrawal. -/
theorem releaseInventory_blind (token : Address) (amount : Int)
    (e : Event) :
    Except.map unflagged (do
        let s ← releaseInventory (s.flagged flags pending events) token
          amount
        return ⟨tokens, publish s e⟩)
      = Except.map unflagged (do
        let s ← releaseInventory s token amount
        return ⟨tokens, publish s e⟩) := by
  unfold releaseInventory
  by_cases hasset : (s.assetConfig.get token).isSome
  · rw [if_pos hasset, if_pos (show ((s.flagged flags pending
      events).assetConfig.get token).isSome from hasset)]
    simp only [bind_assoc, pure_bind]
    repeat refine map_bind_congr fun _ => ?_
    rfl
  · rw [if_neg hasset, if_neg (show ¬ ((s.flagged flags pending
      events).assetConfig.get token).isSome from hasset)]
    rfl

theorem withdraw_blind (admin token payTo : Address) (amount : Int) :
    (withdraw env admin token amount payTo
        ⟨tokens, s.flagged flags pending events⟩).map unflagged
      = (withdraw env admin token amount payTo ⟨tokens, s⟩).map
        unflagged := by
  unfold withdraw
  repeat refine map_bind_congr fun _ => ?_
  exact releaseInventory_blind _ _ _

/-- The desk's flags decide `exit` alone. -/
theorem call_blind {e : Entry}
    (he : ∀ holder asset units minUsdcOut payTo,
      e ≠ .exit holder asset units minUsdcOut payTo)
    (hpause : ∀ pauser scope, e ≠ .pause pauser scope)
    (hcancel : ∀ admin id, e ≠ .cancelUnpause admin id)
    (hexecute : ∀ id, e ≠ .executeUnpause id) :
    (call env e ⟨tokens, s.flagged flags pending events⟩).map unflagged
      = (call env e ⟨tokens, s⟩).map unflagged := by
  cases e with
  | exit holder asset units minUsdcOut payTo =>
      exact absurd rfl (he holder asset units minUsdcOut payTo)
  | pause pauser scope => exact absurd rfl (hpause pauser scope)
  | cancelUnpause admin id => exact absurd rfl (hcancel admin id)
  | executeUnpause id => exact absurd rfl (hexecute id)
  | fund => exact fund_blind ..
  | withdraw => exact withdraw_blind ..
  | queueUnpause admin scope =>
      refine seen_congr ?_ tokens
      rw [map_map, map_map]
      unfold queueUnpause
      repeat refine map_bind_congr fun _ => ?_
      rfl
  | initContract admin pauser keeper pricePublisher risk =>
      refine seen_congr ?_ tokens
      unfold initContract
      repeat refine map_bind_congr fun _ => ?_
      rfl
  | configureAsset admin asset priceGuard spreadBps holderCap deskCap =>
      refine seen_congr ?_ tokens
      unfold configureAsset
      repeat refine map_bind_congr fun _ => ?_
      rfl
  | setUsdc admin usdc =>
      refine seen_congr ?_ tokens
      unfold setUsdc
      repeat refine map_bind_congr fun _ => ?_
      rfl
  | disableAsset admin asset =>
      refine seen_congr ?_ tokens
      unfold disableAsset
      repeat refine map_bind_congr fun _ => ?_
      rfl
  | enableAsset admin asset =>
      refine seen_congr ?_ tokens
      unfold enableAsset
      repeat refine map_bind_congr fun _ => ?_
      rfl

/-- Setting a flag, or lifting it, is all they do. -/
theorem pausing_unseen {e : Entry} {w w' : World State}
    (he : (∃ pauser scope, e = .pause pauser scope)
      ∨ (∃ admin id, e = .cancelUnpause admin id)
      ∨ ∃ id, e = .executeUnpause id)
    (h : call env e w = .ok w') : unflagged w' = unflagged w := by
  obtain ⟨pauser, scope, rfl⟩ | ⟨admin, id, rfl⟩ | ⟨id, rfl⟩ := he
  · obtain ⟨s, hs, rfl⟩ := map_ok.mp h
    simp only [pause, bind_ok, pure_ok] at hs
    obtain ⟨_, -, _, -, rfl⟩ := hs
    rfl
  · obtain ⟨s, hs, rfl⟩ := map_ok.mp h
    simp only [cancelUnpause, bind_ok, pure_ok] at hs
    obtain ⟨_, -, _, -, rfl⟩ := hs
    rfl
  · obtain ⟨s, hs, rfl⟩ := map_ok.mp h
    simp only [executeUnpause, bind_ok, pure_ok] at hs
    obtain ⟨_, -, _, -, rfl⟩ := hs
    rfl

end Ballast.ExitDesk
