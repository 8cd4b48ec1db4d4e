/-
What the repo desk's pause flags decide: `accept_and_settle`, and nothing
else. Every other entry point does the same to the trades, the dues and
the tokens whatever is paused, is waiting to be unpaused, or has been
published.

The comparison is the exit desk's: two storages that differ in the
flags, the queued unpauses and the events alone are told apart by no
entry point but `accept_and_settle`. In particular a settled trade can
be unwound, margined, topped up and defaulted while the desk is paused.
-/
import Ballast.RepoDvp.Proofs.Steps
import Ballast.Soroban.Purge

namespace Ballast.RepoDvp

open Soroban

/-- The storage without the flags, the queued unpauses and the events. -/
def State.unflagged (s : State) : State :=
  { s with
    paused := Store.empty
    pendingUnpause := Store.empty
    events := [] }

/-- What anybody but the pauser sees. -/
def unflagged : World State → World State :=
  World.seen State.unflagged

/-- The same storage with other flags. -/
def State.flagged (flags : Store PauseScope Bool)
    (pending : Store Nat PendingUnpause) (events : List Event) (s : State) :
    State :=
  { s with
    paused := flags
    pendingUnpause := pending
    events := events }

variable {flags : Store PauseScope Bool} {pending : Store Nat PendingUnpause}
  {events : List Event} {env : Env} {s : State} {tokens : Ledger}

theorem flagged_of_unflagged {w w' : World State}
    (h : unflagged w = unflagged w') :
    w' = ⟨w.tokens, w.store.flagged w'.store.paused w'.store.pendingUnpause
      w'.store.events⟩ := by
  obtain ⟨htokens, hstore⟩ := World.seen_inj h
  calc w'
      = ⟨w'.tokens, w'.store.unflagged.flagged w'.store.paused
          w'.store.pendingUnpause w'.store.events⟩ := rfl
    _ = ⟨w.tokens, w.store.unflagged.flagged w'.store.paused
          w'.store.pendingUnpause w'.store.events⟩ := by
        rw [htokens, hstore]

-- ====================================================== the entry points

theorem writeBorrowerDue_blind (b : Address) (due : Int) (expiry : Nat) :
    (writeBorrowerDue (s.flagged flags pending events) b due
        expiry).unflagged
      = (writeBorrowerDue s b due expiry).unflagged := by
  unfold writeBorrowerDue
  split <;> rfl

theorem releaseBorrowerDue_blind (t : RepoTrade) (e : Event) :
    Except.map unflagged (do
        let s ← releaseBorrowerDue (s.flagged flags pending events) t
        return ⟨tokens, publish s e⟩)
      = Except.map unflagged (do
        let s ← releaseBorrowerDue s t
        return ⟨tokens, publish s e⟩) := by
  unfold releaseBorrowerDue
  simp only [bind_assoc, pure_bind]
  repeat refine map_bind_congr fun _ => ?_
  exact congrArg (fun s => (.ok ⟨tokens, s⟩ : Call (World State)))
    (writeBorrowerDue_blind _ _ _)

theorem propose_blind (lender borrower asset : Address) (units cash : Int)
    (rateBps : Nat) (kind : RepoKind) (maturityAt : Nat)
    (agreement : BytesN 32) :
    ((propose env lender borrower asset units cash rateBps kind maturityAt
        agreement ⟨tokens, s.flagged flags pending events⟩).map
          Prod.snd).map unflagged
      = ((propose env lender borrower asset units cash rateBps kind
        maturityAt agreement ⟨tokens, s⟩).map Prod.snd).map unflagged := by
  rw [map_map, map_map]
  unfold propose
  repeat refine map_bind_congr fun _ => ?_
  rfl

theorem cancelProposal_blind (caller : Address) (id : Nat) :
    (cancelProposal env caller id
        ⟨tokens, s.flagged flags pending events⟩).map unflagged
      = (cancelProposal env caller id ⟨tokens, s⟩).map unflagged := by
  unfold cancelProposal
  repeat refine map_bind_congr fun _ => ?_
  rfl

theorem unwind_blind (caller : Address) (id : Nat) :
    (unwind env caller id ⟨tokens, s.flagged flags pending events⟩).map
        unflagged
      = (unwind env caller id ⟨tokens, s⟩).map unflagged := by
  unfold unwind
  repeat refine map_bind_congr fun _ => ?_
  exact releaseBorrowerDue_blind (s := writeTrade s _) _ _

theorem callMargin_blind (keeper : Address) (id : Nat) :
    (onStore ⟨tokens, s.flagged flags pending events⟩
        (callMargin env keeper id (s.flagged flags pending events))).map
          unflagged
      = (onStore ⟨tokens, s⟩ (callMargin env keeper id s)).map
          unflagged := by
  unfold onStore
  rw [map_map, map_map]
  unfold callMargin
  repeat refine map_bind_congr fun _ => ?_
  split
  · repeat refine map_bind_congr fun _ => ?_
    rfl
  · split <;> rfl

theorem topUp_blind (borrower : Address) (id : Nat) (extra : Int) :
    (topUp env borrower id extra
        ⟨tokens, s.flagged flags pending events⟩).map unflagged
      = (topUp env borrower id extra ⟨tokens, s⟩).map unflagged := by
  unfold topUp
  repeat refine map_bind_congr fun _ => ?_
  rfl

theorem defaultClose_blind (keeper : Address) (id : Nat) :
    (defaultClose env keeper id
        ⟨tokens, s.flagged flags pending events⟩).map unflagged
      = (defaultClose env keeper id ⟨tokens, s⟩).map unflagged := by
  unfold defaultClose
  repeat refine map_bind_congr fun _ => ?_
  exact releaseBorrowerDue_blind (s := writeTrade s _) _ _

theorem defaultAtMaturity_blind (caller : Address) (id : Nat) :
    (defaultAtMaturity env caller id
        ⟨tokens, s.flagged flags pending events⟩).map unflagged
      = (defaultAtMaturity env caller id ⟨tokens, s⟩).map unflagged := by
  unfold defaultAtMaturity
  repeat refine map_bind_congr fun _ => ?_
  rfl

/-- The desk's flags decide `accept_and_settle` alone. -/
theorem call_blind {e : Entry}
    (he : ∀ borrower id, e ≠ .acceptAndSettle borrower id)
    (hpause : ∀ pauser scope, e ≠ .pause pauser scope)
    (hcancel : ∀ admin id, e ≠ .cancelUnpause admin id)
    (hexecute : ∀ id, e ≠ .executeUnpause id) :
    (call env e ⟨tokens, s.flagged flags pending events⟩).map unflagged
      = (call env e ⟨tokens, s⟩).map unflagged := by
  cases e with
  | acceptAndSettle borrower id => exact absurd rfl (he borrower id)
  | pause pauser scope => exact absurd rfl (hpause pauser scope)
  | cancelUnpause admin id => exact absurd rfl (hcancel admin id)
  | executeUnpause id => exact absurd rfl (hexecute id)
  | propose => exact propose_blind ..
  | cancelProposal => exact cancelProposal_blind ..
  | unwind => exact unwind_blind ..
  | callMargin => exact callMargin_blind ..
  | topUp => exact topUp_blind ..
  | defaultClose => exact defaultClose_blind ..
  | defaultAtMaturity => exact defaultAtMaturity_blind ..
  | queueUnpause admin scope =>
      refine seen_congr ?_ tokens
      rw [map_map, map_map]
      unfold queueUnpause
      repeat refine map_bind_congr fun _ => ?_
      rfl
  | initContract admin pauser keeper pricePublisher risk =>
      refine seen_congr ?_ tokens
      unfold initContract
      repeat refine map_bind_congr fun _ => ?_
      rfl
  | setUsdc admin usdc =>
      refine seen_congr ?_ tokens
      unfold setUsdc
      repeat refine map_bind_congr fun _ => ?_
      rfl
  | setCureGrace admin seconds =>
      refine seen_congr ?_ tokens
      unfold setCureGrace
      repeat refine map_bind_congr fun _ => ?_
      rfl
  | setMaturityGrace admin seconds =>
      refine seen_congr ?_ tokens
      unfold setMaturityGrace
      repeat refine map_bind_congr fun _ => ?_
      rfl
  | configureAsset admin asset priceGuard haircutBps thresholds =>
      refine seen_congr ?_ tokens
      unfold configureAsset
      repeat refine map_bind_congr fun _ => ?_
      rfl
  | disableAsset admin asset =>
      refine seen_congr ?_ tokens
      unfold disableAsset
      repeat refine map_bind_congr fun _ => ?_
      rfl
  | enableAsset admin asset =>
      refine seen_congr ?_ tokens
      unfold enableAsset
      repeat refine map_bind_congr fun _ => ?_
      rfl

/-- Setting a flag, or lifting it, is all they do. -/
theorem pausing_unseen {e : Entry} {w w' : World State}
    (he : (∃ pauser scope, e = .pause pauser scope)
      ∨ (∃ admin id, e = .cancelUnpause admin id)
      ∨ ∃ id, e = .executeUnpause id)
    (h : call env e w = .ok w') : unflagged w' = unflagged w := by
  obtain ⟨pauser, scope, rfl⟩ | ⟨admin, id, rfl⟩ | ⟨id, rfl⟩ := he
  · obtain ⟨s, hs, rfl⟩ := map_ok.mp h
    simp only [pause, bind_ok, pure_ok] at hs
    obtain ⟨_, -, _, -, rfl⟩ := hs
    rfl
  · obtain ⟨s, hs, rfl⟩ := map_ok.mp h
    simp only [cancelUnpause, bind_ok, pure_ok] at hs
    obtain ⟨_, -, _, -, rfl⟩ := hs
    rfl
  · obtain ⟨s, hs, rfl⟩ := map_ok.mp h
    simp only [executeUnpause, bind_ok, pure_ok] at hs
    obtain ⟨_, -, _, -, rfl⟩ := hs
    rfl

end Ballast.RepoDvp
