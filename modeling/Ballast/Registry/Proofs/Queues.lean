/-
`Registry` as a governed contract: its four queues and its roles.

`note` says what a committed call did to the queues, with the id a
queueing call returned and the item an executing call found; `enact`
and `direct` say what an item and a call by itself do to the rest. The
laws `Governed` asks for are read off the inversion lemmas, one case
per entry point.

Unpauses are a queue like the others, with the same delay and the same
counter, and are run through the same law; what they do to the flags is
the pause desk's business. A queue is read as a function from ids to
what waits there, so a map of the storage that is not touched is a queue
that is not moved.
-/
import Ballast.Common.Governance
import Ballast.Registry.Proofs.Steps

namespace Ballast.Registry

open Soroban Machine

-- ============================================================ the queues

/-- The queues, each a key space of its own. -/
inductive Kind where
  | param
  | unpause
  | role
  | upgrade
  deriving DecidableEq, Repr

/-- What may be queued. -/
inductive Item where
  | param (asset : Address) (change : ParamChange)
  | unpause (scope : PauseScope)
  | role (role : RoleKind) (newAddress : Address)
  | upgrade (newWasmHash : BytesN 32)
  deriving DecidableEq, Repr

/-- The queues of a state. -/
def queue (s : State) : Queue Kind Item where
  next := s.nextId
  waiting
    | .param, n => (s.pendingParam.get n).map fun p =>
        (.param p.asset p.change, p.executesAt)
    | .unpause, n => (s.pendingUnpause.get n).map fun p =>
        (.unpause p.scope, p.executesAt)
    | .role, n => (s.pendingRoleChange.get n).map fun p =>
        (.role p.role p.newAddress, p.executesAt)
    | .upgrade, n => (s.pendingUpgrade.get n).map fun p =>
        (.upgrade p.newWasmHash, p.executesAt)

/-- A queueing call, by the id it returned. -/
def queuedAs (kind : Kind) (item : Item) (r : Call (Nat × State)) :
    Option (Note Kind Item) :=
  r.toOption.map fun p => .queued kind p.1 item

/-- An executing call, by the item it found. -/
def executedAs (kind : Kind) (id : Nat) (s : State) :
    Option (Note Kind Item) :=
  ((queue s).waiting kind id).map fun p => .executed kind id p.1

theorem queuedAs_ok {kind : Kind} {item : Item} {r : Call (Nat × State)}
    {p : Nat × State} (h : r = .ok p) :
    queuedAs kind item r = some (.queued kind p.1 item) := by
  rw [h]
  rfl

theorem executedAs_some {kind : Kind} {id readyAt : Nat} {item : Item}
    {s : State} (h : (queue s).waiting kind id = some (item, readyAt)) :
    executedAs kind id s = some (.executed kind id item) := by
  rw [executedAs, h]
  rfl

/-- What a call made in `s` does to the queues, if it commits. -/
def note (env : HostEnv) (s : State) : Entry → Option (Note Kind Item)
  | .queueRoleChange role a =>
      queuedAs .role (.role role a) (queueRoleChange env role a s)
  | .executeRoleChange id => executedAs .role id s
  | .queueParam admin asset change =>
      queuedAs .param (.param asset change)
        (queueParam env admin asset change s)
  | .cancelParam _ id => some (.cancelled .param id)
  | .executeParam id => executedAs .param id s
  | .queueUnpause admin scope =>
      queuedAs .unpause (.unpause scope) (queueUnpause env admin scope s)
  | .cancelUnpause _ id => some (.cancelled .unpause id)
  | .executeUnpause id => executedAs .unpause id s
  | .queueUpgrade admin hash =>
      queuedAs .upgrade (.upgrade hash) (queueUpgrade env admin hash s)
  | .cancelUpgrade _ id => some (.cancelled .upgrade id)
  | .executeUpgrade id => executedAs .upgrade id s
  | _ => none

/-- The role book of a state. -/
def book (s : State) : RoleBook := ⟨s.roles, s.pendingAdmin⟩

/-- What a call made in `s` does to the role book, if it commits. -/
def act (s : State) : Entry → RoleAct
  | .initContract .. => .installed
  | .proposeAdmin a => .proposed a
  | .acceptAdmin => .accepted
  | .executeRoleChange id =>
      match s.pendingRoleChange.get id with
      | some p => .rotated p.role p.newAddress
      | none => .quiet
  | _ => .quiet

-- ============================================================ the rules

/-- The storage without queues, counter and events. -/
structure Rules where
  book : RoleBook
  paused : Store PauseScope Bool
  assets : Store Address AssetConfig
  wasm : Option (BytesN 32)

def rules (s : State) : Rules := ⟨book s, s.paused, s.assets, s.wasm⟩

/-- What a queued item changes when its time has come. -/
def Item.enact : Item → Rules → Rules
  | .param asset change, r =>
      { r with assets := r.assets.adjust asset change.apply }
  | .unpause scope, r => { r with paused := r.paused.set scope false }
  | .role kind a, r => { r with book := r.book.rotate kind a }
  | .upgrade hash, r => { r with wasm := some hash }

/-- What a call changes by its own arguments. -/
def direct : Entry → Rules → Rules
  | .initContract admin pauser keeper pricePublisher risk, r =>
      { r with book := { r.book with
          roles := some ⟨admin, pauser, keeper, pricePublisher, risk⟩ } }
  | .proposeAdmin a, r =>
      { r with book := { r.book with pendingAdmin := some a } }
  | .acceptAdmin, r => { r with book := r.book.accept }
  | .registerAsset _ asset config, r =>
      { r with assets := r.assets.set asset config }
  | .raiseHaircutNow _ asset addBps, r =>
      { r with assets := r.assets.adjust asset fun c =>
          { c with haircutBaseBps := c.haircutBaseBps + addBps } }
  | .pause _ scope, r => { r with paused := r.paused.set scope true }
  | _, r => r

-- ============================================================= one call

variable {env : HostEnv} {s s' : State} {e : Entry}

theorem call_queue (h : call env e s = .ok s') :
    Queue.Move timelockDelaySeconds env.timestamp (queue s) (queue s')
      (note env s e) := by
  cases e with
  | initContract =>
      obtain ⟨-, rfl⟩ := initContract_ok h
      exact .quiet le_rfl rfl
  | proposeAdmin =>
      obtain ⟨-, rfl⟩ := proposeAdmin_ok h
      exact .quiet le_rfl rfl
  | acceptAdmin =>
      obtain ⟨r, a, -, -, -, rfl⟩ := acceptAdmin_ok h
      exact .quiet le_rfl rfl
  | queueRoleChange role a =>
      obtain ⟨p, hp, rfl⟩ := map_ok.mp h
      obtain ⟨-, heq⟩ := queueRoleChange_ok hp
      subst heq
      rw [note, queuedAs_ok hp]
      refine .queued rfl ?_
      funext k n
      cases k <;> simp [queue, Queue.entry, Store.map_get_set]
  | executeRoleChange id =>
      obtain ⟨p, r, hp, hready, -, rfl⟩ := executeRoleChange_ok h
      have hwait : (queue s).waiting .role id
          = some (.role p.role p.newAddress, p.executesAt) := by
        simp [queue, hp]
      rw [note, executedAs_some hwait]
      refine .executed hwait hready rfl ?_
      funext k n
      cases k <;> simp [queue, Queue.entry, Store.map_get_remove]
  | registerAsset =>
      obtain ⟨-, -, rfl⟩ := registerAsset_ok h
      exact .quiet le_rfl rfl
  | queueParam admin asset change =>
      obtain ⟨p, hp, rfl⟩ := map_ok.mp h
      obtain ⟨-, heq⟩ := queueParam_ok hp
      subst heq
      rw [note, queuedAs_ok hp]
      refine .queued rfl ?_
      funext k n
      cases k <;> simp [queue, publish, Queue.entry, Store.map_get_set]
  | cancelParam admin id =>
      obtain ⟨p, hp, rfl⟩ := cancelParam_ok h
      refine .cancelled (by simp [queue, hp]) rfl ?_
      funext k n
      cases k <;> simp [queue, publish, Queue.entry, Store.map_get_remove]
  | executeParam id =>
      obtain ⟨p, config, hp, hready, -, -, rfl⟩ := executeParam_ok h
      have hwait : (queue s).waiting .param id
          = some (.param p.asset p.change, p.executesAt) := by
        simp [queue, hp]
      rw [note, executedAs_some hwait]
      refine .executed hwait hready rfl ?_
      funext k n
      cases k <;>
        simp [queue, publish, writeAsset, Queue.entry, Store.map_get_remove]
  | raiseHaircutNow =>
      obtain ⟨config, -, -, rfl⟩ := raiseHaircutNow_ok h
      exact .quiet le_rfl rfl
  | pause =>
      rw [pause_ok h]
      exact .quiet le_rfl rfl
  | queueUnpause admin scope =>
      obtain ⟨p, hp, rfl⟩ := map_ok.mp h
      obtain ⟨-, heq⟩ := queueUnpause_ok hp
      subst heq
      rw [note, queuedAs_ok hp]
      refine .queued rfl ?_
      funext k n
      cases k <;> simp [queue, publish, Queue.entry, Store.map_get_set]
  | cancelUnpause admin id =>
      obtain ⟨p, hp, rfl⟩ := cancelUnpause_ok h
      refine .cancelled (by simp [queue, hp]) rfl ?_
      funext k n
      cases k <;> simp [queue, publish, Queue.entry, Store.map_get_remove]
  | executeUnpause id =>
      obtain ⟨p, hp, hready, rfl⟩ := executeUnpause_ok h
      have hwait : (queue s).waiting .unpause id
          = some (.unpause p.scope, p.executesAt) := by
        simp [queue, hp]
      rw [note, executedAs_some hwait]
      refine .executed hwait hready rfl ?_
      funext k n
      cases k <;> simp [queue, publish, Queue.entry, Store.map_get_remove]
  | queueUpgrade admin hash =>
      obtain ⟨p, hp, rfl⟩ := map_ok.mp h
      obtain ⟨-, heq⟩ := queueUpgrade_ok hp
      subst heq
      rw [note, queuedAs_ok hp]
      refine .queued rfl ?_
      funext k n
      cases k <;> simp [queue, publish, Queue.entry, Store.map_get_set]
  | cancelUpgrade admin id =>
      obtain ⟨p, hp, rfl⟩ := cancelUpgrade_ok h
      refine .cancelled (by simp [queue, hp]) rfl ?_
      funext k n
      cases k <;> simp [queue, publish, Queue.entry, Store.map_get_remove]
  | executeUpgrade id =>
      obtain ⟨p, hp, hready, rfl⟩ := executeUpgrade_ok h
      have hwait : (queue s).waiting .upgrade id
          = some (.upgrade p.newWasmHash, p.executesAt) := by
        simp [queue, hp]
      rw [note, executedAs_some hwait]
      refine .executed hwait hready rfl ?_
      funext k n
      cases k <;> simp [queue, publish, Queue.entry, Store.map_get_remove]

theorem call_book (h : call env e s = .ok s') :
    RoleBook.Move env (book s) (book s') (act s e) := by
  cases e with
  | initContract =>
      obtain ⟨hnone, rfl⟩ := initContract_ok h
      exact .installed hnone rfl
  | proposeAdmin =>
      obtain ⟨⟨r, hr, hgrants⟩, rfl⟩ := proposeAdmin_ok h
      exact .proposed hr hgrants rfl
  | acceptAdmin =>
      obtain ⟨r, a, hr, ha, hgrants, rfl⟩ := acceptAdmin_ok h
      exact .accepted hr ha hgrants rfl
  | queueRoleChange =>
      obtain ⟨p, hp, rfl⟩ := map_ok.mp h
      obtain ⟨-, rfl⟩ := queueRoleChange_ok hp
      exact .quiet rfl
  | executeRoleChange id =>
      obtain ⟨p, r, hp, -, hr, rfl⟩ := executeRoleChange_ok h
      rw [act, hp]
      exact .rotated hr rfl
  | registerAsset =>
      obtain ⟨-, -, rfl⟩ := registerAsset_ok h
      exact .quiet rfl
  | queueParam =>
      obtain ⟨p, hp, rfl⟩ := map_ok.mp h
      obtain ⟨-, rfl⟩ := queueParam_ok hp
      exact .quiet rfl
  | cancelParam =>
      obtain ⟨p, -, rfl⟩ := cancelParam_ok h
      exact .quiet rfl
  | executeParam =>
      obtain ⟨p, config, -, -, -, -, rfl⟩ := executeParam_ok h
      exact .quiet rfl
  | raiseHaircutNow =>
      obtain ⟨config, -, -, rfl⟩ := raiseHaircutNow_ok h
      exact .quiet rfl
  | pause =>
      rw [pause_ok h]
      exact .quiet rfl
  | queueUnpause =>
      obtain ⟨p, hp, rfl⟩ := map_ok.mp h
      obtain ⟨-, rfl⟩ := queueUnpause_ok hp
      exact .quiet rfl
  | cancelUnpause =>
      obtain ⟨p, -, rfl⟩ := cancelUnpause_ok h
      exact .quiet rfl
  | executeUnpause =>
      obtain ⟨p, -, -, rfl⟩ := executeUnpause_ok h
      exact .quiet rfl
  | queueUpgrade =>
      obtain ⟨p, hp, rfl⟩ := map_ok.mp h
      obtain ⟨-, rfl⟩ := queueUpgrade_ok hp
      exact .quiet rfl
  | cancelUpgrade =>
      obtain ⟨p, -, rfl⟩ := cancelUpgrade_ok h
      exact .quiet rfl
  | executeUpgrade =>
      obtain ⟨p, -, -, rfl⟩ := executeUpgrade_ok h
      exact .quiet rfl

theorem call_rules (h : call env e s = .ok s') :
    rules s' = enacted Item.enact (direct e) (note env s e) (rules s) := by
  cases e with
  | initContract =>
      obtain ⟨-, rfl⟩ := initContract_ok h
      rfl
  | proposeAdmin =>
      obtain ⟨-, rfl⟩ := proposeAdmin_ok h
      rfl
  | acceptAdmin =>
      obtain ⟨r, a, hr, ha, -, rfl⟩ := acceptAdmin_ok h
      have hbook : (book s).accept = ⟨some { r with admin := a }, none⟩ :=
        RoleBook.accept_some hr ha
      simp only [note, enacted, direct, rules, hbook]
      rfl
  | queueRoleChange =>
      obtain ⟨p, hp, rfl⟩ := map_ok.mp h
      obtain ⟨-, rfl⟩ := queueRoleChange_ok hp
      rw [note, queuedAs_ok hp]
      rfl
  | executeRoleChange id =>
      obtain ⟨p, r, hp, -, hr, rfl⟩ := executeRoleChange_ok h
      have hbook : (book s).rotate p.role p.newAddress
          = { book s with roles := some (r.write p.role p.newAddress) } :=
        RoleBook.rotate_some hr _ _
      simp only [note, executedAs, queue, hp, Option.map_some, enacted,
        Item.enact, rules, hbook]
      rfl
  | registerAsset =>
      obtain ⟨-, -, rfl⟩ := registerAsset_ok h
      rfl
  | queueParam =>
      obtain ⟨p, hp, rfl⟩ := map_ok.mp h
      obtain ⟨-, rfl⟩ := queueParam_ok hp
      rw [note, queuedAs_ok hp]
      rfl
  | cancelParam =>
      obtain ⟨p, -, rfl⟩ := cancelParam_ok h
      rfl
  | executeParam id =>
      obtain ⟨p, config, hp, -, hconfig, -, rfl⟩ := executeParam_ok h
      simp only [note, executedAs, queue, hp, Option.map_some, enacted,
        Item.enact, rules, Store.adjust_some _ hconfig]
      rfl
  | raiseHaircutNow =>
      obtain ⟨config, hconfig, -, rfl⟩ := raiseHaircutNow_ok h
      simp only [note, enacted, direct, rules, Store.adjust_some _ hconfig]
      rfl
  | pause =>
      rw [pause_ok h]
      rfl
  | queueUnpause =>
      obtain ⟨p, hp, rfl⟩ := map_ok.mp h
      obtain ⟨-, rfl⟩ := queueUnpause_ok hp
      rw [note, queuedAs_ok hp]
      rfl
  | cancelUnpause =>
      obtain ⟨p, -, rfl⟩ := cancelUnpause_ok h
      rfl
  | executeUnpause id =>
      obtain ⟨p, hp, -, rfl⟩ := executeUnpause_ok h
      simp only [note, executedAs, queue, hp, Option.map_some, enacted,
        Item.enact]
      rfl
  | queueUpgrade =>
      obtain ⟨p, hp, rfl⟩ := map_ok.mp h
      obtain ⟨-, rfl⟩ := queueUpgrade_ok hp
      rw [note, queuedAs_ok hp]
      rfl
  | cancelUpgrade =>
      obtain ⟨p, -, rfl⟩ := cancelUpgrade_ok h
      rfl
  | executeUpgrade id =>
      obtain ⟨p, hp, -, rfl⟩ := executeUpgrade_ok h
      simp only [note, executedAs, queue, hp, Option.map_some, enacted,
        Item.enact]
      rfl

/-- Only the admin queues. -/
theorem call_signed (h : call env e s = .ok s') {k : Kind} {n : Nat}
    {item : Item} (hn : note env s e = some (.queued k n item)) :
    ∃ r, s.roles = some r ∧ env.Grants r.admin := by
  cases e with
  | queueRoleChange =>
      obtain ⟨p, hp, -⟩ := map_ok.mp h
      exact (queueRoleChange_ok hp).1
  | queueParam =>
      obtain ⟨p, hp, -⟩ := map_ok.mp h
      exact (queueParam_ok hp).1
  | queueUnpause =>
      obtain ⟨p, hp, -⟩ := map_ok.mp h
      exact (queueUnpause_ok hp).1
  | queueUpgrade =>
      obtain ⟨p, hp, -⟩ := map_ok.mp h
      exact (queueUpgrade_ok hp).1
  | _ => simp [note, executedAs] at hn

/-- A rotation is the execution of a queued one. -/
theorem note_of_rotated {role : RoleKind} {a : Address}
    (h : act s e = .rotated role a) :
    ∃ n, note env s e = some (.executed .role n (.role role a)) := by
  cases e with
  | executeRoleChange id =>
      cases hp : s.pendingRoleChange.get id with
      | none => simp [act, hp] at h
      | some p =>
          simp only [act, hp, RoleAct.rotated.injEq] at h
          obtain ⟨rfl, rfl⟩ := h
          exact ⟨id, by simp [note, executedAs, queue, hp]⟩
  | _ => cases h

-- =========================================================== all runs

theorem apply_call {self : Address} {tx : Tx}
    (h : (machine self).apply tx s = .ok s') :
    call (tx.envAt self) tx.entry s = .ok s' := by
  simp only [machine, bind_ok, ensure_ok, exists_const] at h
  exact h.2

/-- The registry as a governed contract. -/
def governed (self : Address) :
    Governed (machine self) Kind Item Rules where
  delay := timelockDelaySeconds
  time := Tx.time
  queue := queue
  note c := note (c.call.envAt self) c.before c.call.entry
  init k n := by cases k <;> rfl
  move c h := call_queue (apply_call h)
  env tx := tx.envAt self
  rules := rules
  enact := Item.enact
  direct tx := direct tx.entry
  book := book
  act c := act c.before c.call.entry
  rotation := .role
  delay_eq := rfl
  book_init := rfl
  book_move c h := call_book (apply_call h)
  signed c h n hn := by
    obtain ⟨k, item, hn⟩ := hn
    exact call_signed (apply_call h) hn
  rotated c h role a hact := ⟨.role, note_of_rotated hact⟩
  ruled c h := call_rules (apply_call h)

end Ballast.Registry
