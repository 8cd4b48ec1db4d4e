/-
`PriceGuard` as a governed contract: its three queues and its roles.

The same reading as for `Registry`. The entry points for prices move
neither queues nor rules, so they are one case here (`call_settings`).

# Enacted

What takes effect is compared with what was queued through `rules`, the
part of the storage a queued item can change. `direct` says what a call
changes by its own arguments, and `enacted` adds the item that an
executing call found: that the two together account for every change of
the rules is `call_rules`, and there is no third way.
-/
import Ballast.Common.Governance
import Ballast.PriceGuard.Proofs.Settings

namespace Ballast.PriceGuard

open Soroban Machine

-- ============================================================ the queues

/-- The queues, each a key space of its own. -/
inductive Kind where
  | config
  | role
  | upgrade
  deriving DecidableEq, Repr

/-- What may be queued. -/
inductive Item where
  | config (change : ConfigChange)
  | role (role : RoleKind) (newAddress : Address)
  | upgrade (newWasmHash : BytesN 32)
  deriving DecidableEq, Repr

/-- The queues among the settings. -/
def Settings.queue (c : Settings) : Queue Kind Item where
  next := c.nextId
  waiting
    | .config, n => (c.pendingConfig.get n).map fun p =>
        (.config p.change, p.executesAt)
    | .role, n => (c.pendingRoleChange.get n).map fun p =>
        (.role p.role p.newAddress, p.executesAt)
    | .upgrade, n => (c.pendingUpgrade.get n).map fun p =>
        (.upgrade p.newWasmHash, p.executesAt)

/-- The queues of a state. -/
def queue (s : State) : Queue Kind Item := (settings s).queue

/-- A queueing call, by the id it returned. -/
def queuedAs (kind : Kind) (item : Item) (r : Call (Nat × State)) :
    Option (Note Kind Item) :=
  r.toOption.map fun p => .queued kind p.1 item

/-- An executing call, by the item it found. -/
def executedAs (kind : Kind) (id : Nat) (s : State) :
    Option (Note Kind Item) :=
  ((queue s).waiting kind id).map fun p => .executed kind id p.1

/-- A queueing call that commits is noted under the id it returned. -/
theorem queuedAs_ok {kind : Kind} {item : Item} {r : Call (Nat × State)}
    {p : Nat × State} (h : r = .ok p) :
    queuedAs kind item r = some (.queued kind p.1 item) := by
  rw [h]
  rfl

/-- An executing one is noted with the item it found. -/
theorem executedAs_some {kind : Kind} {id readyAt : Nat} {item : Item}
    {s : State} (h : (queue s).waiting kind id = some (item, readyAt)) :
    executedAs kind id s = some (.executed kind id item) := by
  rw [executedAs, h]
  rfl

/-- What a call made in `s` does to the queues, if it commits. -/
def note (env : GuardEnv) (s : State) : Entry → Option (Note Kind Item)
  | .queueRoleChange role a =>
      queuedAs .role (.role role a) (queueRoleChange env role a s)
  | .executeRoleChange id => executedAs .role id s
  | .queueUpgrade admin hash =>
      queuedAs .upgrade (.upgrade hash) (queueUpgrade env admin hash s)
  | .cancelUpgrade _ id => some (.cancelled .upgrade id)
  | .executeUpgrade id => executedAs .upgrade id s
  | .queueConfig admin change =>
      queuedAs .config (.config change) (queueConfig env admin change s)
  | .cancelConfig _ id => some (.cancelled .config id)
  | .executeConfig id => executedAs .config id s
  | _ => none

/-- The role book of a state. -/
def book (s : State) : RoleBook :=
  ⟨(settings s).roles, (settings s).pendingAdmin⟩

/-- What a call made in `s` does to the role book, if it commits. -/
def act (s : State) : Entry → RoleAct
  | .initContract .. => .installed
  | .proposeAdmin a => .proposed a
  | .acceptAdmin => .accepted
  | .executeRoleChange id =>
      match s.pendingRoleChange.get id with
      | some p => .rotated p.role p.newAddress
      | none => .quiet
  | _ => .quiet

-- ============================================================ the rules

/-- The settings without queues and counter. -/
structure Rules where
  book : RoleBook
  config : Store Address AssetGuardConfig
  issuerPubKey : Store Address (BytesN 32)
  requireNavSignature : Option Bool
  wasm : Option (BytesN 32)

def rules (s : State) : Rules :=
  ⟨book s, (settings s).config, (settings s).issuerPubKey,
    (settings s).requireNavSignature, (settings s).wasm⟩

/-- A stored configuration, if there is one, rewritten. -/
def Rules.adjust (r : Rules) (asset : Address)
    (f : AssetGuardConfig → AssetGuardConfig) : Rules :=
  { r with config := r.config.adjust asset f }

/-- What a queued configuration change changes when its time has
come. -/
def Rules.enactConfig (r : Rules) : ConfigChange → Rules
  | .bandBps asset val => r.adjust asset fun c => { c with bandBps := val }
  | .dailyMoveBandBps asset val =>
      r.adjust asset fun c => { c with dailyMoveBandBps := val }
  | .windowSeconds asset val =>
      r.adjust asset fun c => { c with windowSeconds := val }
  | .windowMoveBandBps asset val =>
      r.adjust asset fun c => { c with windowMoveBandBps := val }
  | .maxStalenessSeconds asset val =>
      r.adjust asset fun c => { c with maxStalenessS := val }
  | .asset asset band daily winSec winMove staleness =>
      { r with
        config := r.config.set asset
          ⟨band, daily, staleness, winSec, winMove⟩ }
  | .issuerPubKey asset key =>
      { r with issuerPubKey := r.issuerPubKey.set asset key }
  | .requireNavSignature val => { r with requireNavSignature := some val }

/-- What a queued item changes when its time has come. -/
def Item.enact : Item → Rules → Rules
  | .config change, r => r.enactConfig change
  | .role kind a, r => { r with book := r.book.rotate kind a }
  | .upgrade hash, r => { r with wasm := some hash }

/-- What a call changes by its own arguments. -/
def direct : Entry → Rules → Rules
  | .initContract admin pauser keeper pricePublisher risk, r =>
      { r with book := { r.book with
          roles := some ⟨admin, pauser, keeper, pricePublisher, risk⟩ } }
  | .proposeAdmin a, r =>
      { r with book := { r.book with pendingAdmin := some a } }
  | .acceptAdmin, r => { r with book := r.book.accept }
  | .configureAsset _ asset band daily winSec winMove staleness, r =>
      { r with
        config := r.config.set asset
          ⟨band, daily, staleness, winSec, winMove⟩ }
  | .configureIssuerKey _ asset key, r =>
      { r with issuerPubKey := r.issuerPubKey.set asset key }
  | .configureSignatureRequirement _ required, r =>
      { r with requireNavSignature := some required }
  | _, r => r

-- ============================================================= one call

variable {env : GuardEnv} {s s' : State} {e : Entry}

/-- A call about prices leaves no note. -/
theorem Entry.Pricing.note (he : e.Pricing) : note env s e = none := by
  cases e with
  | removeSource => rfl
  | publishNav => rfl
  | publishSource => rfl
  | guardedPrice => rfl
  | confirmHaltCleared => rfl
  | _ => cases he

/-- It is no act on the roles. -/
theorem Entry.Pricing.act (he : e.Pricing) : act s e = .quiet := by
  cases e with
  | removeSource => rfl
  | publishNav => rfl
  | publishSource => rfl
  | guardedPrice => rfl
  | confirmHaltCleared => rfl
  | _ => cases he

/-- It leaves the queues as they are. -/
theorem Entry.Pricing.queue (he : e.Pricing) (h : call env e s = .ok s') :
    Queue.Move timelockDelaySeconds env.timestamp (queue s)
      (PriceGuard.queue s') (PriceGuard.note env s e) := by
  have hsame : PriceGuard.queue s' = PriceGuard.queue s := by
    rw [PriceGuard.queue, call_settings h he]
    rfl
  rw [he.note, hsame]
  exact .quiet le_rfl rfl

/-- It leaves the role book. -/
theorem Entry.Pricing.book (he : e.Pricing) (h : call env e s = .ok s') :
    RoleBook.Move env.toHostEnv (book s) (PriceGuard.book s')
      (PriceGuard.act s e) := by
  rw [he.act]
  refine .quiet ?_
  rw [PriceGuard.book, call_settings h he]
  rfl

/-- Every call moves the queues as its note says. -/
theorem call_queue (h : call env e s = .ok s') :
    Queue.Move timelockDelaySeconds env.timestamp (queue s) (queue s')
      (note env s e) := by
  cases e with
  | initContract =>
      obtain ⟨-, rfl⟩ := initContract_ok h
      exact .quiet le_rfl rfl
  | proposeAdmin =>
      obtain ⟨-, rfl⟩ := proposeAdmin_ok h
      exact .quiet le_rfl rfl
  | acceptAdmin =>
      obtain ⟨r, a, -, -, -, rfl⟩ := acceptAdmin_ok h
      exact .quiet le_rfl rfl
  | queueRoleChange role a =>
      obtain ⟨p, hp, rfl⟩ := map_ok.mp h
      obtain ⟨-, heq⟩ := queueRoleChange_ok hp
      subst heq
      rw [note, queuedAs_ok hp]
      refine .queued rfl ?_
      funext k n
      cases k <;> simp [queue, Settings.queue, settings, Queue.entry,
        Store.map_get_set]
  | executeRoleChange id =>
      obtain ⟨p, r, hp, hready, -, rfl⟩ := executeRoleChange_ok h
      have hwait : (queue s).waiting .role id
          = some (.role p.role p.newAddress, p.executesAt) := by
        simp [queue, Settings.queue, settings, hp]
      rw [note, executedAs_some hwait]
      refine .executed hwait hready rfl ?_
      funext k n
      cases k <;> simp [queue, Settings.queue, settings, Queue.entry,
        Store.map_get_remove]
  | queueUpgrade admin hash =>
      obtain ⟨p, hp, rfl⟩ := map_ok.mp h
      obtain ⟨-, heq⟩ := queueUpgrade_ok hp
      subst heq
      rw [note, queuedAs_ok hp]
      refine .queued rfl ?_
      funext k n
      cases k <;> simp [queue, Settings.queue, settings, publish,
        Queue.entry, Store.map_get_set]
  | cancelUpgrade admin id =>
      obtain ⟨p, hp, rfl⟩ := cancelUpgrade_ok h
      refine .cancelled (by simp [queue, Settings.queue, settings, hp]) rfl ?_
      funext k n
      cases k <;> simp [queue, Settings.queue, settings, publish,
        Queue.entry, Store.map_get_remove]
  | executeUpgrade id =>
      obtain ⟨p, hp, hready, rfl⟩ := executeUpgrade_ok h
      have hwait : (queue s).waiting .upgrade id
          = some (.upgrade p.newWasmHash, p.executesAt) := by
        simp [queue, Settings.queue, settings, hp]
      rw [note, executedAs_some hwait]
      refine .executed hwait hready rfl ?_
      funext k n
      cases k <;> simp [queue, Settings.queue, settings, publish,
        Queue.entry, Store.map_get_remove]
  | configureAsset =>
      obtain ⟨-, rfl⟩ := configureAsset_ok h
      exact .quiet le_rfl rfl
  | configureIssuerKey =>
      obtain ⟨-, rfl⟩ := configureIssuerKey_ok h
      exact .quiet le_rfl rfl
  | configureSignatureRequirement =>
      obtain ⟨-, -, rfl⟩ := configureSignatureRequirement_ok h
      exact .quiet le_rfl rfl
  | queueConfig admin change =>
      obtain ⟨p, hp, rfl⟩ := map_ok.mp h
      obtain ⟨-, heq⟩ := queueConfig_ok hp
      subst heq
      rw [note, queuedAs_ok hp]
      refine .queued rfl ?_
      funext k n
      cases k <;> simp [queue, Settings.queue, settings, publish,
        Queue.entry, Store.map_get_set]
  | cancelConfig admin id =>
      obtain ⟨p, hp, rfl⟩ := cancelConfig_ok h
      refine .cancelled (by simp [queue, Settings.queue, settings, hp]) rfl ?_
      funext k n
      cases k <;> simp [queue, Settings.queue, settings, publish,
        Queue.entry, Store.map_get_remove]
  | executeConfig id =>
      obtain ⟨p, hp, hready, hs'⟩ := executeConfig_ok h
      have hwait : (queue s).waiting .config id
          = some (.config p.change, p.executesAt) := by
        simp [queue, Settings.queue, settings, hp]
      rw [note, executedAs_some hwait]
      refine .executed hwait hready ?_ ?_
      · rw [queue, hs']
        rfl
      · funext k n
        rw [queue, hs']
        cases k <;> simp [queue, Settings.queue, settings, Queue.entry,
          Store.map_get_remove]
  | removeSource => exact Entry.Pricing.queue trivial h
  | publishNav => exact Entry.Pricing.queue trivial h
  | publishSource => exact Entry.Pricing.queue trivial h
  | guardedPrice => exact Entry.Pricing.queue trivial h
  | confirmHaltCleared => exact Entry.Pricing.queue trivial h

/-- And the role book as its act says. -/
theorem call_book (h : call env e s = .ok s') :
    RoleBook.Move env.toHostEnv (book s) (book s') (act s e) := by
  cases e with
  | initContract =>
      obtain ⟨hnone, rfl⟩ := initContract_ok h
      exact .installed hnone rfl
  | proposeAdmin =>
      obtain ⟨⟨r, hr, hgrants⟩, rfl⟩ := proposeAdmin_ok h
      exact .proposed hr hgrants rfl
  | acceptAdmin =>
      obtain ⟨r, a, hr, ha, hgrants, rfl⟩ := acceptAdmin_ok h
      exact .accepted hr ha hgrants rfl
  | queueRoleChange =>
      obtain ⟨p, hp, rfl⟩ := map_ok.mp h
      obtain ⟨-, rfl⟩ := queueRoleChange_ok hp
      exact .quiet rfl
  | executeRoleChange id =>
      obtain ⟨p, r, hp, -, hr, rfl⟩ := executeRoleChange_ok h
      rw [act, hp]
      exact .rotated hr rfl
  | queueUpgrade =>
      obtain ⟨p, hp, rfl⟩ := map_ok.mp h
      obtain ⟨-, rfl⟩ := queueUpgrade_ok hp
      exact .quiet rfl
  | cancelUpgrade =>
      obtain ⟨p, -, rfl⟩ := cancelUpgrade_ok h
      exact .quiet rfl
  | executeUpgrade =>
      obtain ⟨p, -, -, rfl⟩ := executeUpgrade_ok h
      exact .quiet rfl
  | configureAsset =>
      obtain ⟨-, rfl⟩ := configureAsset_ok h
      exact .quiet rfl
  | configureIssuerKey =>
      obtain ⟨-, rfl⟩ := configureIssuerKey_ok h
      exact .quiet rfl
  | configureSignatureRequirement =>
      obtain ⟨-, -, rfl⟩ := configureSignatureRequirement_ok h
      exact .quiet rfl
  | queueConfig =>
      obtain ⟨p, hp, rfl⟩ := map_ok.mp h
      obtain ⟨-, rfl⟩ := queueConfig_ok hp
      exact .quiet rfl
  | cancelConfig =>
      obtain ⟨p, -, rfl⟩ := cancelConfig_ok h
      exact .quiet rfl
  | executeConfig =>
      obtain ⟨p, -, -, hs'⟩ := executeConfig_ok h
      refine .quiet ?_
      rw [book, hs']
      rfl
  | removeSource => exact Entry.Pricing.book trivial h
  | publishNav => exact Entry.Pricing.book trivial h
  | publishSource => exact Entry.Pricing.book trivial h
  | guardedPrice => exact Entry.Pricing.book trivial h
  | confirmHaltCleared => exact Entry.Pricing.book trivial h

/-- A configuration change, applied, is the item enacted. -/
theorem applyChange_rules {c : ConfigChange}
    (h : applyChange s c = .ok s') : rules s' = (rules s).enactConfig c := by
  have hupdate : ∀ a f, updateConfig s a f = .ok s' →
      rules s' = (rules s).adjust a f := by
    intro a f hf
    simp only [updateConfig, readConfig, bind_ok, expect_ok, pure_ok] at hf
    obtain ⟨config, hconfig, rfl⟩ := hf
    simp only [Rules.adjust, rules, settings, Store.adjust_some _ hconfig]
    rfl
  cases c with
  | asset =>
      simp only [applyChange, pure_ok] at h
      subst h
      rfl
  | issuerPubKey =>
      simp only [applyChange, pure_ok] at h
      subst h
      rfl
  | requireNavSignature =>
      simp only [applyChange, pure_ok] at h
      subst h
      rfl
  | _ => exact hupdate _ _ h

/-- And the rules. -/
theorem Entry.Pricing.rules (he : e.Pricing) (h : call env e s = .ok s') :
    rules s' = enacted Item.enact (direct e) (PriceGuard.note env s e)
      (PriceGuard.rules s) := by
  have hdirect : direct e = id := by
    cases e with
    | removeSource => rfl
    | publishNav => rfl
    | publishSource => rfl
    | guardedPrice => rfl
    | confirmHaltCleared => rfl
    | _ => cases he
  rw [he.note, PriceGuard.rules, PriceGuard.book, call_settings h he]
  simp only [enacted, hdirect]
  rfl

/-- Every change of the rules is a call's own or an item's. -/
theorem call_rules (h : call env e s = .ok s') :
    rules s' = enacted Item.enact (direct e) (note env s e) (rules s) := by
  cases e with
  | initContract =>
      obtain ⟨-, rfl⟩ := initContract_ok h
      rfl
  | proposeAdmin =>
      obtain ⟨-, rfl⟩ := proposeAdmin_ok h
      rfl
  | acceptAdmin =>
      obtain ⟨r, a, hr, ha, -, rfl⟩ := acceptAdmin_ok h
      have hbook : (book s).accept = ⟨some { r with admin := a }, none⟩ :=
        RoleBook.accept_some hr ha
      simp only [note, enacted, direct, rules, hbook]
      rfl
  | queueRoleChange =>
      obtain ⟨p, hp, rfl⟩ := map_ok.mp h
      obtain ⟨-, rfl⟩ := queueRoleChange_ok hp
      rw [note, queuedAs_ok hp]
      rfl
  | executeRoleChange id =>
      obtain ⟨p, r, hp, -, hr, rfl⟩ := executeRoleChange_ok h
      have hbook : (book s).rotate p.role p.newAddress
          = { book s with roles := some (r.write p.role p.newAddress) } :=
        RoleBook.rotate_some hr _ _
      simp only [note, executedAs, queue, Settings.queue, settings, hp,
        Option.map_some, enacted, Item.enact, rules, hbook]
      rfl
  | queueUpgrade =>
      obtain ⟨p, hp, rfl⟩ := map_ok.mp h
      obtain ⟨-, rfl⟩ := queueUpgrade_ok hp
      rw [note, queuedAs_ok hp]
      rfl
  | cancelUpgrade =>
      obtain ⟨p, -, rfl⟩ := cancelUpgrade_ok h
      rfl
  | executeUpgrade id =>
      obtain ⟨p, hp, -, rfl⟩ := executeUpgrade_ok h
      simp only [note, executedAs, queue, Settings.queue, settings, hp,
        Option.map_some, enacted, Item.enact]
      rfl
  | configureAsset =>
      obtain ⟨-, rfl⟩ := configureAsset_ok h
      rfl
  | configureIssuerKey =>
      obtain ⟨-, rfl⟩ := configureIssuerKey_ok h
      rfl
  | configureSignatureRequirement =>
      obtain ⟨-, -, rfl⟩ := configureSignatureRequirement_ok h
      rfl
  | queueConfig =>
      obtain ⟨p, hp, rfl⟩ := map_ok.mp h
      obtain ⟨-, rfl⟩ := queueConfig_ok hp
      rw [note, queuedAs_ok hp]
      rfl
  | cancelConfig =>
      obtain ⟨p, -, rfl⟩ := cancelConfig_ok h
      rfl
  | executeConfig id =>
      simp only [call, executeConfig, bind_ok, expect_ok, pure_ok] at h
      obtain ⟨p, hp, -, -, s₁, hs₁, rfl⟩ := h
      simp only [note, executedAs, queue, Settings.queue, settings, hp,
        Option.map_some, enacted, Item.enact]
      show rules s₁ = (rules s).enactConfig p.change
      exact applyChange_rules hs₁
  | removeSource => exact Entry.Pricing.rules trivial h
  | publishNav => exact Entry.Pricing.rules trivial h
  | publishSource => exact Entry.Pricing.rules trivial h
  | guardedPrice => exact Entry.Pricing.rules trivial h
  | confirmHaltCleared => exact Entry.Pricing.rules trivial h

/-- Only the admin queues. -/
theorem call_signed (h : call env e s = .ok s') {k : Kind} {n : Nat}
    {item : Item} (hn : note env s e = some (.queued k n item)) :
    ∃ r, s.roles = some r ∧ env.Grants r.admin := by
  cases e with
  | queueRoleChange =>
      obtain ⟨p, hp, -⟩ := map_ok.mp h
      exact (queueRoleChange_ok hp).1
  | queueUpgrade =>
      obtain ⟨p, hp, -⟩ := map_ok.mp h
      exact (queueUpgrade_ok hp).1
  | queueConfig =>
      obtain ⟨p, hp, -⟩ := map_ok.mp h
      exact (queueConfig_ok hp).1
  | _ => simp [note, executedAs] at hn

/-- A rotation is the execution of a queued one. -/
theorem note_of_rotated {role : RoleKind} {a : Address}
    (h : act s e = .rotated role a) :
    ∃ n, note env s e = some (.executed .role n (.role role a)) := by
  cases e with
  | executeRoleChange id =>
      cases hp : s.pendingRoleChange.get id with
      | none => simp [act, hp] at h
      | some p =>
          simp only [act, hp, RoleAct.rotated.injEq] at h
          obtain ⟨rfl, rfl⟩ := h
          refine ⟨id, ?_⟩
          simp [note, executedAs, queue, Settings.queue, settings, hp]
  | _ => cases h

-- ============================================================= all runs

/-- The price guard as a governed contract. -/
def governed (self : Address) :
    Governed (machine self) Kind Item Rules where
  delay := timelockDelaySeconds
  time := Tx.time
  queue := queue
  note c := note (c.call.env.at self) c.before c.call.entry
  init k n := by cases k <;> rfl
  move c h := call_queue (apply_call h)
  env tx := (tx.env.at self).toHostEnv
  rules := rules
  enact := Item.enact
  direct tx := direct tx.entry
  book := book
  act c := act c.before c.call.entry
  rotation := .role
  delay_eq := rfl
  book_init := rfl
  book_move c h := call_book (apply_call h)
  signed c h n hn := by
    obtain ⟨k, item, hn⟩ := hn
    exact call_signed (apply_call h) hn
  rotated c h role a hact := ⟨.role, note_of_rotated hact⟩
  ruled c h := call_rules (apply_call h)

end Ballast.PriceGuard
