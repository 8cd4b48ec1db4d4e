/-
What a committed `PriceGuard` call does to everything but readings and
prices: roles, queues, configurations, keys and the signature switch
(`Settings`).

Publishing, removing and reading run `evaluate`, which leaves all of it
alone, and so does clearing a halt (`call_settings`). For the other
entry points there is one inversion lemma each, with the guards the
later results use and the storage after.

# Why the settings are set apart

The claims about governance are about which signatures and which delays
stand behind a change of a rule. Prices move with every publication, and
none of that matters there. `settings` forgets readings, prices, halts
and events, so that for the entry points of the price pipeline one
equation says everything (`call_settings`), and the rest of the work is
about the admin's entry points alone. The queueing ones share their
shape with `Registry`'s, and the shape has its own lemmas in
`Common.Access`.
-/
import Ballast.PriceGuard.Proofs.Steps

namespace Ballast.PriceGuard

open Soroban

/-- The storage behind the admin's entry points. -/
structure Settings where
  roles : Option Roles
  pendingAdmin : Option Address
  pendingRoleChange : Store Nat PendingRoleChange
  pendingUpgrade : Store Nat PendingUpgrade
  wasm : Option (BytesN 32)
  nextId : Nat
  config : Store Address AssetGuardConfig
  issuerPubKey : Store Address (BytesN 32)
  requireNavSignature : Option Bool
  pendingConfig : Store Nat PendingConfigChange

def settings (s : State) : Settings where
  roles := s.roles
  pendingAdmin := s.pendingAdmin
  pendingRoleChange := s.pendingRoleChange
  pendingUpgrade := s.pendingUpgrade
  wasm := s.wasm
  nextId := s.nextId
  config := s.config
  issuerPubKey := s.issuerPubKey
  requireNavSignature := s.requireNavSignature
  pendingConfig := s.pendingConfig

variable {s s' s₁ : State} {asset : Address}

-- ========================================================== evaluation

/-- An event is no setting. -/
@[simp] theorem settings_publish (s : State) (ev : Event) :
    settings (publish s ev) = settings s := rfl

/-- Nor is a reading. -/
@[simp] theorem settings_writeSource (s : State) (asset : Address)
    (name : Symbol) (value : Int) (ts : Nat) :
    settings (writeSource s asset name value ts) = settings s := rfl

/-- Nor is the list of source names. -/
@[simp] theorem settings_track (s : State) (asset : Address)
    (name : Symbol) : settings (trackSourceName s asset name) = settings s := by
  unfold trackSourceName
  split <;> rfl

/-- Removing a source takes a reading and a name away, and no rule. -/
@[simp] theorem settings_remove (s : State) (asset : Address)
    (name : Symbol) :
    settings (removeSourceInternal s asset name) = settings s := by
  unfold removeSourceInternal
  simp only
  split <;> rfl

/-- The status last announced is no setting either. -/
@[simp] theorem settings_status (s : State) (asset : Address)
    (status : PriceStatus) (v : Int) :
    settings (checkAndEmitStatusChange s asset status v) = settings s := by
  unfold checkAndEmitStatusChange
  simp only
  split <;> rfl

/-- What a verdict writes back is the price pipeline's own: the last good
price, the reference, the halt. -/
@[simp] theorem settings_writeBack (env : HostEnv) (s : State)
    (asset : Address) (config : AssetGuardConfig) (v : Verdict) :
    settings (writeBack env s asset config v).1 = settings s := by
  cases v with
  | agreed m =>
      unfold writeBack refreshReference
      simp only
      split <;> rfl
  | _ => rfl

/-- So is what a confirmed halt promotes to baseline. -/
@[simp] theorem settings_promote (env : HostEnv) (s : State)
    (asset : Address) :
    settings (promotePending env s asset).1 = settings s := by
  unfold promotePending
  split <;> rfl

/-- An evaluation changes no rule, whatever its verdict. -/
theorem evaluate_settings {env : HostEnv} {g : GuardedPrice}
    (h : evaluate env asset s = .ok (g, s')) : settings s' = settings s := by
  obtain ⟨config, verdict, -, -, -, rfl⟩ := evaluate_ok h
  rw [settings_status, settings_writeBack]

variable {env : GuardEnv}

/-- Removing a source runs an evaluation, and changes no rule. -/
theorem removeSource_settings {admin : Address} {name : Symbol}
    (h : removeSource env admin asset name s = .ok s') :
    settings s' = settings s := by
  simp only [removeSource, bind_ok, pure_ok] at h
  obtain ⟨_, -, _, -, ⟨g, s₂⟩, heval, rfl⟩ := h
  rw [evaluate_settings heval, settings_publish, settings_remove]

/-- A signed publication changes no rule. -/
theorem publishNav_settings {publisher : Address} {assetCode : Bytes}
    {value : Int} {ts : Nat} {sig : BytesN 64}
    (h : publishNav env publisher asset assetCode value ts sig s = .ok s') :
    settings s' = settings s := by
  simp only [publishNav, bind_ok, pure_ok] at h
  obtain ⟨_, -, _, -, ⟨g, s₂⟩, heval, rfl⟩ := h
  rw [evaluate_settings heval, settings_publish, settings_writeSource,
    settings_track]
  rfl

/-- Nor does an unsigned one. -/
theorem publishSource_settings {publisher : Address} {source : Symbol}
    {value : Int} {ts : Nat}
    (h : publishSource env publisher asset source value ts s = .ok s') :
    settings s' = settings s := by
  simp only [publishSource, bind_ok, pure_ok] at h
  obtain ⟨_, -, ⟨g, s₂⟩, heval, rfl⟩ := h
  rw [evaluate_settings heval, settings_publish, settings_writeSource,
    settings_track]

/-- Clearing a halt changes a price, and no rule. -/
theorem confirmHaltCleared_settings {risk : Address}
    (h : confirmHaltCleared env risk asset s = .ok s') :
    settings s' = settings s := by
  simp only [confirmHaltCleared, bind_ok, pure_ok] at h
  obtain ⟨_, -, _, -, rfl⟩ := h
  exact settings_promote env.toHostEnv s asset

/-- No entry point for prices touches a setting. -/
theorem call_settings {e : Entry} (h : call env e s = .ok s')
    (he : e.Pricing) : settings s' = settings s := by
  cases e with
  | removeSource => exact removeSource_settings h
  | publishNav => exact publishNav_settings h
  | publishSource => exact publishSource_settings h
  | guardedPrice =>
      obtain ⟨⟨g, s₂⟩, heval, rfl⟩ := map_ok.mp h
      exact evaluate_settings heval
  | confirmHaltCleared => exact confirmHaltCleared_settings h
  | _ => cases he

-- ================================================================ roles

/-- What passes the admin check was signed by the stored admin. -/
theorem requireAdminCall_ok {a : Address} {u : Unit}
    (h : requireAdminCall env s a = .ok u) :
    ∃ r, s.roles = some r ∧ env.Grants r.admin := by
  simp only [requireAdminCall, bind_ok] at h
  obtain ⟨-, -, _, hadmin, -⟩ := h
  exact requireAdmin_signed hadmin

/-- The roles are written once, by the first to call. -/
theorem initContract_ok {a p k pp r : Address}
    (h : initContract a p k pp r s = .ok s') :
    s.roles = none ∧ s' = { s with roles := some ⟨a, p, k, pp, r⟩ } := by
  simp only [initContract, bind_ok, ensure_ok, pure_ok, exists_const] at h
  exact ⟨h.1, h.2.symm⟩

/-- A successor is proposed by the admin of the time. -/
theorem proposeAdmin_ok {a : Address}
    (h : proposeAdmin env a s = .ok s') :
    (∃ r, s.roles = some r ∧ env.Grants r.admin)
      ∧ s' = { s with pendingAdmin := some a } := by
  simp only [proposeAdmin, bind_ok, pure_ok] at h
  obtain ⟨_, hadmin, rfl⟩ := h
  exact ⟨requireAdmin_signed hadmin, rfl⟩

/-- The chair goes to whoever was proposed, on his own signature. -/
theorem acceptAdmin_ok (h : acceptAdmin env s = .ok s') :
    ∃ r a, s.roles = some r ∧ s.pendingAdmin = some a ∧ env.Grants a
      ∧ s' = { s with
          roles := some { r with admin := a }
          pendingAdmin := none } := by
  simp only [acceptAdmin, bind_ok, pure_ok] at h
  obtain ⟨_, hroles, rfl⟩ := h
  obtain ⟨r, a, hr, ha, hgrants, rfl⟩ := Ballast.acceptAdmin_ok hroles
  exact ⟨r, a, hr, ha, hgrants, rfl⟩

/-- A rotation is queued by the admin, under the next id and for 48 hours
later. -/
theorem queueRoleChange_ok {role : RoleKind} {a : Address}
    {p : Nat × State} (h : queueRoleChange env role a s = .ok p) :
    (∃ r, s.roles = some r ∧ env.Grants r.admin)
      ∧ p = (s.nextId, { s with
          nextId := s.nextId + 1
          pendingRoleChange := s.pendingRoleChange.set s.nextId
            ⟨role, a, env.timestamp + timelockDelaySeconds⟩ }) := by
  obtain ⟨⟨_, hadmin⟩, rfl⟩ := queued_ok h
  exact ⟨requireAdmin_signed hadmin, rfl⟩

/-- It is executed by anybody, once its time has come. -/
theorem executeRoleChange_ok {id : Nat}
    (h : executeRoleChange env id s = .ok s') :
    ∃ p r, s.pendingRoleChange.get id = some p
      ∧ p.executesAt ≤ env.timestamp ∧ s.roles = some r
      ∧ s' = { s with
          roles := some (r.write p.role p.newAddress)
          pendingRoleChange := s.pendingRoleChange.remove id } := by
  simp only [executeRoleChange, bind_ok, pure_ok] at h
  obtain ⟨_, hroles, rfl⟩ := h
  obtain ⟨p, r, hp, hready, hr, rfl⟩ :=
    Ballast.executeRoleChange_ok hroles
  exact ⟨p, r, hp, hready, hr, rfl⟩

-- ============================================================= upgrades

/-- New code is queued by the admin, for 48 hours later. -/
theorem queueUpgrade_ok {admin : Address} {hash : BytesN 32}
    {p : Nat × State} (h : queueUpgrade env admin hash s = .ok p) :
    (∃ r, s.roles = some r ∧ env.Grants r.admin)
      ∧ p = (s.nextId, publish { s with
            nextId := s.nextId + 1
            pendingUpgrade := s.pendingUpgrade.set s.nextId
              ⟨hash, env.timestamp + timelockDelaySeconds⟩ }
          (.queueUpgrade s.nextId hash
            (env.timestamp + timelockDelaySeconds))) := by
  obtain ⟨⟨_, hadmin⟩, rfl⟩ := queued_ok h
  exact ⟨requireAdminCall_ok hadmin, rfl⟩

/-- Only code that is still waiting can be cancelled. -/
theorem cancelUpgrade_ok {admin : Address} {id : Nat}
    (h : cancelUpgrade env admin id s = .ok s') :
    ∃ p, s.pendingUpgrade.get id = some p
      ∧ s' = publish
          { s with pendingUpgrade := s.pendingUpgrade.remove id }
          (.cancelUpgrade id) :=
  cancelled_ok h

/-- Code whose time has come is installed, and what runs after is not this
contract. -/
theorem executeUpgrade_ok {id : Nat}
    (h : executeUpgrade env id s = .ok s') :
    ∃ p, s.pendingUpgrade.get id = some p ∧ p.executesAt ≤ env.timestamp
      ∧ s' = publish { s with
            wasm := some p.newWasmHash
            pendingUpgrade := s.pendingUpgrade.remove id }
          (.executeUpgrade id p.newWasmHash) :=
  executed_ok h

-- ======================================================== configuration

/-- A configuration takes effect at once if it loosens nothing. A first
one always does. -/
theorem configureAsset_ok {admin : Address} {band daily winSec winMove
    staleness : Nat}
    (h : configureAsset env admin asset band daily winSec winMove staleness
      s = .ok s') :
    (∀ old ∈ s.config.get asset,
        ¬ IsLoosening old ⟨band, daily, staleness, winSec, winMove⟩)
      ∧ s' = publish { s with
            config := s.config.set asset
              ⟨band, daily, staleness, winSec, winMove⟩
            lastStatus := s.lastStatus.set asset .degraded }
          (.configureAsset asset
            ⟨band, daily, staleness, winSec, winMove⟩) := by
  simp only [configureAsset, bind_ok, ensure_ok, pure_ok,
    exists_const] at h
  obtain ⟨-, -, hstrict, rfl⟩ := h
  exact ⟨hstrict, rfl⟩

/-- A key is registered at once if the asset has none; a registered one
can only be repeated. -/
theorem configureIssuerKey_ok {admin : Address} {key : BytesN 32}
    (h : configureIssuerKey env admin asset key s = .ok s') :
    (∀ old ∈ s.issuerPubKey.get asset, old = key)
      ∧ s' = publish { s with
            issuerPubKey := s.issuerPubKey.set asset key }
          (.configureIssuerKey asset key) := by
  simp only [configureIssuerKey, bind_ok, ensure_ok, pure_ok,
    exists_const] at h
  obtain ⟨-, -, hsame, rfl⟩ := h
  exact ⟨hsame, rfl⟩

/-- The switch may be turned on at once, and off only where it never was
on. -/
theorem configureSignatureRequirement_ok {admin : Address}
    {required : Bool}
    (h : configureSignatureRequirement env admin required s = .ok s') :
    (∃ r, s.roles = some r ∧ env.Grants r.admin)
      ∧ (s.requireNavSignature = some true → required = true)
      ∧ s' = publish { s with requireNavSignature := some required }
          (.configureSignatureRequirement required) := by
  simp only [configureSignatureRequirement, bind_ok, ensure_ok, pure_ok,
    exists_const] at h
  obtain ⟨_, hadmin, hstrict, rfl⟩ := h
  exact ⟨requireAdminCall_ok hadmin, hstrict, rfl⟩

/-- Everything looser is queued by the admin, for 48 hours later. -/
theorem queueConfig_ok {admin : Address} {change : ConfigChange}
    {p : Nat × State} (h : queueConfig env admin change s = .ok p) :
    (∃ r, s.roles = some r ∧ env.Grants r.admin)
      ∧ p = (s.nextId, publish { s with
            nextId := s.nextId + 1
            pendingConfig := s.pendingConfig.set s.nextId
              ⟨change, env.timestamp + timelockDelaySeconds⟩ }
          (.configQueued s.nextId change
            (env.timestamp + timelockDelaySeconds))) := by
  obtain ⟨⟨_, hadmin⟩, rfl⟩ := queued_ok h
  exact ⟨requireAdminCall_ok hadmin, rfl⟩

/-- Only a change that is still waiting can be cancelled. -/
theorem cancelConfig_ok {admin : Address} {id : Nat}
    (h : cancelConfig env admin id s = .ok s') :
    ∃ p, s.pendingConfig.get id = some p
      ∧ s' = publish
          { s with pendingConfig := s.pendingConfig.remove id }
          (.configCancelled id p.change) :=
  cancelled_ok h

/-- An applied change rewrites configurations, keys and the signature
switch, nothing else. -/
theorem applyChange_settings {c : ConfigChange}
    (h : applyChange s c = .ok s') :
    settings s' = { settings s with
      config := s'.config
      issuerPubKey := s'.issuerPubKey
      requireNavSignature := s'.requireNavSignature } := by
  have hupdate : ∀ a f, updateConfig s a f = .ok s' →
      settings s' = { settings s with
        config := s'.config
        issuerPubKey := s'.issuerPubKey
        requireNavSignature := s'.requireNavSignature } := by
    intro a f hf
    simp only [updateConfig, bind_ok, pure_ok] at hf
    obtain ⟨_, -, rfl⟩ := hf
    rfl
  cases c with
  | asset =>
      simp only [applyChange, pure_ok] at h
      subst h
      rfl
  | issuerPubKey =>
      simp only [applyChange, pure_ok] at h
      subst h
      rfl
  | requireNavSignature =>
      simp only [applyChange, pure_ok] at h
      subst h
      rfl
  | _ => exact hupdate _ _ h

/-- A queued change whose time has come rewrites configurations, keys and
the switch, and leaves the queue. -/
theorem executeConfig_ok {id : Nat}
    (h : executeConfig env id s = .ok s') :
    ∃ p, s.pendingConfig.get id = some p ∧ p.executesAt ≤ env.timestamp
      ∧ settings s' = { settings s with
          config := s'.config
          issuerPubKey := s'.issuerPubKey
          requireNavSignature := s'.requireNavSignature
          pendingConfig := s.pendingConfig.remove id } := by
  simp only [executeConfig, bind_ok, expect_ok, ensure_ok, pure_ok,
    exists_const] at h
  obtain ⟨p, hp, hready, s₁, hs₁, rfl⟩ := h
  have hsame := applyChange_settings hs₁
  have hpending : s₁.pendingConfig = s.pendingConfig :=
    congrArg Settings.pendingConfig hsame
  refine ⟨p, hp, hready, ?_⟩
  calc settings (publish { s₁ with
        pendingConfig := s₁.pendingConfig.remove id } _)
      = { settings s₁ with
          pendingConfig := s₁.pendingConfig.remove id } := rfl
    _ = { settings s with
          config := s₁.config
          issuerPubKey := s₁.issuerPubKey
          requireNavSignature := s₁.requireNavSignature
          pendingConfig := s.pendingConfig.remove id } := by
        rw [hsame, hpending]

end Ballast.PriceGuard
