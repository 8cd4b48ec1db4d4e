/-
What a committed `Registry` call did: one inversion lemma per entry
point, each giving the guards the later results use and the storage
after.

# Four groups

The roles and the upgrades are those of `ballast-common`, the pauses are
shared with the exit desk and the repo desk, and the assets are the
registry's own. Where a queue is concerned, the shape of the entry point
is a lemma of `Common.Access` (`queued_ok`, `cancelled_ok`,
`executed_ok`), and what is stated here is which queue it files in and
what it writes. The one entry point that changes a live parameter
without a queue is `raise_haircut_now`, which can only raise.
-/
import Ballast.Registry.Basic

namespace Ballast.Registry

open Soroban

variable {env : HostEnv} {s s' : State}

-- ================================================================ roles

/-- What passes the check of a role was signed by the address stored for
it. -/
theorem requireRoleCall_ok {a : Address} {pick : Roles → Address}
    {u : Unit} (h : requireRoleCall env s a pick = .ok u) :
    ∃ r, s.roles = some r ∧ env.Grants (pick r) := by
  simp only [requireRoleCall, bind_ok, requireRole_ok] at h
  obtain ⟨-, -, _, ⟨r, hr, hgrants, -⟩, -⟩ := h
  exact ⟨r, hr, hgrants⟩

/-- The roles are written once, by the first to call. -/
theorem initContract_ok {a p k pp r : Address}
    (h : initContract a p k pp r s = .ok s') :
    s.roles = none ∧ s' = { s with roles := some ⟨a, p, k, pp, r⟩ } := by
  simp only [initContract, bind_ok, ensure_ok, pure_ok, exists_const] at h
  exact ⟨h.1, h.2.symm⟩

/-- A successor is proposed by the admin of the time. -/
theorem proposeAdmin_ok {a : Address}
    (h : proposeAdmin env a s = .ok s') :
    (∃ r, s.roles = some r ∧ env.Grants r.admin)
      ∧ s' = { s with pendingAdmin := some a } := by
  simp only [proposeAdmin, bind_ok, pure_ok] at h
  obtain ⟨_, hadmin, rfl⟩ := h
  exact ⟨requireAdmin_signed hadmin, rfl⟩

/-- The chair goes to whoever was proposed, on his own signature. -/
theorem acceptAdmin_ok (h : acceptAdmin env s = .ok s') :
    ∃ r a, s.roles = some r ∧ s.pendingAdmin = some a ∧ env.Grants a
      ∧ s' = { s with
          roles := some { r with admin := a }
          pendingAdmin := none } := by
  simp only [acceptAdmin, bind_ok, pure_ok] at h
  obtain ⟨_, hroles, rfl⟩ := h
  obtain ⟨r, a, hr, ha, hgrants, rfl⟩ := Ballast.acceptAdmin_ok hroles
  exact ⟨r, a, hr, ha, hgrants, rfl⟩

/-- A rotation is queued by the admin, under the next id and for 48 hours
later. -/
theorem queueRoleChange_ok {role : RoleKind} {a : Address}
    {p : Nat × State} (h : queueRoleChange env role a s = .ok p) :
    (∃ r, s.roles = some r ∧ env.Grants r.admin)
      ∧ p = (s.nextId, { s with
          nextId := s.nextId + 1
          pendingRoleChange := s.pendingRoleChange.set s.nextId
            ⟨role, a, env.timestamp + timelockDelaySeconds⟩ }) := by
  obtain ⟨⟨_, hadmin⟩, rfl⟩ := queued_ok h
  exact ⟨requireAdmin_signed hadmin, rfl⟩

/-- It is executed by anybody, once its time has come. -/
theorem executeRoleChange_ok {id : Nat}
    (h : executeRoleChange env id s = .ok s') :
    ∃ p r, s.pendingRoleChange.get id = some p
      ∧ p.executesAt ≤ env.timestamp ∧ s.roles = some r
      ∧ s' = { s with
          roles := some (r.write p.role p.newAddress)
          pendingRoleChange := s.pendingRoleChange.remove id } := by
  simp only [executeRoleChange, bind_ok, pure_ok] at h
  obtain ⟨_, hroles, rfl⟩ := h
  obtain ⟨p, r, hp, hready, hr, rfl⟩ :=
    Ballast.executeRoleChange_ok hroles
  exact ⟨p, r, hp, hready, hr, rfl⟩

-- =============================================================== assets

/-- An asset is registered once, with a configuration that passes every
bound. -/
theorem registerAsset_ok {admin asset : Address} {config : AssetConfig}
    (h : registerAsset env admin asset config s = .ok s') :
    s.assets.get asset = none ∧ config.validate asset = .ok ()
      ∧ s' = publish (writeAsset s asset config)
          (.assetRegistered asset config) := by
  simp only [registerAsset, bind_ok, ensure_ok, pure_ok,
    exists_const] at h
  obtain ⟨-, -, hnone, ⟨⟩, hvalid, rfl⟩ := h
  exact ⟨hnone, hvalid, rfl⟩

/-- A parameter is queued by the admin, for 48 hours later. Its value is
not looked at yet. -/
theorem queueParam_ok {admin asset : Address} {change : ParamChange}
    {p : Nat × State} (h : queueParam env admin asset change s = .ok p) :
    (∃ r, s.roles = some r ∧ env.Grants r.admin)
      ∧ p = (s.nextId, publish { s with
            nextId := s.nextId + 1
            pendingParam := s.pendingParam.set s.nextId
              ⟨asset, change, env.timestamp + timelockDelaySeconds⟩ }
          (.paramQueued s.nextId asset change
            (env.timestamp + timelockDelaySeconds))) := by
  simp only [queueParam, bind_ok, nextId_ok, pure_ok] at h
  obtain ⟨_, hadmin, _, -, _, ⟨-, rfl⟩, n, hn, rfl⟩ := h
  rw [executesAt_ok hn]
  exact ⟨requireRoleCall_ok hadmin, rfl⟩

/-- Only a change that is still waiting can be cancelled. -/
theorem cancelParam_ok {admin : Address} {id : Nat}
    (h : cancelParam env admin id s = .ok s') :
    ∃ p, s.pendingParam.get id = some p
      ∧ s' = publish { s with pendingParam := s.pendingParam.remove id }
          (.paramCancelled id p.asset) :=
  cancelled_ok h

/-- A queued change whose time has come is applied if the configuration is
in bounds with it. -/
theorem executeParam_ok {id : Nat}
    (h : executeParam env id s = .ok s') :
    ∃ p config, s.pendingParam.get id = some p
      ∧ p.executesAt ≤ env.timestamp
      ∧ s.assets.get p.asset = some config
      ∧ (p.change.apply config).validate p.asset = .ok ()
      ∧ s' = publish { writeAsset s p.asset (p.change.apply config) with
            pendingParam := s.pendingParam.remove id }
          (.paramExecuted id p.asset p.change (p.change.apply config)) := by
  simp only [executeParam, readAsset, bind_ok, expect_ok, ensure_ok,
    pure_ok, exists_const] at h
  obtain ⟨p, hp, hready, config, hconfig, ⟨⟩, hvalid, rfl⟩ := h
  exact ⟨p, config, hp, hready, hconfig, hvalid, rfl⟩

/-- The risk role raises the base haircut at once, by as much as the total
allows. -/
theorem raiseHaircutNow_ok {risk asset : Address} {addBps : Nat}
    (h : raiseHaircutNow env risk asset addBps s = .ok s') :
    ∃ config, s.assets.get asset = some config
      ∧ config.haircutBaseBps + addBps + config.haircutFxBps ≤ 10000
      ∧ s' = publish (writeAsset s asset
            { config with
              haircutBaseBps := config.haircutBaseBps + addBps })
          (.haircutRaised asset addBps
            (config.haircutBaseBps + addBps)) := by
  simp only [raiseHaircutNow, readAsset, bind_ok, expect_ok, ensure_ok,
    pure_ok, exists_const] at h
  obtain ⟨-, -, config, hconfig, -, hle, rfl⟩ := h
  exact ⟨config, hconfig, hle, rfl⟩

-- ================================================================ pause

/-- The pauser sets a flag. -/
theorem pause_ok {pauser : Address} {scope : PauseScope}
    (h : pause env pauser scope s = .ok s') :
    s' = publish { s with paused := s.paused.set scope true }
      (.paused scope) := by
  simp only [pause, bind_ok, pure_ok] at h
  obtain ⟨_, -, rfl⟩ := h
  rfl

/-- Lifting one is queued by the admin, for 48 hours later. -/
theorem queueUnpause_ok {admin : Address} {scope : PauseScope}
    {p : Nat × State} (h : queueUnpause env admin scope s = .ok p) :
    (∃ r, s.roles = some r ∧ env.Grants r.admin)
      ∧ p = (s.nextId, publish { s with
            nextId := s.nextId + 1
            pendingUnpause := s.pendingUnpause.set s.nextId
              ⟨scope, env.timestamp + timelockDelaySeconds⟩ }
          (.unpauseQueued s.nextId scope
            (env.timestamp + timelockDelaySeconds))) := by
  obtain ⟨⟨_, hadmin⟩, rfl⟩ := queued_ok h
  exact ⟨requireRoleCall_ok hadmin, rfl⟩

/-- Only an unpause that is still waiting can be cancelled. -/
theorem cancelUnpause_ok {admin : Address} {id : Nat}
    (h : cancelUnpause env admin id s = .ok s') :
    ∃ p, s.pendingUnpause.get id = some p
      ∧ s' = publish
          { s with pendingUnpause := s.pendingUnpause.remove id }
          (.unpauseCancelled id p.scope) :=
  cancelled_ok h

/-- It is executed by anybody, once its time has come. -/
theorem executeUnpause_ok {id : Nat}
    (h : executeUnpause env id s = .ok s') :
    ∃ p, s.pendingUnpause.get id = some p ∧ p.executesAt ≤ env.timestamp
      ∧ s' = publish { s with
            paused := s.paused.set p.scope false
            pendingUnpause := s.pendingUnpause.remove id }
          (.unpauseExecuted id p.scope) :=
  executed_ok h

-- ============================================================= upgrades

/-- New code is queued by the admin, for 48 hours later. -/
theorem queueUpgrade_ok {admin : Address} {hash : BytesN 32}
    {p : Nat × State} (h : queueUpgrade env admin hash s = .ok p) :
    (∃ r, s.roles = some r ∧ env.Grants r.admin)
      ∧ p = (s.nextId, publish { s with
            nextId := s.nextId + 1
            pendingUpgrade := s.pendingUpgrade.set s.nextId
              ⟨hash, env.timestamp + timelockDelaySeconds⟩ }
          (.queueUpgrade s.nextId hash
            (env.timestamp + timelockDelaySeconds))) := by
  obtain ⟨⟨_, hadmin⟩, rfl⟩ := queued_ok h
  exact ⟨requireRoleCall_ok hadmin, rfl⟩

/-- Only code that is still waiting can be cancelled. -/
theorem cancelUpgrade_ok {admin : Address} {id : Nat}
    (h : cancelUpgrade env admin id s = .ok s') :
    ∃ p, s.pendingUpgrade.get id = some p
      ∧ s' = publish
          { s with pendingUpgrade := s.pendingUpgrade.remove id }
          (.cancelUpgrade id) :=
  cancelled_ok h

/-- Code whose time has come is installed. -/
theorem executeUpgrade_ok {id : Nat}
    (h : executeUpgrade env id s = .ok s') :
    ∃ p, s.pendingUpgrade.get id = some p ∧ p.executesAt ≤ env.timestamp
      ∧ s' = publish { s with
            wasm := some p.newWasmHash
            pendingUpgrade := s.pendingUpgrade.remove id }
          (.executeUpgrade id p.newWasmHash) :=
  executed_ok h

end Ballast.Registry
