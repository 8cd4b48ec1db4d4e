/-
What one step of the authentication can do, said once: to the clock, to
the keys, to the nonces, and to one call (`Became`).

A call goes through a look-up of its key, the checks, the insert of its
nonce and an update of when the key was last used, with an await after
each; keys are made and revoked and nonces purged in between, and the
clock moves on. `Became` is the part the invariants need: a call that
stands after a step stood before it, unchanged or one stage back, or has
just begun. Keys are never removed, only revoked, so a call's key stays
on file under its secret.
-/
import Ballast.ApiKeys.Proofs.Canonical

namespace Ballast.ApiKeys

open Soroban Hex

variable {p : Platform} {secretKey : Text} {s s' : Auth} {a : Act}

-- =============================================================== one step

/-- A call goes on, or ends without having been accepted; the tables are
not written. -/
inductive Moves (p : Platform) (secretKey : Text) (s : Auth) (c : Caller) :
    Caller → Prop
  | found : c.phase = .started → Moves p secretKey s c
      { c with phase := .found (s.partyApiKey.get c.req.keyId) }
  | verified {row : Option PartyApiKey} {key : PartyApiKey} {nonce : Text} :
      c.phase = .found row →
      checkRequest p secretKey row c.req c.nowMs = .ok (.ok (key, nonce)) →
      Moves p secretKey s c
        { c with phase := .verified key nonce, passed := true }
  | refused {reason : ApiKeyFailure} : Moves p secretKey s c
      { c with phase := .returned (.refused reason) }
  | threw : Moves p secretKey s c { c with phase := .threw }

/-- What a committed step did. -/
inductive Did (p : Platform) (secretKey : Text) (s s' : Auth) : Act → Prop
  | ticked {now : Nat} : s.clock ≤ now → s' = { s with clock := now } →
      Did p secretKey s s' (.tick now)
  | keyed {row : PartyApiKey} : s.partyApiKey.get row.keyId = none →
      s' = { s with partyApiKey := s.partyApiKey.set row.keyId row } →
      Did p secretKey s s' (.createKey row)
  | revoked {keyId : Text} :
      s' = { s with
        partyApiKey := s.partyApiKey.adjust keyId fun row =>
          { row with status := .revoked } } →
      Did p secretKey s s' (.revokeKey keyId)
  | begun {id : Nat} {req : SignedRequest} : s.callers.get id = none →
      s' = { s with
        callers := s.callers.set id ⟨req, s.clock, .started, false⟩ } →
      Did p secretKey s s' (.begin id req)
  | moved {b : Act} {id : Nat} {c c' : Caller} :
      s.callers.get id = some c → Moves p secretKey s c c' →
      s' = { s with callers := s.callers.set id c' } →
      (∀ purge, b ≠ .purgeExpiredNonces purge) → Did p secretKey s s' b
  | recorded {id : Nat} {delivery : Delivery} {c : Caller}
      {key : PartyApiKey} {nonce : Text} {phase : Phase} :
      s.callers.get id = some c → c.phase = .verified key nonce →
      s.apiKeyNonce.get (key.keyId, nonce) = none →
      phase = .recorded key ∨ phase = .threw →
      s' = moveTo { s with
        apiKeyNonce := s.apiKeyNonce.set (key.keyId, nonce) s.clock }
        id c phase →
      Did p secretKey s s' (.recordNonce id delivery)
  | touched {id : Nat} {delivery : Delivery} {c : Caller}
      {key : PartyApiKey} {phase : Phase} :
      s.callers.get id = some c → c.phase = .recorded key →
      phase = .returned
        (.ok key.partyId key.stellarAccount key.keyId) ∨ phase = .threw →
      s' = moveTo { s with
        partyApiKey := s.partyApiKey.adjust key.keyId fun row =>
          { row with lastUsedAt := some c.nowMs } } id c phase →
      Did p secretKey s s' (.touch id delivery)
  | purging {id : Nat} : s' = { s with purges := s.purges.set id s.clock } →
      Did p secretKey s s' (.beginPurge id)
  | purged {id nowMs : Nat} : s.purges.get id = some nowMs →
      s' = { s with
        apiKeyNonce := s.apiKeyNonce.filter fun _ createdAt =>
          ¬ expired nowMs createdAt
        purges := s.purges.remove id } →
      Did p secretKey s s' (.purgeExpiredNonces id)

theorem lookup_did {id : Nat} {fault : Bool}
    (h : lookup id fault s = .ok s') :
    Did p secretKey s s' (.lookup id fault) := by
  simp only [lookup, bind_ok, expect_ok, ensure_ok] at h
  obtain ⟨c, hc, -, hphase, h⟩ := h
  split at h
  · cases h
    exact .moved hc .threw rfl (by simp)
  · cases h
    exact .moved hc (.found hphase) rfl (by simp)

theorem check_did {id : Nat} (h : check p secretKey id s = .ok s') :
    Did p secretKey s s' (.check id) := by
  simp only [check, bind_ok, expect_ok] at h
  obtain ⟨c, hc, h⟩ := h
  split at h
  next row hphase =>
    split at h
    · cases h
      exact .moved hc .threw rfl (by simp)
    · cases h
      exact .moved hc .refused rfl (by simp)
    next key nonce hcheck =>
      cases h
      exact .moved hc (.verified hphase hcheck) rfl (by simp)
  · cases h

theorem recordNonce_did {id : Nat} {delivery : Delivery}
    (h : recordNonce id delivery s = .ok s') :
    Did p secretKey s s' (.recordNonce id delivery) := by
  simp only [recordNonce, bind_ok, expect_ok] at h
  obtain ⟨c, hc, h⟩ := h
  split at h
  next key nonce hphase =>
    split at h
    · cases h
      exact .moved hc .threw rfl (by simp)
    · cases h
      exact .moved hc .refused rfl (by simp)
    · cases h
      exact .moved hc .threw rfl (by simp)
    next hnone =>
      cases h
      exact .recorded hc hphase hnone (Or.inl rfl) rfl
    next hnone =>
      cases h
      exact .recorded hc hphase hnone (Or.inr rfl) rfl
  · cases h

theorem touch_did {id : Nat} {delivery : Delivery}
    (h : touch id delivery s = .ok s') :
    Did p secretKey s s' (.touch id delivery) := by
  simp only [touch, bind_ok, expect_ok] at h
  obtain ⟨c, hc, h⟩ := h
  split at h
  next key hphase =>
    cases delivery with
    | acknowledged =>
        cases h
        exact .touched hc hphase (Or.inl rfl) rfl
    | lost =>
        cases h
        exact .touched hc hphase (Or.inr rfl) rfl
    | rolledBack =>
        cases h
        exact .moved hc .threw rfl (by simp)
  · cases h

theorem step_did (h : step p secretKey a s = .ok s') :
    Did p secretKey s s' a := by
  cases a with
  | tick now =>
      simp only [step, tick, bind_ok, ensure_ok, pure_ok] at h
      obtain ⟨-, hle, rfl⟩ := h
      exact .ticked hle rfl
  | createKey row =>
      simp only [step, createKey, bind_ok, ensure_ok, pure_ok] at h
      obtain ⟨-, hnone, rfl⟩ := h
      exact .keyed hnone rfl
  | revokeKey keyId =>
      simp only [step, revokeKey, pure_ok] at h
      exact .revoked h.symm
  | begin id req =>
      simp only [step, begin, bind_ok, ensure_ok, pure_ok] at h
      obtain ⟨-, hnone, rfl⟩ := h
      exact .begun hnone rfl
  | lookup id fault => exact lookup_did h
  | check id => exact check_did h
  | recordNonce id delivery => exact recordNonce_did h
  | touch id delivery => exact touch_did h
  | beginPurge id =>
      simp only [step, beginPurge, bind_ok, ensure_ok, pure_ok] at h
      obtain ⟨-, -, rfl⟩ := h
      exact .purging rfl
  | purgeExpiredNonces id =>
      simp only [step, purgeExpiredNonces, bind_ok, expect_ok, pure_ok] at h
      obtain ⟨nowMs, hpurge, rfl⟩ := h
      exact .purged hpurge rfl

-- ============================================================= the tables

theorem Did.clock (h : Did p secretKey s s' a) : s.clock ≤ s'.clock := by
  cases h with
  | ticked hle heq => rw [heq]; exact hle
  | keyed _ heq | revoked heq | begun _ heq | moved _ _ heq _ | purging heq
  | purged _ heq => rw [heq]
  | recorded _ _ _ _ heq | touched _ _ _ heq =>
      rw [heq]
      exact Nat.le_refl _

/-- A key stays, under its secret. -/
theorem Did.keeps_key (h : Did p secretKey s s' a) {k : Text}
    {row : PartyApiKey} (hrow : s.partyApiKey.get k = some row) :
    ∃ row', s'.partyApiKey.get k = some row'
      ∧ row'.secretCiphertext = row.secretCiphertext := by
  cases h with
  | @keyed new hnone heq =>
      rw [heq]
      have hne : k ≠ new.keyId := fun hk => by
        rw [← hk, hrow] at hnone
        cases hnone
      exact ⟨row, by rw [Store.get_set_ne _ _ hne]; exact hrow, rfl⟩
  | @revoked keyId heq =>
      rw [heq]
      by_cases hk : k = keyId
      · subst hk
        exact ⟨{ row with status := .revoked }, by
          simp [Store.get_adjust, hrow], rfl⟩
      · exact ⟨row, by simp [Store.get_adjust, hk, hrow], rfl⟩
  | @touched id delivery c key phase _ _ _ heq =>
      rw [heq]
      by_cases hk : k = key.keyId
      · subst hk
        exact ⟨{ row with lastUsedAt := some c.nowMs }, by
          simp [moveTo, Store.get_adjust, hrow], rfl⟩
      · exact ⟨row, by simp [moveTo, Store.get_adjust, hk, hrow], rfl⟩
  | ticked _ heq | begun _ heq | moved _ _ heq _ | purging heq
  | recorded _ _ _ _ heq | purged _ heq =>
      exact ⟨row, by rw [heq]; exact hrow, rfl⟩

/-- Rows are kept by their key id. -/
def Keyed (s : Auth) : Prop :=
  ∀ k row, s.partyApiKey.get k = some row → row.keyId = k

theorem Did.keyed' (h : Did p secretKey s s' a) (hkeyed : Keyed s) :
    Keyed s' := by
  intro k row hrow
  cases h with
  | keyed hnone heq =>
      rw [heq, Store.get_set] at hrow
      split at hrow
      next hk =>
        cases hrow
        exact hk.symm
      · exact hkeyed k row hrow
  | @revoked keyId heq =>
      rw [heq, Store.get_adjust] at hrow
      split at hrow
      next hk =>
        obtain ⟨old, hold, rfl⟩ := Option.map_eq_some_iff.mp hrow
        rw [hk]
        exact hkeyed keyId old hold
      · exact hkeyed k row hrow
  | @touched id delivery c key phase _ _ _ heq =>
      rw [heq] at hrow
      simp only [moveTo, Store.get_adjust] at hrow
      split at hrow
      next hk =>
        obtain ⟨old, hold, rfl⟩ := Option.map_eq_some_iff.mp hrow
        rw [hk]
        exact hkeyed key.keyId old hold
      · exact hkeyed k row hrow
  | ticked _ heq | begun _ heq | moved _ _ heq _ | purging heq
  | recorded _ _ _ _ heq | purged _ heq =>
      rw [heq] at hrow
      exact hkeyed k row hrow

/-- A nonce on file stays, unless a purge takes it for its age. -/
theorem Did.nonce (h : Did p secretKey s s' a) {kn : Text × Text}
    {created : Nat} (hnonce : s.apiKeyNonce.get kn = some created) :
    s'.apiKeyNonce.get kn = some created
      ∨ ∃ id nowMs, a = .purgeExpiredNonces id
        ∧ s.purges.get id = some nowMs ∧ expired nowMs created = true := by
  cases h with
  | @recorded id delivery c key nonce phase _ _ hnone _ heq =>
      have hne : kn ≠ (key.keyId, nonce) := fun hk => by
        rw [← hk, hnonce] at hnone
        cases hnone
      refine Or.inl ?_
      rw [heq]
      simp only [moveTo]
      rw [Store.get_set_ne _ _ hne]
      exact hnonce
  | @purged id nowMs hpurge heq =>
      by_cases hexp : expired nowMs created = true
      · exact Or.inr ⟨id, nowMs, rfl, hpurge, hexp⟩
      · refine Or.inl ?_
        rw [heq]
        simp [Store.get_filter, hnonce, hexp]
  | ticked _ heq | keyed _ heq | revoked heq | begun _ heq | moved _ _ heq _
  | purging heq | touched _ _ _ heq =>
      rw [heq]
      exact Or.inl hnonce

/-- A purge under way read the clock no later than now. -/
theorem Did.purges (h : Did p secretKey s s' a)
    (hpurges : ∀ id t, s.purges.get id = some t → t ≤ s.clock) :
    ∀ id t, s'.purges.get id = some t → t ≤ s'.clock := by
  intro id t ht
  have hclock := h.clock
  cases h with
  | purging heq =>
      rw [heq, Store.get_set] at ht
      split at ht
      · cases ht
        exact hclock
      · exact Nat.le_trans (hpurges id t ht) hclock
  | purged _ heq =>
      rw [heq, Store.get_remove] at ht
      split at ht
      · cases ht
      · exact Nat.le_trans (hpurges id t ht) hclock
  | ticked _ heq | keyed _ heq | revoked heq | begun _ heq | moved _ _ heq _
  | recorded _ _ _ _ heq | touched _ _ _ heq =>
      rw [heq] at ht
      exact Nat.le_trans (hpurges id t ht) hclock

-- ============================================================== the calls

/-- Where a call that stands after a step comes from. -/
inductive Became (p : Platform) (secretKey : Text) (s s' : Auth) (a : Act)
    (id : Nat) : Caller → Prop
  | same {c : Caller} : s.callers.get id = some c →
      Became p secretKey s s' a id c
  | begun {req : SignedRequest} : s.callers.get id = none →
      Became p secretKey s s' a id ⟨req, s.clock, .started, false⟩
  | moved {c c' : Caller} : s.callers.get id = some c →
      Moves p secretKey s c c' → Became p secretKey s s' a id c'
  | recorded {c : Caller} {key : PartyApiKey} {nonce : Text}
      {delivery : Delivery} : s.callers.get id = some c →
      a = .recordNonce id delivery →
      c.phase = .verified key nonce →
      s.apiKeyNonce.get (key.keyId, nonce) = none →
      s'.apiKeyNonce.get (key.keyId, nonce) = some s.clock →
      Became p secretKey s s' a id { c with phase := .recorded key }
  | accepted {c : Caller} {key : PartyApiKey} :
      s.callers.get id = some c → c.phase = .recorded key →
      Became p secretKey s s' a id
        ⟨c.req, c.nowMs, .returned
          (.ok key.partyId key.stellarAccount key.keyId), c.passed⟩

theorem Did.became (h : Did p secretKey s s' a) {id : Nat} {c' : Caller}
    (hc' : s'.callers.get id = some c') :
    Became p secretKey s s' a id c' := by
  cases h with
  | begun hnone heq =>
      rw [heq, Store.get_set] at hc'
      split at hc'
      next hid =>
        cases hc'
        exact .begun (hid ▸ hnone)
      · exact .same hc'
  | moved hc hmoves heq =>
      rw [heq, Store.get_set] at hc'
      split at hc'
      next hid =>
        cases hc'
        exact .moved (hid ▸ hc) hmoves
      · exact .same hc'
  | @recorded id' delivery c key nonce phase hc hphase hnone hnext heq =>
      rw [heq] at hc'
      simp only [moveTo, Store.get_set] at hc'
      split at hc'
      next hid =>
        cases hc'
        subst hid
        rcases hnext with rfl | rfl
        · refine .recorded hc rfl hphase hnone ?_
          rw [heq]
          simp [moveTo]
        · exact .moved hc .threw
      · exact .same hc'
  | @touched id' delivery c key phase hc hphase hnext heq =>
      rw [heq] at hc'
      simp only [moveTo, Store.get_set] at hc'
      split at hc'
      next hid =>
        cases hc'
        subst hid
        rcases hnext with rfl | rfl
        · exact .accepted hc hphase
        · exact .moved hc .threw
      · exact .same hc'
  | ticked _ heq | keyed _ heq | revoked heq | purging heq
  | purged _ heq =>
      rw [heq] at hc'
      exact .same hc'

end Ballast.ApiKeys
