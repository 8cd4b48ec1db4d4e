/-
One result for a key.

The caller whose insert claimed the row owns it until its call is over:
while it calls the issuer, releases or stores, the row stays exactly as
claimed and no one else owns it (`Held.owners`), so a release deletes the
releaser's own row. Once an issuer call has returned, the row never goes
away, and holds that result or none (`Held.kept`); every result a caller
returns is that one (`CallerOk`).

# Owners

The row of a key is claimed by an insert that only one caller can win,
and what follows is between that caller and the issuer: other callers
with the key read the row and return its response, or find it unfinished
and are turned away. A caller may stop at any await without giving up
the row, and then nobody owns it and nobody ever will: the key is stuck
with no result, which is safe, since the obligation may have been taken
on.

# Hashes

A key that comes with another body is refused by comparing hashes of the
bodies. That no two bodies share a hash is an assumption of the claim,
and it is used in one place: a caller that is answered from a row gets
the result of its own request.
-/
import Ballast.IssuerGateway.Basic

namespace Ballast.IssuerGateway

open Soroban

-- ============================================================ fingerprints

section Fingerprint

variable {δ : Type} {hash : List (String × String) → δ} {p q : Params}

/-- A fingerprint forgets the order of the properties and nothing else. -/
theorem fingerprint_eq_iff (hhash : Function.Injective hash) :
    fingerprint hash p = fingerprint hash q ↔ p.Same q := by
  have sorted : ∀ r : Params, r.canonical.Pairwise fun a b => a.1 ≤ b.1 := by
    intro r
    have hpair := @List.pairwise_mergeSort (String × String)
      (fun a b => decide (a.1 ≤ b.1))
      (fun a b c hab hbc => by
        simp only [decide_eq_true_eq] at *
        exact le_trans hab hbc)
      (fun a b => by simpa using le_total a.1 b.1) r.entries
    exact hpair.imp fun hab => by simpa using hab
  have perm : ∀ r : Params, r.canonical.Perm r.entries :=
    fun r => List.mergeSort_perm _ _
  constructor
  · intro h
    have hcanonical : p.canonical = q.canonical := hhash h
    have hp := (perm p).symm
    rw [hcanonical] at hp
    exact hp.trans (perm q)
  · intro h
    have hperm : p.canonical.Perm q.canonical :=
      ((perm p).trans h).trans (perm q).symm
    unfold fingerprint
    congr 1
    refine hperm.eq_of_pairwise ?_ (sorted p) (sorted q)
    intro a b ha hb hab hba
    -- one key, one entry
    have hkey : a.1 = b.1 := le_antisymm hab hba
    have ha' : a ∈ q.entries := h.mem_iff.mp ((perm p).mem_iff.mp ha)
    have hb' : b ∈ q.entries := (perm q).mem_iff.mp hb
    exact List.inj_on_of_nodup_map q.nodup ha' hb' hkey

end Fingerprint

variable {δ ρ : Type} {hash : List (String × String) → δ}
  {s s' : Gateway δ ρ} {a : Act ρ}

-- =============================================================== one step

/-- The row as its owner left it when it claimed it. -/
def claimedRow (hash : List (String × String) → δ)
    (request : IdempotentRequest) : Row δ ρ :=
  ⟨fingerprint hash request.params, .inFlight, none, none⟩

/-- Phases that say nothing about the row. -/
def Phase.quiet : Phase ρ → Bool
  | .claiming | .reading | .threw _ => true
  | _ => false

/-- The call claimed the row and has not let go of it. -/
def Caller.owner (c : Caller ρ) : Bool :=
  match c.phase with
  | .calling | .releasing | .storing _ => true
  | _ => false

/-- What a committed step did, with the call `id` at `c`. -/
inductive Did (hash : List (String × String) → δ) (s s' : Gateway δ ρ) :
    Prop
  | begun {id : Nat} {request : IdempotentRequest} :
      s' = { s with callers := s.callers.set id ⟨request, .claiming⟩ } →
      Did hash s s'
  | moved {id : Nat} {c : Caller ρ} {phase : Phase ρ} :
      s.callers.get id = some c → phase.quiet = true →
      s' = moveTo s id c phase → Did hash s s'
  | claimed {id : Nat} {c : Caller ρ} {phase : Phase ρ} :
      s.callers.get id = some c → c.owner = false →
      s.issuerIdempotency.get c.request.key = none →
      phase = .calling ∨ phase.quiet = true →
      s' = moveTo { s with
        issuerIdempotency := s.issuerIdempotency.set c.request.key
          (claimedRow hash c.request) } id c phase → Did hash s s'
  | replayed {id : Nat} {c : Caller ρ} {row : Row δ ρ} :
      s.callers.get id = some c →
      s.issuerIdempotency.get c.request.key = some row →
      row.requestHash = fingerprint hash c.request.params →
      row.status = .completed →
      s' = moveTo s id c (.returned row.response true) → Did hash s s'
  | obliged {id : Nat} {c : Caller ρ} {result : ρ} :
      s.callers.get id = some c → c.phase = .calling →
      s' = moveTo { s with
        obligations := s.obligations ++ [⟨c.request, result⟩] } id c
        (.storing result) → Did hash s s'
  | failing {id : Nat} {c : Caller ρ} : s.callers.get id = some c →
      c.phase = .calling → s' = moveTo s id c .releasing → Did hash s s'
  | released {id : Nat} {c : Caller ρ} : s.callers.get id = some c →
      c.phase = .releasing →
      s' = moveTo { s with
        issuerIdempotency := s.issuerIdempotency.remove c.request.key } id
        c (.threw .issuer) → Did hash s s'
  | unstored {id : Nat} {c : Caller ρ} {result : ρ} :
      s.callers.get id = some c → c.phase = .storing result →
      s' = moveTo s id c (.returned (some result) false) → Did hash s s'
  | stored {id : Nat} {c : Caller ρ} {result : ρ} {now : Nat} :
      s.callers.get id = some c → c.phase = .storing result →
      s' = moveTo { s with
        issuerIdempotency := s.issuerIdempotency.adjust c.request.key
          fun row => { row with
            status := .completed
            response := some result
            completedAt := some now } } id c
        (.returned (some result) false) → Did hash s s'

/-- The claim: won, lost to a row on file, or its answer lost on the way. -/
theorem insert_did {id : Nat} {delivery : Delivery}
    (h : insert hash id delivery s = .ok s') : Did hash s s' := by
  simp only [insert, bind_ok, expect_ok] at h
  obtain ⟨c, hc, h⟩ := h
  split at h
  next hphase =>
    have howner : c.owner = false := by simp [Caller.owner, hphase]
    split at h
    · cases h
      exact .moved hc rfl rfl
    · cases h
      exact .moved hc rfl rfl
    · cases h
      exact .moved hc rfl rfl
    next hnone =>
      cases h
      exact .claimed hc howner hnone (Or.inl rfl) rfl
    next hnone =>
      cases h
      exact .claimed hc howner hnone (Or.inr rfl) rfl
  · cases h

/-- The row a caller lost to answers it, if it is of the same body and
finished; if it is gone, the caller inserts again. -/
theorem read_did [DecidableEq δ] {id : Nat} {fault : Bool}
    (h : read hash id fault s = .ok s') : Did hash s s' := by
  simp only [read, bind_ok, expect_ok] at h
  obtain ⟨c, hc, h⟩ := h
  split at h
  · split at h
    · cases h
      exact .moved hc rfl rfl
    · cases h
      cases hrow : s.issuerIdempotency.get c.request.key with
      | none => exact .moved hc rfl rfl
      | some row =>
          by_cases hhash : row.requestHash
              = fingerprint hash c.request.params
          · by_cases hstatus : row.status = .completed
            · refine .replayed hc hrow hhash hstatus ?_
              simp [answerFrom, hhash, hstatus]
            · have hquiet : (Phase.threw (.inFlight
                  c.request.key.inFlightMessage) : Phase ρ).quiet = true :=
                rfl
              refine .moved hc hquiet ?_
              simp [answerFrom, hhash, hstatus]
          · have hquiet : (Phase.threw (.keyReused
                c.request.key.reusedMessage) : Phase ρ).quiet = true := rfl
            refine .moved hc hquiet ?_
            simp [answerFrom, hhash]
  · cases h

/-- Every step, as one of these. -/
theorem step_did [DecidableEq δ] (h : step hash a s = .ok s') :
    Did hash s s' := by
  cases a with
  | begin id request =>
      simp only [step, begin, bind_ok, ensure_ok, pure_ok] at h
      obtain ⟨-, -, rfl⟩ := h
      exact .begun rfl
  | insert id delivery => exact insert_did h
  | read id fault => exact read_did h
  | answer id result =>
      simp only [step, answer, bind_ok, expect_ok] at h
      obtain ⟨c, hc, h⟩ := h
      split at h
      next hphase =>
        cases h
        exact .obliged hc hphase rfl
      · cases h
  | fail id =>
      simp only [step, fail, bind_ok, expect_ok] at h
      obtain ⟨c, hc, h⟩ := h
      split at h
      next hphase =>
        cases h
        exact .failing hc hphase rfl
      · cases h
  | release id delivery =>
      simp only [step, release, bind_ok, expect_ok] at h
      obtain ⟨c, hc, h⟩ := h
      split at h
      next hphase =>
        split at h
        · cases h
          exact .moved hc rfl rfl
        · cases h
          exact .released hc hphase rfl
      · cases h
  | store id delivery now =>
      simp only [step, store, bind_ok, expect_ok] at h
      obtain ⟨c, hc, h⟩ := h
      split at h
      next result hphase =>
        split at h
        · cases h
          exact .unstored hc hphase rfl
        · cases h
          exact .stored hc hphase rfl
      · cases h
  | crash id =>
      simp only [step, crash, bind_ok, expect_ok] at h
      obtain ⟨c, hc, h⟩ := h
      split at h
      · cases h
      · cases h
      · cases h
        exact .moved hc rfl rfl

-- ========================================================== the invariant

/-- What a call may rely on where it stands. -/
def CallerOk (hash : List (String × String) → δ) (s : Gateway δ ρ)
    (c : Caller ρ) : Prop :=
  match c.phase with
  | .calling | .releasing =>
      s.issuerIdempotency.get c.request.key
          = some (claimedRow hash c.request)
        ∧ ∀ o ∈ s.obligations, o.request.key ≠ c.request.key
  | .storing result =>
      s.issuerIdempotency.get c.request.key
          = some (claimedRow hash c.request)
        ∧ ⟨c.request, result⟩ ∈ s.obligations
  | .returned result _ => ∃ o ∈ s.obligations,
      o.request.key = c.request.key
        ∧ fingerprint hash o.request.params
          = fingerprint hash c.request.params
        ∧ result = some o.result
  | _ => True

structure Held (hash : List (String × String) → δ) (s : Gateway δ ρ) :
    Prop where
  callers : ∀ i c, s.callers.get i = some c → CallerOk hash s c
  owners : ∀ i j c d, s.callers.get i = some c → s.callers.get j = some d →
    c.owner = true → d.owner = true → c.request.key = d.request.key → i = j
  /-- the row of an obligation stays, with its result or none yet -/
  kept : ∀ o ∈ s.obligations, ∃ row,
    s.issuerIdempotency.get o.request.key = some row
      ∧ row.requestHash = fingerprint hash o.request.params
      ∧ (row.status = .completed → row.response = some o.result)
      ∧ (row.status = .inFlight → row.response = none)
  completed : ∀ k row, s.issuerIdempotency.get k = some row →
    row.status = .completed → ∃ o ∈ s.obligations, o.request.key = k
  once : (s.obligations.map (·.request.key)).Nodup

variable {c d : Caller ρ} {id i : Nat}

/-- An owner's row is as it claimed it. -/
theorem CallerOk.row (h : CallerOk hash s c) (howner : c.owner = true) :
    s.issuerIdempotency.get c.request.key
      = some (claimedRow hash c.request) := by
  unfold CallerOk at h
  unfold Caller.owner at howner
  split at howner
  next hphase => rw [hphase] at h; exact h.1
  next hphase => rw [hphase] at h; exact h.1
  next hphase => rw [hphase] at h; exact h.1
  · cases howner

/-- A caller that holds no result owes nothing to the table. -/
theorem callerOk_quiet (hquiet : c.phase.quiet = true) :
    CallerOk hash s c := by
  unfold Phase.quiet at hquiet
  unfold CallerOk
  split at hquiet
  next hphase => rw [hphase]; trivial
  next hphase => rw [hphase]; trivial
  next hphase => rw [hphase]; trivial
  · cases hquiet

/-- And owns no row. -/
theorem owner_of_quiet (hquiet : c.phase.quiet = true) :
    c.owner = false := by
  unfold Phase.quiet at hquiet
  unfold Caller.owner
  split at hquiet
  next hphase => rw [hphase]
  next hphase => rw [hphase]
  next hphase => rw [hphase]
  · cases hquiet

/-- What a call relies on survives a step that leaves an owner's key
alone and forgets no obligation. -/
theorem CallerOk.frame (h : CallerOk hash s c)
    (hrow : c.owner = true → s'.issuerIdempotency.get c.request.key
      = s.issuerIdempotency.get c.request.key)
    (hmono : ∀ o ∈ s.obligations, o ∈ s'.obligations)
    (hnew : c.owner = true → ∀ o ∈ s'.obligations,
      o.request.key = c.request.key → o ∈ s.obligations) :
    CallerOk hash s' c := by
  unfold CallerOk at h ⊢
  unfold Caller.owner at hrow hnew
  cases hphase : c.phase with
  | calling | releasing =>
      simp only [hphase] at h hrow hnew ⊢
      obtain ⟨hget, hfresh⟩ := h
      refine ⟨by rw [hrow trivial, hget], ?_⟩
      intro o ho hkey
      exact hfresh o (hnew trivial o ho hkey) hkey
  | storing result =>
      simp only [hphase] at h hrow ⊢
      exact ⟨by rw [hrow trivial, h.1], hmono _ h.2⟩
  | returned result replayed =>
      simp only [hphase] at h ⊢
      obtain ⟨o, ho, hrest⟩ := h
      exact ⟨o, hmono o ho, hrest⟩
  | claiming | reading | threw => trivial

/-- Two obligations for one key are one. -/
theorem Held.obligation_eq (hs : Held hash s) {o o' : Obligation ρ}
    (ho : o ∈ s.obligations) (ho' : o' ∈ s.obligations)
    (hkey : o.request.key = o'.request.key) : o = o' :=
  List.inj_on_of_nodup_map hs.once ho ho' hkey

/-- The calls after one of them, at `id`, has moved to `d`, an owner only
if it was one before or its row was free. -/
theorem Held.owners_set (hs : Held hash s) {c : Caller ρ}
    (hc : s.callers.get id = some c) (hreq : d.request = c.request)
    (howner : d.owner = true → c.owner = true
      ∨ s.issuerIdempotency.get c.request.key = none)
    (hcallers : s'.callers = s.callers.set id d) :
    ∀ i j c d, s'.callers.get i = some c → s'.callers.get j = some d →
      c.owner = true → d.owner = true → c.request.key = d.request.key →
      i = j := by
  -- no other owner has this key
  have alone : ∀ j e, j ≠ id → s.callers.get j = some e →
      e.owner = true → d.owner = true → d.request.key ≠ e.request.key := by
    intro j e hj he heowner hdowner hkey
    rw [hreq] at hkey
    rcases howner hdowner with hcowner | hnone
    · exact hj (hs.owners id j c e hc he hcowner heowner hkey).symm
    · rw [hkey, (hs.callers j e he).row heowner] at hnone
      cases hnone
  intro i j e f he hf heowner hfowner hkey
  rw [hcallers, Store.get_set] at he hf
  split at he
  next hi =>
    split at hf
    next hj => rw [hi, hj]
    next hj =>
      cases he
      exact absurd hkey (alone j f hj hf hfowner heowner)
  next hi =>
    split at hf
    next hj =>
      cases hf
      exact absurd hkey.symm (alone i e hi he heowner hfowner)
    next hj => exact hs.owners i j e f he hf heowner hfowner hkey

/-- The calls after one of them, at `id`, has moved to `d`: each may rely
on what it relied on, when the step leaves other owners' keys alone. -/
theorem Held.callers_set (hs : Held hash s)
    (hcallers : s'.callers = s.callers.set id d)
    (hd : CallerOk hash s' d)
    (hrow : ∀ j e, j ≠ id → s.callers.get j = some e → e.owner = true →
      s'.issuerIdempotency.get e.request.key
        = s.issuerIdempotency.get e.request.key)
    (hmono : ∀ o ∈ s.obligations, o ∈ s'.obligations)
    (hnew : ∀ j e, j ≠ id → s.callers.get j = some e → e.owner = true →
      ∀ o ∈ s'.obligations, o.request.key = e.request.key →
        o ∈ s.obligations) :
    ∀ i c, s'.callers.get i = some c → CallerOk hash s' c := by
  intro i e he
  rw [hcallers, Store.get_set] at he
  split at he
  · cases he
    exact hd
  next hi =>
    exact (hs.callers i e he).frame (hrow i e hi he) hmono
      (hnew i e hi he)

-- ============================================================== the steps

/-- A step that only moves one call, to something it may rely on and no
new ownership. -/
theorem Held.moved (hs : Held hash s) (hc : s.callers.get id = some c)
    {phase : Phase ρ} (hok : CallerOk hash s { c with phase := phase })
    (howner : ({ c with phase := phase } : Caller ρ).owner = true →
      c.owner = true) : Held hash (moveTo s id c phase) where
  callers := by
    refine hs.callers_set (d := { c with phase := phase }) rfl ?_
      (fun _ _ _ _ _ => rfl) (fun _ ho => ho) (fun _ _ _ _ _ _ ho _ => ho)
    exact hok.frame (fun _ => rfl) (fun _ ho => ho) (fun _ _ ho _ => ho)
  owners := hs.owners_set (d := { c with phase := phase }) hc rfl
    (fun h => Or.inl (howner h)) rfl
  kept := hs.kept
  completed := hs.completed
  once := hs.once

/-- A call begins, and owns nothing. -/
theorem Held.begun (hs : Held hash s) (request : IdempotentRequest) :
    Held hash
      { s with callers := s.callers.set id ⟨request, .claiming⟩ } where
  callers := by
    refine hs.callers_set (d := ⟨request, .claiming⟩) rfl trivial
      (fun _ _ _ _ _ => rfl) (fun _ ho => ho) (fun _ _ _ _ _ _ ho _ => ho)
  owners := by
    intro i j e f he hf heowner hfowner hkey
    simp only [Store.get_set] at he hf
    split at he
    · cases he
      cases heowner
    · split at hf
      · cases hf
        cases hfowner
      · exact hs.owners i j e f he hf heowner hfowner hkey
  kept := hs.kept
  completed := hs.completed
  once := hs.once

/-- The caller whose insert went through owns the row, which has no result
yet. -/
theorem Held.claimed (hs : Held hash s) (hc : s.callers.get id = some c)
    (hnone : s.issuerIdempotency.get c.request.key = none)
    {phase : Phase ρ} (hphase : phase = .calling ∨ phase.quiet = true) :
    Held hash (moveTo { s with
      issuerIdempotency := s.issuerIdempotency.set c.request.key
        (claimedRow hash c.request) } id c phase) := by
  -- no obligation and no owner has a free key
  have free : ∀ o ∈ s.obligations, o.request.key ≠ c.request.key := by
    intro o ho hkey
    obtain ⟨row, hrow, -⟩ := hs.kept o ho
    rw [hkey, hnone] at hrow
    cases hrow
  constructor
  · refine hs.callers_set (d := { c with phase := phase }) rfl ?_ ?_
      (fun _ ho => ho) (fun _ _ _ _ _ _ ho _ => ho)
    · rcases hphase with rfl | hquiet
      · exact ⟨Store.get_set_self _ _ _, free⟩
      · exact callerOk_quiet hquiet
    · intro j e _ he heowner
      refine Store.get_set_ne _ _ fun hkey => ?_
      rw [← hkey, (hs.callers j e he).row heowner] at hnone
      cases hnone
  · exact hs.owners_set (d := { c with phase := phase }) hc rfl
      (fun _ => Or.inr hnone) rfl
  · intro o ho
    obtain ⟨row, hrow, hrest⟩ := hs.kept o ho
    exact ⟨row, (Store.get_set_ne _ _ (free o ho)).trans hrow, hrest⟩
  · intro k row hrow hstatus
    simp only [moveTo, Store.get_set] at hrow
    split at hrow
    · cases hrow
      cases hstatus
    · exact hs.completed k row hrow hstatus
  · exact hs.once

/-- The issuer has acted. From now on the row must not go away. -/
theorem Held.obliged (hs : Held hash s) (hc : s.callers.get id = some c)
    (hphase : c.phase = .calling) (result : ρ) :
    Held hash (moveTo { s with
      obligations := s.obligations ++ [⟨c.request, result⟩] } id c
      (.storing result)) := by
  have hcowner : c.owner = true := by simp [Caller.owner, hphase]
  have hok := hs.callers id c hc
  simp only [CallerOk, hphase] at hok
  obtain ⟨hrow, hfresh⟩ := hok
  have hmono : ∀ o ∈ s.obligations,
      o ∈ s.obligations ++ [⟨c.request, result⟩] :=
    fun o ho => List.mem_append_left _ ho
  constructor
  · refine hs.callers_set (d := { c with phase := .storing result }) rfl
      ⟨hrow, List.mem_append_right _ (List.mem_singleton.mpr rfl)⟩
      (fun _ _ _ _ _ => rfl) hmono ?_
    intro j e hj he heowner o ho hkey
    rcases List.mem_append.mp ho with ho | ho
    · exact ho
    · rw [List.mem_singleton.mp ho] at hkey
      exact absurd (hs.owners id j c e hc he hcowner heowner hkey).symm hj
  · exact hs.owners_set (d := { c with phase := .storing result }) hc rfl
      (fun _ => Or.inl hcowner) rfl
  · intro o ho
    rcases List.mem_append.mp ho with ho | ho
    · exact hs.kept o ho
    · rw [List.mem_singleton.mp ho]
      exact ⟨claimedRow hash c.request, hrow, rfl, nofun, fun _ => rfl⟩
  · intro k row hget hstatus
    obtain ⟨o, ho, hkey⟩ := hs.completed k row hget hstatus
    exact ⟨o, hmono o ho, hkey⟩
  · have hnot : c.request.key ∉ s.obligations.map (·.request.key) := by
      intro hmem
      obtain ⟨o, ho, hkey⟩ := List.mem_map.mp hmem
      exact hfresh o ho hkey
    simpa [moveTo, List.concat_eq_append] using hs.once.concat hnot

/-- A caller that the issuer refused deletes its own row, and nobody's
result with it. -/
theorem Held.released (hs : Held hash s) (hc : s.callers.get id = some c)
    (hphase : c.phase = .releasing) :
    Held hash (moveTo { s with
      issuerIdempotency := s.issuerIdempotency.remove c.request.key } id c
      (.threw .issuer)) := by
  have hcowner : c.owner = true := by simp [Caller.owner, hphase]
  have hok := hs.callers id c hc
  simp only [CallerOk, hphase] at hok
  obtain ⟨-, hfresh⟩ := hok
  constructor
  · refine hs.callers_set (d := { c with phase := .threw .issuer }) rfl
      trivial ?_ (fun _ ho => ho) (fun _ _ _ _ _ _ ho _ => ho)
    intro j e hj he heowner
    refine Store.get_remove_ne _ fun hkey => ?_
    exact hj (hs.owners id j c e hc he hcowner heowner hkey.symm).symm
  · exact hs.owners_set (d := { c with phase := .threw .issuer }) hc rfl
      nofun rfl
  · intro o ho
    obtain ⟨row, hrow, hrest⟩ := hs.kept o ho
    exact ⟨row, (Store.get_remove_ne _ (hfresh o ho)).trans hrow, hrest⟩
  · intro k row hrow hstatus
    simp only [moveTo, Store.get_remove] at hrow
    split at hrow
    · cases hrow
    · exact hs.completed k row hrow hstatus
  · exact hs.once

/-- What a caller that has stored may return. -/
theorem Held.result (hs : Held hash s) (hc : s.callers.get id = some c)
    {result : ρ} (hphase : c.phase = .storing result) (replayed : Bool) :
    CallerOk hash s { c with phase := .returned (some result) replayed } := by
  have hok := hs.callers id c hc
  simp only [CallerOk, hphase] at hok
  exact ⟨⟨c.request, result⟩, hok.2, rfl, rfl, rfl⟩

/-- The result is stored in the row that was claimed for it. -/
theorem Held.stored (hs : Held hash s) (hc : s.callers.get id = some c)
    {result : ρ} (hphase : c.phase = .storing result) (now : Nat) :
    Held hash (moveTo { s with
      issuerIdempotency := s.issuerIdempotency.adjust c.request.key
        fun row => { row with
          status := .completed
          response := some result
          completedAt := some now } } id c
      (.returned (some result) false)) := by
  have hcowner : c.owner = true := by simp [Caller.owner, hphase]
  have hok := hs.callers id c hc
  simp only [CallerOk, hphase] at hok
  obtain ⟨hrow, hobligation⟩ := hok
  rw [Store.adjust_some _ hrow]
  constructor
  · refine hs.callers_set (d := ⟨c.request, .returned (some result) false⟩)
      rfl (hs.result hc hphase false) ?_ (fun _ ho => ho)
      (fun _ _ _ _ _ _ ho _ => ho)
    intro j e hj he heowner
    refine Store.get_set_ne _ _ fun hkey => ?_
    exact hj (hs.owners id j c e hc he hcowner heowner hkey.symm).symm
  · exact hs.owners_set (d := ⟨c.request, .returned (some result) false⟩)
      hc rfl nofun rfl
  · intro o ho
    by_cases hkey : o.request.key = c.request.key
    · have ho' := hs.obligation_eq ho hobligation hkey
      subst ho'
      exact ⟨_, Store.get_set_self _ _ _, rfl, fun _ => rfl, nofun⟩
    · obtain ⟨row, hget, hrest⟩ := hs.kept o ho
      exact ⟨row, (Store.get_set_ne _ _ hkey).trans hget, hrest⟩
  · intro k row hget hstatus
    simp only [moveTo, Store.get_set] at hget
    split at hget
    next hk => exact ⟨_, hobligation, hk.symm⟩
    · exact hs.completed k row hget hstatus
  · exact hs.once

/-- Every step keeps the keys held. -/
theorem Held.step (hs : Held hash s) (h : Did hash s s') : Held hash s' := by
  cases h with
  | begun heq =>
      rw [heq]
      exact hs.begun _
  | moved hc hquiet heq =>
      rw [heq]
      refine hs.moved hc (callerOk_quiet hquiet) fun h => ?_
      rw [owner_of_quiet (c := ⟨_, _⟩) hquiet] at h
      cases h
  | claimed hc _ hnone hphase heq =>
      rw [heq]
      exact hs.claimed hc hnone hphase
  | replayed hc hrow hhash hstatus heq =>
      rw [heq]
      obtain ⟨o, ho, hkey⟩ := hs.completed _ _ hrow hstatus
      obtain ⟨row', hrow', hhash', hresponse, -⟩ := hs.kept o ho
      rw [hkey, hrow] at hrow'
      cases hrow'
      refine hs.moved hc ⟨o, ho, hkey, ?_, hresponse hstatus⟩ nofun
      rw [← hhash', hhash]
  | obliged hc hphase heq =>
      rw [heq]
      exact hs.obliged hc hphase _
  | @failing id c hc hphase heq =>
      rw [heq]
      have hok := hs.callers id c hc
      simp only [CallerOk, hphase] at hok
      exact hs.moved hc hok fun _ => by simp [Caller.owner, hphase]
  | released hc hphase heq =>
      rw [heq]
      exact hs.released hc hphase
  | unstored hc hphase heq =>
      rw [heq]
      exact hs.moved hc (hs.result hc hphase false) nofun
  | stored hc hphase heq =>
      rw [heq]
      exact hs.stored hc hphase _

/-- Over every run. -/
theorem held_run [DecidableEq δ] (hash : List (String × String) → δ)
    (as : List (Act ρ)) :
    Held hash ((machine ρ hash).run (machine ρ hash).init as) := by
  refine Machine.run_induction ?_ ?_
    (Machine.allowed_true _ _)
  · intro s a s' hs _ happ
    exact hs.step (step_did happ)
  · exact {
      callers := nofun
      owners := nofun
      kept := nofun
      completed := nofun
      once := .nil }

-- =============================================================== the runs

/-- The gateway after the steps `as`. -/
def reached [DecidableEq δ] (hash : List (String × String) → δ)
    (as : List (Act ρ)) : Gateway δ ρ :=
  (machine ρ hash).run (machine ρ hash).init as

/-- What the issuer has done stays done. -/
theorem Did.obligations (h : Did hash s s') :
    ∀ o ∈ s.obligations, o ∈ s'.obligations := by
  intro o ho
  cases h with
  | obliged _ _ heq =>
      rw [heq]
      exact List.mem_append_left _ ho
  | begun heq | moved _ _ heq | claimed _ _ _ _ heq | replayed _ _ _ _ heq
  | failing _ _ heq | released _ _ heq | unstored _ _ heq
  | stored _ _ heq =>
      rw [heq]
      exact ho

/-- An issuer call that returned has returned for good. -/
theorem reached_obligations [DecidableEq δ]
    (hash : List (String × String) → δ) (as bs : List (Act ρ))
    {o : Obligation ρ} (ho : o ∈ (reached hash as).obligations) :
    o ∈ (reached hash (as ++ bs)).obligations := by
  unfold reached at ho ⊢
  rw [Machine.run_append]
  refine Machine.run_induction
    (P := fun s : Gateway δ ρ => o ∈ s.obligations) ?_ ho
    (Machine.allowed_true _ _)
  intro s a s' hs _ happ
  exact (step_did happ).obligations o hs

/-- For one key, at any point of any run: at most one issuer call has
returned. Every result handed out is that call's, to a request with that
call's parameters. And from when it returned on, whether or not its
result could be stored, the row stays, holds no other result, and no
request calls the issuer. -/
theorem runIdempotent_once [DecidableEq δ]
    (hash : List (String × String) → δ) (hhash : Function.Injective hash)
    (as bs : List (Act ρ)) (k : Key) :
    ((reached hash as).obligations.map (·.request.key)).count k ≤ 1
      ∧ (∀ i c result replayed, (reached hash as).callers.get i = some c →
        c.request.key = k → c.phase = .returned result replayed →
        ∃ o ∈ (reached hash as).obligations, o.request.key = k
          ∧ o.request.params.Same c.request.params
          ∧ result = some o.result)
      ∧ ∀ o ∈ (reached hash as).obligations, o.request.key = k →
        o ∈ (reached hash (as ++ bs)).obligations
          ∧ (∃ row, (reached hash (as ++ bs)).issuerIdempotency.get k
              = some row
            ∧ row.requestHash = fingerprint hash o.request.params
            ∧ (row.response = none ∨ row.response = some o.result))
          ∧ ∀ i c, (reached hash (as ++ bs)).callers.get i = some c →
            c.request.key = k → c.phase ≠ .calling := by
  have hs : Held hash (reached hash as) := held_run hash as
  have hs' : Held hash (reached hash (as ++ bs)) :=
    held_run hash (as ++ bs)
  refine ⟨?_, ?_, ?_⟩
  · exact List.nodup_iff_count_le_one.mp hs.once k
  · intro i c result replayed hc hkey hphase
    have hok := hs.callers i c hc
    simp only [CallerOk, hphase] at hok
    obtain ⟨o, ho, hokey, hprint, hresult⟩ := hok
    exact ⟨o, ho, hokey.trans hkey, (fingerprint_eq_iff hhash).mp hprint,
      hresult⟩
  · intro o ho hkey
    have ho' := reached_obligations hash as bs ho
    obtain ⟨row, hrow, hprint, hcompleted, hinFlight⟩ := hs'.kept o ho'
    refine ⟨ho', ⟨row, by rw [← hkey]; exact hrow, hprint, ?_⟩, ?_⟩
    · cases hstatus : row.status with
      | inFlight => exact Or.inl (hinFlight hstatus)
      | completed => exact Or.inr (hcompleted hstatus)
    · intro i c hc hckey hphase
      have hok := hs'.callers i c hc
      simp only [CallerOk, hphase] at hok
      exact hok.2 o ho' (hkey.trans hckey.symm)

/-- A lien freeze, asked for twice at once. -/
def demoRequest : IdempotentRequest :=
  ⟨⟨"acme", "lien-freeze", "k1"⟩, ⟨[("units", "5")], by simp⟩⟩

/-- A digest that keeps everything. -/
def demoHash (l : List (String × String)) : List (String × String) := l

/-- The second request loses the insert, the first one's result cannot be
stored, and the second is turned away. -/
def demoRun : List (Act Nat) :=
  [.begin 0 demoRequest, .begin 1 demoRequest, .insert 0 .acknowledged,
    .insert 1 .acknowledged, .answer 0 7, .store 0 .rolledBack 9,
    .read 1 false]

/-- Two callers with one key: one obligation. -/
theorem runIdempotent_once_demo :
    (reached demoHash demoRun).obligations = [⟨demoRequest, 7⟩]
      ∧ ∃ row, (reached demoHash (demoRun ++ [])).issuerIdempotency.get
          ⟨"acme", "lien-freeze", "k1"⟩ = some row
        ∧ (row.response = none ∨ row.response = some 7) := by
  have hone : (reached demoHash demoRun).obligations
      = [⟨demoRequest, 7⟩] := rfl
  obtain ⟨-, -, hkept⟩ := runIdempotent_once demoHash (fun _ _ h => h)
    demoRun [] ⟨"acme", "lien-freeze", "k1"⟩
  obtain ⟨-, ⟨row, hrow, -, hresponse⟩, -⟩ := hkept ⟨demoRequest, 7⟩
    (by rw [hone]; exact List.mem_singleton.mpr rfl) rfl
  exact ⟨hone, row, hrow, hresponse⟩

end Ballast.IssuerGateway
