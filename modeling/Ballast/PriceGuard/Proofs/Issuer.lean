/-
The issuer's slot: who may have written the reading stored under the
source name `issuer`.

# Two doors

`publishNav` checks the issuer's signature, keeps the signed record and
writes the reading under `issuer`. `publishSource` writes under whatever
name it is given, `issuer` included, and checks no signature. Nothing
else writes a reading, so a call does one of four things to the slot
(`SlotStep`).

# What is signed

With signatures required, every stored record was verified by the call
that wrote it (`VerifiedIn`). The reading is the record's exactly as
long as the second door is only ever used to repeat the record
(`issuer_slot_iff`).
-/
import Ballast.PriceGuard.Proofs.Queues

namespace Ballast.PriceGuard

open Soroban Machine

variable {env : GuardEnv} {s s' s₁ : State} {a asset : Address} {e : Entry}

-- ============================================================= the slot

/-- The reading in the issuer's slot of `a`. -/
def issuerSlot (s : State) (a : Address) : Option PriceSource :=
  s.source.get (a, issuerSource)

/-- What a committed call does to the issuer's slot and the signed record
of `a`. -/
inductive SlotStep (env : GuardEnv) (s s' : State) (a : Address) :
    Entry → Prop
  | same {e : Entry} : issuerSlot s' a = issuerSlot s a →
      s'.navRecord.get a = s.navRecord.get a → SlotStep env s s' a e
  | emptied {e : Entry} : issuerSlot s' a = none →
      s'.navRecord.get a = s.navRecord.get a → SlotStep env s s' a e
  | signed {publisher : Address} {assetCode : Bytes} {value : Int}
      {ts : Nat} {sig : BytesN 64} :
      issuerSlot s' a = some ⟨issuerSource, value, ts, false⟩ →
      s'.navRecord.get a = some ⟨value, ts, sig⟩ →
      verifyNav env a assetCode value ts sig s = .ok () →
      SlotStep env s s' a (.publishNav publisher a assetCode value ts sig)
  | unsigned {publisher : Address} {value : Int} {ts : Nat} :
      issuerSlot s' a = some ⟨issuerSource, value, ts, false⟩ →
      s'.navRecord.get a = s.navRecord.get a →
      SlotStep env s s' a (.publishSource publisher a issuerSource value ts)

-- ============================================================= one call

@[simp] theorem navRecord_track (s : State) (asset : Address)
    (name : Symbol) :
    (trackSourceName s asset name).navRecord = s.navRecord := by
  rw [trackSourceName_eq]

@[simp] theorem navRecord_remove (s : State) (asset : Address)
    (name : Symbol) :
    (removeSourceInternal s asset name).navRecord = s.navRecord := by
  rw [removeSourceInternal_eq]

/-- `evaluate` leaves the signed record alone. -/
theorem evaluate_navRecord {env : HostEnv} {g : GuardedPrice}
    (h : evaluate env asset s = .ok (g, s')) :
    s'.navRecord = s.navRecord := by
  obtain ⟨config, verdict, -, -, -, rfl⟩ := evaluate_ok h
  have hback : (writeBack env s asset config verdict).1.navRecord
      = s.navRecord := by
    cases verdict with
    | agreed m =>
        unfold writeBack refreshReference
        simp only
        split <;> rfl
    | _ => rfl
  rw [← hback]
  unfold checkAndEmitStatusChange
  simp only
  split <;> rfl

/-- Nor does it touch the slot. -/
theorem evaluate_slot {env : HostEnv} {g : GuardedPrice}
    (h : evaluate env asset s = .ok (g, s')) (a : Address) :
    issuerSlot s' a = issuerSlot s a
      ∧ s'.navRecord.get a = s.navRecord.get a := by
  unfold issuerSlot
  rw [(evaluate_readings h).source, evaluate_navRecord h]
  exact ⟨rfl, rfl⟩

theorem removeSource_slot {admin : Address} {name : Symbol}
    (h : removeSource env admin asset name s = .ok s') (a : Address) :
    SlotStep env s s' a (.removeSource admin asset name) := by
  obtain ⟨s₁, g, hent, -, heval⟩ := removeSource_ok h
  obtain ⟨hslot, hnav⟩ := evaluate_slot heval a
  simp only [enteredState, Option.some.injEq, Prod.mk.injEq, true_and]
    at hent
  subst hent
  have hnav' : s'.navRecord.get a = s.navRecord.get a := by
    rw [hnav]
    simp [publish]
  have hsource : issuerSlot s' a
      = (s.source.remove (asset, name)).get (a, issuerSource) := by
    rw [hslot, issuerSlot, removeSourceInternal_eq]
    rfl
  by_cases hkey : (a, issuerSource) = (asset, name)
  · refine .emptied ?_ hnav'
    rw [hsource, ← hkey, Store.get_remove_self]
  · refine .same ?_ hnav'
    rw [hsource, Store.get_remove_ne _ hkey]
    rfl

theorem publishNav_slot {publisher : Address} {assetCode : Bytes}
    {value : Int} {ts : Nat} {sig : BytesN 64}
    (h : publishNav env publisher asset assetCode value ts sig s = .ok s')
    (a : Address) :
    SlotStep env s s' a
      (.publishNav publisher asset assetCode value ts sig) := by
  obtain ⟨s₁, g, hent, -, hverify, heval⟩ := publishNav_ok h
  obtain ⟨hslot, hnav⟩ := evaluate_slot heval a
  simp only [enteredState, Option.some.injEq, Prod.mk.injEq, true_and]
    at hent
  subst hent
  have hnav' : s'.navRecord.get a
      = (s.navRecord.set asset ⟨value, ts, sig⟩).get a := by
    rw [hnav]
    simp [publish, writeSource]
  have hsource : issuerSlot s' a = (s.source.set (asset, issuerSource)
      ⟨issuerSource, value, ts, false⟩).get (a, issuerSource) := by
    rw [hslot, issuerSlot, trackSourceName_eq]
    rfl
  by_cases ha : a = asset
  · subst ha
    refine .signed ?_ ?_ hverify
    · rw [hsource, Store.get_set_self]
    · rw [hnav', Store.get_set_self]
  · refine .same ?_ ?_
    · rw [hsource, Store.get_set_ne _ _ (by simp [ha])]
      rfl
    · rw [hnav', Store.get_set_ne _ _ ha]

/-- What `publishSource` leaves in the slot. -/
theorem publishSource_writes {publisher : Address} {source : Symbol}
    {value : Int} {ts : Nat}
    (h : publishSource env publisher asset source value ts s = .ok s')
    (a : Address) :
    issuerSlot s' a = (s.source.set (asset, source)
        ⟨source, value, ts, false⟩).get (a, issuerSource)
      ∧ s'.navRecord.get a = s.navRecord.get a := by
  obtain ⟨s₁, g, hent, -, heval⟩ := publishSource_ok h
  obtain ⟨hslot, hnav⟩ := evaluate_slot heval a
  simp only [enteredState, Option.some.injEq, Prod.mk.injEq, true_and]
    at hent
  subst hent
  constructor
  · rw [hslot, issuerSlot, trackSourceName_eq]
    rfl
  · rw [hnav]
    simp [publish, writeSource]

theorem publishSource_slot {publisher : Address} {source : Symbol}
    {value : Int} {ts : Nat}
    (h : publishSource env publisher asset source value ts s = .ok s')
    (a : Address) :
    SlotStep env s s' a
      (.publishSource publisher asset source value ts) := by
  obtain ⟨hsource, hnav'⟩ := publishSource_writes h a
  by_cases hkey : (a, issuerSource) = (asset, source)
  · obtain ⟨rfl, rfl⟩ := Prod.mk.injEq .. ▸ hkey
    refine .unsigned ?_ hnav'
    rw [hsource, Store.get_set_self]
  · refine .same ?_ hnav'
    rw [hsource, Store.get_set_ne _ _ hkey]
    rfl

theorem confirmHaltCleared_slot {risk : Address}
    (h : confirmHaltCleared env risk asset s = .ok s') (a : Address) :
    SlotStep env s s' a (.confirmHaltCleared risk asset) := by
  have hread := (confirmHaltCleared_ok h).1
  simp only [confirmHaltCleared, bind_ok, pure_ok] at h
  obtain ⟨_, -, _, -, rfl⟩ := h
  refine .same ?_ ?_
  · unfold issuerSlot
    rw [hread.source]
  · show (promotePending env.toHostEnv s asset).1.navRecord.get a = _
    unfold promotePending
    split <;> rfl

/-- Every committed call does one of the four. -/
theorem call_slot (h : call env e s = .ok s') (a : Address) :
    SlotStep env s s' a e := by
  have hquiet : ¬ e.Pricing → SlotStep env s s' a e := by
    intro he
    have hq := call_quiet h he
    refine .same ?_ (by rw [hq.navRecord])
    unfold issuerSlot
    rw [hq.readings.source]
  cases e with
  | removeSource => exact removeSource_slot h a
  | publishNav => exact publishNav_slot h a
  | publishSource => exact publishSource_slot h a
  | guardedPrice =>
      obtain ⟨⟨g, s₂⟩, heval, rfl⟩ := map_ok.mp h
      obtain ⟨hslot, hnav⟩ := evaluate_slot heval a
      exact .same hslot hnav
  | confirmHaltCleared => exact confirmHaltCleared_slot h a
  | _ => exact hquiet id

-- ========================================================= authenticity

/-- A call of the trace published `r` for `a`, and its signature verified
under the issuer key registered at the time. -/
def VerifiedIn (tr : List (Committed State Tx)) (a : Address)
    (r : NavRecord) : Prop :=
  ∃ c ∈ tr, ∃ publisher assetCode key,
    c.call.entry = .publishNav publisher a assetCode r.value r.ts r.sig
      ∧ c.before.issuerPubKey.get a = some key
      ∧ c.call.env.ed25519Verify key
        (buildNavMessage assetCode r.ts r.value) r.sig = true

/-- The reading in the issuer's slot of `a`, if there is one, is that of
the stored record, whose signature was verified. -/
def Authentic (tr : List (Committed State Tx)) (s : State) (a : Address) :
    Prop :=
  ∀ x, issuerSlot s a = some x → ∃ r, s.navRecord.get a = some r
    ∧ r.value = x.value ∧ r.ts = x.observedAt ∧ VerifiedIn tr a r

/-- NAV signatures are required whenever a call of the run commits. -/
def SignatureRequired (self : Address) (txs : List Tx) : Prop :=
  ∀ c ∈ (machine self).trace (machine self).init txs,
    requireNavSignature c.before = true

/-- A publication under the issuer's name through the second door
repeats the stored record. -/
def RepeatsRecord (a : Address) (c : Committed State Tx) : Prop :=
  ∀ publisher value ts,
    c.call.entry = .publishSource publisher a issuerSource value ts →
    ∃ r, c.before.navRecord.get a = some r ∧ r.value = value ∧ r.ts = ts

variable {self : Address} {tr : List (Committed State Tx)} {tx : Tx}

theorem VerifiedIn.mono {tr' : List (Committed State Tx)} {r : NavRecord}
    (h : VerifiedIn tr a r) (hsub : ∀ c ∈ tr, c ∈ tr') :
    VerifiedIn tr' a r := by
  obtain ⟨c, hc, hver⟩ := h
  exact ⟨c, hsub c hc, hver⟩

/-- A required check that passed. -/
theorem verifyNav_ok {assetCode : Bytes} {value : Int} {ts : Nat}
    {sig : BytesN 64} {u : Unit} (hreq : requireNavSignature s = true)
    (h : verifyNav env asset assetCode value ts sig s = .ok u) :
    ∃ key, s.issuerPubKey.get asset = some key
      ∧ env.ed25519Verify key (buildNavMessage assetCode ts value) sig
        = true := by
  simp only [verifyNav, if_pos hreq, bind_ok, expect_ok, ensure_ok] at h
  exact h

/-- The record and the slot after one more call. -/
theorem authentic_step (hreq : requireNavSignature s = true)
    (h : call (tx.env.at self) tx.entry s = .ok s')
    (hrec : ∀ r, s.navRecord.get a = some r → VerifiedIn tr a r)
    (hauth : Authentic tr s a) (hdoor : RepeatsRecord a ⟨tx, s, s'⟩) :
    (∀ r, s'.navRecord.get a = some r →
        VerifiedIn (tr ++ [⟨tx, s, s'⟩]) a r)
      ∧ Authentic (tr ++ [⟨tx, s, s'⟩]) s' a := by
  obtain ⟨env, e⟩ := tx
  have hsub : ∀ c ∈ tr, c ∈ tr ++ [(⟨⟨env, e⟩, s, s'⟩ :
      Committed State Tx)] := fun c hc => List.mem_append_left _ hc
  have hkeep : s'.navRecord.get a = s.navRecord.get a →
      ∀ r, s'.navRecord.get a = some r →
        VerifiedIn (tr ++ [⟨⟨env, e⟩, s, s'⟩]) a r := by
    intro hnav r hr
    exact (hrec r (hnav.symm.trans hr)).mono hsub
  cases call_slot h a with
  | same hslot hnav =>
      refine ⟨hkeep hnav, ?_⟩
      intro x hx
      obtain ⟨r, hr, hv, ht, hver⟩ := hauth x (hslot.symm.trans hx)
      exact ⟨r, hnav.trans hr, hv, ht, hver.mono hsub⟩
  | emptied hslot hnav =>
      refine ⟨hkeep hnav, ?_⟩
      intro x hx
      rw [hslot] at hx
      cases hx
  | @signed publisher assetCode value ts sig hslot hnav hverify =>
      obtain ⟨key, hkey, hsig⟩ := verifyNav_ok hreq hverify
      have hver : VerifiedIn (tr ++ [⟨⟨env, .publishNav publisher a
          assetCode value ts sig⟩, s, s'⟩]) a ⟨value, ts, sig⟩ :=
        ⟨⟨⟨env, .publishNav publisher a assetCode value ts sig⟩, s, s'⟩,
          by simp, publisher, assetCode, key, rfl, hkey, hsig⟩
      refine ⟨?_, ?_⟩
      · intro r hr
        rw [hnav] at hr
        injection hr with hr
        rw [← hr]
        exact hver
      · intro x hx
        rw [hslot] at hx
        injection hx with hx
        subst hx
        exact ⟨_, hnav, rfl, rfl, hver⟩
  | @unsigned publisher value ts hslot hnav =>
      refine ⟨hkeep hnav, ?_⟩
      intro x hx
      rw [hslot] at hx
      injection hx with hx
      subst hx
      obtain ⟨r, hr, hv, ht⟩ := hdoor publisher value ts rfl
      exact ⟨r, hnav.trans hr, hv, ht, (hrec r hr).mono hsub⟩

-- ============================================================= all runs

/-- Along a run whose publications all repeat the record, the slot is
authentic when it ends. -/
theorem authentic_run (self a : Address) {txs : List Tx}
    (hreq : SignatureRequired self txs)
    (hdoor : ∀ c ∈ (machine self).trace (machine self).init txs,
      RepeatsRecord a c) :
    Authentic ((machine self).trace (machine self).init txs)
      ((machine self).run (machine self).init txs) a := by
  -- the record goes along with the slot: a publication that repeats it is
  -- authentic because the record is
  have h : (∀ r, ((machine self).run (machine self).init txs).navRecord.get a =
      some r → VerifiedIn ((machine self).trace (machine self).init txs) a r) ∧
      Authentic ((machine self).trace (machine self).init txs)
        ((machine self).run (machine self).init txs) a := by
    refine trace_induction_prefix (P := fun s tr =>
      (∀ r, s.navRecord.get a = some r → VerifiedIn tr a r) ∧
        Authentic tr s a) ?_ ?_
    · constructor
      · intro r hr
        cases hr
      · intro x hx
        cases hx
    · intro pre tx post s' htxs h happ
      have hmem : (⟨tx, (machine self).run (machine self).init pre, s'⟩ :
          Committed State Tx) ∈
          (machine self).trace (machine self).init txs := by
        rw [htxs, trace_append, trace_cons_ok _ happ]
        simp
      exact authentic_step (hreq _ hmem) (apply_call happ) h.1 h.2
        (hdoor _ hmem)
  exact h.2

/-- With signatures required throughout, the issuer's slot is authentic
in every state of a run exactly when every publication under the
issuer's name through `publish_source` repeats the stored record. -/
theorem issuer_slot_iff (self a : Address) (txs : List Tx)
    (hreq : SignatureRequired self txs) :
    (∀ pre post, txs = pre ++ post →
      Authentic ((machine self).trace (machine self).init pre)
        ((machine self).run (machine self).init pre) a) ↔
      ∀ c ∈ (machine self).trace (machine self).init txs,
        RepeatsRecord a c := by
  constructor
  · intro h c hc publisher value ts hentry
    obtain ⟨l₁, l₂, hsplit⟩ := List.append_of_mem hc
    obtain ⟨pre, post, htxs, hbefore, happ, -, -⟩ := trace_split hsplit
    have hauth := h (pre ++ [c.call]) post (by rw [htxs]; simp)
    rw [run_snoc, ← hbefore, exec_of_ok happ] at hauth
    have hcall := apply_call happ
    rw [hentry] at hcall
    obtain ⟨hslot, hnav⟩ := publishSource_writes hcall a
    rw [Store.get_set_self] at hslot
    obtain ⟨r, hr, hv, ht, -⟩ := hauth _ hslot
    exact ⟨r, hnav.symm.trans hr, hv, ht⟩
  · intro h pre post htxs
    have hsub : ∀ c ∈ (machine self).trace (machine self).init pre,
        c ∈ (machine self).trace (machine self).init txs := by
      intro c hc
      rw [htxs, trace_append]
      exact List.mem_append_left _ hc
    exact authentic_run self a (fun c hc => hreq c (hsub c hc))
      fun c hc => h c (hsub c hc)

theorem issuer_slot_iff_demo :
    SignatureRequired Demo.self Demo.signedNav
      ∧ issuerSlot ((machine Demo.self).run (machine Demo.self).init
          Demo.signedNav) Demo.asset
        = some ⟨issuerSource, 1000000, 0, false⟩
      ∧ Authentic ((machine Demo.self).trace (machine Demo.self).init
          Demo.signedNav) ((machine Demo.self).run (machine Demo.self).init
          Demo.signedNav) Demo.asset := by
  have hreq : SignatureRequired Demo.self Demo.signedNav := by
    unfold SignatureRequired
    decide +kernel
  have hdoor : ∀ c ∈ (machine Demo.self).trace (machine Demo.self).init
      Demo.signedNav, RepeatsRecord Demo.asset c := by
    have hentries : ∀ c ∈ (machine Demo.self).trace
        (machine Demo.self).init Demo.signedNav,
        (match c.call.entry with
          | .publishSource .. => false
          | _ => true) = true := by decide +kernel
    intro c hc publisher value ts hentry
    have hno := hentries c hc
    rw [hentry] at hno
    cases hno
  exact ⟨hreq, by decide +kernel, (issuer_slot_iff Demo.self Demo.asset
    Demo.signedNav hreq).mpr hdoor _ [] (by simp)⟩

/-- The publisher puts an unsigned reading into the slot, with no record
stored at all. -/
theorem unsigned_in_issuer_slot :
    ¬ ∀ (self a : Address) (txs : List Tx), SignatureRequired self txs →
      Authentic ((machine self).trace (machine self).init txs)
        ((machine self).run (machine self).init txs) a := by
  intro hclaim
  have hreq : SignatureRequired Demo.self
      (Demo.setup ++ [Demo.reading issuerSource 1000000 0]) := by
    unfold SignatureRequired
    decide +kernel
  have hslot : issuerSlot ((machine Demo.self).run (machine Demo.self).init
      (Demo.setup ++ [Demo.reading issuerSource 1000000 0])) Demo.asset
      = some ⟨issuerSource, 1000000, 0, false⟩ := by decide +kernel
  have hnone : ((machine Demo.self).run (machine Demo.self).init
      (Demo.setup ++ [Demo.reading issuerSource 1000000 0])).navRecord.get
        Demo.asset = none := by decide +kernel
  obtain ⟨r, hr, -⟩ := hclaim _ Demo.asset _ hreq _ hslot
  rw [hnone] at hr
  cases hr

end Ballast.PriceGuard
