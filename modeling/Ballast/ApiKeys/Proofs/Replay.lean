/-
A signed request is accepted once, as long as no purge takes the nonce of
a request that is still on its way to record it.

The nonce of an accepted request stays on file until a purge takes it for
its age, and by then the clock has left the timestamp's tolerance: the
nonce was recorded no earlier than the tolerance before the timestamp,
and is kept for twice the tolerance (`Guarded`). A request that begins
after that is stale. One that began before has had its timestamp checked
against the clock it began with, and may record its nonce at any later
time; `KeepsNonces` says that no purge comes in between.

The two margins are equal, so a purge can come in between: a request
made `TIMESTAMP_TOLERANCE_S` before its timestamp is purged the moment
after the last call that would still take it began (`purge_replays`).
-/
import Ballast.ApiKeys.Proofs.Steps

namespace Ballast.ApiKeys

open Soroban Hex

variable {p : Platform} {secretKey : Text} {s s' : Auth} {a : Act}

-- =============================================================== the calls

/-- The nonce is not recorded yet. -/
def Caller.pending (c : Caller) : Bool :=
  match c.phase with
  | .started | .found _ | .verified _ _ => true
  | _ => false

/-- The call recorded its nonce. -/
def Caller.spent (c : Caller) : Bool :=
  match c.phase with
  | .recorded _ | .returned (.ok _ _ _) => true
  | _ => false

/-- The call returned ok. -/
def Caller.accepted (c : Caller) : Bool :=
  match c.phase with
  | .returned (.ok _ _ _) => true
  | _ => false

/-- A call that was accepted has spent its nonce. -/
theorem Caller.spent_of_accepted {c : Caller} (h : c.accepted = true) :
    c.spent = true := by
  unfold Caller.accepted at h
  split at h
  next hphase => simp [Caller.spent, hphase]
  · cases h

/-- The key id and nonce a call in tolerance is on its way to record. -/
def Caller.awaits (c : Caller) : Option (Text × Text) :=
  match c.req.timestamp, c.req.nonce with
  | some timestamp, some nonce =>
      if c.pending ∧ timely timestamp c.nowMs then
        some (c.req.keyId, nonce)
      else none
  | _, _ => none

/-- A purge takes no nonce that a call in tolerance is about to record. -/
def KeepsNonces (a : Act) (s : Auth) : Prop :=
  match a with
  | .purgeExpiredNonces id =>
      ∀ i ∈ s.callers.keys, ∀ c ∈ s.callers.get i, ∀ kn ∈ c.awaits,
        ∀ created ∈ s.apiKeyNonce.get kn, ∀ nowMs ∈ s.purges.get id,
          expired nowMs created = false
  | _ => True

instance (a : Act) (s : Auth) : Decidable (KeepsNonces a s) := by
  unfold KeepsNonces
  split <;> infer_instance

/-- Every call that stands read the clock no later than now. -/
def Read (s : Auth) : Prop :=
  (∀ i c, s.callers.get i = some c → c.nowMs ≤ s.clock)
    ∧ ∀ id t, s.purges.get id = some t → t ≤ s.clock

/-- A call that moves on keeps its request and its time, spends no nonce
by it, and has one to record only if it had before. -/
theorem Moves.req {c c' : Caller} (h : Moves p secretKey s c c') :
    c'.req = c.req ∧ c'.nowMs = c.nowMs ∧ c'.spent = false
      ∧ (c'.pending = true → c.pending = true) := by
  cases h with
  | found hphase => exact ⟨rfl, rfl, rfl, fun _ => by
      simp [Caller.pending, hphase]⟩
  | verified hphase => exact ⟨rfl, rfl, rfl, fun _ => by
      simp [Caller.pending, hphase]⟩
  | refused => exact ⟨rfl, rfl, rfl, nofun⟩
  | threw => exact ⟨rfl, rfl, rfl, nofun⟩

/-- Every call, and every purge, that stands has read the clock no later
than now. -/
theorem Did.read (h : Did p secretKey s s' a) (hread : Read s) :
    Read s' := by
  refine ⟨?_, h.purges hread.2⟩
  intro i c' hc'
  have hclock := h.clock
  cases h.became hc' with
  | same hc => exact Nat.le_trans (hread.1 i _ hc) hclock
  | begun => exact hclock
  | moved hc hmoves =>
      rw [hmoves.req.2.1]
      exact Nat.le_trans (hread.1 i _ hc) hclock
  | @recorded c _ _ _ hc => exact Nat.le_trans (hread.1 i c hc) hclock
  | @accepted c _ hc => exact Nat.le_trans (hread.1 i c hc) hclock

-- ============================================================ the secrets

/-- The key a call found is, but for its status, the key on file. -/
def OnFile (s : Auth) (c : Caller) (key : PartyApiKey) : Prop :=
  key.keyId = c.req.keyId ∧ ∃ row, s.partyApiKey.get c.req.keyId = some row
    ∧ row.secretCiphertext = key.secretCiphertext

/-- A call got past the checks with a key on file. -/
def Verified (p : Platform) (secretKey : Text) (s : Auth) (c : Caller)
    (key : PartyApiKey) (timestamp nonce secret : Text) : Prop :=
  OnFile s c key ∧ Shown p secretKey key c.req c.nowMs timestamp nonce secret

/-- What the calls know of their keys. -/
structure Sound (p : Platform) (secretKey : Text) (s : Auth) : Prop where
  keyed : Keyed s
  found : ∀ i c key, s.callers.get i = some c →
    c.phase = .found (some key) → OnFile s c key
  verified : ∀ i c key nonce, s.callers.get i = some c →
    c.phase = .verified key nonce → ∃ timestamp secret,
      Verified p secretKey s c key timestamp nonce secret
  passed : ∀ i c, s.callers.get i = some c → c.passed = true →
    ∃ key timestamp nonce secret,
      Verified p secretKey s c key timestamp nonce secret
  spent : ∀ i c, s.callers.get i = some c →
    c.spent = true ∨ (∃ key nonce, c.phase = .verified key nonce) →
    c.passed = true

/-- The key a call found is on file still: keys may be revoked, and are
not forgotten. -/
theorem OnFile.step (h : Did p secretKey s s' a) {c c' : Caller}
    {key : PartyApiKey} (hreq : c'.req = c.req) (hfile : OnFile s c key) :
    OnFile s' c' key := by
  obtain ⟨hid, row, hrow, hsecret⟩ := hfile
  obtain ⟨row', hrow', hsame⟩ := h.keeps_key hrow
  exact ⟨by rw [hreq, hid], row', by rw [hreq]; exact hrow',
    by rw [hsame, hsecret]⟩

/-- What a call has verified, it has verified. -/
theorem Verified.step (h : Did p secretKey s s' a) {c c' : Caller}
    {key : PartyApiKey} {timestamp nonce secret : Text}
    (hreq : c'.req = c.req) (hnow : c'.nowMs = c.nowMs)
    (hver : Verified p secretKey s c key timestamp nonce secret) :
    Verified p secretKey s' c' key timestamp nonce secret := by
  refine ⟨hver.1.step h hreq, ?_⟩
  rw [hreq, hnow]
  exact hver.2

/-- The checks leave a verified call. -/
theorem Sound.check (hs : Sound p secretKey s) {i : Nat} {c : Caller}
    {row : Option PartyApiKey} {key : PartyApiKey} {nonce : Text}
    (hc : s.callers.get i = some c) (hphase : c.phase = .found row)
    (hcheck : checkRequest p secretKey row c.req c.nowMs
      = .ok (.ok (key, nonce))) : ∃ timestamp secret,
      Verified p secretKey s c key timestamp nonce secret := by
  obtain ⟨rfl, timestamp, secret, hshown⟩ := checkRequest_ok.mp hcheck
  exact ⟨timestamp, secret, hs.found i c key hc hphase, hshown⟩

/-- Every call's stage is backed by what it checked on the way there. -/
theorem Sound.step (h : Did p secretKey s s' a)
    (hs : Sound p secretKey s) : Sound p secretKey s' where
  keyed := h.keyed' hs.keyed
  found := by
    intro i c' key hc' hphase
    cases h.became hc' with
    | same hc => exact (hs.found i _ key hc hphase).step h rfl
    | begun => cases hphase
    | @moved c _ hc hmoves =>
        cases hmoves with
        -- what a look-up finds is on file under the id it asked for
        | found hstarted =>
            have hrow : s.partyApiKey.get c.req.keyId = some key := by
              simpa using hphase
            have hfile : OnFile s c key :=
              ⟨hs.keyed _ _ hrow, key, hrow, rfl⟩
            exact hfile.step h rfl
        | verified | refused | threw => cases hphase
    | recorded | accepted => cases hphase
  verified := by
    intro i c' key nonce hc' hphase
    cases h.became hc' with
    | same hc =>
        obtain ⟨timestamp, secret, hver⟩ :=
          hs.verified i _ key nonce hc hphase
        exact ⟨timestamp, secret, hver.step h rfl rfl⟩
    | begun => cases hphase
    | @moved c _ hc hmoves =>
        cases hmoves with
        | verified hfound hcheck =>
            cases hphase
            obtain ⟨timestamp, secret, hver⟩ := hs.check hc hfound hcheck
            exact ⟨timestamp, secret, hver.step h rfl rfl⟩
        | found | refused | threw => cases hphase
    | recorded | accepted => cases hphase
  passed := by
    intro i c' hc' hpassed
    -- request and time stay, and so does what was checked of them
    have keep : ∀ {c : Caller}, s.callers.get i = some c →
        c.passed = true → c'.req = c.req → c'.nowMs = c.nowMs →
        ∃ key timestamp nonce secret,
          Verified p secretKey s' c' key timestamp nonce secret := by
      intro c hc hbefore hreq hnow
      obtain ⟨key, timestamp, nonce, secret, hver⟩ :=
        hs.passed i c hc hbefore
      exact ⟨key, timestamp, nonce, secret, hver.step h hreq hnow⟩
    cases h.became hc' with
    | same hc => exact keep hc hpassed rfl rfl
    | begun => cases hpassed
    | moved hc hmoves =>
        cases hmoves with
        | @verified row key nonce hfound hcheck =>
            obtain ⟨timestamp, secret, hver⟩ := hs.check hc hfound hcheck
            exact ⟨key, timestamp, nonce, secret, hver.step h rfl rfl⟩
        | found | refused | threw => exact keep hc hpassed rfl rfl
    | recorded hc => exact keep hc hpassed rfl rfl
    | accepted hc => exact keep hc hpassed rfl rfl
  spent := by
    intro i c' hc' hspent
    cases h.became hc' with
    | same hc => exact hs.spent i _ hc hspent
    | begun =>
        rcases hspent with hspent | ⟨key, nonce, hphase⟩
        · cases hspent
        · cases hphase
    | moved hc hmoves =>
        rcases hspent with hspent | ⟨key, nonce, hphase⟩
        · rw [hmoves.req.2.2.1] at hspent
          cases hspent
        · cases hmoves with
          | verified => rfl
          | found | refused | threw => cases hphase
    | @recorded c key nonce _ hc _ hphase =>
        exact hs.spent i c hc (Or.inr ⟨key, nonce, hphase⟩)
    | @accepted c _ hc hphase =>
        exact hs.spent i c hc (Or.inl (by simp [Caller.spent, hphase]))

/-- Calls of one key that got past the checks did so under one secret. -/
theorem Sound.one_secret (hs : Sound p secretKey s) {i j : Nat}
    {c d : Caller} (hc : s.callers.get i = some c)
    (hd : s.callers.get j = some d) (hkey : c.req.keyId = d.req.keyId)
    (hcpassed : c.passed = true) (hdpassed : d.passed = true) :
    ∃ key key' timestamp timestamp' nonce nonce' secret,
      Shown p secretKey key c.req c.nowMs timestamp nonce secret
        ∧ Shown p secretKey key' d.req d.nowMs timestamp' nonce' secret := by
  obtain ⟨key, timestamp, nonce, secret, hfile, hshown⟩ :=
    hs.passed i c hc hcpassed
  obtain ⟨key', timestamp', nonce', secret', hfile', hshown'⟩ :=
    hs.passed j d hd hdpassed
  obtain ⟨-, row, hrow, hsame⟩ := hfile
  obtain ⟨-, row', hrow', hsame'⟩ := hfile'
  have hrows : row = row' := by
    rw [hkey, hrow'] at hrow
    exact (Option.some.inj hrow).symm
  have hsecret : secret = secret' := by
    have hdecrypts := hshown.decrypts
    rw [← hsame, hrows, hsame', hshown'.decrypts] at hdecrypts
    exact (Except.ok.inj hdecrypts).symm
  subst hsecret
  exact ⟨key, key', timestamp, timestamp', nonce, nonce', secret, hshown,
    hshown'⟩

-- ============================================================= the nonces

/-- No call can be accepted with this key, nonce and timestamp any more:
the nonce is on file, recorded no earlier than the tolerance allows, or
the timestamp is past its tolerance for every call that has yet to record
its nonce. -/
def Guarded (s : Auth) (keyId nonce timestamp : Text) : Prop :=
  (∃ created, s.apiKeyNonce.get (keyId, nonce) = some created
      ∧ 1000 * number timestamp ≤ created + 1000 * timestampToleranceS)
    ∨ (1000 * number timestamp + 1000 * timestampToleranceS < s.clock
      ∧ ∀ j d, s.callers.get j = some d → d.pending = true →
        d.req.keyId = keyId → d.req.nonce = some nonce →
        d.req.timestamp = some timestamp → timely timestamp d.nowMs = false)

/-- The tolerance, in milliseconds and both ways. -/
theorem timely_iff {timestamp : Text} {nowMs : Nat} :
    timely timestamp nowMs = true ↔
      1000 * number timestamp ≤ nowMs + 1000 * timestampToleranceS
        ∧ nowMs ≤ 1000 * number timestamp + 1000 * timestampToleranceS := by
  simp only [timely, decide_eq_true_eq]
  omega

/-- The age at which a purge takes a nonce: over twice the tolerance. -/
theorem expired_iff {nowMs created : Nat} :
    expired nowMs created = true ↔
      created + 2 * (1000 * timestampToleranceS) < nowMs := by
  unfold expired nonceRetentionS
  rw [decide_eq_true_eq]
  push_cast
  omega

/-- A call in tolerance that has yet to record its nonce. -/
theorem Caller.awaits_of {c : Caller} {timestamp nonce : Text}
    (hpending : c.pending = true) (hts : c.req.timestamp = some timestamp)
    (hn : c.req.nonce = some nonce)
    (htimely : timely timestamp c.nowMs = true) :
    c.awaits = some (c.req.keyId, nonce) := by
  simp [Caller.awaits, hts, hn, hpending, htimely]

/-- A pending call was pending before the step, or has just begun. -/
theorem Became.pending {i : Nat} {d' : Caller}
    (h : Became p secretKey s s' a i d') (hpending : d'.pending = true) :
    (∃ d, s.callers.get i = some d ∧ d.pending = true ∧ d'.req = d.req
        ∧ d'.nowMs = d.nowMs)
      ∨ d'.nowMs = s.clock := by
  cases h with
  | same hd => exact Or.inl ⟨d', hd, hpending, rfl, rfl⟩
  | begun => exact Or.inr rfl
  | moved hd hmoves =>
      obtain ⟨hreq, hnow, -, hbefore⟩ := hmoves.req
      exact Or.inl ⟨_, hd, hbefore hpending, hreq, hnow⟩
  | recorded => cases hpending
  | accepted => cases hpending

/-- The nonce of an accepted request is on file, or the clock has left its
timestamp's tolerance for good. -/
theorem Guarded.step (h : Did p secretKey s s' a) (hread : Read s)
    (hkeeps : KeepsNonces a s) {keyId nonce timestamp : Text}
    (hguard : Guarded s keyId nonce timestamp) :
    Guarded s' keyId nonce timestamp := by
  have hclock := h.clock
  -- a call that begins past the tolerance is stale
  have late : ∀ nowMs,
      1000 * number timestamp + 1000 * timestampToleranceS < nowMs →
      timely timestamp nowMs = false := by
    intro nowMs hlt
    rw [Bool.eq_false_iff, Ne, timely_iff]
    omega
  rcases hguard with ⟨created, hcreated, hearly⟩ | ⟨hpast, hstale⟩
  -- the nonce stays, or a purge has taken it for its age, and then the
  -- clock is past the tolerance
  · rcases h.nonce hcreated with hkept | ⟨id, nowMs, rfl, hpurge, hexp⟩
    · exact Or.inl ⟨created, hkept, hearly⟩
    · have hnow : nowMs ≤ s.clock := hread.2 id nowMs hpurge
      have hpast : 1000 * number timestamp + 1000 * timestampToleranceS
          < s.clock := by
        have := expired_iff.mp hexp
        omega
      refine Or.inr ⟨by omega, ?_⟩
      intro j d' hd' hpending hkey hn hts
      rcases (h.became hd').pending hpending with
        ⟨d, hd, hdpending, hreq, hdnow⟩ | hbegun
      · rw [hdnow]
        rw [hreq] at hkey hn hts
        rw [Bool.eq_false_iff]
        intro htimely
        have hawaits := Caller.awaits_of hdpending hts hn htimely
        have hmem : j ∈ s.callers.keys := by
          rw [s.callers.mem_keys, hd]
          rfl
        have hkept := hkeeps j hmem d hd _ hawaits created
          (by rw [hkey]; exact hcreated) nowMs hpurge
        rw [hexp] at hkept
        cases hkept
      · rw [hbegun]
        exact late _ hpast
  · refine Or.inr ⟨by omega, ?_⟩
    intro j d' hd' hpending hkey hn hts
    rcases (h.became hd').pending hpending with
      ⟨d, hd, hdpending, hreq, hdnow⟩ | hbegun
    · rw [hdnow]
      rw [hreq] at hkey hn hts
      exact hstale j d hd hdpending hkey hn hts
    · rw [hbegun]
      exact late _ hpast

/-- Every nonce that was spent is guarded, and was spent once. -/
structure Once (s : Auth) : Prop where
  guarded : ∀ i c timestamp nonce, s.callers.get i = some c →
    c.spent = true → c.req.timestamp = some timestamp →
    c.req.nonce = some nonce → Guarded s c.req.keyId nonce timestamp
  unique : ∀ i j c d timestamp nonce, s.callers.get i = some c →
    s.callers.get j = some d → c.spent = true → d.spent = true →
    c.req.keyId = d.req.keyId → c.req.timestamp = some timestamp →
    d.req.timestamp = some timestamp → c.req.nonce = some nonce →
    d.req.nonce = some nonce → i = j

/-- A call that has spent its nonce had before the step, or records it
now. -/
theorem Became.spent {i : Nat} {c' : Caller}
    (h : Became p secretKey s s' a i c') (hspent : c'.spent = true) :
    (∃ c, s.callers.get i = some c ∧ c.spent = true ∧ c'.req = c.req)
      ∨ ∃ c key nonce, ∃ delivery, s.callers.get i = some c
        ∧ a = .recordNonce i delivery ∧ c.phase = .verified key nonce
        ∧ s.apiKeyNonce.get (key.keyId, nonce) = none
        ∧ s'.apiKeyNonce.get (key.keyId, nonce) = some s.clock
        ∧ c'.req = c.req := by
  cases h with
  | same hc => exact Or.inl ⟨c', hc, hspent, rfl⟩
  | begun => cases hspent
  | moved hc hmoves =>
      rw [hmoves.req.2.2.1] at hspent
      cases hspent
  | recorded hc hact hphase hnone hsome =>
      exact Or.inr ⟨_, _, _, _, hc, hact, hphase, hnone, hsome, rfl⟩
  | accepted hc hphase =>
      exact Or.inl ⟨_, hc, by simp [Caller.spent, hphase], rfl⟩

/-- A call about to record its nonce finds no guard against it. -/
theorem Guarded.not_recording (hs : Sound p secretKey s) {i : Nat}
    {c : Caller} {key : PartyApiKey} {nonce timestamp : Text}
    (hc : s.callers.get i = some c) (hphase : c.phase = .verified key nonce)
    (hts : c.req.timestamp = some timestamp)
    (hnone : s.apiKeyNonce.get (key.keyId, nonce) = none) :
    ¬ Guarded s c.req.keyId nonce timestamp := by
  obtain ⟨timestamp', secret, ⟨hid, -⟩, hshown⟩ :=
    hs.verified i c key nonce hc hphase
  have htimestamp : timestamp' = timestamp :=
    Option.some.inj (hshown.hasTimestamp.symm.trans hts)
  subst htimestamp
  rintro (⟨created, hcreated, -⟩ | ⟨-, hstale⟩)
  · rw [← hid, hnone] at hcreated
    cases hcreated
  · have := hstale i c hc (by simp [Caller.pending, hphase]) rfl
      hshown.hasNonce hts
    rw [hshown.timely] at this
    cases this

/-- No second call is accepted for a nonce that one was accepted for. -/
theorem Once.step (h : Did p secretKey s s' a) (hs : Sound p secretKey s)
    (hread : Read s) (hkeeps : KeepsNonces a s) (honce : Once s) :
    Once s' := by
  -- what a call that records its nonce now had shown
  have shown : ∀ {i : Nat} {c : Caller} {key : PartyApiKey} {nonce : Text},
      s.callers.get i = some c → c.phase = .verified key nonce →
      key.keyId = c.req.keyId ∧ c.req.nonce = some nonce := by
    intro i c key nonce hc hphase
    obtain ⟨_, _, ⟨hid, -⟩, hshown⟩ := hs.verified i c key nonce hc hphase
    exact ⟨hid, hshown.hasNonce⟩
  -- a nonce spent before is not recorded again
  have fresh : ∀ {i j : Nat} {c d : Caller} {key : PartyApiKey}
      {nonce' timestamp nonce : Text}, s.callers.get i = some c →
      s.callers.get j = some d → c.phase = .verified key nonce' →
      s.apiKeyNonce.get (key.keyId, nonce') = none → d.spent = true →
      c.req.keyId = d.req.keyId → c.req.timestamp = some timestamp →
      d.req.timestamp = some timestamp → c.req.nonce = some nonce →
      d.req.nonce = some nonce → False := by
    intro i j c d key nonce' timestamp nonce hc hd hphase hnone hspent
      hkey hcts hdts hcn hdn
    have hnonce : nonce' = nonce :=
      Option.some.inj ((shown hc hphase).2.symm.trans hcn)
    subst hnonce
    apply Guarded.not_recording hs hc hphase hcts hnone
    rw [hkey]
    exact honce.guarded j d timestamp nonce' hd hspent hdts hdn
  constructor
  · intro i c' timestamp nonce hc' hspent hts hn
    rcases (h.became hc').spent hspent with ⟨c, hc, hbefore, hreq⟩
      | ⟨c, key, nonce', delivery, hc, -, hphase, -, hsome, hreq⟩
    · rw [hreq] at hts hn ⊢
      exact (honce.guarded i c timestamp nonce hc hbefore hts hn).step h
        hread hkeeps
    · rw [hreq] at hts hn ⊢
      obtain ⟨timestamp', _, ⟨hid, -⟩, hshown⟩ :=
        hs.verified i c key nonce' hc hphase
      have htimestamp : timestamp' = timestamp :=
        Option.some.inj (hshown.hasTimestamp.symm.trans hts)
      have hnonce : nonce' = nonce :=
        Option.some.inj (hshown.hasNonce.symm.trans hn)
      subst htimestamp hnonce
      have hnow : c.nowMs ≤ s.clock := hread.1 i c hc
      have htimely := timely_iff.mp hshown.timely
      exact Or.inl ⟨s.clock, by rw [← hid]; exact hsome, by omega⟩
  · intro i j c' d' timestamp nonce hc' hd' hcspent hdspent hkey hcts hdts
      hcn hdn
    rcases (h.became hc').spent hcspent with ⟨c, hc, hcbefore, hcreq⟩
      | ⟨c, key, nonce', delivery, hc, hact, hcphase, hcnone, -, hcreq⟩
    · rw [hcreq] at hkey hcts hcn
      rcases (h.became hd').spent hdspent with ⟨d, hd, hdbefore, hdreq⟩
        | ⟨d, key', nonce', _, hd, -, hdphase, hdnone, -, hdreq⟩
      · rw [hdreq] at hkey hdts hdn
        exact honce.unique i j c d timestamp nonce hc hd hcbefore hdbefore
          hkey hcts hdts hcn hdn
      · rw [hdreq] at hkey hdts hdn
        exact (fresh hd hc hdphase hdnone hcbefore hkey.symm hdts hcts hdn
          hcn).elim
    · rw [hcreq] at hkey hcts hcn
      rcases (h.became hd').spent hdspent with ⟨d, hd, hdbefore, hdreq⟩
        | ⟨d, key', nonce'', delivery', hd, hact', -⟩
      · rw [hdreq] at hkey hdts hdn
        exact (fresh hc hd hcphase hcnone hdbefore hkey hcts hdts hcn
          hdn).elim
      · rw [hact] at hact'
        injection hact'

-- =============================================================== the runs

/-- No calls, nothing to back. -/
theorem sound_init (p : Platform) (secretKey : Text) :
    Sound p secretKey (machine p secretKey).init where
  keyed := by
    intro k row hrow
    cases hrow
  found := by
    intro i c key hc
    cases hc
  verified := by
    intro i c key nonce hc
    cases hc
  passed := by
    intro i c hc
    cases hc
  spent := by
    intro i c hc
    cases hc

/-- And none accepted. -/
theorem once_init (p : Platform) (secretKey : Text) :
    Once (machine p secretKey).init where
  guarded := by
    intro i c timestamp nonce hc
    cases hc
  unique := by
    intro i j c d timestamp nonce hc
    cases hc

/-- In every run the calls are sound. -/
theorem sound_run (p : Platform) (secretKey : Text) (as : List Act) :
    Sound p secretKey ((machine p secretKey).run
      (machine p secretKey).init as) := by
  refine Machine.run_induction ?_
    (sound_init p secretKey) (Machine.allowed_true _ _)
  intro s a s' hs _ happ
  exact hs.step (step_did happ)

/-- In every run whose purges keep the nonces, a nonce is spent once. -/
theorem once_run {as : List Act}
    (has : (machine p secretKey).Allowed KeepsNonces
      (machine p secretKey).init as) :
    Once ((machine p secretKey).run (machine p secretKey).init as) := by
  have hall : Sound p secretKey ((machine p secretKey).run
        (machine p secretKey).init as)
      ∧ Read ((machine p secretKey).run (machine p secretKey).init as)
      ∧ Once ((machine p secretKey).run (machine p secretKey).init as) := by
    refine Machine.run_induction
      (P := fun s => Sound p secretKey s ∧ Read s ∧ Once s) ?_
      ⟨sound_init p secretKey, ⟨nofun, nofun⟩, once_init p secretKey⟩ has
    intro s a s' hs hkeeps happ
    obtain ⟨hsound, hread, honce⟩ := hs
    have hdid := step_did happ
    exact ⟨hsound.step hdid, hdid.read hread,
      honce.step hdid hsound hread hkeeps⟩
  exact hall.2.2

-- ========================================================= one acceptance

/-- Two calls under one key whose signatures read alike: where the purges
keep the nonces, they are not both accepted; and if both got past the
signature check, they signed the same timestamp, nonce and body, and, if
no line feed hides in their methods, the same method and URL. -/
theorem signature_accepted_once (p : Platform) (secretKey : Text)
    (hhmac : ∀ secret, Function.Injective (p.hmacSha256 secret))
    (hsha : Function.Injective p.sha256) (as : List Act) {i j : Nat}
    {c d : Caller}
    (hc : ((machine p secretKey).run (machine p secretKey).init
      as).callers.get i = some c)
    (hd : ((machine p secretKey).run (machine p secretKey).init
      as).callers.get j = some d)
    (hkey : c.req.keyId = d.req.keyId)
    (hsignature : ofHex c.req.signature = ofHex d.req.signature) :
    ((machine p secretKey).Allowed KeepsNonces (machine p secretKey).init
        as → c.accepted = true → d.accepted = true → i = j)
      ∧ (c.passed = true → d.passed = true →
        c.req.timestamp = d.req.timestamp ∧ c.req.nonce = d.req.nonce
          ∧ c.req.rawBody = d.req.rawBody
          ∧ ('\n' ∉ p.toUpperCase c.req.method →
            '\n' ∉ p.toUpperCase d.req.method →
            p.toUpperCase c.req.method = p.toUpperCase d.req.method
              ∧ c.req.url = d.req.url)) := by
  have hs := sound_run p secretKey as
  have signed : c.passed = true → d.passed = true →
      ∃ timestamp nonce, c.req.timestamp = some timestamp
        ∧ d.req.timestamp = some timestamp ∧ c.req.nonce = some nonce
        ∧ d.req.nonce = some nonce ∧ c.req.rawBody = d.req.rawBody
        ∧ p.toUpperCase c.req.method ++ '\n' :: c.req.url
          = p.toUpperCase d.req.method ++ '\n' :: d.req.url := by
    intro hcpassed hdpassed
    obtain ⟨key, key', timestamp, timestamp', nonce, nonce', secret,
      hshown, hshown'⟩ := hs.one_secret hc hd hkey hcpassed hdpassed
    have hcanonical := hshown.canonical (hhmac secret) hshown' hsignature
    obtain ⟨hts, hn, hbody, hmiddle⟩ := canonicalRequest_fields hsha
      hshown.formatted hshown'.formatted hcanonical
    have hts' : timestamp = timestamp' := hts
    have hn' : nonce = nonce' := hn
    subst hts' hn'
    exact ⟨timestamp, nonce, hshown.hasTimestamp, hshown'.hasTimestamp,
      hshown.hasNonce, hshown'.hasNonce, hbody, hmiddle⟩
  constructor
  · intro has hcok hdok
    have hcspent := Caller.spent_of_accepted hcok
    have hdspent := Caller.spent_of_accepted hdok
    obtain ⟨timestamp, nonce, hcts, hdts, hcn, hdn, -⟩ := signed
      (hs.spent i c hc (Or.inl hcspent)) (hs.spent j d hd (Or.inl hdspent))
    exact (once_run has).unique i j c d timestamp nonce hc hd hcspent
      hdspent hkey hcts hdts hcn hdn
  · intro hcpassed hdpassed
    obtain ⟨timestamp, nonce, hcts, hdts, hcn, hdn, hbody, hmiddle⟩ :=
      signed hcpassed hdpassed
    refine ⟨by rw [hcts, hdts], by rw [hcn, hdn], hbody, ?_⟩
    intro hcmethod hdmethod
    exact cut_first hcmethod hdmethod hmiddle

-- ================================================================== demo

/-- The three bytes of a character. -/
def demoBytes (c : Char) : List UInt8 :=
  [UInt8.ofNat (c.toNat / 65536), UInt8.ofNat (c.toNat / 256),
    UInt8.ofNat c.toNat]

/-- A platform whose hashes are injective: a message's HMAC spells the
message, a body's hash is the body. -/
def demoPlatform : Platform where
  sha256 := id
  hmacSha256 := fun _ message => message.flatMap demoBytes
  toUpperCase := fun text => text.map Char.toUpper
  decryptSecret := fun ciphertext _ => .ok ciphertext

/-- The bytes of the demonstration tell texts apart. -/
theorem demoBytes_injective : Function.Injective demoBytes := by
  intro c d h
  have hc : c.toNat < 1114112 := by
    have := c.valid
    simp only [UInt32.isValidChar, Nat.isValidChar] at this
    simp only [Char.toNat]
    omega
  have hd : d.toNat < 1114112 := by
    have := d.valid
    simp only [UInt32.isValidChar, Nat.isValidChar] at this
    simp only [Char.toNat]
    omega
  simp only [demoBytes, List.cons.injEq, and_true, ← UInt8.toNat_inj,
    UInt8.toNat_ofNat'] at h
  apply Char.toNat_inj.mp
  omega

/-- So does its mac, for a given secret. -/
theorem demo_hmac_injective (secret : Text) :
    Function.Injective (demoPlatform.hmacSha256 secret) := by
  intro m m' h
  induction m generalizing m' with
  | nil =>
      cases m' with
      | nil => rfl
      | cons d m' => cases h
  | cons c m ih =>
      cases m' with
      | nil => cases h
      | cons d m' =>
          have h' : demoBytes c ++ m.flatMap demoBytes
              = demoBytes d ++ m'.flatMap demoBytes := h
          obtain ⟨hhead, htail⟩ := List.append_inj h' rfl
          rw [demoBytes_injective hhead, ih htail]

def demoKey : PartyApiKey where
  partyId := ['p']
  stellarAccount := ['G']
  keyId := ['b', 'k']
  secretCiphertext := ['s']
  status := .active
  lastUsedAt := none

/-- A request signed for second 1000. -/
def demoRequest : SignedRequest where
  keyId := ['b', 'k']
  signature := signRequest demoPlatform ['s']
    ⟨['1', '0', '0', '0'], List.replicate 16 'n', ['g', 'e', 't'], ['/'],
      [1]⟩
  timestamp := some ['1', '0', '0', '0']
  nonce := some (List.replicate 16 'n')
  method := ['g', 'e', 't']
  url := ['/']
  rawBody := [1]

/-- The steps of one call. -/
def demoCall (id : Nat) : List Act :=
  [.lookup id false, .check id, .recordNonce id .acknowledged,
    .touch id .acknowledged]

/-- The request is sent twice within the tolerance, with a purge between
that finds nothing old enough. -/
def demoRun : List Act :=
  [.createKey demoKey, .tick 900000, .begin 0 demoRequest] ++ demoCall 0
    ++ [.tick 1300000, .beginPurge 0, .purgeExpiredNonces 0,
      .begin 1 demoRequest] ++ demoCall 1

def demoFirst : Caller :=
  ⟨demoRequest, 900000, .returned (.ok ['p'] ['G'] ['b', 'k']), true⟩

def demoSecond : Caller :=
  ⟨demoRequest, 1300000, .returned (.refused .replayed), true⟩

/-- A request and its copy: the first is accepted and the second refused. -/
theorem signature_accepted_once_demo :
    ((machine demoPlatform []).run (machine demoPlatform []).init
        demoRun).callers.get 0 = some demoFirst
      ∧ ((machine demoPlatform []).run (machine demoPlatform []).init
        demoRun).callers.get 1 = some demoSecond
      ∧ demoFirst.accepted = true
      ∧ (demoSecond.accepted = true → 0 = 1)
      ∧ demoFirst.passed = true ∧ demoSecond.passed = true
      ∧ demoFirst.req.url = demoSecond.req.url := by
  have hfirst : ((machine demoPlatform []).run (machine demoPlatform
      []).init demoRun).callers.get 0 = some demoFirst := by
    decide +kernel
  have hsecond : ((machine demoPlatform []).run (machine demoPlatform
      []).init demoRun).callers.get 1 = some demoSecond := by
    decide +kernel
  have hkeeps : (machine demoPlatform []).Allowed KeepsNonces
      (machine demoPlatform []).init demoRun := by decide +kernel
  obtain ⟨honce, hfields⟩ := signature_accepted_once demoPlatform []
    demo_hmac_injective Function.injective_id demoRun hfirst hsecond rfl rfl
  obtain ⟨-, -, -, hmethod⟩ := hfields rfl rfl
  refine ⟨hfirst, hsecond, rfl, honce hkeeps rfl, rfl, rfl, ?_⟩
  exact (hmethod (by decide +kernel) (by decide +kernel)).2

/-- A client five minutes ahead: the request for second 1000 is taken at
second 700; a second copy arrives at second 1300 and waits for the
database while a purge takes the nonce. -/
def lateRun : List Act :=
  [.createKey demoKey, .tick 700000, .begin 0 demoRequest] ++ demoCall 0
    ++ [.tick 1300000, .begin 1 demoRequest, .lookup 1 false, .check 1,
      .tick 1300001, .beginPurge 0, .purgeExpiredNonces 0,
      .recordNonce 1 .acknowledged, .touch 1 .acknowledged]

/-- Both copies are accepted. -/
theorem purge_replays :
    ∃ p : Platform, (∀ secret, Function.Injective (p.hmacSha256 secret))
      ∧ Function.Injective p.sha256
      ∧ ∃ as c d, ((machine p []).run (machine p []).init
            as).callers.get 0 = some c
        ∧ ((machine p []).run (machine p []).init
            as).callers.get 1 = some d
        ∧ c.req = d.req ∧ c.accepted = true ∧ d.accepted = true :=
  ⟨demoPlatform, demo_hmac_injective, Function.injective_id, lateRun,
    ⟨demoRequest, 700000, .returned (.ok ['p'] ['G'] ['b', 'k']), true⟩,
    ⟨demoRequest, 1300000, .returned (.ok ['p'] ['G'] ['b', 'k']), true⟩,
    by decide +kernel, by decide +kernel, rfl, rfl, rfl⟩

end Ballast.ApiKeys
