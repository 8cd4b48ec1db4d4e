/-
What the authentication hook's counters hold down: the requests of a key
that one API process serves in a minute, and the failed attempts of an
address it verifies in one.

An attempt is admitted on the failures counted so far, so the attempts
under verification at the same time come on top: at most 30 failures and
as many more as are ever in flight together are counted in one window
(`Guarded`), and a minute meets two windows.

# One window and one minute

The limiter counts in fixed windows: the first hit after a window has
run out opens the next. A minute laid anywhere over the time line meets
at most two of them. `Tracked` (from `Common.FixedWindow`) carries that
argument: the marks of a minute are those of a window that is over and
those of the one that is open, each bounded by what one window lets
through. For the served requests one window lets through what the
counter is capped at, so the bound is twice the cap.

# What is in flight

For failed attempts the counter is read when an attempt arrives and
written when its verification ends. In between the attempt is in flight
and not counted, so what one window can count is the cap and whatever
was in flight when it was reached. `Guarded` adds the two up: while a
window is open, its count and the attempts in flight together stay below
the cap and K more. An arrival raises the second while the first is at
most the cap, and a failure moves one from the second to the first.
-/
import Ballast.ApiKeys.Proofs.RateWindow

namespace Ballast.ApiKeys.AuthHook

open Soroban FixedWindow

variable {verifySessionToken : Text → Option Text} {s s' : Hook} {a : Act}
  {ip k : Text} {lo K : Nat}

-- ================================================================= the steps

/-- What an action does to the counters and the requests in flight. -/
inductive Did (s : Hook) : Act → Hook → Prop where
  | tick (ms : Nat) : Did s (.tick ms) { s with now := s.now + ms }
  | admitted {i : Nat} {req : HookRequest} (hsigned : req.signed = true)
      (hnew : s.pending.get i = none)
      (hcount : count req.ip s.now s.failed ≤ failuresPerMinute) :
      Did s (.arrive i req) (s.await i (.verifying req.ip))
  | session {a : Act} {i : Nat} {stellarAccount : Text}
      (hnew : s.pending.get i = none)
      (ha : ∀ j result, a ≠ .verified j result) :
      Did s a (s.await i (.session stellarAccount))
  | replied {a : Act} {i : Nat} {r : Reply}
      (ha : ∀ j result, a ≠ .verified j result) : Did s a (s.reply i r)
  | failed {i : Nat} {ip : Text} {reason : ApiKeyFailure} {r : Reply}
      (hi : s.pending.get i = some (.verifying ip)) :
      Did s (.verified i (.refused reason))
        ({ s with failed := (failures.hit ip s.now s.failed).2 }.reply i r)
  | verified {i : Nat} {ip partyId stellarAccount keyId : Text} {r : Reply}
      (hi : s.pending.get i = some (.verifying ip)) :
      Did s (.verified i (.ok partyId stellarAccount keyId))
        ({ s with requests := (perKey.hit keyId s.now s.requests).2 }.reply
          i r)

/-- What each action of the hook comes to. -/
theorem did_of_step (h : step verifySessionToken a s = .ok s') :
    Did s a s' := by
  cases a with
  | tick ms =>
      cases h
      exact .tick ms
  | arrive i req =>
      simp only [step, arrive, bind_ok, ensure_ok, Option.isNone_iff_eq_none]
        at h
      obtain ⟨_, ⟨hnew, -⟩, h⟩ := h
      have hother : ∀ j result, Act.arrive i req ≠ .verified j result :=
        fun _ _ => Act.noConfusion
      split at h
      · cases h
        exact .replied hother
      next hpublic =>
        split at h
        next hsigned =>
          split at h
          · cases h
            exact .replied hother
          next hcount =>
            cases h
            refine .admitted ?_ hnew (Nat.le_of_not_lt hcount)
            simp [HookRequest.signed, hpublic, hsigned]
        · split at h
          · cases h
            exact .replied hother
          · split at h
            · split at h
              · cases h
                exact .replied hother
              · cases h
                exact .session hnew hother
            · cases h
              exact .replied hother
  | verified i result =>
      simp only [step, ApiKeys.verified] at h
      split at h
      next hi =>
        cases h
        exact .failed hi
      next hi =>
        cases h
        exact .verified hi
      · cases h
  | thrown i =>
      simp only [step, ApiKeys.thrown, bind_ok, ensure_ok, pure_ok] at h
      obtain ⟨-, -, rfl⟩ := h
      exact .replied fun _ _ => Act.noConfusion
  | account i partyId =>
      simp only [step, ApiKeys.account] at h
      split at h
      · cases h
        exact .replied fun _ _ => Act.noConfusion
      · cases h

-- ================================================================= the marks

abbrev Marks := List (Text × Nat)

/-- The attempts that fail, with their address. -/
def failedMarks (a : Act) (s : Hook) : Marks :=
  match a with
  | .verified i (.refused _) => match s.pending.get i with
    | some (.verifying ip) => [(ip, s.now)]
    | _ => []
  | _ => []

/-- The requests that are served, with their key. -/
def servedMarks (a : Act) (s : Hook) : Marks :=
  match a with
  | .verified i (.ok _ _ keyId) => match s.pending.get i with
    | some (.verifying _) =>
        if (perKey.hit keyId s.now s.requests).1 then [(keyId, s.now)] else []
    | _ => []
  | _ => []

/-- The marks of a key from `lo` on, for as long as `width`. -/
def within (width lo : Nat) (k : Text) (ms : Marks) : Nat :=
  (ms.map fun m => if m.1 = k then inside width lo m.2 else 0).sum

/-- No marks, nothing counted. -/
theorem within_nil (width lo : Nat) (k : Text) : within width lo k [] = 0 :=
  rfl

/-- The marks of two stretches are counted together. -/
theorem within_append (width lo : Nat) (k : Text) (ms ms' : Marks) :
    within width lo k (ms ++ ms')
      = within width lo k ms + within width lo k ms' := by
  simp [within]

/-- One mark counts for its own key, if it is inside the minute. -/
theorem within_singleton (width lo : Nat) (k key : Text) (t : Nat) :
    within width lo k [(key, t)]
      = if key = k then inside width lo t else 0 := by
  simp [within]

variable (verifySessionToken) in
/-- The failed attempts of a run. -/
def failedIn (as : List Act) : Marks :=
  (machine verifySessionToken).recorded []
    (fun ms a s _ => ms ++ failedMarks a s) as

variable (verifySessionToken) in
/-- The served requests of a run. -/
def servedIn (as : List Act) : Marks :=
  (machine verifySessionToken).recorded []
    (fun ms a s _ => ms ++ servedMarks a s) as

-- =========================================================== served requests

/-- The marks of a key's window are what was let through of its count. -/
def letThrough (n : Nat) : Nat := min n requestsPerKeyPerMinute

/-- Only a verification that ends serves a request. -/
theorem servedMarks_other (h : ∀ j result, a ≠ .verified j result) :
    servedMarks a s = [] := by
  cases a with
  | verified i result => exact absurd rfl (h i result)
  | _ => rfl

/-- A served request is counted in the window that is open, or opens one;
every other action leaves count and marks alike. -/
theorem Did.served {ms : Marks} (h : Did s a s')
    (ht : Tracked 60000 requestsPerKeyPerMinute lo letThrough k s.requests
      (within 60000 lo k ms) s.now) :
    Tracked 60000 requestsPerKeyPerMinute lo letThrough k s'.requests
      (within 60000 lo k (ms ++ servedMarks a s)) s'.now := by
  cases h with
  | tick n =>
      rw [show servedMarks (.tick n) s = [] from rfl, List.append_nil]
      exact ht.later (Nat.le_add_right _ _)
  | admitted =>
      rw [show servedMarks (.arrive _ _) s = [] from rfl, List.append_nil]
      exact ht
  | session _ ha =>
      rw [servedMarks_other ha, List.append_nil]
      exact ht
  | replied ha =>
      rw [servedMarks_other ha, List.append_nil]
      exact ht
  | @failed i ip reason r hi =>
      rw [show servedMarks (.verified i (.refused reason)) s = [] from rfl,
        List.append_nil]
      exact ht
  | @verified i ip partyId stellarAccount keyId r hi =>
      have hmarks : servedMarks
          (.verified i (.ok partyId stellarAccount keyId)) s
          = if (perKey.hit keyId s.now s.requests).1 then [(keyId, s.now)]
            else [] := by
        simp only [servedMarks, hi]
      rw [hmarks, within_append]
      have hhit := hit_did perKey keyId s.now s.requests (by decide)
      by_cases hk : k = keyId
      · subst hk
        generalize (perKey.hit k s.now s.requests).2 = hits' at hhit ⊢
        generalize (perKey.hit k s.now s.requests).1 = answer at hhit ⊢
        cases hhit with
        | opened hnone hself _ =>
            rw [if_pos rfl, within_singleton, if_pos rfl]
            exact ht.opened le_rfl hnone hself (by decide) (by decide)
        | @counted e he hlive =>
            obtain ⟨hmark, hover⟩ := ht.counted le_rfl he hlive
            have hlimit : perKey.limit = requestsPerKeyPerMinute := rfl
            by_cases hle : e.count + 1 ≤ perKey.limit
            · rw [if_pos (decide_eq_true hle), within_singleton, if_pos rfl]
              refine hmark ?_ (Nat.min_le_right _ _)
              simp only [letThrough]
              omega
            · rw [if_neg (by simpa using hle), within_nil]
              refine hover ?_
              simp only [letThrough]
              omega
      · have hother := ht.other 60000 le_rfl hhit hk
        have hzero : within 60000 lo k (if (perKey.hit keyId s.now
            s.requests).1 then [(keyId, s.now)] else []) = 0 := by
          split
          · rw [within_singleton, if_neg (Ne.symm hk)]
          · rfl
        rw [hzero]
        exact hother

/-- One API process serves at most twice 1000 requests of a key in any
minute. -/
theorem served_in_a_minute (verifySessionToken : Text → Option Text)
    (as : List Act) (keyId : Text) (lo : Nat) :
    within 60000 lo keyId (servedIn verifySessionToken as)
      ≤ 2 * requestsPerKeyPerMinute := by
  have h : Tracked 60000 requestsPerKeyPerMinute lo letThrough keyId
      ((machine verifySessionToken).run (machine verifySessionToken).init
        as).requests
      (within 60000 lo keyId (servedIn verifySessionToken as))
      ((machine verifySessionToken).run (machine verifySessionToken).init
        as).now :=
    Machine.recorded_induction
      (P := fun s ms => Tracked 60000 requestsPerKeyPerMinute lo letThrough
        keyId s.requests (within 60000 lo keyId ms) s.now)
      (Or.inl ⟨rfl, rfl⟩)
      (fun s ms a s' ht _ happ => (did_of_step happ).served ht)
      (Machine.allowed_true (machine verifySessionToken).init as)
  exact h.le

-- =========================================================== failed attempts

/-- The attempts of an address that are being verified. -/
def verifying (ip : Text) (s : Hook) : Finset Nat :=
  s.pending.keys.filter fun i => s.pending.get i = some (.verifying ip)

/-- The attempts in flight are the requests at that stage. -/
theorem mem_verifying {i : Nat} :
    i ∈ verifying ip s ↔ s.pending.get i = some (.verifying ip) := by
  rw [verifying, Finset.mem_filter, s.pending.mem_keys]
  constructor
  · exact fun h => h.2
  · intro h
    exact ⟨by rw [h]; rfl, h⟩

/-- An attempt of the address arrives while fewer than `K` are being
verified. -/
def AtMost (K : Nat) (ip : Text) (a : Act) (s : Hook) : Prop :=
  match a with
  | .arrive _ req => req.ip = ip → req.signed = true →
      (verifying ip s).card < K
  | _ => True

instance (a : Act) : Decidable (AtMost K ip a s) := by
  unfold AtMost
  split <;> infer_instance

/-- What an address may still fail, and what it has. -/
structure Guarded (K : Nat) (ip : Text) (s : Hook) : Prop where
  flight : (verifying ip s).card ≤ K
  counted : ∀ e, s.failed.get ip = some e →
    e.count ≤ failuresPerMinute + K
  live : ∀ e, s.failed.get ip = some e → s.now < e.resetAt →
    e.count + (verifying ip s).card ≤ failuresPerMinute + K

/-- An answer takes its own request out of flight. -/
theorem verifying_reply (ip : Text) (s : Hook) (i : Nat) (r : Reply)
    (failed requests : Hits) :
    verifying ip ({ s with failed := failed, requests := requests }.reply i r)
      = (verifying ip s).erase i := by
  apply Finset.ext
  intro j
  rw [mem_verifying, Finset.mem_erase, mem_verifying]
  show (s.pending.remove i).get j = _ ↔ _
  rw [Store.get_remove]
  by_cases hj : j = i
  · simp [hj]
  · simp [hj]

/-- So no answer adds to what is in flight. -/
theorem card_verifying_reply_le (i : Nat) (r : Reply)
    (failed requests : Hits) :
    (verifying ip ({ s with failed := failed, requests := requests }.reply
      i r)).card ≤ (verifying ip s).card := by
  rw [verifying_reply]
  exact Finset.card_erase_le

/-- A session request is none of the attempts. -/
theorem verifying_session {i : Nat} {stellarAccount : Text}
    (hnew : s.pending.get i = none) :
    verifying ip (s.await i (.session stellarAccount)) = verifying ip s := by
  apply Finset.ext
  intro j
  rw [mem_verifying, mem_verifying]
  show (s.pending.set i _).get j = _ ↔ _
  rw [Store.get_set]
  by_cases hj : j = i
  · simp [hj, hnew]
  · simp [hj]

/-- An arrival adds itself, under its own address. -/
theorem card_verifying_admitted (ip ip' : Text) {i : Nat}
    (hnew : s.pending.get i = none) :
    (verifying ip (s.await i (.verifying ip'))).card
      = (verifying ip s).card + if ip' = ip then 1 else 0 := by
  have hset : verifying ip (s.await i (.verifying ip'))
      = if ip' = ip then insert i (verifying ip s) else verifying ip s := by
    apply Finset.ext
    intro j
    rw [mem_verifying]
    show (s.pending.set i _).get j = _ ↔ _
    rw [Store.get_set]
    by_cases hip : ip' = ip
    · by_cases hj : j = i
      · simp [hj, hip]
      · simp [hj, hip, mem_verifying]
    · by_cases hj : j = i
      · simp [hj, hip, mem_verifying, hnew]
      · simp [hj, hip, mem_verifying]
  have hi : i ∉ verifying ip s := by
    rw [mem_verifying, hnew]
    exact fun h => nomatch h
  rw [hset]
  split
  · exact Finset.card_insert_of_notMem hi
  · rfl

/-- The bound survives time passing and attempts leaving flight. -/
theorem Guarded.fewer (h : Guarded K ip s) (hfailed : s'.failed = s.failed)
    (hnow : s.now ≤ s'.now)
    (hflight : (verifying ip s').card ≤ (verifying ip s).card) :
    Guarded K ip s' := by
  refine ⟨hflight.trans h.flight, hfailed ▸ h.counted, ?_⟩
  intro e he hlive
  have hle := h.live e (hfailed ▸ he) (by omega)
  omega

/-- Every action keeps count and flight together under the bound, as long
as no attempt arrives over K. -/
theorem Did.guarded (h : Did s a s') (hg : Guarded K ip s)
    (hok : AtMost K ip a s) : Guarded K ip s' := by
  cases h with
  | tick ms => exact hg.fewer rfl (Nat.le_add_right _ _) le_rfl
  | @admitted i req hsigned hnew hcount =>
      have hcard := card_verifying_admitted ip req.ip hnew
      -- the arrival adds one in flight, under a count that is at most the
      -- cap
      by_cases hip : req.ip = ip
      · rw [if_pos hip] at hcard
        have hlt : (verifying ip s).card < K := hok hip hsigned
        refine ⟨by omega, hg.counted, ?_⟩
        intro e he hlive
        have hfound : found req.ip s.now s.failed = some e :=
          found_some.mpr ⟨hip ▸ he, hlive⟩
        rw [count, hfound] at hcount
        have hcount' : e.count ≤ failuresPerMinute := hcount
        omega
      · rw [if_neg hip, Nat.add_zero] at hcard
        exact hg.fewer rfl le_rfl hcard.le
  | session hnew _ =>
      exact hg.fewer rfl le_rfl (by rw [verifying_session hnew])
  | @replied _ i r _ =>
      exact hg.fewer rfl le_rfl
        (card_verifying_reply_le i r s.failed s.requests)
  | @failed i ip' reason r hi =>
      have hhit := hit_did failures ip' s.now s.failed (by decide)
      have hverifying := verifying_reply ip s i r
        (failures.hit ip' s.now s.failed).2 s.requests
      generalize (failures.hit ip' s.now s.failed).2 = hits'
        at hhit hverifying ⊢
      generalize (failures.hit ip' s.now s.failed).1 = answer at hhit
      by_cases hip : ip = ip'
      -- the failure leaves flight and is counted: the sum is as it was, or
      -- a new window has opened with a count of one
      · subst hip
        have hmem : i ∈ verifying ip s := mem_verifying.mpr hi
        have hcard := Finset.card_erase_of_mem hmem
        have hpos := Finset.card_pos.mpr ⟨i, hmem⟩
        have hflight := hg.flight
        have hentry : ∀ e, hits'.get ip = some e →
            e.count + (verifying ip s).card ≤ failuresPerMinute + K + 1 := by
          intro e he
          cases hhit with
          | opened _ hself _ =>
              rw [hself] at he
              injection he with he
              rw [← he]
              show 1 + _ ≤ _
              omega
          | @counted e₀ he₀ hlive =>
              rw [Store.get_set_self] at he
              injection he with he
              rw [← he]
              have hle := hg.live e₀ he₀ hlive
              show e₀.count + 1 + _ ≤ _
              omega
        refine ⟨?_, ?_, ?_⟩
        · rw [hverifying, hcard]
          omega
        · intro e he
          have hle := hentry e he
          omega
        · intro e he _
          have hle := hentry e he
          rw [hverifying, hcard]
          omega
      -- another address's failure; a sweep may drop the entry of ours, and
      -- then there is less to bound
      · have hkept : ∀ e, hits'.get ip = some e →
            s.failed.get ip = some e := by
          intro e he
          cases hhit with
          | opened _ _ hothers =>
              rcases hothers ip hip with hsame | ⟨hgone, -⟩
              · rw [← hsame]
                exact he
              · rw [hgone] at he
                cases he
          | counted _ _ =>
              rw [Store.get_set_ne _ _ hip] at he
              exact he
        have hle : ((verifying ip s).erase i).card ≤ (verifying ip s).card :=
          Finset.card_erase_le
        refine ⟨?_, fun e he => hg.counted e (hkept e he), ?_⟩
        · rw [hverifying]
          exact hle.trans hg.flight
        · intro e he hlive
          have hsum := hg.live e (hkept e he) hlive
          rw [hverifying]
          omega
  | @verified i ip' partyId stellarAccount keyId r hi =>
      exact hg.fewer rfl le_rfl (card_verifying_reply_le i r s.failed
        (perKey.hit keyId s.now s.requests).2)

/-- Only a verification that ends fails an attempt. -/
theorem failedMarks_other (h : ∀ j result, a ≠ .verified j result) :
    failedMarks a s = [] := by
  cases a with
  | verified i result => exact absurd rfl (h i result)
  | _ => rfl

/-- A failure is counted in the window that is open, or opens one, and the
guard bounds what a window counts. -/
theorem Did.failed_tracked {ms : Marks} (h : Did s a s')
    (hg : Guarded K ip s)
    (ht : Tracked 60000 (failuresPerMinute + K) lo id ip s.failed
      (within 60000 lo ip ms) s.now) :
    Tracked 60000 (failuresPerMinute + K) lo id ip s'.failed
      (within 60000 lo ip (ms ++ failedMarks a s)) s'.now := by
  cases h with
  | tick n =>
      rw [show failedMarks (.tick n) s = [] from rfl, List.append_nil]
      exact ht.later (Nat.le_add_right _ _)
  | admitted =>
      rw [show failedMarks (.arrive _ _) s = [] from rfl, List.append_nil]
      exact ht
  | session _ ha =>
      rw [failedMarks_other ha, List.append_nil]
      exact ht
  | replied ha =>
      rw [failedMarks_other ha, List.append_nil]
      exact ht
  | @failed i ip' reason r hi =>
      have hmarks : failedMarks (.verified i (.refused reason)) s
          = [(ip', s.now)] := by
        simp only [failedMarks, hi]
      rw [hmarks, within_append, within_singleton]
      have hhit := hit_did failures ip' s.now s.failed (by decide)
      by_cases hip : ip = ip'
      · subst hip
        rw [if_pos rfl]
        have hflight : 1 ≤ (verifying ip s).card :=
          Finset.card_pos.mpr ⟨i, mem_verifying.mpr hi⟩
        generalize (failures.hit ip s.now s.failed).2 = hits' at hhit ⊢
        generalize (failures.hit ip s.now s.failed).1 = answer at hhit
        cases hhit with
        | opened hnone hself _ =>
            exact ht.opened le_rfl hnone hself
              (by simp only [failuresPerMinute]; omega) rfl
        | @counted e he hlive =>
            have hle := hg.live e he hlive
            exact (ht.counted le_rfl he hlive).1 rfl
              (by show e.count + 1 ≤ _; omega)
      · rw [if_neg (Ne.symm hip)]
        exact ht.other 60000 le_rfl hhit hip
  | @verified i ip' partyId stellarAccount keyId r hi =>
      rw [show failedMarks (.verified i
        (.ok partyId stellarAccount keyId)) s = [] from rfl, List.append_nil]
      exact ht

/-- One API process verifies at most twice 30 failing attempts of an
address in any minute, and twice as many more as are ever being verified
together. -/
theorem failed_in_a_minute (verifySessionToken : Text → Option Text)
    (as : List Act) (ip : Text) (K lo : Nat)
    (has : (machine verifySessionToken).Allowed (AtMost K ip)
      (machine verifySessionToken).init as) :
    within 60000 lo ip (failedIn verifySessionToken as)
      ≤ 2 * (failuresPerMinute + K) := by
  have hinit : Guarded K ip (machine verifySessionToken).init :=
    ⟨Nat.zero_le _, fun _ he => (nomatch he), fun _ he => (nomatch he)⟩
  have h : Guarded K ip ((machine verifySessionToken).run
        (machine verifySessionToken).init as)
      ∧ Tracked 60000 (failuresPerMinute + K) lo id ip
        ((machine verifySessionToken).run (machine verifySessionToken).init
          as).failed
        (within 60000 lo ip (failedIn verifySessionToken as))
        ((machine verifySessionToken).run (machine verifySessionToken).init
          as).now :=
    Machine.recorded_induction
      (P := fun s ms => Guarded K ip s
        ∧ Tracked 60000 (failuresPerMinute + K) lo id ip s.failed
          (within 60000 lo ip ms) s.now)
      ⟨hinit, Or.inl ⟨rfl, rfl⟩⟩
      (fun s ms a s' ht hok happ => ⟨(did_of_step happ).guarded ht.1 hok,
        (did_of_step happ).failed_tracked ht.1 ht.2⟩) has
  exact h.2.le

/-- Some guesses at once, from one address, over two windows. -/
theorem failed_in_a_minute_demo :
    within 60000 0 Demo.ip (failedIn (fun _ => none) Demo.guesses)
      ≤ 2 * (failuresPerMinute + 2) :=
  failed_in_a_minute (fun _ => none) Demo.guesses Demo.ip 2 0
    (by decide +kernel)

example : within 60000 0 Demo.ip (failedIn (fun _ => none) Demo.guesses)
    = 2 := by decide +kernel

end Ballast.ApiKeys.AuthHook
