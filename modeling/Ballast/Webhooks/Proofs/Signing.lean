/-
What a signature says: a subscriber accepts the header Ballast sent for a
body when the clock is within the tolerance of the time in it, and for
another body, or with another time put in, only where two messages have
one mac. A stored secret opens to what was stored.

# Reading a header back

The subscriber splits the header at its commas and each entry at its
first equals sign, so what matters of the parts Ballast writes is which
characters they cannot hold: digits and a sign, hexadecimal digits. A
message is the time, a point and the body, and since a time has no point
the message says both (`signedText_injective`).

# What is assumed

What Node's library does is `Crypto.Lawful`: a mac is 32 bytes, integers
and base64 read back, and a cipher is undone by its key. That another
message has the same mac is no assumption but an alternative of the
results, with the message named.
-/
import Ballast.Common.Cut
import Ballast.Webhooks.Signing

namespace Ballast.Webhooks

open Soroban Hex

variable {c : Crypto} {secret body body' header keyHex : Text} {t nowS : Int}

-- ======================================================= what texts hold

/-- The text of an integer holds digits and a sign. -/
theorem not_mem_bigintText {d : Char} (hdigit : d.isDigit = false)
    (hminus : d ≠ '-') (n : Int) : d ∉ Js.bigintText n := by
  intro h
  rcases Js.mem_bigintText h with h | h
  · rw [hdigit] at h
    cases h
  · exact hminus h

theorem not_mem_toHex {d : Char} (hd : unhex d = none) (bs : List UInt8) :
    d ∉ toHex bs := by
  intro h
  have hsome := isSome_unhex_of_mem h
  rw [hd] at hsome
  cases hsome

-- ============================================================== the pieces

theorem splitV1_plain {x : Text} (hx : 'v' ∉ x) : splitV1 x = [x] := by
  induction x with
  | nil => rfl
  | cons d x ih =>
      have hd : d ≠ 'v' := fun h => hx (h ▸ List.mem_cons_self)
      have hx' : 'v' ∉ x := fun h => hx (List.mem_cons_of_mem _ h)
      rw [splitV1, ih hx']
      intro rest h
      exact absurd h hd

theorem splitV1_cut {x : Text} (hx : 'v' ∉ x) (y : Text) :
    splitV1 (x ++ 'v' :: '1' :: '=' :: y) = x :: splitV1 y := by
  induction x with
  | nil => rfl
  | cons d x ih =>
      have hd : d ≠ 'v' := fun h => hx (h ▸ List.mem_cons_self)
      have hx' : 'v' ∉ x := fun h => hx (List.mem_cons_of_mem _ h)
      rw [List.cons_append, splitV1, ih hx']
      intro rest h
      exact absurd h hd

/-- A header is `t=…,v1=…`. -/
theorem signWebhook_eq (c : Crypto) (secret : Text) (t : Int)
    (body : Text) :
    signWebhook c secret t body
      = [','].intercalate [['='].intercalate [['t'], Js.bigintText t],
          ['='].intercalate [['v', '1'],
            toHex (c.hmacSha256 secret (signedText t body))]] := by
  simp [signWebhook, List.intercalate, List.intersperse]

/-- The entries of a header Ballast wrote. -/
theorem entries_signWebhook (c : Crypto) (secret : Text) (t : Int)
    (body : Text) :
    ((signWebhook c secret t body).splitOn ',').map (·.splitOn '=')
      = [[['t'], Js.bigintText t], [['v', '1'],
          toHex (c.hmacSha256 secret (signedText t body))]] := by
  have ht := not_mem_bigintText (d := ',') rfl (by decide) t
  have heq := not_mem_bigintText (d := '=') rfl (by decide) t
  have hmac := not_mem_toHex (d := ',') rfl
    (c.hmacSha256 secret (signedText t body))
  have hmaceq := not_mem_toHex (d := '=') rfl
    (c.hmacSha256 secret (signedText t body))
  rw [signWebhook_eq, List.splitOn_intercalate ',' ?_ (by simp)]
  · rw [List.map_cons, List.map_cons, List.map_nil,
      List.splitOn_intercalate '=' ?_ (by simp),
      List.splitOn_intercalate '=' ?_ (by simp)]
    · simpa using hmaceq
    · simpa using heq
  · simp only [List.intercalate, List.intersperse, List.mem_cons,
      List.not_mem_nil, or_false]
    intro l hl
    rcases hl with rfl | rfl
    · simpa using ht
    · simpa using hmac

theorem headerPart_t (c : Crypto) (secret : Text) (t : Int) (body : Text) :
    headerPart (signWebhook c secret t body) ['t']
      = some (Js.bigintText t) := by
  rw [headerPart, entries_signWebhook]
  rfl

theorem headerPart_v1 (c : Crypto) (secret : Text) (t : Int)
    (body : Text) :
    headerPart (signWebhook c secret t body) ['v', '1']
      = some (toHex (c.hmacSha256 secret (signedText t body))) := by
  rw [headerPart, entries_signWebhook]
  rfl

/-- What the subscriber recomputes is the mac itself. -/
theorem expected_eq (c : Crypto) (secret : Text) (t : Int) (body : Text) :
    ofHex (((splitV1 (signWebhook c secret t body))[1]?).getD [])
      = c.hmacSha256 secret (signedText t body) := by
  have hcut : signWebhook c secret t body
      = ("t=".toList ++ Js.bigintText t ++ [',']) ++ 'v' :: '1' :: '='
        :: toHex (c.hmacSha256 secret (signedText t body)) := by
    simp [signWebhook]
  have hv : 'v' ∉ "t=".toList ++ Js.bigintText t ++ [','] := by
    have := not_mem_bigintText (d := 'v') rfl (by decide) t
    simpa using this
  rw [hcut, splitV1_cut hv, splitV1_plain (not_mem_toHex rfl _)]
  exact ofHex_toHex _

theorem bigintText_injective : Function.Injective Js.bigintText := by
  intro m n h
  have hread := Js.bigIntOf_text m
  rw [h, Js.bigIntOf_text n] at hread
  injection hread with hread
  exact hread.symm

/-- A message says its time and its body. -/
theorem signedText_injective {t t' : Int}
    (h : signedText t body = signedText t' body') :
    t = t' ∧ body = body' := by
  obtain ⟨ht, hbody⟩ := cut_first (not_mem_bigintText rfl (by decide) t)
    (not_mem_bigintText rfl (by decide) t') h
  exact ⟨bigintText_injective ht, hbody⟩

-- ============================================================== acceptance

/-- What a subscriber has checked when it accepts. -/
theorem verifyWebhook_true (h : verifyWebhook c secret header body nowS
    = true) :
    ∃ tText t v1, headerPart header ['t'] = some tText
      ∧ c.numberOf tText = some t
      ∧ headerPart header ['v', '1'] = some v1
      ∧ (nowS - t).natAbs ≤ signatureToleranceS
      ∧ ofHex v1 = c.hmacSha256 secret (signedText t body) := by
  unfold verifyWebhook at h
  split at h
  next t v1 ht hv1 =>
    obtain ⟨tText, htText, ht⟩ := Option.bind_eq_some_iff.mp ht
    split at h
    · cases h
    next hcheck =>
      rw [not_or, Nat.not_lt] at hcheck
      have hmac := of_decide_eq_true h
      rw [expected_eq] at hmac
      exact ⟨tText, t, v1, htText, ht, hv1, hcheck.2, hmac.symm⟩
  · cases h

/-- A mac Ballast made is accepted, in whatever header, with the body it
was made for and near the time it was made for, or on a collision: the
message of the time in the header and the body received is another one,
and has that mac too. -/
theorem verifyWebhook_carried {v1 : Text}
    (h : verifyWebhook c secret header body' nowS = true)
    (hv1 : headerPart header ['v', '1'] = some v1)
    (hmac : ofHex v1 = c.hmacSha256 secret (signedText t body)) :
    (body' = body ∧ (nowS - t).natAbs ≤ signatureToleranceS)
      ∨ ∃ t', (headerPart header ['t']).bind c.numberOf = some t'
        ∧ signedText t' body' ≠ signedText t body
        ∧ c.hmacSha256 secret (signedText t' body')
          = c.hmacSha256 secret (signedText t body) := by
  obtain ⟨tText, t', v1', htText, ht', hv1', hfresh, hmac'⟩ :=
    verifyWebhook_true h
  rw [hv1] at hv1'
  injection hv1' with hv1'
  subst hv1'
  by_cases hm : signedText t' body' = signedText t body
  · obtain ⟨rfl, rfl⟩ := signedText_injective hm
    exact Or.inl ⟨rfl, hfresh⟩
  · refine Or.inr ⟨t', ?_, hm, hmac'.symm.trans hmac⟩
    rw [htText, Option.bind_some, ht']

/-- The header Ballast sent is accepted for what it was made of, while it
is fresh; for another body where the macs collide. -/
theorem verifyWebhook_signWebhook (hc : c.Lawful)
    (ht : t.natAbs < 2 ^ 53) :
    verifyWebhook c secret (signWebhook c secret t body) body' nowS = true
      ↔ (nowS - t).natAbs ≤ signatureToleranceS
        ∧ c.hmacSha256 secret (signedText t body')
          = c.hmacSha256 secret (signedText t body) := by
  have hne : toHex (c.hmacSha256 secret (signedText t body)) ≠ [] := by
    intro hnil
    have hbytes := congrArg ofHex hnil
    rw [ofHex_toHex] at hbytes
    have hlen := hc.length_mac secret (signedText t body)
    rw [hbytes] at hlen
    cases hlen
  unfold verifyWebhook
  rw [headerPart_t, headerPart_v1, Option.bind_some, hc.numberOf_text t ht]
  simp only [hne, false_or, expected_eq, ofHex_toHex]
  split
  next hlate =>
    constructor
    · intro h
      cases h
    · intro h
      exact absurd h.1 (Nat.not_le.mpr hlate)
  next hfresh =>
    simp [Nat.not_lt.mp hfresh]

-- =============================================================== secretBox

/-- A stored secret opens to what was stored. -/
theorem decryptSecret_encryptSecret (hc : c.Lawful) {iv : List UInt8}
    {plaintext boxed : Text}
    (h : encryptSecret c iv plaintext keyHex = .ok boxed) :
    decryptSecret c boxed keyHex = .ok plaintext := by
  unfold encryptSecret at h
  obtain ⟨key, hkey, h⟩ := bind_ok.mp h
  simp only [pure_ok] at h
  have hsplit := @List.splitOn_intercalate _ ([iv,
      (c.encipher key iv plaintext).1,
      (c.encipher key iv plaintext).2].map c.base64) _ _ '.' ?_ (by simp)
  · unfold decryptSecret
    rw [← h, hsplit]
    simp only [List.map_cons, List.map_nil, hc.ofBase64_base64]
    exact bind_ok.mpr ⟨key, hkey, hc.decipher_encipher key iv plaintext⟩
  · intro l hl
    obtain ⟨bytes, -, rfl⟩ := List.mem_map.mp hl
    exact hc.base64_plain bytes

-- ==================================================================== demo

namespace Demo

theorem chars_bytes (plaintext : Text) :
    chars (plaintext.flatMap bytes) = plaintext := by
  induction plaintext with
  | nil => rfl
  | cons d rest ih =>
      have hd : d.toNat < 1114112 := by
        have := d.valid
        simp only [UInt32.isValidChar, Nat.isValidChar] at this
        simp only [Char.toNat]
        omega
      have hsum : 65536 * (d.toNat / 65536 % 2 ^ 8)
          + 256 * (d.toNat / 256 % 2 ^ 8) + d.toNat % 2 ^ 8 = d.toNat := by
        omega
      simp only [List.flatMap_cons, bytes, List.cons_append, List.nil_append,
        chars, UInt8.toNat_ofNat', hsum, Char.ofNat_toNat, ih]

theorem lawful : crypto.Lawful where
  length_mac _ _ := by
    simp [crypto]
  numberOf_text n _ := Js.stringToBigInt_text n
  ofBase64_base64 bytes := ofHex_toHex bytes
  base64_plain bytes := not_mem_toHex rfl bytes
  decipher_encipher _ _ plaintext := by
    simp only [crypto, chars_bytes]

end Demo

/-- A header made for the second 100 is taken at 110. -/
theorem verifyWebhook_carried_demo :
    (['b'] = ['b'] ∧ ((110 : Int) - 100).natAbs ≤ signatureToleranceS)
      ∨ ∃ t', (headerPart (signWebhook Demo.crypto ['k'] 100 ['b'])
          ['t']).bind Demo.crypto.numberOf = some t'
        ∧ signedText t' ['b'] ≠ signedText 100 ['b']
        ∧ Demo.crypto.hmacSha256 ['k'] (signedText t' ['b'])
          = Demo.crypto.hmacSha256 ['k'] (signedText 100 ['b']) :=
  @verifyWebhook_carried Demo.crypto ['k'] ['b'] ['b'] _ 100 110 _
    (by decide +kernel) (headerPart_v1 Demo.crypto ['k'] 100 ['b'])
    (ofHex_toHex _)

end Ballast.Webhooks
