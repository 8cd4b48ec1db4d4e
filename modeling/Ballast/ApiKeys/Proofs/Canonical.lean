/-
What a signature stands for.

The canonical string joins its fields with line feeds. The timestamp and
the nonce have passed their formats and the body hash is hexadecimal, so
none of them holds a line feed; cutting the string at its first three
line feeds and at its last one gives them back whatever the method and
the URL hold (`canonicalRequest_fields`). Method and URL meet in the
middle, and come apart by one more cut when the method holds no line
feed.

`checkRequest` lets a request through exactly when its signature reads as
the HMAC of its canonical string (`checkRequest_ok`).
-/
import Ballast.ApiKeys.Basic
import Ballast.Common.Cut

namespace Ballast.ApiKeys

open Soroban Hex

-- ================================================================ formats

theorem lineFeed_notMem_timestamp {text : Text}
    (h : timestampFormat text = true) : '\n' ∉ text := by
  intro hmem
  simp only [timestampFormat, decide_eq_true_eq, List.all_eq_true] at h
  have hdigit := h.2 _ hmem
  revert hdigit
  decide

theorem lineFeed_notMem_nonce {text : Text}
    (h : nonceFormat text = true) : '\n' ∉ text := by
  intro hmem
  simp only [nonceFormat, decide_eq_true_eq, List.all_eq_true] at h
  have hchar := h.2.2 _ hmem
  revert hchar
  decide

theorem lineFeed_notMem_toHex (bs : List UInt8) : '\n' ∉ toHex bs := by
  intro hmem
  have hdigit := isSome_unhex_of_mem hmem
  revert hdigit
  decide

/-- Fields the format checks let through. -/
structure SignedArgs.Formatted (args : SignedArgs) : Prop where
  timestamp : timestampFormat args.timestamp = true
  nonce : nonceFormat args.nonce = true

-- ============================================================== injective

variable {p : Platform} {args args' : SignedArgs}

theorem canonicalRequest_eq (p : Platform) (args : SignedArgs) :
    canonicalRequest p args
      = 'v' :: '1' :: '\n' :: (args.timestamp ++ '\n' :: (args.nonce
        ++ '\n' :: ((p.toUpperCase args.method ++ '\n' :: args.url)
          ++ '\n' :: toHex (p.sha256 args.rawBody)))) := by
  simp [canonicalRequest, List.intercalate, List.intersperse]

/-- Equal canonical strings have equal timestamps, nonces and bodies, and
their methods and URLs join to the same text. -/
theorem canonicalRequest_fields (hsha : Function.Injective p.sha256)
    (hargs : args.Formatted) (hargs' : args'.Formatted)
    (h : canonicalRequest p args = canonicalRequest p args') :
    args.timestamp = args'.timestamp ∧ args.nonce = args'.nonce
      ∧ args.rawBody = args'.rawBody
      ∧ p.toUpperCase args.method ++ '\n' :: args.url
        = p.toUpperCase args'.method ++ '\n' :: args'.url := by
  rw [canonicalRequest_eq, canonicalRequest_eq] at h
  have hjoined := (List.cons.inj (List.cons.inj (List.cons.inj h).2).2).2
  obtain ⟨htimestamp, hafter⟩ := cut_first
    (lineFeed_notMem_timestamp hargs.timestamp)
    (lineFeed_notMem_timestamp hargs'.timestamp) hjoined
  obtain ⟨hnonce, hrest⟩ := cut_first
    (lineFeed_notMem_nonce hargs.nonce)
    (lineFeed_notMem_nonce hargs'.nonce) hafter
  obtain ⟨hmiddle, hhash⟩ := cut_last (lineFeed_notMem_toHex _)
    (lineFeed_notMem_toHex _) hrest
  exact ⟨htimestamp, hnonce, hsha (toHex_injective hhash), hmiddle⟩

-- ================================================================= checks

/-- What a request that got past the checks showed: its own fields, in
format, a timestamp in tolerance, and the signature of its canonical
string under the key's secret. -/
structure Shown (p : Platform) (secretKey : Text) (key : PartyApiKey)
    (req : SignedRequest) (nowMs : Nat) (timestamp nonce secret : Text) :
    Prop where
  active : key.status = .active
  hasTimestamp : req.timestamp = some timestamp
  hasNonce : req.nonce = some nonce
  formatted : (req.args timestamp nonce).Formatted
  timely : timely timestamp nowMs = true
  decrypts : p.decryptSecret key.secretCiphertext secretKey = .ok secret
  signature : ofHex req.signature
    = p.hmacSha256 secret (canonicalRequest p (req.args timestamp nonce))

theorem checkRequest_ok {secretKey : Text} {row : Option PartyApiKey}
    {req : SignedRequest} {nowMs : Nat} {key : PartyApiKey} {nonce : Text} :
    checkRequest p secretKey row req nowMs = .ok (.ok (key, nonce)) ↔
      row = some key ∧ ∃ timestamp secret,
        Shown p secretKey key req nowMs timestamp nonce secret := by
  constructor
  · intro h
    unfold checkRequest at h
    split at h
    · cases h
    next key' =>
    split at h
    · cases h
    next hactive =>
    split at h
    · cases h
    next timestamp htimestamp =>
    split at h
    · cases h
    next hformat =>
    split at h
    · cases h
    next htimely =>
    split at h
    · cases h
    next nonce' hnonce =>
    split at h
    · cases h
    next hnonceFormat =>
    obtain ⟨secret, hsecret, h⟩ := bind_ok.mp h
    dsimp only at h
    split at h
    · cases h
    next hsignature =>
    cases h
    refine ⟨rfl, timestamp, secret, ?_⟩
    exact {
      active := not_not.mp hactive
      hasTimestamp := htimestamp
      hasNonce := hnonce
      formatted := ⟨not_not.mp hformat, not_not.mp hnonceFormat⟩
      timely := not_not.mp htimely
      decrypts := hsecret
      signature := by simpa [signRequest] using (not_not.mp hsignature).symm }
  · rintro ⟨rfl, timestamp, secret, h⟩
    obtain ⟨hformat, hnonceFormat⟩ := h.formatted
    simp only [SignedRequest.args] at hformat hnonceFormat
    simp [checkRequest, h.active, h.hasTimestamp, h.hasNonce, hformat,
      hnonceFormat, h.timely, h.decrypts, h.signature, signRequest, bind,
      Except.bind, pure, Except.pure]

/-- Two requests under one secret whose signatures read alike have one
canonical string. -/
theorem Shown.canonical {secretKey : Text} {key key' : PartyApiKey}
    {req req' : SignedRequest} {nowMs nowMs' : Nat}
    {timestamp timestamp' nonce nonce' secret : Text}
    (hhmac : Function.Injective (p.hmacSha256 secret))
    (h : Shown p secretKey key req nowMs timestamp nonce secret)
    (h' : Shown p secretKey key' req' nowMs' timestamp' nonce' secret)
    (hsame : ofHex req.signature = ofHex req'.signature) :
    canonicalRequest p (req.args timestamp nonce)
      = canonicalRequest p (req'.args timestamp' nonce') := by
  apply hhmac
  rw [← h.signature, ← h'.signature, hsame]

end Ballast.ApiKeys
