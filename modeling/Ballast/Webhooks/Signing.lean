/-
The secret of a subscription: `secretBox.ts`, which stores it, and
`signing.ts`, which signs a delivery with it and which a subscriber runs
on receipt.

A stored secret is `iv.tag.ciphertext`, each in base64. A signature header
is `t=<unix seconds>,v1=<hex mac of "<t>.<body>">`; the subscriber takes
the header apart, recomputes the mac over the time it finds and the body
it received, and refuses a time more than the tolerance away.

A header is checked by the function that wrote it, run again on what was
received, and only the mac of the two is compared. Base64, hexadecimal,
the cipher, the mac and `Number` are Node's and come in as parameters
(`Crypto`), with what is used of them stated apart (`Crypto.Lawful`).
-/
import Ballast.Common.Hex
import Ballast.Common.Js
import Ballast.Webhooks.Ssrf

namespace Ballast.Webhooks

open Soroban Hex

/-- What Node computes. -/
structure Crypto where
  /-- of a secret and a message -/
  hmacSha256 : Text → Text → List UInt8
  /-- `Number(text)`, where that is an integer -/
  numberOf : Text → Option Int
  base64 : List UInt8 → Text
  ofBase64 : Text → List UInt8
  /-- AES-256-GCM: the tag and the ciphertext of a key, an iv and a
  text -/
  encipher : List UInt8 → List UInt8 → Text → List UInt8 × List UInt8
  /-- of a key, an iv, a tag and a ciphertext; throws -/
  decipher : List UInt8 → List UInt8 → List UInt8 → List UInt8 → Call Text

variable (c : Crypto)

-- =============================================================== secretBox

/-- `/^[0-9a-fA-F]{64}$/`. -/
def isValidSecretKey (keyHex : Text) : Bool :=
  keyHex.length = 64 ∧ keyHex.all fun d => (unhex d).isSome

def keyBuffer (keyHex : Text) : Call (List UInt8) := do
  ensure (isValidSecretKey keyHex = true)
    "WEBHOOK_SECRET_KEY must be 32 bytes as 64 hex characters"
  return ofHex keyHex

/-- `iv` is `randomBytes(12)`. -/
def encryptSecret (iv : List UInt8) (plaintext keyHex : Text) :
    Call Text := do
  let key ← keyBuffer keyHex
  let (tag, ciphertext) := c.encipher key iv plaintext
  return ['.'].intercalate ([iv, tag, ciphertext].map c.base64)

def decryptSecret (boxed keyHex : Text) : Call Text :=
  match (boxed.splitOn '.').map c.ofBase64 with
  | iv :: tag :: ciphertext :: _ => do
      let key ← keyBuffer keyHex
      c.decipher key iv tag ciphertext
  | _ => .error "malformed webhook secret"

-- ================================================================= signing

/-- `SIGNATURE_TOLERANCE_S`. -/
def signatureToleranceS : Nat := 300

/-- `` `${timestampS}.${body}` ``. -/
def signedText (timestampS : Int) (body : Text) : Text :=
  Js.bigintText timestampS ++ '.' :: body

def signWebhook (secret : Text) (timestampS : Int) (body : Text) : Text :=
  let mac := toHex (c.hmacSha256 secret (signedText timestampS body))
  "t=".toList ++ Js.bigintText timestampS ++ ",v1=".toList ++ mac

/-- `Object.fromEntries(header.split(",").map((p) => p.split("=")))[key]`:
the last entry of a name counts, and its second piece is the value. -/
def headerPart (header key : Text) : Option Text :=
  ((((header.splitOn ',').map (·.splitOn '=')).reverse.find? fun entry =>
    entry.head? = some key).bind fun entry => entry[1]?)

/-- `split("v1=")`. -/
def splitV1 : Text → List Text
  | 'v' :: '1' :: '=' :: rest => [] :: splitV1 rest
  | d :: rest =>
      match splitV1 rest with
      | [] => [[d]]
      | piece :: pieces => (d :: piece) :: pieces
  | [] => [[]]

def verifyWebhook (secret header body : Text) (nowS : Int) : Bool :=
  match (headerPart header ['t']).bind c.numberOf,
      headerPart header ['v', '1'] with
  | some t, some v1 =>
      if v1 = [] ∨ signatureToleranceS < (nowS - t).natAbs then false
      else
        let expected := ofHex
          (((splitV1 (signWebhook c secret t body))[1]?).getD [])
        expected = ofHex v1
  | _, _ => false

-- ============================================================ what Node does

/-- What the code relies on. -/
structure Crypto.Lawful : Prop where
  /-- a mac is 32 bytes -/
  length_mac : ∀ secret m, (c.hmacSha256 secret m).length = 32
  /-- integers a double holds read back -/
  numberOf_text : ∀ n : Int, n.natAbs < 2 ^ 53 →
    c.numberOf (Js.bigintText n) = some n
  ofBase64_base64 : ∀ bytes, c.ofBase64 (c.base64 bytes) = bytes
  /-- base64 has no full stop among its digits -/
  base64_plain : ∀ bytes, '.' ∉ c.base64 bytes
  decipher_encipher : ∀ key iv plaintext,
    c.decipher key iv (c.encipher key iv plaintext).1
      (c.encipher key iv plaintext).2 = .ok plaintext

-- ==================================================================== demo

namespace Demo

/-- The three bytes of a character. -/
def bytes (d : Char) : List UInt8 :=
  [UInt8.ofNat (d.toNat / 65536), UInt8.ofNat (d.toNat / 256),
    UInt8.ofNat d.toNat]

def chars : List UInt8 → Text
  | x :: y :: z :: rest =>
      Char.ofNat (65536 * x.toNat + 256 * y.toNat + z.toNat) :: chars rest
  | _ => []

/-- A mac is the beginning of the message, a ciphertext the text. -/
def crypto : Crypto where
  hmacSha256 _ m :=
    ((m.map fun d : Char => UInt8.ofNat d.toNat) ++ List.replicate 32 0).take 32
  numberOf := Js.stringToBigInt
  base64 := toHex
  ofBase64 := ofHex
  encipher _ _ plaintext := ([], plaintext.flatMap bytes)
  decipher _ _ _ ciphertext := .ok (chars ciphertext)

end Demo

end Ballast.Webhooks
