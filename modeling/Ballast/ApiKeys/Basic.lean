/-
API-key authentication: signing, verifying and remembering nonces.

A request is signed over its timestamp, nonce, method, URL and body. The
API looks the key up, checks the timestamp against the clock it read when
the call began, recomputes the signature, and then records the nonce: a
nonce already on file means the request is a replay. Old nonces are
purged.

A JS string is a list of characters here. `Platform` is what Node's
crypto and string library compute. `Number(timestamp)` is the integer the
digits spell: both sides of the tolerance test are exact in doubles up to
far beyond the tolerance's reach, so it is integer arithmetic in
milliseconds.

# Steps

Every statement of `verifyApiKeyRequest` is an await, so a call is cut
there: `lookup` (the select), `check` (everything up to the insert),
`recordNonce`, `touch` (the last-used update). Calls and purges of any
number of API instances interleave over one database and one clock, in
milliseconds. A purge also reads the clock first and deletes later. A
statement may fail, or commit without its caller hearing of it.
-/
import Ballast.Common.Delivery
import Ballast.Common.Hex
import Ballast.Soroban.Machine
import Ballast.Soroban.Store

namespace Ballast.ApiKeys

open Soroban Hex

/-- A JS string. -/
abbrev Text := List Char

/-- What Node's libraries compute. -/
structure Platform where
  sha256 : List UInt8 → List UInt8
  /-- of a secret and a message -/
  hmacSha256 : Text → Text → List UInt8
  toUpperCase : Text → Text
  /-- the secret under a ciphertext and the API's own key; throws -/
  decryptSecret : Text → Text → Call Text

/-- `TIMESTAMP_TOLERANCE_S`. -/
def timestampToleranceS : Nat := 300

/-- `NONCE_RETENTION_S`. -/
def nonceRetentionS : Nat := 2 * timestampToleranceS

/-- `/^\d+$/`. -/
def timestampFormat (text : Text) : Bool :=
  text ≠ [] ∧ text.all Char.isDigit

/-- `[A-Za-z0-9_-]`. -/
def nonceChar (c : Char) : Bool :=
  c.isAlphanum ∨ c = '_' ∨ c = '-'

/-- `NONCE_FORMAT`. -/
def nonceFormat (text : Text) : Bool :=
  16 ≤ text.length ∧ text.length ≤ 64 ∧ text.all nonceChar

/-- `Number(text)`, of digits. -/
def number (text : Text) : Nat :=
  text.foldl (fun n c => 10 * n + (c.toNat - '0'.toNat)) 0

/-- What is signed. -/
structure SignedArgs where
  timestamp : Text
  nonce : Text
  method : Text
  url : Text
  rawBody : List UInt8
  deriving DecidableEq

def canonicalRequest (p : Platform) (args : SignedArgs) : Text :=
  let bodyHash := toHex (p.sha256 args.rawBody)
  ['\n'].intercalate
    [['v', '1'], args.timestamp, args.nonce, p.toUpperCase args.method,
      args.url, bodyHash]

def signRequest (p : Platform) (secret : Text) (args : SignedArgs) :
    Text :=
  toHex (p.hmacSha256 secret (canonicalRequest p args))

inductive ApiKeyFailure where
  | unknownKey
  | revoked
  | badTimestamp
  | staleTimestamp
  | badNonce
  | badSignature
  | replayed
  deriving DecidableEq, Repr

inductive ApiKeyResult where
  | ok (partyId stellarAccount keyId : Text)
  | refused (reason : ApiKeyFailure)
  deriving DecidableEq

structure SignedRequest where
  keyId : Text
  signature : Text
  timestamp : Option Text
  nonce : Option Text
  method : Text
  url : Text
  rawBody : List UInt8
  deriving DecidableEq

inductive KeyStatus where
  | active
  | revoked
  deriving DecidableEq, Repr

/-- A row of `party_api_key`, which is kept by its unique key id. -/
structure PartyApiKey where
  partyId : Text
  stellarAccount : Text
  keyId : Text
  secretCiphertext : Text
  status : KeyStatus
  lastUsedAt : Option Nat
  deriving DecidableEq

/-- The timestamp is within the tolerance of the clock, either way. -/
def timely (timestamp : Text) (nowMs : Nat) : Bool :=
  ((nowMs : Int) - 1000 * number timestamp).natAbs
    ≤ 1000 * timestampToleranceS

/-- What a request claims to have signed. -/
def SignedRequest.args (req : SignedRequest) (timestamp nonce : Text) :
    SignedArgs :=
  ⟨timestamp, nonce, req.method, req.url, req.rawBody⟩

/-- The checks between the key lookup and the nonce insert: the nonce to
record, or why the request is refused. Decrypting may throw. -/
def checkRequest (p : Platform) (secretKey : Text)
    (found : Option PartyApiKey) (req : SignedRequest) (nowMs : Nat) :
    Call (Except ApiKeyFailure (PartyApiKey × Text)) :=
  match found with
  | none => return .error .unknownKey
  | some key =>
    if key.status ≠ .active then return .error .revoked
    else match req.timestamp with
    | none => return .error .badTimestamp
    | some timestamp =>
      if ¬ timestampFormat timestamp then return .error .badTimestamp
      else if ¬ timely timestamp nowMs then return .error .staleTimestamp
      else match req.nonce with
      | none => return .error .badNonce
      | some nonce =>
        if ¬ nonceFormat nonce then return .error .badNonce
        else do
          let secret ← p.decryptSecret key.secretCiphertext secretKey
          let expected := ofHex
            (signRequest p secret (req.args timestamp nonce))
          if expected ≠ ofHex req.signature then
            return .error .badSignature
          return .ok (key, nonce)

-- ============================================================== the state

/-- Where a call of `verifyApiKeyRequest` stands. -/
inductive Phase where
  | started
  /-- the select answered -/
  | found (row : Option PartyApiKey)
  /-- the checks passed; the nonce is about to be recorded -/
  | verified (key : PartyApiKey) (nonce : Text)
  | recorded (key : PartyApiKey)
  | returned (result : ApiKeyResult)
  | threw
  deriving DecidableEq

/-- A call: its request, the clock when it began, and, as history,
whether it got past the signature check. -/
structure Caller where
  req : SignedRequest
  nowMs : Nat
  phase : Phase
  passed : Bool
  deriving DecidableEq

structure Auth where
  /-- milliseconds -/
  clock : Nat
  partyApiKey : Store Text PartyApiKey
  /-- when each nonce was recorded, by key id and nonce -/
  apiKeyNonce : Store (Text × Text) Nat
  callers : Store Nat Caller
  /-- the purges under way, with the clock each read -/
  purges : Store Nat Nat

-- ============================================================== the steps

/-- The clock moves on. -/
def tick (now : Nat) (s : Auth) : Call Auth := do
  ensure (s.clock ≤ now) "time runs forward"
  return { s with clock := now }

/-- The create route inserts a key under a new key id. -/
def createKey (row : PartyApiKey) (s : Auth) : Call Auth := do
  ensure (s.partyApiKey.get row.keyId = none)
    "party_api_key_key_id_uq: duplicate key"
  return { s with partyApiKey := s.partyApiKey.set row.keyId row }

/-- The revoke route. -/
def revokeKey (keyId : Text) (s : Auth) : Call Auth :=
  return { s with
    partyApiKey := s.partyApiKey.adjust keyId fun row =>
      { row with status := .revoked } }

/-- `verifyApiKeyRequest` is called: `nowMs` is read. -/
def begin (id : Nat) (req : SignedRequest) (s : Auth) : Call Auth := do
  ensure (s.callers.get id = none) "the call is under way"
  return { s with
    callers := s.callers.set id ⟨req, s.clock, .started, false⟩ }

/-- The call `id`, moved to `phase`. -/
def moveTo (s : Auth) (id : Nat) (c : Caller) (phase : Phase) : Auth :=
  { s with callers := s.callers.set id { c with phase := phase } }

/-- The key lookup. -/
def lookup (id : Nat) (fault : Bool) (s : Auth) : Call Auth := do
  let c ← expect (s.callers.get id) "no such call"
  ensure (c.phase = .started) "not at the lookup"
  if fault then return moveTo s id c .threw
  return moveTo s id c (.found (s.partyApiKey.get c.req.keyId))

/-- The checks. -/
def check (p : Platform) (secretKey : Text) (id : Nat) (s : Auth) :
    Call Auth := do
  let c ← expect (s.callers.get id) "no such call"
  match c.phase with
  | .found row =>
      match checkRequest p secretKey row c.req c.nowMs with
      | .error _ => return moveTo s id c .threw
      | .ok (.error reason) =>
          return moveTo s id c (.returned (.refused reason))
      | .ok (.ok (key, nonce)) =>
          return moveTo s id { c with passed := true } (.verified key nonce)
  | _ => throw "not at the checks"

/-- `insert(apiKeyNonce).onConflictDoNothing()`. -/
def recordNonce (id : Nat) (delivery : Delivery) (s : Auth) :
    Call Auth := do
  let c ← expect (s.callers.get id) "no such call"
  match c.phase with
  | .verified key nonce =>
      match delivery, s.apiKeyNonce.get (key.keyId, nonce) with
      | .rolledBack, _ => return moveTo s id c .threw
      | .acknowledged, some _ =>
          return moveTo s id c (.returned (.refused .replayed))
      | .lost, some _ => return moveTo s id c .threw
      | .acknowledged, none =>
          return moveTo { s with
            apiKeyNonce := s.apiKeyNonce.set (key.keyId, nonce) s.clock }
            id c (.recorded key)
      | .lost, none =>
          return moveTo { s with
            apiKeyNonce := s.apiKeyNonce.set (key.keyId, nonce) s.clock }
            id c .threw
  | _ => throw "not at the insert"

/-- The last-used update, and the return. -/
def touch (id : Nat) (delivery : Delivery) (s : Auth) : Call Auth := do
  let c ← expect (s.callers.get id) "no such call"
  match c.phase with
  | .recorded key =>
      let used := { s with
        partyApiKey := s.partyApiKey.adjust key.keyId fun row =>
          { row with lastUsedAt := some c.nowMs } }
      match delivery with
      | .acknowledged =>
          return moveTo used id c (.returned
            (.ok key.partyId key.stellarAccount key.keyId))
      | .lost => return moveTo used id c .threw
      | .rolledBack => return moveTo s id c .threw
  | _ => throw "not at the update"

/-- `purgeExpiredNonces` is called: `nowMs` is read. -/
def beginPurge (id : Nat) (s : Auth) : Call Auth := do
  ensure (s.purges.get id = none) "the purge is under way"
  return { s with purges := s.purges.set id s.clock }

/-- A nonce of this age is purged at `nowMs`. -/
def expired (nowMs createdAt : Nat) : Bool :=
  (createdAt : Int) < nowMs - nonceRetentionS * 1000

/-- `purgeExpiredNonces`: the delete. -/
def purgeExpiredNonces (id : Nat) (s : Auth) : Call Auth := do
  let nowMs ← expect (s.purges.get id) "no such purge"
  return { s with
    apiKeyNonce := s.apiKeyNonce.filter fun _ createdAt =>
      ¬ expired nowMs createdAt
    purges := s.purges.remove id }

-- ============================================================ the machine

/-- What can happen next. -/
inductive Act where
  | tick (now : Nat)
  | createKey (row : PartyApiKey)
  | revokeKey (keyId : Text)
  | begin (id : Nat) (req : SignedRequest)
  | lookup (id : Nat) (fault : Bool)
  | check (id : Nat)
  | recordNonce (id : Nat) (delivery : Delivery)
  | touch (id : Nat) (delivery : Delivery)
  | beginPurge (id : Nat)
  | purgeExpiredNonces (id : Nat)

def step (p : Platform) (secretKey : Text) (a : Act) (s : Auth) :
    Call Auth :=
  match a with
  | .tick now => tick now s
  | .createKey row => createKey row s
  | .revokeKey keyId => revokeKey keyId s
  | .begin id req => begin id req s
  | .lookup id fault => lookup id fault s
  | .check id => check p secretKey id s
  | .recordNonce id delivery => recordNonce id delivery s
  | .touch id delivery => touch id delivery s
  | .beginPurge id => beginPurge id s
  | .purgeExpiredNonces id => purgeExpiredNonces id s

/-- The API's key authentication over an empty database. -/
def machine (p : Platform) (secretKey : Text) : Machine Auth Act where
  init := ⟨0, Store.empty, Store.empty, Store.empty, Store.empty⟩
  apply := step p secretKey

end Ballast.ApiKeys
