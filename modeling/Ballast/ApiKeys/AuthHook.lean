/-
The API's authentication hook and its counters: `RateWindow` and
`buildAuthHook`, in one API process.

The hook counts the failed attempts of an address and the requests of a
key in fixed windows of a minute. An attempt is let through on the
failures counted when it arrives; its own failure is counted when its
verification has answered, and any number of attempts are being verified
in between. What `verifyApiKeyRequest` answers is an argument here. A
session token is verified on arrival (`verifySessionToken`), and its party
looked up after that.

The maps are JavaScript maps in one process, so a hit and what it does
to the map are one step, and only the awaits come between. Two failures
of one address may both have been let through on a count that has since
gone up; how far a count can be overrun is then a matter of how many
attempts are verified at once.
-/
import Ballast.ApiKeys.Basic

namespace Ballast.ApiKeys

open Soroban

-- ============================================================= the counter

/-- An entry of `RateWindow`'s map. -/
structure Window where
  count : Nat
  resetAt : Nat
  deriving DecidableEq, Repr

/-- `limit` and `windowMs` of a `RateWindow`. -/
structure RateWindow where
  limit : Nat
  windowMs : Nat
  deriving DecidableEq, Repr

abbrev Hits := Store Text Window

/-- The entry is not of a window that has run out. -/
def Window.live (nowMs : Nat) (e : Window) : Bool := nowMs < e.resetAt

/-- The entry of a key, of a window that has not run out. -/
def found (key : Text) (nowMs : Nat) (hits : Hits) : Option Window :=
  (hits.get key).filter (Window.live nowMs)

/-- `sweep`. -/
def sweep (nowMs : Nat) (hits : Hits) : Hits :=
  hits.filter fun _ e => e.live nowMs

/-- `hit`, with the map after it. -/
def RateWindow.hit (w : RateWindow) (key : Text) (nowMs : Nat)
    (hits : Hits) : Bool × Hits :=
  match found key nowMs hits with
  | none =>
      let hits := hits.set key ⟨1, nowMs + w.windowMs⟩
      (true, if 10000 < hits.keys.card then sweep nowMs hits else hits)
  | some e =>
      (decide (e.count + 1 ≤ w.limit),
        hits.set key { e with count := e.count + 1 })

/-- `count`. -/
def count (key : Text) (nowMs : Nat) (hits : Hits) : Nat :=
  (found key nowMs hits).elim 0 (·.count)

-- ================================================================ the hook

def failuresPerMinute : Nat := 30

def requestsPerKeyPerMinute : Nat := 1000

def failures : RateWindow := ⟨failuresPerMinute, 60000⟩

def perKey : RateWindow := ⟨requestsPerKeyPerMinute, 60000⟩

/-- What the hook reads of a request. -/
structure HookRequest where
  ip : Text
  isPublic : Bool
  authorization : Option Text
  apiKey : Option Text
  signature : Option Text
  deriving DecidableEq

inductive AuthMethod where
  | session
  | apiKey
  deriving DecidableEq, Repr

/-- It takes the way of an API key. -/
def HookRequest.signed (req : HookRequest) : Bool :=
  !req.isPublic && req.apiKey.isSome && req.signature.isSome

/-- How the hook ends. -/
inductive Reply where
  /-- the route is public -/
  | skipped
  | served (partyId stellarAccount : Text) (authMethod : AuthMethod)
  | refused (code : Nat) (error : String)
  /-- what it awaited threw -/
  | threw
  deriving DecidableEq, Repr

/-- A request the hook awaits something for. -/
inductive Pending where
  | verifying (ip : Text)
  | session (stellarAccount : Text)
  deriving DecidableEq, Repr

structure Hook where
  now : Nat
  failed : Hits
  requests : Hits
  pending : Store Nat Pending
  replies : Store Nat Reply

variable (verifySessionToken : Text → Option Text)

/-- `"Bearer "`. -/
def bearer : Text := "Bearer ".toList

def Hook.reply (s : Hook) (i : Nat) (r : Reply) : Hook :=
  { s with
    pending := s.pending.remove i
    replies := s.replies.set i r }

def Hook.await (s : Hook) (i : Nat) (p : Pending) : Hook :=
  { s with pending := s.pending.set i p }

/-- The hook up to its first await. -/
def arrive (i : Nat) (req : HookRequest) (s : Hook) : Call Hook := do
  ensure ((s.pending.get i).isNone ∧ (s.replies.get i).isNone)
    "a new request"
  if req.isPublic then return s.reply i .skipped
  else if req.apiKey.isSome ∧ req.signature.isSome then
    if failuresPerMinute < count req.ip s.now s.failed then
      return s.reply i (.refused 429 "too many failed authentication attempts")
    else return s.await i (.verifying req.ip)
  else
    match req.authorization with
    | none =>
        return s.reply i
          (.refused 401 "missing bearer token or api key/signature")
    | some header =>
        if bearer.isPrefixOf header then
          match verifySessionToken (header.drop bearer.length) with
          | none => return s.reply i (.refused 401 "invalid or expired token")
          | some stellarAccount => return s.await i (.session stellarAccount)
        else
          return s.reply i
            (.refused 401 "missing bearer token or api key/signature")

/-- The reason as its union has it. -/
def ApiKeyFailure.text : ApiKeyFailure → String
  | .unknownKey => "unknown_key"
  | .revoked => "revoked"
  | .badTimestamp => "bad_timestamp"
  | .staleTimestamp => "stale_timestamp"
  | .badNonce => "bad_nonce"
  | .badSignature => "bad_signature"
  | .replayed => "replayed"

/-- `verifyApiKeyRequest` answers. -/
def verified (i : Nat) (result : ApiKeyResult) (s : Hook) : Call Hook := do
  match s.pending.get i, result with
  | some (.verifying ip), .refused reason =>
      let (_, failed) := failures.hit ip s.now s.failed
      return { s with failed := failed }.reply i
        (.refused 401 ("api key authentication failed: " ++ reason.text))
  | some (.verifying _), .ok partyId stellarAccount keyId =>
      let (allowed, requests) := perKey.hit keyId s.now s.requests
      return { s with requests := requests }.reply i
        (if allowed then .served partyId stellarAccount .apiKey
        else .refused 429 "api key rate limit exceeded")
  | _, _ => throw "nothing to answer"

/-- What the hook awaits throws. -/
def thrown (i : Nat) (s : Hook) : Call Hook := do
  ensure ((s.pending.get i).isSome) "nothing awaited"
  return s.reply i .threw

/-- The row of the account, if there is one. -/
def account (i : Nat) (partyId : Option Text) (s : Hook) : Call Hook := do
  match s.pending.get i with
  | some (.session stellarAccount) =>
      return s.reply i (match partyId with
        | some partyId => .served partyId stellarAccount .session
        | none => .refused 401 "stellar account not linked to a known party")
  | _ => throw "nothing to answer"

namespace AuthHook

inductive Act where
  | tick (ms : Nat)
  | arrive (i : Nat) (req : HookRequest)
  | verified (i : Nat) (result : ApiKeyResult)
  | thrown (i : Nat)
  | account (i : Nat) (partyId : Option Text)

def step (a : Act) (s : Hook) : Call Hook :=
  match a with
  | .tick ms => return { s with now := s.now + ms }
  | .arrive i req => ApiKeys.arrive verifySessionToken i req s
  | .verified i result => ApiKeys.verified i result s
  | .thrown i => ApiKeys.thrown i s
  | .account i partyId => ApiKeys.account i partyId s

def machine : Machine Hook Act where
  init := ⟨0, Store.empty, Store.empty, Store.empty, Store.empty⟩
  apply := step verifySessionToken

namespace Demo

def ip : Text := "10.0.0.7".toList

def request : HookRequest :=
  ⟨ip, false, none, some "bk_1".toList, some "00".toList⟩

/-- Two attempts of an address at the same time, and both fail. -/
def guesses : List Act :=
  [.arrive 0 request, .arrive 1 request, .tick 5,
   .verified 0 (.refused .unknownKey), .tick 5,
   .verified 1 (.refused .badSignature)]

end Demo

end AuthHook

end Ballast.ApiKeys
