/-
The issuer gateway's `Idempotency-Key` handling.

The first request with a key claims a row, calls the issuer and stores
the result; a later one is answered from the row, refused while the call
runs, or refused for asking something else. A call that throws releases
the row.

The parameters of a request are a JS object: its properties in some
order, which `fingerprint` forgets by sorting the keys. Keys are compared
by code point, as code units do for the plain names the routes use. JSON
and SHA-256 are one function `hash` of the sorted list. A result is
stored as it is: the issuers' answers are plain JSON.

# Steps

Each `await` of `runIdempotent` ends a step, and any number of requests,
for any keys and in any number of gateways, interleave over one table. A
statement may fail, or commit without the caller hearing of it; a gateway
may die anywhere. `obligations` is not a table: it lists the issuer calls
that returned, in order.
-/
import Ballast.Common.Delivery
import Ballast.Soroban.Machine
import Ballast.Soroban.Store
import Mathlib.Data.String.Basic

namespace Ballast.IssuerGateway

open Soroban

/-- The primary key of `issuer_idempotency`. -/
structure Key where
  issuerCode : String
  route : String
  idempotencyKey : String
  deriving DecidableEq

/-- A `Record<string, string>`. -/
structure Params where
  entries : List (String × String)
  nodup : (entries.map Prod.fst).Nodup

/-- Two objects with the same properties. -/
def Params.Same (p q : Params) : Prop := p.entries.Perm q.entries

/-- `Object.keys(params).sort().map((k) => [k, params[k]])`. -/
def Params.canonical (p : Params) : List (String × String) :=
  p.entries.mergeSort fun a b => a.1 ≤ b.1

structure IdempotentRequest where
  key : Key
  params : Params

variable {δ ρ : Type}

def fingerprint (hash : List (String × String) → δ) (params : Params) : δ :=
  hash params.canonical

inductive Status where
  | inFlight
  | completed
  deriving DecidableEq, Repr

/-- A row of `issuer_idempotency`. -/
structure Row (δ ρ : Type) where
  requestHash : δ
  status : Status
  response : Option ρ
  completedAt : Option Nat
  deriving DecidableEq

/-- What `runIdempotent` throws. -/
inductive Failure where
  | keyReused (message : String)
  | inFlight (message : String)
  /-- the issuer's own error -/
  | issuer
  | database
  /-- the gateway died -/
  | crashed
  deriving DecidableEq, Repr

def Key.reusedMessage (k : Key) : String :=
  "Idempotency-Key \"" ++ k.idempotencyKey
    ++ "\" was already used for a different " ++ k.route ++ " request"

def Key.inFlightMessage (k : Key) : String :=
  "the " ++ k.route ++ " request with Idempotency-Key \""
    ++ k.idempotencyKey ++ "\" is still in progress"

-- ============================================================== the state

/-- Where a call of `runIdempotent` stands. -/
inductive Phase (ρ : Type) where
  /-- about to insert -/
  | claiming
  /-- the insert conflicted; about to read the row -/
  | reading
  /-- the row is claimed and the issuer has been called -/
  | calling
  /-- the issuer's call threw; about to delete the row -/
  | releasing
  /-- the issuer's call returned; about to store the result -/
  | storing (result : ρ)
  | returned (result : Option ρ) (replayed : Bool)
  | threw (err : Failure)
  deriving DecidableEq

structure Caller (ρ : Type) where
  request : IdempotentRequest
  phase : Phase ρ

/-- An issuer call that returned. -/
structure Obligation (ρ : Type) where
  request : IdempotentRequest
  result : ρ

structure Gateway (δ ρ : Type) where
  issuerIdempotency : Store Key (Row δ ρ)
  callers : Store Nat (Caller ρ)
  obligations : List (Obligation ρ)

-- ============================================================== the steps

/-- The call `id`, moved to `phase`. -/
def moveTo (s : Gateway δ ρ) (id : Nat) (c : Caller ρ) (phase : Phase ρ) :
    Gateway δ ρ :=
  { s with callers := s.callers.set id { c with phase := phase } }

/-- `runIdempotent` is called. -/
def begin (id : Nat) (request : IdempotentRequest) (s : Gateway δ ρ) :
    Call (Gateway δ ρ) := do
  ensure (s.callers.get id).isNone "the call is under way"
  return { s with callers := s.callers.set id ⟨request, .claiming⟩ }

/-- `insert(t).onConflictDoNothing()`. -/
def insert (hash : List (String × String) → δ) (id : Nat)
    (delivery : Delivery) (s : Gateway δ ρ) : Call (Gateway δ ρ) := do
  let c ← expect (s.callers.get id) "no such call"
  match c.phase with
  | .claiming =>
      let claimed := { s with
        issuerIdempotency := s.issuerIdempotency.set c.request.key
          ⟨fingerprint hash c.request.params, .inFlight, none, none⟩ }
      match delivery, s.issuerIdempotency.get c.request.key with
      | .rolledBack, _ => return moveTo s id c (.threw .database)
      | .acknowledged, some _ => return moveTo s id c .reading
      | .lost, some _ => return moveTo s id c (.threw .database)
      | .acknowledged, none => return moveTo claimed id c .calling
      | .lost, none => return moveTo claimed id c (.threw .database)
  | _ => throw "not at the insert"

/-- What the row read after a conflict means for the request. -/
def answerFrom [DecidableEq δ] (hash : List (String × String) → δ)
    (request : IdempotentRequest) (existing : Option (Row δ ρ)) :
    Phase ρ :=
  match existing with
  | none => .claiming
  | some row =>
      if row.requestHash ≠ fingerprint hash request.params then
        .threw (.keyReused request.key.reusedMessage)
      else if row.status ≠ .completed then
        .threw (.inFlight request.key.inFlightMessage)
      else .returned row.response true

/-- The read after a conflict. -/
def read [DecidableEq δ] (hash : List (String × String) → δ) (id : Nat)
    (fault : Bool) (s : Gateway δ ρ) : Call (Gateway δ ρ) := do
  let c ← expect (s.callers.get id) "no such call"
  match c.phase with
  | .reading =>
      if fault then return moveTo s id c (.threw .database)
      return moveTo s id c (answerFrom hash c.request
        (s.issuerIdempotency.get c.request.key))
  | _ => throw "not at the read"

/-- The issuer's call returns. -/
def answer (id : Nat) (result : ρ) (s : Gateway δ ρ) :
    Call (Gateway δ ρ) := do
  let c ← expect (s.callers.get id) "no such call"
  match c.phase with
  | .calling =>
      return moveTo { s with
        obligations := s.obligations ++ [⟨c.request, result⟩] } id c
        (.storing result)
  | _ => throw "the issuer has not been called"

/-- The issuer's call throws. -/
def fail (id : Nat) (s : Gateway δ ρ) : Call (Gateway δ ρ) := do
  let c ← expect (s.callers.get id) "no such call"
  match c.phase with
  | .calling => return moveTo s id c .releasing
  | _ => throw "the issuer has not been called"

/-- `delete(t).where(row)`, and the issuer's error is thrown on. -/
def release (id : Nat) (delivery : Delivery) (s : Gateway δ ρ) :
    Call (Gateway δ ρ) := do
  let c ← expect (s.callers.get id) "no such call"
  match c.phase with
  | .releasing =>
      match delivery with
      | .rolledBack => return moveTo s id c (.threw .issuer)
      | _ =>
          return moveTo { s with
            issuerIdempotency := s.issuerIdempotency.remove c.request.key }
            id c (.threw .issuer)
  | _ => throw "nothing to release"

/-- `update(t).set(..).where(row)`; its failure is only reported. -/
def store (id : Nat) (delivery : Delivery) (now : Nat) (s : Gateway δ ρ) :
    Call (Gateway δ ρ) := do
  let c ← expect (s.callers.get id) "no such call"
  match c.phase with
  | .storing result =>
      match delivery with
      | .rolledBack =>
          return moveTo s id c (.returned (some result) false)
      | _ =>
          return moveTo { s with
            issuerIdempotency := s.issuerIdempotency.adjust c.request.key
              fun row => { row with
                status := .completed
                response := some result
                completedAt := some now } } id c
            (.returned (some result) false)
  | _ => throw "nothing to store"

/-- The gateway dies under the call. -/
def crash (id : Nat) (s : Gateway δ ρ) : Call (Gateway δ ρ) := do
  let c ← expect (s.callers.get id) "no such call"
  match c.phase with
  | .returned _ _ | .threw _ => throw "the call is over"
  | _ => return moveTo s id c (.threw .crashed)

-- ============================================================ the machine

/-- What can happen next. -/
inductive Act (ρ : Type) where
  | begin (id : Nat) (request : IdempotentRequest)
  | insert (id : Nat) (delivery : Delivery)
  | read (id : Nat) (fault : Bool)
  | answer (id : Nat) (result : ρ)
  | fail (id : Nat)
  | release (id : Nat) (delivery : Delivery)
  | store (id : Nat) (delivery : Delivery) (now : Nat)
  | crash (id : Nat)

variable [DecidableEq δ]

def step (hash : List (String × String) → δ) (a : Act ρ)
    (s : Gateway δ ρ) : Call (Gateway δ ρ) :=
  match a with
  | .begin id request => begin id request s
  | .insert id delivery => insert hash id delivery s
  | .read id fault => read hash id fault s
  | .answer id result => answer id result s
  | .fail id => fail id s
  | .release id delivery => release id delivery s
  | .store id delivery now => store id delivery now s
  | .crash id => crash id s

/-- The gateway over an empty table. -/
def machine (ρ : Type) (hash : List (String × String) → δ) :
    Machine (Gateway δ ρ) (Act ρ) where
  init := ⟨Store.empty, Store.empty, []⟩
  apply := step hash

end Ballast.IssuerGateway
