/-
The payout hop at work: any number of `forwardPayout` calls and of repair
runs, interleaved, over one database and one network.

A call is cut at its awaits (`Stage`). A statement that writes is
delivered, or committed with its acknowledgement lost, or rolled back
(`Delivery`), and a call can stop at any of them (`crash`). What a call
signed and submitted is a `Submission`; the network accepts it or turns it
down for good (`close`), before or after the submitting call returned or
threw, or never. A hash names one transaction, and the same transaction
may be submitted twice.

`Hop.legs` is what the network knows of the first legs that succeeded, by
their 32 bytes. A lookup finds it, or finds nothing, or fails.

Around the hop, quotes are filed and others write on the journal. Nothing
but the hop writes entries of its own type. `written` lists the bookings
committed transactions wrote; nothing reads it.
-/
import Ballast.PayoutHop.Basic
import Ballast.Common.Delivery
import Ballast.Soroban.Machine

namespace Ballast.PayoutHop

open Soroban

-- ============================================================ who is where

/-- Where a `forwardPayout` call stands, past `checkPolicy`. -/
inductive Stage where
  | verifying
  | inserting
  /-- the insert found a row -/
  | reclaiming
  | claimed
  | submitting (h : PaymentHash)
  /-- in the `catch`, with what had been submitted -/
  | failing (h : Option PaymentHash)
  /-- the submit returned, and not `ERROR` -/
  | paid (h : PaymentHash)
  /-- the booking transaction threw -/
  | unbooked (h : PaymentHash)
  deriving DecidableEq

structure Caller where
  args : ForwardPayoutArgs
  refId : Uuid
  stage : Stage
  deriving DecidableEq

/-- The key of the row the call works on. -/
def Caller.key (c : Caller) : Text := c.args.fromContractPayoutTxHash

/-- A signed payment that reached the network, and the first leg it was
made for as the request spelled it. -/
structure Submission where
  hash : PaymentHash
  key : Text
  toAccount : Address
  amount : Int
  memo : Text
  deriving DecidableEq

structure System where
  db : Db
  callers : Store Nat Caller
  submitted : List Submission
  /-- whether the network accepted it, once that is settled -/
  closed : Store PaymentHash Bool
  /-- repair runs, with the selected rows they have still to take -/
  repairs : Store Nat (List (Text × PayoutForward))
  written : List PayoutBooking

/-- What the hop runs with, and the first legs that succeeded. -/
structure Hop where
  setup : Setup
  policy : PayoutPolicy
  legs : List (Option Nat) → Option FirstLeg

/-- How a lookup of a transaction goes. -/
inductive Lookup where
  | unavailable (message : String)
  | notFound
  | failed
  | final
  deriving DecidableEq, Repr

/-- What `getTransaction` answers. -/
def answerOf (legs : List (Option Nat) → Option FirstLeg) (lookup : Lookup)
    (hash : List (Option Nat)) : Response :=
  match lookup, legs hash with
  | .unavailable message, _ => .unavailable message
  | .failed, _ => .failed
  | .final, some leg => .success leg
  | _, _ => .notFound

-- ============================================================== one caller

def callerAt (s : System) (i : Nat) : Call Caller :=
  expect (s.callers.get i) "no such call"

def moveTo (s : System) (i : Nat) (c : Caller) (stage : Stage) : System :=
  { s with callers := s.callers.set i { c with stage := stage } }

/-- The call returned or threw. -/
def leave (s : System) (i : Nat) : System :=
  { s with callers := s.callers.remove i }

variable (hop : Hop)

/-- A call comes in; `uuid` is what `randomUUID` is good for. -/
def start (i : Nat) (args : ForwardPayoutArgs) (uuid : Uuid) (s : System) :
    Call System := do
  ensure ((s.callers.get i).isNone) "call is running"
  checkPolicy args hop.policy
  return { s with
    callers := s.callers.set i ⟨args, args.quoteId.getD uuid, .verifying⟩ }

/-- `verifier.verify`. -/
def checkLeg (i : Nat) (lookup : Lookup) (s : System) : Call System := do
  let c ← callerAt s i
  match c.stage with
  | .verifying =>
      match verify hop.setup (answerOf hop.legs lookup) c.key
          hop.policy.usdcIssuer c.args.amount with
      | .ok _ => return moveTo s i c .inserting
      | .error _ => return leave s i
  | _ => throw "nothing to verify"

/-- The row of a claim. -/
def claimRow (c : Caller) : PayoutForward :=
  ⟨c.args.toAnchorAccount, c.args.amount, c.args.memo, .claimed, none,
    c.refId, c.args.quoteId⟩

/-- `insert(payoutForward).onConflictDoNothing()`, and whether a row came
back. -/
def insertClaim (db : Db) (c : Caller) : Db × Bool :=
  match db.payoutForward.get c.key with
  | none =>
      ({ db with payoutForward := db.payoutForward.set c.key (claimRow c) },
        true)
  | some _ => (db, false)

/-- `update(payoutForward).where(status = "failed")`, and whether a row
came back. -/
def reclaimRow (db : Db) (c : Caller) : Db × Bool :=
  match db.payoutForward.get c.key with
  | some row =>
      if row.status = .failed then
        let row := { claimRow c with txHash := row.txHash }
        ({ db with payoutForward := db.payoutForward.set c.key row }, true)
      else (db, false)
  | none => (db, false)

def insert (i : Nat) (delivery : Delivery) (s : System) : Call System := do
  let c ← callerAt s i
  ensure (c.stage = .inserting) "nothing to insert"
  let (db, won) := insertClaim s.db c
  match delivery with
  | .acknowledged =>
      return moveTo { s with db := db } i c
        (if won then .claimed else .reclaiming)
  | .lost => return leave { s with db := db } i
  | .rolledBack => return leave s i

/-- No row back means `DuplicatePayoutError`. -/
def reclaim (i : Nat) (delivery : Delivery) (s : System) : Call System := do
  let c ← callerAt s i
  ensure (c.stage = .reclaiming) "nothing to claim again"
  let (db, won) := reclaimRow s.db c
  match delivery with
  | .acknowledged =>
      if won then return moveTo { s with db := db } i c .claimed
      else return leave s i
  | .lost => return leave { s with db := db } i
  | .rolledBack => return leave s i

/-- Loading the account, building the payment or signing it throws. -/
def giveUp (i : Nat) (s : System) : Call System := do
  let c ← callerAt s i
  ensure (c.stage = .claimed) "nothing to give up"
  return moveTo s i c (.failing none)

/-- `sendTransaction`, on its way in. -/
def submit (i : Nat) (h : PaymentHash) (s : System) : Call System := do
  let c ← callerAt s i
  ensure (c.stage = .claimed) "nothing to submit"
  ensure (∀ p ∈ s.submitted, p.hash = h →
      (p.toAccount, p.amount, p.memo)
        = (c.args.toAnchorAccount, c.args.amount, c.args.memo))
    "the hash is another payment's"
  return moveTo { s with
    submitted := s.submitted ++
      [⟨h, c.key, c.args.toAnchorAccount, c.args.amount, c.args.memo⟩] }
    i c (.submitting h)

/-- `sendTransaction` returns a status. -/
def answered (i : Nat) (status : String) (s : System) : Call System := do
  let c ← callerAt s i
  match c.stage with
  | .submitting h =>
      return moveTo s i c
        (if status = "ERROR" then .failing (some h) else .paid h)
  | _ => throw "nothing was submitted"

/-- `sendTransaction` throws, whatever became of the payment. -/
def threw (i : Nat) (s : System) : Call System := do
  let c ← callerAt s i
  match c.stage with
  | .submitting h => return moveTo s i c (.failing (some h))
  | _ => throw "nothing was submitted"

/-- An update of the row under `key`. -/
def updateRow (db : Db) (key : Text) (f : PayoutForward → PayoutForward) :
    Db :=
  { db with payoutForward := db.payoutForward.adjust key f }

/-- `set({ status: "failed" })`, in the `catch`. -/
def markFailed (i : Nat) (delivery : Delivery) (s : System) :
    Call System := do
  let c ← callerAt s i
  match c.stage with
  | .failing _ =>
      if delivery = .rolledBack then return leave s i
      else return leave { s with
        db := updateRow s.db c.key fun row =>
          { row with status := .failed } } i
  | _ => throw "nothing failed"

def bookingOf (c : Caller) (h : PaymentHash) : PayoutBooking :=
  ⟨c.key, h, c.refId, c.args.quoteId, c.args.amount, c.args.memo⟩

/-- `set({ status: "sent", txHash: hash })`. -/
def markSent (db : Db) (b : PayoutBooking) : Db :=
  updateRow db b.fromTxHash fun row =>
    { row with status := .sent, txHash := some b.txHash }

/-- The transaction that marks the row `sent` and books it. -/
def bookSent (db : Db) (b : PayoutBooking) : Call Db :=
  bookPayout (markSent db b) b

def book (i : Nat) (delivery : Delivery) (s : System) : Call System := do
  let c ← callerAt s i
  match c.stage with
  | .paid h =>
      match delivery, bookSent s.db (bookingOf c h) with
      | .acknowledged, .ok db =>
          return leave { s with
            db := db, written := s.written ++ [bookingOf c h] } i
      | .lost, .ok db =>
          return moveTo { s with
            db := db, written := s.written ++ [bookingOf c h] } i c
            (.unbooked h)
      | _, _ => return moveTo s i c (.unbooked h)
  | _ => throw "nothing to book"

/-- `markUnbooked`; what it throws is caught. -/
def markUnbooked (i : Nat) (delivery : Delivery) (s : System) :
    Call System := do
  let c ← callerAt s i
  match c.stage with
  | .unbooked h =>
      if delivery = .rolledBack then return leave s i
      else return leave { s with
        db := updateRow s.db c.key fun row =>
          { row with status := .bookkeepingPending, txHash := some h } } i
  | _ => throw "nothing to flag"

/-- The process stops, and the call with it. -/
def crash (i : Nat) (s : System) : Call System := do
  let _ ← callerAt s i
  return leave s i

/-- The network settles what becomes of a payment. -/
def close (h : PaymentHash) (accepted : Bool) (s : System) :
    Call System := do
  ensure (h ∈ s.submitted.map (·.hash)) "nothing was submitted"
  ensure ((s.closed.get h).isNone) "already settled"
  return { s with closed := s.closed.set h accepted }

-- ================================================================= repairs

/-- `select().where(status = "bookkeeping_pending")`. -/
def selectPending (r : Nat) (rows : List (Text × PayoutForward))
    (s : System) : Call System := do
  ensure ((s.repairs.get r).isNone) "repair is running"
  ensure (Selects s.db rows) "not what the select returns"
  return { s with repairs := s.repairs.set r rows }

/-- The booking a repair writes for a row it selected. -/
def rowBooking (key : Text) (row : PayoutForward) : PayoutBooking :=
  ⟨key, row.txHash.getD 0, row.refId, row.quoteId, row.amount, row.memo⟩

/-- The next row of a repair; what its transaction throws is caught. -/
def repairStep (r : Nat) (delivery : Delivery) (s : System) :
    Call System := do
  let rows ← expect (s.repairs.get r) "no such repair"
  match rows with
  | [] => throw "nothing to repair"
  | (key, row) :: rest =>
      let s := { s with repairs := s.repairs.set r rest }
      if delivery = .rolledBack then return s
      else
        match repairRow s.db key row with
        | .ok (.booked, db) =>
            return { s with
              db := db, written := s.written ++ [rowBooking key row] }
        | .ok (_, db) => return { s with db := db }
        | .error _ => return s

/-- The run returned, or its process stopped. -/
def endRepair (r : Nat) (s : System) : Call System := do
  let _ ← expect (s.repairs.get r) "no such repair"
  return { s with repairs := s.repairs.remove r }

-- ============================================================= the machine

/-- What can happen next. -/
inductive Act where
  | start (i : Nat) (args : ForwardPayoutArgs) (uuid : Uuid)
  | checkLeg (i : Nat) (lookup : Lookup)
  | insert (i : Nat) (delivery : Delivery)
  | reclaim (i : Nat) (delivery : Delivery)
  | giveUp (i : Nat)
  | submit (i : Nat) (h : PaymentHash)
  | answered (i : Nat) (status : String)
  | threw (i : Nat)
  | markFailed (i : Nat) (delivery : Delivery)
  | book (i : Nat) (delivery : Delivery)
  | markUnbooked (i : Nat) (delivery : Delivery)
  | crash (i : Nat)
  | close (h : PaymentHash) (accepted : Bool)
  | selectPending (r : Nat) (rows : List (Text × PayoutForward))
  | repair (r : Nat) (delivery : Delivery)
  | endRepair (r : Nat)
  /-- an exit quote is filed -/
  | quote (q : Uuid)
  /-- another service writes on the journal -/
  | post (e : JournalEntry)

def step (a : Act) (s : System) : Call System :=
  match a with
  | .start i args uuid => start hop i args uuid s
  | .checkLeg i lookup => checkLeg hop i lookup s
  | .insert i delivery => insert i delivery s
  | .reclaim i delivery => reclaim i delivery s
  | .giveUp i => giveUp i s
  | .submit i h => submit i h s
  | .answered i status => answered i status s
  | .threw i => threw i s
  | .markFailed i delivery => markFailed i delivery s
  | .book i delivery => book i delivery s
  | .markUnbooked i delivery => markUnbooked i delivery s
  | .crash i => crash i s
  | .close h accepted => close h accepted s
  | .selectPending r rows => selectPending r rows s
  | .repair r delivery => repairStep r delivery s
  | .endRepair r => endRepair r s
  | .quote q =>
      return { s with db := { s.db with exitQuote := s.db.exitQuote ++ [q] } }
  | .post e => do
      ensure (e.refType = .other) "the hop's own"
      return { s with
        db := { s.db with journalEntry := s.db.journalEntry ++ [e] } }

/-- The hop, from an empty database. -/
def machine : Machine System Act where
  init := ⟨⟨Store.empty, [], [], []⟩, Store.empty, [], Store.empty,
    Store.empty, []⟩
  apply := step hop

end Ballast.PayoutHop
