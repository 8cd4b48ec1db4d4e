/-
The payout hop: from the operator's classic account to an anchor, with
the memo the anchor needs, once per first-leg transaction.

This file is the hop's own functions: what a request may ask for
(`checkPolicy`), whether the first leg backs it (`verify`), the tables it
keeps, how a sent payout is booked (`bookPayout`) and how one that was
not is repaired (`repairRow`, `bookPendingPayouts`). The order in which
callers and repairs run them is `System.lean`'s.

Request texts (a hash, a memo) are lists of characters. Amounts are the
scaled integers behind the decimal strings of the money columns. An
account is a G-address; what the network answers about a transaction is
`Response`, with the operations and events `verify` looks at.

Alerts are fired and never read, and are left out.
-/
import Ballast.DomainTypes.Money
import Ballast.Soroban.Store

namespace Ballast.PayoutHop

open Soroban
open DomainTypes (scaledToDecimalString)

/-- Text that came over the wire. -/
abbrev Text := List Char

abbrev Uuid := Nat

/-- The hash of a payment the hop signed. -/
abbrev PaymentHash := Nat

-- ================================================================ policy

structure PayoutPolicy where
  allowedDestinations : List Address
  usdcIssuer : Address
  maxAmount : Int
  deriving DecidableEq

structure ForwardPayoutArgs where
  fromContractPayoutTxHash : Text
  toAnchorAccount : Address
  amount : Int
  memo : Text
  usdcAssetAddress : Address
  quoteId : Option Uuid
  deriving DecidableEq

/-- `/^[0-9]+$/`. -/
def allDigits (t : Text) : Bool := !t.isEmpty && t.all Char.isDigit

/-- `BigInt` of a text of digits. -/
def readNat (t : Text) : Nat :=
  t.foldl (fun n c => 10 * n + (c.toNat - '0'.toNat)) 0

/-- `Buffer.byteLength`. -/
def byteLength (t : Text) : Nat := (t.map Char.utf8Size).sum

/-- `checkPolicy`. -/
def checkPolicy (args : ForwardPayoutArgs) (policy : PayoutPolicy) :
    Call Unit := do
  ensure (args.toAnchorAccount ∈ policy.allowedDestinations)
    "destination is not an approved anchor account"
  ensure (args.usdcAssetAddress = policy.usdcIssuer)
    "asset is not the configured USDC"
  ensure (0 < args.amount) "amount must be positive"
  if policy.maxAmount < args.amount then
    let cap ← scaledToDecimalString policy.maxAmount
    throw ("amount exceeds the per-payout cap of " ++ String.ofList cap
      ++ " USDC")
  if allDigits args.memo then
    ensure (readNat args.memo ≤ 18446744073709551615)
      "numeric memo does not fit a MEMO_ID"
  else
    ensure (byteLength args.memo ≤ 28) "text memo is longer than 28 bytes"

-- ============================================================ the first leg

/-- `TX_HASH`: 64 hex digits, in either case. -/
def isTxHash (t : Text) : Bool :=
  t.length = 64 ∧ t.all fun c => (Js.digitOf c).isSome

/-- The 32 bytes a hash spells, as its 64 half bytes: what the network
knows a transaction by. -/
def hashOf (t : Text) : List (Option Nat) := t.map Js.digitOf

/-- A destination, plain or muxed. -/
structure Destination where
  account : Address
  mux : Option Nat
  deriving DecidableEq

/-- `baseAccount`. -/
def baseAccount (d : Destination) : Address := d.account

inductive ClassicAsset where
  | native
  | credit (code : Text) (issuer : Address)
  deriving DecidableEq

/-- An operation of the envelope, as far as `fromPayments` looks. -/
inductive Operation where
  | payment (destination : Destination) (asset : ClassicAsset)
      (amount : Int)
  | other
  deriving DecidableEq

/-- A topic of an event, as `scValToNative` shows it. -/
inductive Topic where
  | text (t : Text)
  | account (a : Address)
  | other
  deriving DecidableEq

/-- The data of an event: a number, a map with an `amount`, or neither. -/
inductive EventData where
  | number (n : Int)
  | map (amount : Option Int)
  | other
  deriving DecidableEq

structure ChainEvent where
  isContract : Bool
  contractId : Option Address
  topics : List Topic
  data : EventData
  deriving DecidableEq

/-- A transaction that succeeded. -/
structure FirstLeg where
  operations : List Operation
  events : List ChainEvent
  deriving DecidableEq

/-- `getTransaction`. -/
inductive Response where
  | unavailable (message : String)
  | notFound
  | failed
  | success (leg : FirstLeg)
  deriving DecidableEq

/-- What the verifier is set up with: the operator's account, and the
contract id of an issuer's USDC. -/
structure Setup where
  operator : Address
  usdcSac : Address → Address

/-- The characters of `USDC`, and of `transfer`. -/
def usdcCode : Text := ['U', 'S', 'D', 'C']

def transferTopic : Text := ['t', 'r', 'a', 'n', 's', 'f', 'e', 'r']

/-- What one operation paid the operator. -/
def paymentOf (c : Setup) (issuer : Address) : Operation → Int
  | .payment destination asset amount =>
      if baseAccount destination = c.operator
          ∧ asset = .credit usdcCode issuer
      then amount else 0
  | .other => 0

/-- `fromPayments`. -/
def fromPayments (c : Setup) (issuer : Address) (leg : FirstLeg) : Int :=
  (leg.operations.map (paymentOf c issuer)).sum

/-- `transferAmount`. -/
def transferAmount : EventData → Int
  | .number n => n
  | .map (some n) => n
  | .map none => 0
  | .other => 0

/-- What one event says the operator was transferred. -/
def transferOf (c : Setup) (issuer : Address) (e : ChainEvent) : Int :=
  if e.isContract ∧ e.contractId = some (c.usdcSac issuer)
      ∧ 3 ≤ e.topics.length ∧ e.topics[0]? = some (.text transferTopic)
      ∧ e.topics[2]? = some (.account c.operator)
  then transferAmount e.data else 0

/-- `fromSacEvents`. -/
def fromSacEvents (c : Setup) (issuer : Address) (leg : FirstLeg) : Int :=
  (leg.events.map (transferOf c issuer)).sum

/-- `usdcReceived`: the larger of the two counts. -/
def usdcReceived (c : Setup) (issuer : Address) (leg : FirstLeg) : Int :=
  max (fromPayments c issuer leg) (fromSacEvents c issuer leg)

/-- `verify`. -/
def verify (c : Setup) (source : List (Option Nat) → Response)
    (txHash : Text) (issuer : Address) (minAmount : Int) : Call Unit := do
  ensure (isTxHash txHash = true)
    "first-leg hash is not a 64-character hex transaction hash"
  match source (hashOf txHash) with
  | .unavailable message =>
      throw ("could not look up the first-leg transaction: " ++ message)
  | .notFound =>
      throw ("first-leg transaction " ++ String.ofList txHash
        ++ " was not found on the network")
  | .failed =>
      throw ("first-leg transaction " ++ String.ofList txHash
        ++ " did not succeed (status FAILED)")
  | .success leg => do
      let received := usdcReceived c issuer leg
      ensure (received ≠ 0)
        ("first-leg transaction did not pay the configured USDC to the "
          ++ "operator account")
      if received < minAmount then
        let paid ← scaledToDecimalString received
        let requested ← scaledToDecimalString minAmount
        throw ("first leg paid the operator " ++ String.ofList paid
          ++ " USDC, less than the " ++ String.ofList requested
          ++ " requested")

-- ================================================================= tables

inductive ForwardStatus where
  | claimed
  | sent
  | bookkeepingPending
  | failed
  deriving DecidableEq, Repr

/-- A `payout_forward` row; `from_tx_hash` keys it. -/
structure PayoutForward where
  toAccount : Address
  amount : Int
  memo : Text
  status : ForwardStatus
  txHash : Option PaymentHash
  refId : Uuid
  quoteId : Option Uuid
  deriving DecidableEq

inductive RefType where
  | payoutHop
  | other
  deriving DecidableEq, Repr

inductive JournalAccount where
  | usdcCash
  | operatorPayoutHop
  | other
  deriving DecidableEq, Repr

inductive Currency where
  | usdc
  deriving DecidableEq, Repr

structure JournalEntry where
  refType : RefType
  refId : Uuid
  account : JournalAccount
  debit : Int
  credit : Int
  ccy : Currency
  deriving DecidableEq, Repr

/-- An `exit_fill` row with payout route `anchor_hop`. -/
structure ExitFill where
  quoteId : Uuid
  txHash : PaymentHash
  payoutMemo : Text
  deriving DecidableEq

structure Db where
  payoutForward : Store Text PayoutForward
  journalEntry : List JournalEntry
  exitFill : List ExitFill
  /-- the ids of `exit_quote`, which `exit_fill` refers to -/
  exitQuote : List Uuid

-- ================================================================ booking

/-- What a sent payout is booked from. -/
structure PayoutBooking where
  fromTxHash : Text
  txHash : PaymentHash
  refId : Uuid
  quoteId : Option Uuid
  amount : Int
  memo : Text
  deriving DecidableEq

/-- `recordJournalEntry`. -/
def recordJournalEntry (db : Db) (e : JournalEntry) : Call Db := do
  ensure (0 ≤ e.debit ∧ 0 ≤ e.credit)
    "journal: entry amounts must not be negative"
  ensure (0 < e.debit ↔ ¬ 0 < e.credit)
    ("journal: a journal_entry row must be exactly one of a debit leg or a "
      ++ "credit leg")
  return { db with journalEntry := db.journalEntry ++ [e] }

/-- The debit and the credit of a payout. -/
def debitOf (b : PayoutBooking) : JournalEntry :=
  ⟨.payoutHop, b.refId, .usdcCash, b.amount, 0, .usdc⟩

def creditOf (b : PayoutBooking) : JournalEntry :=
  ⟨.payoutHop, b.refId, .operatorPayoutHop, 0, b.amount, .usdc⟩

/-- The `exit_fill` of a payout that names a quote; the quote has to be
on file. -/
def insertExitFill (db : Db) (b : PayoutBooking) : Call Db :=
  match b.quoteId with
  | none => return db
  | some quote => do
      ensure (quote ∈ db.exitQuote)
        "insert on exit_fill violates foreign key constraint"
      return { db with
        exitFill := db.exitFill ++ [⟨quote, b.txHash, b.memo⟩] }

/-- `bookPayout`. -/
def bookPayout (db : Db) (b : PayoutBooking) : Call Db := do
  let db ← insertExitFill db b
  let db ← recordJournalEntry db (debitOf b)
  recordJournalEntry db (creditOf b)

-- ================================================================= repair

inductive RepairOutcome where
  | taken
  | already
  | booked
  deriving DecidableEq, Repr

/-- A pair is on the journal under `refId`. -/
def pairExists (db : Db) (refId : Uuid) : Bool :=
  db.journalEntry.any fun e => e.refType = .payoutHop ∧ e.refId = refId

/-- The repair of one row it has selected, in one transaction. -/
def repairRow (db : Db) (key : Text) (row : PayoutForward) :
    Call (RepairOutcome × Db) :=
  match db.payoutForward.get key with
  | none => return (.taken, db)
  | some now =>
      if now.status = .bookkeepingPending then do
        let db := { db with
          payoutForward :=
            db.payoutForward.set key { now with status := .sent } }
        if pairExists db row.refId then return (.already, db)
        else do
          let txHash ← expect row.txHash
            "bookkeeping_pending row has no tx_hash"
          let db ← bookPayout db
            ⟨key, txHash, row.refId, row.quoteId, row.amount, row.memo⟩
          return (.booked, db)
      else return (.taken, db)

structure RepairResult where
  booked : List Text
  alreadyBooked : List Text
  failed : List Text
  deriving DecidableEq

/-- The row is waiting to be booked. -/
def isPending (db : Db) (key : Text) : Bool :=
  (db.payoutForward.get key).any (·.status = .bookkeepingPending)

/-- `rows` is what the select of a repair returns, in some order. -/
def Selects (db : Db) (rows : List (Text × PayoutForward)) : Prop :=
  (rows.map Prod.fst).Nodup
    ∧ (∀ p ∈ rows, db.payoutForward.get p.1 = some p.2
      ∧ p.2.status = .bookkeepingPending)
    ∧ ∀ key ∈ db.payoutForward.keys, isPending db key = true →
      key ∈ rows.map Prod.fst

instance (db : Db) (rows : List (Text × PayoutForward)) :
    Decidable (Selects db rows) :=
  inferInstanceAs (Decidable (_ ∧ _ ∧ _))

/-- One row of the loop: what is thrown is caught, and goes to `failed`. -/
def repairNext (acc : RepairResult × Db) (p : Text × PayoutForward) :
    RepairResult × Db :=
  let (result, db) := acc
  match repairRow db p.1 p.2 with
  | .ok (.booked, db) => ({ result with booked := result.booked ++ [p.1] }, db)
  | .ok (.already, db) =>
      ({ result with alreadyBooked := result.alreadyBooked ++ [p.1] }, db)
  | .ok (.taken, db) => (result, db)
  | .error _ => ({ result with failed := result.failed ++ [p.1] }, db)

/-- `bookPendingPayouts`, from its select on, with nothing failing but
what the rows themselves make fail. -/
def bookPendingPayouts (db : Db) (rows : List (Text × PayoutForward)) :
    RepairResult × Db :=
  rows.foldl repairNext (⟨[], [], []⟩, db)

end Ballast.PayoutHop
