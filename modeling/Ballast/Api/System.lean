/-
Settlement, and the API as a system: the books, the chain under them,
the requests in flight and the callers settling intents.

# Settling

`settle` is one function of the source and several steps here, cut where
it awaits: ask the network (`ask`), read the contracts (`preRead`), the
database transaction that claims the row and applies the effect
(`commit`), the re-read of a caller that lost (`reread`), and the error
write (`recordError`). A caller (`Worker`) holds the row it read once,
however long ago: the submit route polls with the same snapshot, the
sweep walks a list it selected at its start, the settle route reads the
row it was asked for. Any of its statements may fail; a transaction is
atomic, but its acknowledgement may be lost (`Delivery`).

# The chain

`Network` is the contracts the API talks to, as a machine of their own
with the reads settlement makes of it. A transaction the API recorded
lands at most once, successfully or not, with what the contracts say at
that moment; its outcome never changes after. Anything else may happen
on the chain in between (`outside`).

Accounts have no sequence numbers here. `buildUnsignedTx` gives an
envelope the next number of its source at the time it is built, so of two
envelopes of one source that are built before either lands, the host
takes only one; `land` takes both. What is shown of every run therefore
holds of more runs than there are. A run that refutes something has to
stay among the real ones: it hands out an account's next envelope after
the last one has landed, or never lands it.

`booked` is not a table: it lists the hashes whose book effect was
committed, in order.
-/
import Ballast.Api.Routes

namespace Ballast.Api

open Soroban

-- ============================================================= settlement

/-- `UNSIGNED_TX_TIMEOUT_S`. -/
def unsignedTxTimeoutS : Nat := 300

/-- `INTENT_EXPIRY_MS`. -/
def intentExpiryMs : Nat := (unsignedTxTimeoutS + 120) * 1000

/-- The reads made before the transaction, where the row names a contract
id; of a failed transaction none. -/
def preRead (db : Db) (contracts : Contracts) (intent : TxIntent)
    (outcome : Outcome) : Call ContractState :=
  match outcome, intent.kind with
  | .success _ _, .creditLineCloseLiquidated =>
      match (db.creditLine.get intent.refId).bind (·.contractLineId) with
      | some line => do
          let record ← contracts.liquidationRecord line
          return { ContractState.unread with liquidationRecord := record }
      | none => return .unread
  | .success _ _, .creditLineRepay =>
      match (db.creditLine.get intent.refId).bind (·.contractLineId) with
      | some line => do
          let onChain ← contracts.line line
          return { ContractState.unread with line := onChain }
      | none => return .unread
  | .success _ _, .repoTopUp =>
      match (db.repoTrade.get intent.refId).bind (·.contractTradeId) with
      | some trade => do
          let onChain ← contracts.trade trade
          return { ContractState.unread with trade := onChain }
      | none => return .unread
  | _, _ => return .unread

/-- Whether `preRead` reads anything, and so can fail. -/
def reads (intent : TxIntent) : Outcome → Bool
  | .success _ _ => intent.kind = .creditLineCloseLiquidated
      ∨ intent.kind = .creditLineRepay ∨ intent.kind = .repoTopUp
  | .failed _ => false

/-- `update(txIntent).set(..).where(txHash, status = pending)`: the
database after, or nothing when no row was claimed. -/
def claim (db : Db) (h : TxHash) (set : TxIntent → TxIntent) : Option Db :=
  match db.txIntent.get h with
  | some row =>
      if row.status = .pending then
        some { db with txIntent := db.txIntent.set h (set row) }
      else none
  | none => none

/-- `applySuccess` or `applyFailure`. -/
def applyOutcome (db : Db) (contracts : Contracts) (intent : TxIntent)
    (outcome : Outcome) (read : ContractState) (now : Nat) : Call Db :=
  match outcome with
  | .success ledger returnValue =>
      applySuccess db contracts intent ledger returnValue read now
  | .failed _ => .ok (applyFailure db intent)

/-- `runWithDb`: the claim and the book effect, in one transaction. -/
def runWithDb (db : Db) (contracts : Contracts) (intent : TxIntent)
    (outcome : Outcome) (read : ContractState) (now : Nat) :
    Call (Option Db) :=
  match claim db intent.txHash fun row =>
      { row with
        status := outcome.next
        ledger := some outcome.ledger
        settledAt := some now } with
  | none => .ok none
  | some db => (applyOutcome db contracts intent outcome read now).map some

/-- `expire`: the sweep's transaction for a transaction that can no longer
land. -/
def expire (db : Db) (intent : TxIntent) (now : Nat) : Option Db :=
  (claim db intent.txHash fun row =>
    { row with status := .expired, settledAt := some now }).map
    fun db => applyFailure db intent

/-- `recordSettleError`. -/
def recordSettleError (db : Db) (intent : TxIntent) (err : String) : Db :=
  { db with
    txIntent := db.txIntent.adjust intent.txHash fun row =>
      { row with status := .pending, error := some err } }

-- ============================================================== the state

/-- Where a call of `settle` stands. -/
inductive Phase where
  /-- before a call, or after one returned -/
  | holding
  /-- the network answered NOT_FOUND -/
  | absent
  /-- the network gave a final outcome -/
  | answered (outcome : Outcome)
  /-- the contracts have been read -/
  | ready (outcome : Outcome) (read : ContractState)
  /-- another caller had claimed the row -/
  | beaten
  /-- something threw and the error is about to be recorded -/
  | erring (err : String)
  deriving DecidableEq

/-- A caller and the row it read. -/
structure Worker where
  intent : TxIntent
  phase : Phase
  deriving DecidableEq

/-- What becomes of a database transaction. -/
inductive Delivery where
  | acknowledged
  /-- committed, but the caller sees an error -/
  | lost
  | rolledBack
  deriving DecidableEq, Repr

/-- What `chain.outcome` does. NOT_FOUND is also the answer for a
transaction past the RPC's retention. -/
inductive Answer where
  | final
  | notFound
  | unreachable
  deriving DecidableEq, Repr

/-- The contracts, as the API sees them. -/
structure Network (χ τ : Type) where
  machine : Machine χ τ
  /-- an envelope's invocation, in the ledger it closes in -/
  invoke : Env → Envelope → τ
  /-- what a successful invocation returns -/
  returns : Env → Envelope → χ → Int
  contracts : χ → Contracts

/-- A transaction that landed: how it ended, and the chain around it. -/
structure Landing (χ : Type) where
  outcome : Outcome
  before : χ
  after : χ

structure System (χ : Type) where
  db : Db
  chain : χ
  /-- the envelopes handed out, by hash -/
  envelopes : Store TxHash Envelope
  /-- the transactions of ours that landed -/
  landed : Store TxHash (Landing χ)
  drafts : Store Nat Draft
  workers : Store Nat Worker
  booked : List TxHash

-- ============================================================== the steps

variable {χ τ : Type} (net : Network χ τ)

/-- A request passes its checks and its envelope simulates. -/
def start (id : Nat) (req : Request) (env : Env) (s : System χ) :
    Call (System χ) := do
  let d ← route s.db req
  let _ ← net.machine.apply (net.invoke env d.envelope) s.chain
  return { s with drafts := s.drafts.set id d }

/-- The request's transaction commits and the envelope goes out under
`h`. -/
def commitDraft (id : Nat) (h : TxHash) (row : RowId) (now : Nat)
    (s : System χ) : Call (System χ) := do
  let d ← expect (s.drafts.get id) "no such request"
  let db ← record s.db h d row now
  return { s with
    db := db
    drafts := s.drafts.remove id
    envelopes := s.envelopes.set h d.envelope }

/-- A signed envelope's transaction closes. The host's check of its
sequence number is left out: it could only refuse more. -/
def land (h : TxHash) (env : Env) (s : System χ) : Call (System χ) := do
  let envelope ← expect (s.envelopes.get h) "not a transaction of ours"
  ensure ((s.landed.get h).isNone) "already landed"
  match net.machine.apply (net.invoke env envelope) s.chain with
  | .ok chain =>
      return { s with
        chain := chain
        landed := s.landed.set h
          ⟨.success env.sequence (net.returns env envelope s.chain), s.chain,
            chain⟩ }
  | .error _ =>
      return { s with
        landed := s.landed.set h
          ⟨.failed env.sequence, s.chain, s.chain⟩ }

/-- The caller `w` in phase `p`. -/
def moveTo (s : System χ) (w : Nat) (intent : TxIntent) (p : Phase) :
    System χ :=
  { s with workers := s.workers.set w ⟨intent, p⟩ }

/-- A caller reads the row: `findIntent`, or the sweep's select. -/
def pick (w : Nat) (h : TxHash) (s : System χ) : Call (System χ) := do
  let row ← expect (s.db.txIntent.get h)
    "not a transaction this API built for you"
  return moveTo s w row .holding

/-- `chain.outcome`, for a row that was read as pending. -/
def ask (w : Nat) (answer : Answer) (s : System χ) : Call (System χ) := do
  let worker ← expect (s.workers.get w) "no such caller"
  ensure (worker.phase = .holding ∨ worker.phase = .absent) "busy"
  ensure (worker.intent.status = .pending) "not pending when it was read"
  match answer with
  | .final => do
      let landing ← expect (s.landed.get worker.intent.txHash) "NOT_FOUND"
      return moveTo s w worker.intent (.answered landing.outcome)
  | .notFound => return moveTo s w worker.intent .absent
  | .unreachable => return moveTo s w worker.intent .holding

/-- The contract reads; with `fault` one of them throws. -/
def readContracts (w : Nat) (fault : Bool) (s : System χ) :
    Call (System χ) := do
  let worker ← expect (s.workers.get w) "no such caller"
  match worker.phase with
  | .answered outcome =>
      if fault then do
        ensure (reads worker.intent outcome = true) "nothing to read"
        return moveTo s w worker.intent (.erring "rpc: read failed")
      else
        match preRead s.db (net.contracts s.chain) worker.intent outcome with
        | .ok read =>
            return moveTo s w worker.intent (.ready outcome read)
        | .error err => return moveTo s w worker.intent (.erring err)
  | _ => throw "nothing to read"

/-- The settling transaction. -/
def commit (w : Nat) (delivery : Delivery) (now : Nat) (s : System χ) :
    Call (System χ) := do
  let worker ← expect (s.workers.get w) "no such caller"
  match worker.phase with
  | .ready outcome read =>
      match delivery, runWithDb s.db (net.contracts s.chain) worker.intent
          outcome read now with
      | .rolledBack, _ =>
          return moveTo s w worker.intent (.erring "db: rolled back")
      | _, .error err => return moveTo s w worker.intent (.erring err)
      | .acknowledged, .ok none => return moveTo s w worker.intent .beaten
      | .lost, .ok none =>
          return moveTo s w worker.intent (.erring "db: connection lost")
      | .acknowledged, .ok (some db) =>
          return moveTo { s with
            db := db
            booked := s.booked ++ [worker.intent.txHash] } w worker.intent
            .holding
      | .lost, .ok (some db) =>
          return moveTo { s with
            db := db
            booked := s.booked ++ [worker.intent.txHash] } w worker.intent
            (.erring "db: connection lost")
  | _ => throw "nothing to commit"

/-- A caller that lost the race looks at the row again. -/
def reread (w : Nat) (fault : Bool) (s : System χ) : Call (System χ) := do
  let worker ← expect (s.workers.get w) "no such caller"
  ensure (worker.phase = .beaten) "nothing to re-read"
  return moveTo s w worker.intent
    (if fault then .erring "db: select failed" else .holding)

/-- A caller that failed records why; with `fault` that write fails too
and is let go. -/
def recordError (w : Nat) (fault : Bool) (s : System χ) :
    Call (System χ) := do
  let worker ← expect (s.workers.get w) "no such caller"
  match worker.phase with
  | .erring err =>
      if fault then return moveTo s w worker.intent .holding
      else
        return moveTo
          { s with db := recordSettleError s.db worker.intent err } w
          worker.intent .holding
  | _ => throw "nothing to record"

/-- The sweep writes a transaction off. -/
def writeOff (w : Nat) (delivery : Delivery) (now : Nat) (s : System χ) :
    Call (System χ) := do
  let worker ← expect (s.workers.get w) "no such caller"
  ensure (worker.phase = .absent) "not NOT_FOUND"
  ensure (intentExpiryMs < now - worker.intent.createdAt) "not expired yet"
  match delivery, expire s.db worker.intent now with
  | .rolledBack, _ => return moveTo s w worker.intent .holding
  | _, none => return moveTo s w worker.intent .holding
  | _, some db =>
      return moveTo { s with
        db := db
        booked := s.booked ++ [worker.intent.txHash] } w worker.intent
        .holding

-- ============================================================ the machine

/-- What can happen next. -/
inductive Act (τ : Type) where
  | outside (tx : τ)
  | start (id : Nat) (req : Request) (env : Env)
  | commitDraft (id : Nat) (h : TxHash) (row : RowId) (now : Nat)
  | lapseQuote (quote : RowId) (now : Nat)
  | land (h : TxHash) (env : Env)
  | pick (w : Nat) (h : TxHash)
  | ask (w : Nat) (answer : Answer)
  | readContracts (w : Nat) (fault : Bool)
  | commit (w : Nat) (delivery : Delivery) (now : Nat)
  | reread (w : Nat) (fault : Bool)
  | recordError (w : Nat) (fault : Bool)
  | writeOff (w : Nat) (delivery : Delivery) (now : Nat)

/-- One step of the system. -/
def step (a : Act τ) (s : System χ) : Call (System χ) :=
  match a with
  | .outside tx => do
      let chain ← net.machine.apply tx s.chain
      return { s with chain := chain }
  | .start id req env => start net id req env s
  | .commitDraft id h row now => commitDraft id h row now s
  | .lapseQuote quote now => do
      let db ← lapseQuote s.db quote now
      return { s with db := db }
  | .land h env => land net h env s
  | .pick w h => pick w h s
  | .ask w answer => ask w answer s
  | .readContracts w fault => readContracts net w fault s
  | .commit w delivery now => commit net w delivery now s
  | .reread w fault => reread w fault s
  | .recordError w fault => recordError w fault s
  | .writeOff w delivery now => writeOff w delivery now s

/-- The API over the books `db`, on a chain as the network starts it. -/
def machine (db : Db) : Machine (System χ) (Act τ) where
  init := ⟨db, net.machine.init, Store.empty, Store.empty, Store.empty,
    Store.empty, []⟩
  apply := step net

end Ballast.Api
