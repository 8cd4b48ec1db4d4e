/-
The event indexer: `pollOnce` and `runIndexerCycle`.

A poll chooses where to start (the cursor in memory, the cursor row, the
highest ledger on file, or 1000 ledgers back), clamps that to what the
RPC retains, records the ledgers it skips, drains every page, stores the
events and then the cursor. Event ids are numbers here, in the order the
RPC pages by, and are never null; the filters of five contracts at a time
are one filter. `Decoder` is what the Stellar SDK and JSON make of an
event's values.

# Steps

Every await ends a step, and a step is given what the RPC answered. Polls
of one process follow one another. An await may fail, which ends the
poll, except where the source catches it; a statement may commit all the
same. A restart ends the poll anywhere and loses the memory.
-/
import Ballast.Common.Conflict
import Ballast.Common.Delivery
import Ballast.Soroban.Machine

namespace Ballast.Indexer

open Soroban

variable {ξ ι δ : Type}

/-- `COLD_START_LOOKBACK_LEDGERS`. -/
def coldStartLookbackLedgers : Nat := 1000

/-- `PAGE_SIZE`. -/
def pageSize : Nat := 100

/-- An event as the RPC returns it, with values of type `ξ`. -/
structure RpcEvent (ξ : Type) where
  id : Nat
  ledger : Nat
  txHash : String
  contractId : String
  topic : List ξ
  value : ξ
  deriving DecidableEq

structure Page (ξ : Type) where
  events : List (RpcEvent ξ)
  latestLedger : Nat

-- =============================================================== the rows

/-- What the SDK and JSON compute. -/
structure Decoder (ξ ι δ : Type) where
  scValToNative : ξ → Except String ι
  /-- `String(value)` -/
  text : ι → String
  /-- `toJsonSafe({ topics, value })` -/
  toJsonSafe : List ι → ι → δ
  /-- the raw form of an event that does not decode -/
  raw : RpcEvent ξ → String
  /-- `{ error, raw }` -/
  undecodable : String → String → δ

/-- A row of `chain_event`. -/
structure ChainEvent (δ : Type) where
  eventId : Nat
  ledger : Nat
  txHash : String
  contract : String
  topic : String
  data : δ
  deriving DecidableEq

def decodeTopicName (d : Decoder ξ ι δ) : List ξ → String
  | [] => "unknown"
  | first :: _ =>
      match d.scValToNative first with
      | .ok name => d.text name
      | .error _ => "unknown"

/-- The row of an event, also of one that does not decode. -/
def rowOf (d : Decoder ξ ι δ) (event : RpcEvent ξ) : ChainEvent δ :=
  let row (topic : String) (data : δ) : ChainEvent δ :=
    ⟨event.id, event.ledger, event.txHash, event.contractId, topic, data⟩
  let decoded : Except String δ := do
    let topics ← (event.topic.drop 1).mapM d.scValToNative
    let value ← d.scValToNative event.value
    return d.toJsonSafe topics value
  match decoded with
  | .ok data => row (decodeTopicName d event.topic) data
  | .error message =>
      row "undecodable" (d.undecodable message (d.raw event))

/-- `max(ledger)`. -/
def maxLedger (rows : List (ChainEvent δ)) : Option Nat :=
  (rows.map ChainEvent.ledger).max?

-- =============================================================== the lag

structure LagCheckResult where
  lagLedgers : Nat
  isLagging : Bool
  deriving DecidableEq, Repr

def computeRpcLag (rpcTip : Nat) (lastScannedLedger : Option Nat)
    (thresholdLedgers : Nat) : LagCheckResult :=
  match lastScannedLedger with
  | none => ⟨0, false⟩
  | some last =>
      let lagLedgers := rpcTip - last
      ⟨lagLedgers, lagLedgers > thresholdLedgers⟩

inductive Alert where
  | rpcLagHigh (lagLedgers latestLedger lastScannedLedger : Nat)
  | eventGapSkipped (fromLedger toLedger : Nat)
  deriving DecidableEq, Repr

-- ============================================================== the state

/-- Where a poll wants to start and where it does. -/
structure Span where
  desiredStartLedger : Nat
  startLedger : Nat
  deriving DecidableEq, Repr

/-- A row of `chain_event_gap`. -/
structure Gap where
  fromLedger : Nat
  toLedger : Nat
  deriving DecidableEq, Repr

/-- What the await a poll stands at will answer. -/
inductive Phase (ξ : Type) where
  /-- the tip, for the lag -/
  | tip
  | cursorRow
  | maxLedger
  | coldStart
  | health (desiredStartLedger : Nat)
  | gap (span : Span)
  | pages (span : Span) (events : List (RpcEvent ξ)) (cursor : Option Nat)
  | store (span : Span) (events : List (RpcEvent ξ)) (latestLedger : Nat)
  | upsert (span : Span) (insertedCount latestLedger : Nat)
  /-- none: the poll returns -/
  | finished (span : Span) (insertedCount latestLedger : Nat)
  deriving DecidableEq

structure Poll (ξ : Type) where
  /-- the cursor it was given -/
  cursorLedger : Option Nat
  /-- it is run by `runIndexerCycle` -/
  cycle : Bool
  phase : Phase ξ
  deriving DecidableEq

structure PollOnceResult where
  fromLedger : Nat
  insertedCount : Nat
  latestLedger : Nat
  scannedUpTo : Nat
  skippedFrom : Option Nat
  skippedTo : Option Nat
  deriving DecidableEq, Repr

/-- The tables, the process and the poll under way. -/
structure Mirror (ξ δ : Type) where
  chainEvent : List (ChainEvent δ)
  chainEventGap : List Gap
  indexerCursor : Option Nat
  /-- in memory -/
  lastScannedLedger : Option Nat
  poll : Option (Poll ξ)
  alerts : List Alert
  /-- history: what the polls returned -/
  completed : List PollOnceResult
  /-- history: the ledgers of each poll that stored its events, from its
  start to the `latestLedger` of its last page -/
  drains : List (Nat × Nat)
  /-- history: the highest end of these since a poll completed -/
  drainedUpTo : Nat

-- ============================================================== the start

/-- `pollOnce` is called with this cursor. -/
def entry (cursorLedger : Option Nat) : Phase ξ :=
  match cursorLedger with
  | some cursor => .health (cursor + 1)
  | none => .cursorRow

/-- The poll, moved to `phase`. -/
def moveTo (s : Mirror ξ δ) (poll : Poll ξ) (phase : Phase ξ) :
    Mirror ξ δ :=
  { s with poll := some { poll with phase := phase } }

/-- `pollOnce` on its own, without a cursor or with the one in memory. -/
def beginPoll (remember : Bool) (s : Mirror ξ δ) :
    Call (Mirror ξ δ) := do
  ensure (s.poll = none) "a poll is under way"
  let cursorLedger := if remember then s.lastScannedLedger else none
  return { s with poll := some ⟨cursorLedger, false, entry cursorLedger⟩ }

/-- `runIndexerCycle`. -/
def beginCycle (s : Mirror ξ δ) : Call (Mirror ξ δ) := do
  ensure (s.poll = none) "a poll is under way"
  return { s with poll := some ⟨s.lastScannedLedger, true, .tip⟩ }

/-- The lag is checked, and `pollOnce` called. -/
def checkLag (rpcTip lagAlertLedgers : Nat) (s : Mirror ξ δ) :
    Call (Mirror ξ δ) := do
  let poll ← expect s.poll "no poll"
  match poll.phase with
  | .tip =>
      let lag := computeRpcLag rpcTip poll.cursorLedger lagAlertLedgers
      let fired :=
        if lag.isLagging then
          [.rpcLagHigh lag.lagLedgers rpcTip (poll.cursorLedger.getD 0)]
        else []
      return moveTo { s with alerts := s.alerts ++ fired } poll
        (entry poll.cursorLedger)
  | _ => throw "not at the tip"

/-- The cursor row; a select that fails is caught. -/
def selectCursor (fault : Bool) (s : Mirror ξ δ) :
    Call (Mirror ξ δ) := do
  let poll ← expect s.poll "no poll"
  match poll.phase with
  | .cursorRow =>
      match fault, s.indexerCursor with
      | false, some lastLedger =>
          return moveTo s poll (.health (lastLedger + 1))
      | _, _ => return moveTo s poll .maxLedger
  | _ => throw "not at the cursor row"

def selectMaxLedger (s : Mirror ξ δ) : Call (Mirror ξ δ) := do
  let poll ← expect s.poll "no poll"
  match poll.phase with
  | .maxLedger =>
      match maxLedger s.chainEvent with
      | some lastIngested =>
          return moveTo s poll (.health (lastIngested + 1))
      | none => return moveTo s poll .coldStart
  | _ => throw "not at the highest ledger"

/-- `getLatestLedger`, on a cold start. -/
def coldStart (sequence : Nat) (s : Mirror ξ δ) :
    Call (Mirror ξ δ) := do
  let poll ← expect s.poll "no poll"
  match poll.phase with
  | .coldStart =>
      return moveTo s poll
        (.health (max 1 (sequence - coldStartLookbackLedgers)))
  | _ => throw "not at a cold start"

/-- `getHealth`, and the clamp. -/
def getHealth (oldestLedger : Nat) (s : Mirror ξ δ) :
    Call (Mirror ξ δ) := do
  let poll ← expect s.poll "no poll"
  match poll.phase with
  | .health desiredStartLedger =>
      let startLedger := max desiredStartLedger oldestLedger
      let span : Span := ⟨desiredStartLedger, startLedger⟩
      if startLedger > desiredStartLedger then
        return moveTo s poll (.gap span)
      return moveTo s poll (.pages span [] none)
  | _ => throw "not at the health"

/-- `skippedFrom` and `skippedTo`. -/
def Span.skipped (span : Span) : Option Gap :=
  if span.startLedger > span.desiredStartLedger then
    some ⟨span.desiredStartLedger, span.startLedger - 1⟩
  else none

def insertGap (delivery : Delivery) (s : Mirror ξ δ) :
    Call (Mirror ξ δ) := do
  let poll ← expect s.poll "no poll"
  match poll.phase with
  | .gap span =>
      let recorded := { s with
        chainEventGap :=
          Conflict.insertRows id s.chainEventGap span.skipped.toList }
      match delivery with
      | .acknowledged => return moveTo recorded poll (.pages span [] none)
      | .lost => return { recorded with poll := none }
      | .rolledBack => return { s with poll := none }
  | _ => throw "not at the gap"

-- ============================================================= the events

/-- One page; the last is short. -/
def getEvents (page : Page ξ) (s : Mirror ξ δ) : Call (Mirror ξ δ) := do
  let poll ← expect s.poll "no poll"
  match poll.phase with
  | .pages span events _ =>
      let events := events ++ page.events
      let cursor := page.events.getLast?.map RpcEvent.id
      if page.events.length < pageSize ∨ cursor = none then
        return moveTo s poll (.store span events page.latestLedger)
      return moveTo s poll (.pages span events cursor)
  | _ => throw "not at the pages"

/-- The insert; with no events there is none. -/
def insertEvents (d : Decoder ξ ι δ) (delivery : Delivery)
    (s : Mirror ξ δ) : Call (Mirror ξ δ) := do
  let poll ← expect s.poll "no poll"
  match poll.phase with
  | .store span events latestLedger =>
      let stored := { s with
        chainEvent := Conflict.insertRows ChainEvent.eventId s.chainEvent
          (events.map (rowOf d))
        drains := s.drains ++ [(span.startLedger, latestLedger)]
        drainedUpTo :=
          if s.completed = [] then s.drainedUpTo
          else max s.drainedUpTo latestLedger }
      let next := moveTo stored poll
        (.upsert span events.length latestLedger)
      if events = [] then return next
      match delivery with
      | .acknowledged => return next
      | .lost => return { stored with poll := none }
      | .rolledBack => return { s with poll := none }
  | _ => throw "not at the insert"

/-- The cursor row; an upsert that fails is caught. -/
def upsertCursor (delivery : Delivery) (s : Mirror ξ δ) :
    Call (Mirror ξ δ) := do
  let poll ← expect s.poll "no poll"
  match poll.phase with
  | .upsert span insertedCount latestLedger =>
      let finished := Phase.finished span insertedCount latestLedger
      if 0 < latestLedger ∧ delivery ≠ .rolledBack then
        return moveTo { s with indexerCursor := some latestLedger } poll
          finished
      return moveTo s poll finished
  | _ => throw "not at the upsert"

/-- What `pollOnce` returns. -/
def Poll.result (poll : Poll ξ) (span : Span)
    (insertedCount latestLedger : Nat) : PollOnceResult :=
  { fromLedger := span.startLedger
    insertedCount := insertedCount
    latestLedger := latestLedger
    scannedUpTo := max (poll.cursorLedger.getD 0) latestLedger
    skippedFrom := span.skipped.map Gap.fromLedger
    skippedTo := span.skipped.map Gap.toLedger }

/-- The poll returns; a cycle alerts and remembers. -/
def finish (s : Mirror ξ δ) : Call (Mirror ξ δ) := do
  let poll ← expect s.poll "no poll"
  match poll.phase with
  | .finished span insertedCount latestLedger =>
      let result := poll.result span insertedCount latestLedger
      let fired := span.skipped.toList.map fun skipped =>
        Alert.eventGapSkipped skipped.fromLedger skipped.toLedger
      return { s with
        poll := none
        alerts := s.alerts ++ if poll.cycle then fired else []
        lastScannedLedger :=
          if poll.cycle then some result.scannedUpTo
          else s.lastScannedLedger
        completed := s.completed ++ [result]
        drainedUpTo :=
          if s.completed = [] then latestLedger
          else max s.drainedUpTo latestLedger }
  | _ => throw "the poll goes on"

-- ============================================================ the failures

/-- The await failed and the poll threw. -/
def fail (s : Mirror ξ δ) : Call (Mirror ξ δ) := do
  let poll ← expect s.poll "no poll"
  match poll.phase with
  | .cursorRow | .upsert _ _ _ => throw "the failure is caught"
  | .finished _ _ _ => throw "no await"
  | _ => return { s with poll := none }

/-- The process dies and another starts. -/
def restart (s : Mirror ξ δ) : Call (Mirror ξ δ) :=
  return { s with poll := none, lastScannedLedger := none }

-- ============================================================ the machine

/-- What can happen next. -/
inductive Act (ξ : Type) where
  | beginPoll (remember : Bool)
  | beginCycle
  | checkLag (rpcTip lagAlertLedgers : Nat)
  | selectCursor (fault : Bool)
  | selectMaxLedger
  | coldStart (sequence : Nat)
  | getHealth (oldestLedger : Nat)
  | insertGap (delivery : Delivery)
  | getEvents (page : Page ξ)
  | insertEvents (delivery : Delivery)
  | upsertCursor (delivery : Delivery)
  | finish
  | fail
  | restart

def step (d : Decoder ξ ι δ) (a : Act ξ) (s : Mirror ξ δ) :
    Call (Mirror ξ δ) :=
  match a with
  | .beginPoll remember => beginPoll remember s
  | .beginCycle => beginCycle s
  | .checkLag rpcTip lagAlertLedgers => checkLag rpcTip lagAlertLedgers s
  | .selectCursor fault => selectCursor fault s
  | .selectMaxLedger => selectMaxLedger s
  | .coldStart sequence => coldStart sequence s
  | .getHealth oldestLedger => getHealth oldestLedger s
  | .insertGap delivery => insertGap delivery s
  | .getEvents page => getEvents page s
  | .insertEvents delivery => insertEvents d delivery s
  | .upsertCursor delivery => upsertCursor delivery s
  | .finish => finish s
  | .fail => fail s
  | .restart => restart s

/-- The indexer over an empty database. -/
def machine (d : Decoder ξ ι δ) : Machine (Mirror ξ δ) (Act ξ) where
  init := ⟨[], [], none, none, none, [], [], [], 0⟩
  apply := step d

end Ballast.Indexer
