/-
What the webhook outbox finds to tell, and whom.

`fanOutRecentEvents` reads five tables that other services write, joins
each row with the row that says whom it concerns, and makes a delivery
of it for every active subscription that concerns and wants it. A
delivery is known by its subscription and by an event key, which names
the row it came from.

The rows carry the columns the outbox reads. Times are in milliseconds.

# What makes a notice

Each family of rows has its own query, its own join and its own payload
(`notices`), and a row may say nothing, one thing or several: a change
of margin state is announced by all the events the transition stands
for. Whom a notice concerns is decided by the party of the joined row,
and a price by everybody (`Notice.concerns`).
-/
import Ballast.Common.Table
import Ballast.Webhooks.Outbox
import Ballast.Webhooks.Ssrf
import Mathlib.Data.List.Sort

namespace Ballast.Webhooks

-- ============================================================== the tables

/-- A uuid. -/
abbrev Id := Nat

/-- A `margin_event` row. -/
structure MarginEventRow where
  id : Id
  creditLineId : Id
  fromState : MarginState
  toState : MarginState
  ltvBps : Nat
  createdAt : Nat
  deriving DecidableEq, Repr

/-- A `credit_line` row. -/
structure CreditLineRow where
  id : Id
  lenderId : Id
  borrowerId : Id
  deriving DecidableEq, Repr

/-- A `price_snapshot` row. -/
structure PriceSnapshotRow where
  id : Id
  assetId : Id
  guardedValue : Int
  status : PriceStatus
  createdAt : Nat
  deriving DecidableEq, Repr

/-- A `liquidation` row. -/
structure LiquidationRow where
  id : Id
  creditLineId : Id
  units : Int
  proceeds : Option Int
  shortfall : Option Int
  completedAt : Option Nat
  deriving DecidableEq, Repr

/-- An `exit_fill` row. -/
structure ExitFillRow where
  id : Id
  quoteId : Id
  txHash : Text
  createdAt : Nat
  deriving DecidableEq, Repr

/-- An `exit_quote` row. -/
structure ExitQuoteRow where
  id : Id
  holderId : Id
  units : Int
  usdcOut : Int
  deriving DecidableEq, Repr

inductive IntentStatus where
  | pending
  | settled
  | failed
  | expired
  deriving DecidableEq, Repr

/-- A `tx_intent` row. -/
structure TxIntentRow where
  txHash : Text
  kind : String
  refId : Option Id
  status : IntentStatus
  settledAt : Option Nat
  deriving DecidableEq, Repr

/-- A `repo_trade` row. -/
structure RepoTradeRow where
  id : Id
  cashLenderId : Id
  cashBorrowerId : Id
  units : Int
  cashAmount : Int
  maturityAt : Nat
  deriving DecidableEq, Repr

/-- What the other services write. -/
structure Sources where
  marginEvent : List MarginEventRow
  creditLine : List CreditLineRow
  priceSnapshot : List PriceSnapshotRow
  liquidation : List LiquidationRow
  exitFill : List ExitFillRow
  exitQuote : List ExitQuoteRow
  txIntent : List TxIntentRow
  repoTrade : List RepoTradeRow
  deriving DecidableEq, Repr

/-- A `webhook_subscription` row. -/
structure Subscription where
  id : Id
  partyId : Id
  url : Text
  events : List WebhookEvent
  secretCiphertext : Text
  active : Bool
  createdAt : Nat
  deriving DecidableEq, Repr

-- ================================================================= notices

/-- The `data` of a payload. -/
inductive Data where
  | margin (creditLineId : Id) (fromState toState : MarginState)
      (ltvBps : Nat)
  | price (assetId : Id) (fromStatus toStatus : PriceStatus) (value : Int)
  | liquidation (creditLineId : Id) (units : Int)
      (proceeds shortfall : Option Int)
  | exit (quoteId : Id) (units usdcOut : Int) (txHash : Text)
  | repo (tradeId : Id) (units cashAmount : Int) (maturityAt : Nat)
      (txHash : Text)
  deriving DecidableEq, Repr

structure WebhookPayload where
  event : WebhookEvent
  occurredAt : Nat
  data : Data
  deriving DecidableEq, Repr

inductive EventKey where
  /-- `margin_event:<id>:<event>` -/
  | marginEvent (id : Id) (event : WebhookEvent)
  /-- `price_snapshot:<id>` -/
  | priceSnapshot (id : Id)
  /-- `liquidation:<id>` -/
  | liquidation (id : Id)
  /-- `exit_fill:<id>` -/
  | exitFill (id : Id)
  /-- `tx_intent:<tx_hash>` -/
  | txIntent (txHash : Text)
  deriving DecidableEq, Repr

/-- Something to tell. -/
structure Notice where
  key : EventKey
  payload : WebhookPayload
  /-- whom it concerns; a price concerns everyone -/
  parties : Option (List Id)
  deriving DecidableEq, Repr

/-- A row the outbox takes up. -/
inductive SourceRow where
  | marginEvent (row : MarginEventRow)
  /-- a snapshot, and the status of the asset's one before it -/
  | statusChange (snap : PriceSnapshotRow) (before : PriceStatus)
  | liquidation (row : LiquidationRow) (completedAt : Nat)
  | exitFill (row : ExitFillRow)
  | repoAccept (row : TxIntentRow) (settledAt : Nat)
  deriving DecidableEq, Repr

/-- The scans of `fanOutRecentEvents`, in its order. -/
inductive Family where
  | marginEvent
  | priceSnapshot
  | liquidation
  | exitFill
  | txIntent
  deriving DecidableEq, Repr

def families : List Family :=
  [.marginEvent, .priceSnapshot, .liquidation, .exitFill, .txIntent]

/-- The walk over the snapshots in order of time: `previousStatus` is the
last status of each asset so far. -/
def statusChanges (since : Nat) :
    List PriceSnapshotRow → (Id → Option PriceStatus) → List SourceRow
  | [], _ => []
  | snap :: snaps, previousStatus =>
      let rest := statusChanges since snaps
        (Function.update previousStatus snap.assetId (some snap.status))
      match previousStatus snap.assetId with
      | none => rest
      | some before =>
          if before = snap.status ∨ snap.createdAt < since then rest
          else .statusChange snap before :: rest

/-- The rows of a family since a time. -/
def selectRows (since : Nat) (db : Sources) : Family → List SourceRow
  | .marginEvent =>
      (db.marginEvent.filter (since ≤ ·.createdAt)).map .marginEvent
  | .priceSnapshot =>
      statusChanges since
        (db.priceSnapshot.insertionSort fun a b =>
          a.createdAt ≤ b.createdAt)
        fun _ => none
  | .liquidation =>
      db.liquidation.filterMap fun l => do
        let _ ← l.proceeds
        let completedAt ← l.completedAt
        if since ≤ completedAt then some (.liquidation l completedAt) else none
  | .exitFill =>
      (db.exitFill.filter (since ≤ ·.createdAt)).map .exitFill
  | .txIntent =>
      db.txIntent.filterMap fun i => do
        let settledAt ← i.settledAt
        if i.kind = "repo.accept" ∧ i.status = .settled ∧ since ≤ settledAt
        then some (.repoAccept i settledAt) else none

/-- What a row says, with the table that says whom it concerns. -/
def notices (db : Sources) : SourceRow → List Notice
  | .marginEvent me =>
      match Table.lookup (·.id) db.creditLine me.creditLineId with
      | none => []
      | some line =>
          (eventsForMarginTransition me.fromState me.toState).map
            fun event =>
              { key := .marginEvent me.id event
                payload := ⟨event, me.createdAt, .margin me.creditLineId
                  me.fromState me.toState me.ltvBps⟩
                parties := some [line.lenderId, line.borrowerId] }
  | .statusChange snap before =>
      [{ key := .priceSnapshot snap.id
         payload := ⟨.priceStatusChanged, snap.createdAt,
           .price snap.assetId before snap.status snap.guardedValue⟩
         parties := none }]
  | .liquidation liq completedAt =>
      match Table.lookup (·.id) db.creditLine liq.creditLineId with
      | none => []
      | some line =>
          [{ key := .liquidation liq.id
             payload := ⟨.liquidationCompleted, completedAt,
               .liquidation liq.creditLineId liq.units liq.proceeds
                 liq.shortfall⟩
             parties := some [line.lenderId, line.borrowerId] }]
  | .exitFill fill =>
      match Table.lookup (·.id) db.exitQuote fill.quoteId with
      | none => []
      | some quote =>
          [{ key := .exitFill fill.id
             payload := ⟨.exitFilled, fill.createdAt,
               .exit fill.quoteId quote.units quote.usdcOut fill.txHash⟩
             parties := some [quote.holderId] }]
  | .repoAccept intent settledAt =>
      match intent.refId.bind (Table.lookup (·.id) db.repoTrade) with
      | none => []
      | some trade =>
          [{ key := .txIntent intent.txHash
             payload := ⟨.repoLeg1Settled, settledAt,
               .repo trade.id trade.units trade.cashAmount trade.maturityAt
                 intent.txHash⟩
             parties := some [trade.cashLenderId, trade.cashBorrowerId] }]

-- ============================================================== recipients

def wants (sub : Subscription) (event : WebhookEvent) : Bool :=
  event ∈ sub.events

/-- Whether a notice is the party's business. -/
def Notice.concerns (n : Notice) (party : Id) : Bool :=
  n.parties.all (party ∈ ·)

/-- Whether a subscription is told: it concerns its party, is wanted, and
is no older than the subscription. -/
def told (n : Notice) (sub : Subscription) : Bool :=
  n.concerns sub.partyId ∧ wants sub n.payload.event
    ∧ sub.createdAt ≤ n.payload.occurredAt

/-- What `enqueue` inserts. -/
structure NewDelivery where
  subscriptionId : Id
  eventKey : EventKey
  event : WebhookEvent
  payload : WebhookPayload
  nextAttemptAt : Nat
  deriving DecidableEq, Repr

def newDelivery (now : Nat) (n : Notice) (sub : Subscription) :
    NewDelivery :=
  ⟨sub.id, n.key, n.payload.event, n.payload, now⟩

/-- The inserts a row leads to, in order. -/
def deliveries (now : Nat) (active : List Subscription) (db : Sources)
    (row : SourceRow) : List NewDelivery :=
  (notices db row).flatMap fun n =>
    (active.filter (told n)).map (newDelivery now n)

/-- `FANOUT_WINDOW_MS`. -/
def fanoutWindowMs : Nat := 24 * 3600 * 1000

theorem mem_deliveries {now : Nat} {active : List Subscription}
    {db : Sources} {row : SourceRow} {v : NewDelivery} :
    v ∈ deliveries now active db row ↔ ∃ n ∈ notices db row,
      ∃ sub ∈ active, told n sub = true ∧ v = newDelivery now n sub := by
  simp only [deliveries, List.mem_flatMap, List.mem_map, List.mem_filter]
  constructor
  · intro h
    obtain ⟨n, hn, sub, ⟨hsub, htold⟩, rfl⟩ := h
    exact ⟨n, hn, sub, hsub, htold, rfl⟩
  · intro h
    obtain ⟨n, hn, sub, hsub, htold, rfl⟩ := h
    exact ⟨n, hn, sub, ⟨hsub, htold⟩, rfl⟩

end Ballast.Webhooks
