/-
The webhook outbox: any number of API processes, each with its worker,
over one database.

A worker's pass is `fanOutRecentEvents` and then `deliverDue`; a process
starts no pass while one of its own is going. A pass is cut at its
awaits: `start` reads the subscriptions, then for each family `select`
reads its rows, `join` the table that says whom they concern, and `insert`
queues one delivery. `selectDue` reads what is due, and for each row of
the batch `selectSubscription`, `send` (the URL check and the POST) and
`record` follow. A statement that writes is acknowledged, lost or rolled
back; a pass ends where it throws, and `crash` ends it anywhere.

Around the workers other services write their tables, and the routes
create, deactivate and redeliver. Creating and redelivering check first
and write later, so those are cut too; deactivating undoes nothing that
its check has seen.

`posts` and `shown` are what left the API: the requests sent, and the
secrets the creating route answered with.
-/
import Ballast.Common.Conflict
import Ballast.Common.Delivery
import Ballast.Soroban.Machine
import Ballast.Soroban.Store
import Ballast.Webhooks.FanOut
import Ballast.Webhooks.Signing

namespace Ballast.Webhooks

open Soroban

-- ================================================================ the state

inductive DeliveryStatus where
  | pending
  | delivered
  | dead
  deriving DecidableEq, Repr

/-- A `webhook_delivery` row. -/
structure DeliveryRow where
  id : Id
  subscriptionId : Id
  eventKey : EventKey
  event : WebhookEvent
  payload : WebhookPayload
  status : DeliveryStatus
  attempts : Nat
  nextAttemptAt : Nat
  lastError : Option String
  deliveredAt : Option Nat
  deriving DecidableEq, Repr

/-- What `fetch` comes to. -/
inductive Answer where
  | status (code : Nat)
  | threw (message : String)
  deriving DecidableEq, Repr

/-- `res.ok`. -/
def Answer.ok : Answer → Bool
  | .status code => 200 ≤ code ∧ code ≤ 299
  | .threw _ => false

/-- A request sent to a subscriber, and what came of it. -/
structure Post where
  deliveryId : Id
  subscriptionId : Id
  url : Url
  event : WebhookEvent
  timestampS : Nat
  signature : Text
  body : Text
  answer : Answer
  deriving DecidableEq

/-- A pass of `fanOutRecentEvents`: its time, the subscriptions it found
active, and the families after the one it is at. -/
structure Scan where
  now : Nat
  active : List Subscription
  rest : List Family
  deriving DecidableEq

/-- What `fail` is called with, and whether its own failure is caught. -/
structure Failure where
  reason : String
  permanent : Bool
  caught : Bool
  deriving DecidableEq, Repr

/-- Where a pass stands. -/
inductive Phase where
  | selecting (scan : Scan) (family : Family)
  | joining (scan : Scan) (rows : List SourceRow)
  | inserting (scan : Scan) (next : NewDelivery) (rest : List NewDelivery)
  /-- `fanOutRecentEvents` has returned -/
  | scanned
  | next (now : Nat) (d : DeliveryRow) (rest : List DeliveryRow)
  | sending (now : Nat) (d : DeliveryRow) (sub : Subscription)
      (rest : List DeliveryRow)
  | succeeding (now : Nat) (d : DeliveryRow) (rest : List DeliveryRow)
  | failing (now : Nat) (d : DeliveryRow) (failure : Failure)
      (rest : List DeliveryRow)
  deriving DecidableEq

/-- A route that has checked and not yet written. -/
inductive Request where
  | create (partyId : Id) (url : Text) (events : List WebhookEvent)
  | redeliver (deliveryId : Id)
  deriving DecidableEq

structure System where
  sources : Sources
  subscription : List Subscription
  delivery : List DeliveryRow
  workers : Store Nat Phase
  requests : Store Nat Request
  posts : List Post
  shown : List (Id × Text)

/-- What the API runs with. -/
structure Config where
  crypto : Crypto
  /-- `JSON.stringify` -/
  stringify : WebhookPayload → Text
  parseUrl : Text → Option Url
  secretKey : Text
  allowHttp : Bool

variable (cfg : Config)

-- ============================================================= fanning out

def workerAt (s : System) (w : Nat) : Call Phase :=
  expect (s.workers.get w) "no pass is going"

def moveTo (s : System) (w : Nat) (phase : Phase) : System :=
  { s with workers := s.workers.set w phase }

/-- The pass returned or threw. -/
def leave (s : System) (w : Nat) : System :=
  { s with workers := s.workers.remove w }

/-- On to the next family, or out of the scan. -/
def nextFamily (scan : Scan) : Phase :=
  match scan.rest with
  | [] => .scanned
  | family :: rest => .selecting { scan with rest := rest } family

/-- On to the next insert of a family. -/
def nextInsert (scan : Scan) : List NewDelivery → Phase
  | [] => nextFamily scan
  | v :: rest => .inserting scan v rest

/-- With no subscription active there is no scan. -/
def opening (now : Nat) (s : System) : Phase :=
  let active := s.subscription.filter (·.active)
  if active = [] then .scanned else nextFamily ⟨now, active, families⟩

/-- The subscriptions are read. -/
def start (w now : Nat) (s : System) : Call System := do
  ensure ((s.workers.get w).isNone) "a pass is going"
  ensure (isValidSecretKey cfg.secretKey = true) "webhooks are disabled"
  return moveTo s w (opening now s)

def select (w : Nat) (s : System) : Call System := do
  match ← workerAt s w with
  | .selecting scan family =>
      return moveTo s w
        (.joining scan
          (selectRows (scan.now - fanoutWindowMs) s.sources family))
  | _ => throw "nothing to select"

def join (w : Nat) (s : System) : Call System := do
  match ← workerAt s w with
  | .joining scan rows =>
      return moveTo s w (nextInsert scan
        (rows.flatMap (deliveries scan.now scan.active s.sources)))
  | _ => throw "nothing to join"

/-- `webhook_delivery_sub_event_uq`. -/
def deliveryKey (r : DeliveryRow) : Id × EventKey :=
  (r.subscriptionId, r.eventKey)

/-- A new row, with the defaults of its columns. -/
def newRow (id : Id) (v : NewDelivery) : DeliveryRow :=
  { id := id
    subscriptionId := v.subscriptionId
    eventKey := v.eventKey
    event := v.event
    payload := v.payload
    status := .pending
    attempts := 0
    nextAttemptAt := v.nextAttemptAt
    lastError := none
    deliveredAt := none }

/-- `insert … on conflict do nothing`; `id` is `defaultRandom`. -/
def insert (w : Nat) (id : Id) (delivery : Delivery) (s : System) :
    Call System := do
  ensure (id ∉ s.delivery.map (·.id)) "a uuid is new"
  match ← workerAt s w with
  | .inserting scan v rest =>
      let written := { s with
        delivery := Conflict.insertRow deliveryKey s.delivery (newRow id v) }
      match delivery with
      | .acknowledged => return moveTo written w (nextInsert scan rest)
      | .lost => return leave written w
      | .rolledBack => return leave s w
  | _ => throw "nothing to insert"

-- ============================================================== delivering

/-- `MAX_ATTEMPTS`. -/
def maxAttempts : Nat := 6

/-- `BACKOFF_S`. -/
def backoffS : List Nat := [30, 120, 600, 3600, 21600]

/-- `BACKOFF_S[attempts - 1] ?? BACKOFF_S.at(-1)`. -/
def backoff (attempts : Nat) : Nat :=
  (backoffS[attempts - 1]?).getD 21600

/-- `BATCH_SIZE`. -/
def batchSize : Nat := 50

/-- Pending, and its time has come. -/
def due (now : Nat) (r : DeliveryRow) : Bool :=
  r.status = .pending ∧ r.nextAttemptAt ≤ now

/-- What the select may return: no more than the limit and nothing twice,
and with fewer than the limit everything due. -/
def Selects (rows : List DeliveryRow) (now : Nat)
    (picked : List DeliveryRow) : Prop :=
  picked.Nodup ∧ (∀ r ∈ picked, r ∈ rows ∧ due now r = true)
    ∧ picked.length = min batchSize (rows.filter (due now)).length

instance (rows : List DeliveryRow) (now : Nat) (picked : List DeliveryRow) :
    Decidable (Selects rows now picked) :=
  inferInstanceAs (Decidable (_ ∧ _ ∧ _))

/-- On to the next row of the batch, or out of the pass. -/
def proceed (s : System) (w now : Nat) (rest : List DeliveryRow) :
    System :=
  { s with
    workers := match rest with
      | [] => s.workers.remove w
      | d :: rest => s.workers.set w (.next now d rest) }

/-- The select has no order, so any rows may come. -/
def selectDue (w now : Nat) (picked : List DeliveryRow) (s : System) :
    Call System := do
  match ← workerAt s w with
  | .scanned =>
      ensure (Selects s.delivery now picked) "not what the select returns"
      return proceed s w now picked
  | _ => throw "the scan is not over"

/-- The row's subscription, unless it is missing or inactive. -/
def activeSubscription (s : System) (d : DeliveryRow) :
    Option Subscription :=
  (Table.find (·.id) s.subscription d.subscriptionId).filter (·.active)

def selectSubscription (w : Nat) (s : System) : Call System := do
  match ← workerAt s w with
  | .next now d rest =>
      return moveTo s w (match activeSubscription s d with
        | some sub => .sending now d sub rest
        | none => .failing now d
            ⟨"subscription missing or inactive", true, false⟩ rest)
  | _ => throw "no delivery to take"

/-- What is sent for a delivery, up to the answer: the URL is checked, the
secret opened and the body signed, any of which may throw. -/
def compose (resolve : Text → List Text) (now : Nat) (d : DeliveryRow)
    (sub : Subscription) (answer : Answer) : Call Post := do
  let url ← assertSafeWebhookUrl ⟨cfg.parseUrl, resolve⟩ cfg.allowHttp
    sub.url
  let body := cfg.stringify d.payload
  let timestampS := now / 1000
  let secret ← decryptSecret cfg.crypto sub.secretCiphertext cfg.secretKey
  return {
    deliveryId := d.id
    subscriptionId := sub.id
    url := url
    event := d.event
    timestampS := timestampS
    signature := signWebhook cfg.crypto secret timestampS body
    body := body
    answer := answer }

/-- Where the answer leads. -/
def afterAnswer (now : Nat) (d : DeliveryRow) (rest : List DeliveryRow)
    (answer : Answer) : Phase :=
  match answer with
  | .threw message => .failing now d ⟨message, false, false⟩ rest
  | .status code =>
      if answer.ok then .succeeding now d rest
      else .failing now d
        ⟨"subscriber responded " ++ toString code, false, true⟩ rest

def send (w : Nat) (resolve : Text → List Text) (answer : Answer)
    (s : System) : Call System := do
  match ← workerAt s w with
  | .sending now d sub rest =>
      match compose cfg resolve now d sub answer with
      | .error e => return moveTo s w (.failing now d ⟨e, false, false⟩ rest)
      | .ok post =>
          return moveTo { s with posts := s.posts ++ [post] } w
            (afterAnswer now d rest answer)
  | _ => throw "nothing to send"

/-- `set({ attempts, lastError, status, nextAttemptAt })` of `fail`; `d` is
the row as the batch read it. -/
def failed (now : Nat) (d : DeliveryRow) (failure : Failure)
    (r : DeliveryRow) : DeliveryRow :=
  let attempts := d.attempts + 1
  { r with
    attempts := attempts
    lastError := some failure.reason
    status := if failure.permanent = true ∨ maxAttempts ≤ attempts
      then .dead else .pending
    nextAttemptAt := now + backoff attempts * 1000 }

/-- `set({ status: "delivered", … })`. -/
def succeeded (now : Nat) (d : DeliveryRow) (r : DeliveryRow) :
    DeliveryRow :=
  { r with
    status := .delivered
    attempts := d.attempts + 1
    deliveredAt := some now
    lastError := none }

def updateDelivery (s : System) (id : Id) (f : DeliveryRow → DeliveryRow) :
    System :=
  { s with delivery := Table.update (·.id) s.delivery id f }

/-- `fail` throws: inside the `try` that is caught and `fail` called with
it, elsewhere the pass ends. -/
def thrown (s : System) (w now : Nat) (d : DeliveryRow) (caught : Bool)
    (message : String) (rest : List DeliveryRow) : System :=
  { s with
    workers := if caught
      then s.workers.set w (.failing now d ⟨message, false, false⟩ rest)
      else s.workers.remove w }

/-- The update of a delivery. -/
def record (w : Nat) (delivery : Delivery) (message : String)
    (s : System) : Call System := do
  match ← workerAt s w with
  | .succeeding now d rest =>
      let written := updateDelivery s d.id (succeeded now d)
      let retry := Phase.failing now d ⟨message, false, false⟩ rest
      match delivery with
      | .acknowledged => return proceed written w now rest
      | .lost => return moveTo written w retry
      | .rolledBack => return moveTo s w retry
  | .failing now d failure rest =>
      let written := updateDelivery s d.id (failed now d failure)
      match delivery with
      | .acknowledged => return proceed written w now rest
      | .lost => return thrown written w now d failure.caught message rest
      | .rolledBack => return thrown s w now d failure.caught message rest
  | _ => throw "nothing to record"

def crash (w : Nat) (s : System) : Call System := do
  let _ ← workerAt s w
  return leave s w

-- ================================================================== routes

/-- `MAX_SUBSCRIPTIONS_PER_PARTY`. -/
def maxSubscriptionsPerParty : Nat := 10

/-- `DELIVERABLE_WEBHOOK_EVENTS`. -/
def deliverableWebhookEvents : List WebhookEvent :=
  [.priceStatusChanged, .marginStateChanged, .marginCallIssued,
    .marginCured, .liquidationStarted, .liquidationCompleted, .exitFilled,
    .repoLeg1Settled]

/-- `length` of a JS string, which counts UTF-16 units. -/
def jsLength (t : Text) : Nat :=
  (t.map fun c => if c.toNat < 0x10000 then 1 else 2).sum

/-- The checks of `POST /v1/webhooks/subscriptions`. -/
def createChecked (q : Nat) (partyId : Id) (url : Text)
    (events : List WebhookEvent) (resolve : Text → List Text)
    (s : System) : Call System := do
  ensure ((s.requests.get q).isNone) "a request is going"
  ensure (isValidSecretKey cfg.secretKey = true)
    "webhooks are not configured on this deployment"
  ensure (1 ≤ jsLength url ∧ jsLength url ≤ 2048 ∧ events ≠ []
    ∧ ∀ e ∈ events, e ∈ deliverableWebhookEvents) "invalid request"
  let _ ← assertSafeWebhookUrl ⟨cfg.parseUrl, resolve⟩ cfg.allowHttp url
  let mine := s.subscription.filter (·.partyId = partyId)
  ensure ((mine.filter (·.active)).length < maxSubscriptionsPerParty)
    "at most 10 active subscriptions per party"
  return { s with requests := s.requests.set q (.create partyId url events) }

/-- Its insert, and the answer if the insert is acknowledged: `iv` and
`secret` are `randomBytes`. -/
def create (q : Nat) (id : Id) (iv : List UInt8) (secret : Text)
    (now : Nat) (answered : Bool) (s : System) : Call System := do
  ensure (id ∉ s.subscription.map (·.id)) "a uuid is new"
  match ← expect (s.requests.get q) "no such request" with
  | .create partyId url events =>
      let ciphertext ← encryptSecret cfg.crypto iv secret cfg.secretKey
      return { s with
        subscription := s.subscription ++
          [⟨id, partyId, url, events.eraseDups, ciphertext, true, now⟩]
        requests := s.requests.remove q
        shown := if answered then s.shown ++ [(id, secret)] else s.shown }
  | .redeliver _ => throw "not a creation"

/-- `DELETE /v1/webhooks/subscriptions/:id`. -/
def deactivate (partyId id : Id) (s : System) : Call System := do
  let sub ← expect (s.subscription.find? fun sub =>
    sub.id = id ∧ sub.partyId = partyId) "subscription not found"
  return { s with
    subscription := Table.update (·.id) s.subscription sub.id
      fun r => { r with active := false } }

/-- The checks of `POST /v1/webhooks/deliveries/:id/redeliver`. -/
def redeliverChecked (q : Nat) (partyId id : Id) (s : System) :
    Call System := do
  ensure ((s.requests.get q).isNone) "a request is going"
  let delivery ← expect (Table.find (·.id) s.delivery id)
    "delivery not found"
  let sub ← expect (Table.find (·.id) s.subscription delivery.subscriptionId)
    "delivery not found"
  ensure (sub.partyId = partyId) "delivery not found"
  ensure (delivery.status = .dead) "delivery is not dead"
  return { s with requests := s.requests.set q (.redeliver delivery.id) }

/-- `set({ status: "pending", attempts: 0, … })`. -/
def requeued (now : Nat) (r : DeliveryRow) : DeliveryRow :=
  { r with
    status := .pending
    attempts := 0
    nextAttemptAt := now
    lastError := none }

def redeliver (q now : Nat) (s : System) : Call System := do
  match ← expect (s.requests.get q) "no such request" with
  | .redeliver id =>
      return { updateDelivery s id (requeued now) with
        requests := s.requests.remove q }
  | .create _ _ _ => throw "not a redelivery"

/-- A request that ends before its write. -/
def abandon (q : Nat) (s : System) : Call System := do
  let _ ← expect (s.requests.get q) "no such request"
  return { s with requests := s.requests.remove q }

-- ============================================================= the machine

inductive Act where
  | write (sources : Sources)
  | start (w now : Nat)
  | select (w : Nat)
  | join (w : Nat)
  | insert (w : Nat) (id : Id) (delivery : Delivery)
  | selectDue (w now : Nat) (picked : List DeliveryRow)
  | selectSubscription (w : Nat)
  | send (w : Nat) (resolve : Text → List Text) (answer : Answer)
  | record (w : Nat) (delivery : Delivery) (message : String)
  | crash (w : Nat)
  | createChecked (q : Nat) (partyId : Id) (url : Text)
      (events : List WebhookEvent) (resolve : Text → List Text)
  | create (q : Nat) (id : Id) (iv : List UInt8) (secret : Text)
      (now : Nat) (answered : Bool)
  | deactivate (partyId id : Id)
  | redeliverChecked (q : Nat) (partyId id : Id)
  | redeliver (q now : Nat)
  | abandon (q : Nat)

def step (a : Act) (s : System) : Call System :=
  match a with
  | .write sources => .ok { s with sources := sources }
  | .start w now => start cfg w now s
  | .select w => select w s
  | .join w => join w s
  | .insert w id delivery => insert w id delivery s
  | .selectDue w now picked => selectDue w now picked s
  | .selectSubscription w => selectSubscription w s
  | .send w resolve answer => send cfg w resolve answer s
  | .record w delivery message => record w delivery message s
  | .crash w => crash w s
  | .createChecked q partyId url events resolve =>
      createChecked cfg q partyId url events resolve s
  | .create q id iv secret now answered =>
      create cfg q id iv secret now answered s
  | .deactivate partyId id => deactivate partyId id s
  | .redeliverChecked q partyId id => redeliverChecked q partyId id s
  | .redeliver q now => redeliver q now s
  | .abandon q => abandon q s

def machine : Machine System Act where
  init := ⟨⟨[], [], [], [], [], [], [], []⟩, [], [], Store.empty,
    Store.empty, [], []⟩
  apply := step cfg

-- ==================================================================== demo

namespace Demo

def config : Config where
  crypto := crypto
  stringify _ := "\x7b\x7d".toList
  parseUrl _ := some ⟨"https:".toList, [], [], "h.example".toList⟩
  secretKey := List.replicate 64 '0'
  allowHttp := false

def resolve (_ : Text) : List Text := ["8.8.8.8".toList]

def event : MarginEventRow := ⟨1, 2, .warning, .marginCall, 8000, 150000000⟩

/-- A margin call of a line. -/
def sources : Sources where
  marginEvent := [event]
  creditLine := [⟨2, 7, 8⟩]
  priceSnapshot := []
  liquidation := []
  exitFill := []
  exitQuote := []
  txIntent := []
  repoTrade := []

/-- The lender subscribes to margin calls, and one is recorded. -/
def subscribed : List Act :=
  [.createChecked 0 7 "https://h".toList [.marginCallIssued] resolve,
   .create 0 1 [] "key".toList 100000000 true,
   .write sources]

/-- The rest of a scan by worker 0: the margin events with their one
delivery, and the other families. -/
def scanning : List Act :=
  [.select 0, .join 0, .insert 0 5 .acknowledged, .select 0, .join 0,
   .select 0, .join 0, .select 0, .join 0, .select 0, .join 0]

def payload : WebhookPayload :=
  ⟨.marginCallIssued, 150000000, .margin 2 .warning .marginCall 8000⟩

/-- The delivery, as it is inserted. -/
def row : DeliveryRow where
  id := 5
  subscriptionId := 1
  eventKey := .marginEvent 1 .marginCallIssued
  event := .marginCallIssued
  payload := payload
  status := .pending
  attempts := 0
  nextAttemptAt := 150000000
  lastError := none
  deliveredAt := none

def scanned : List Act := subscribed ++ .start 0 150000000 :: scanning

/-- The rest of a pass: the delivery is sent and taken. -/
def delivering : List Act :=
  [.selectSubscription 0, .send 0 resolve (.status 200),
   .record 0 .acknowledged ""]

def delivered : List Act :=
  scanned ++ .selectDue 0 150000000 [row] :: delivering

end Demo

end Ballast.Webhooks
