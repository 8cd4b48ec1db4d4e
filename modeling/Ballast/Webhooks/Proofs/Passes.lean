/-
What each action of the outbox does, and what no action undoes: rows
keep all but their status, requests sent stay sent, and an action moves
one worker at most.

# What grows

The tables of the outbox are append-only but for two things: the status
of a delivery and the switch of a subscription. `Grows` is that
statement about two states, and it is what every other proof knows of
the actions it is not about. Requests are kept in the order they were
made, so a longer run has the requests of a shorter one as a prefix, and
"the i-th request" means the same in both.

# What moves

An action belongs to one worker. Where it leaves that worker is the
action's own business; the others are where they were, and the lemmas
`moveTo_get_ne`, `leave_get_ne` and so on say so once for each way of
moving.
-/
import Ballast.Webhooks.System

namespace Ballast.Webhooks

open Soroban

variable {cfg : Config} {s s' : System} {a : Act}

-- ================================================================= actions

/-- `s` with a delivery inserted, unless its key is on file. -/
def withRow (s : System) (id : Id) (v : NewDelivery) : System :=
  { s with
    delivery := Conflict.insertRow deliveryKey s.delivery (newRow id v) }

/-- Where a delivery goes when its subscription has been read. -/
def taken (s : System) (now : Nat) (d : DeliveryRow)
    (rest : List DeliveryRow) : Phase :=
  match activeSubscription s d with
  | some sub => .sending now d sub rest
  | none => .failing now d
      ⟨"subscription missing or inactive", true, false⟩ rest

/-- A committed action. -/
inductive Did (cfg : Config) (s : System) : Act → System → Prop where
  | write (sources : Sources) :
      Did cfg s (.write sources) { s with sources := sources }
  | start {w now : Nat} (hw : s.workers.get w = none) :
      Did cfg s (.start w now) (moveTo s w (opening now s))
  | select {w : Nat} {scan : Scan} {family : Family}
      (hw : s.workers.get w = some (.selecting scan family)) :
      Did cfg s (.select w) (moveTo s w (.joining scan
        (selectRows (scan.now - fanoutWindowMs) s.sources family)))
  | join {w : Nat} {scan : Scan} {rows : List SourceRow}
      (hw : s.workers.get w = some (.joining scan rows)) :
      Did cfg s (.join w) (moveTo s w (nextInsert scan
        (rows.flatMap (deliveries scan.now scan.active s.sources))))
  | insert {w : Nat} {id : Id} {scan : Scan} {v : NewDelivery}
      {rest : List NewDelivery} (hid : id ∉ s.delivery.map (·.id))
      (hw : s.workers.get w = some (.inserting scan v rest)) :
      Did cfg s (.insert w id .acknowledged)
        (moveTo (withRow s id v) w (nextInsert scan rest))
  | insertLost {w : Nat} {id : Id} {scan : Scan} {v : NewDelivery}
      {rest : List NewDelivery} (hid : id ∉ s.delivery.map (·.id))
      (hw : s.workers.get w = some (.inserting scan v rest)) :
      Did cfg s (.insert w id .lost) (leave (withRow s id v) w)
  | insertFailed {w : Nat} {id : Id} {scan : Scan} {v : NewDelivery}
      {rest : List NewDelivery}
      (hw : s.workers.get w = some (.inserting scan v rest)) :
      Did cfg s (.insert w id .rolledBack) (leave s w)
  | selectDue {w now : Nat} {picked : List DeliveryRow}
      (hpicked : Selects s.delivery now picked)
      (hw : s.workers.get w = some .scanned) :
      Did cfg s (.selectDue w now picked) (proceed s w now picked)
  | selectSubscription {w now : Nat} {d : DeliveryRow}
      {rest : List DeliveryRow}
      (hw : s.workers.get w = some (.next now d rest)) :
      Did cfg s (.selectSubscription w) (moveTo s w (taken s now d rest))
  | refused {w now : Nat} {d : DeliveryRow} {sub : Subscription}
      {rest : List DeliveryRow} {resolve : Text → List Text}
      {answer : Answer} {e : String}
      (he : compose cfg resolve now d sub answer = .error e)
      (hw : s.workers.get w = some (.sending now d sub rest)) :
      Did cfg s (.send w resolve answer)
        (moveTo s w (.failing now d ⟨e, false, false⟩ rest))
  | send {w now : Nat} {d : DeliveryRow} {sub : Subscription}
      {rest : List DeliveryRow} {resolve : Text → List Text}
      {answer : Answer} {post : Post}
      (hpost : compose cfg resolve now d sub answer = .ok post)
      (hw : s.workers.get w = some (.sending now d sub rest)) :
      Did cfg s (.send w resolve answer)
        (moveTo { s with posts := s.posts ++ [post] } w
          (afterAnswer now d rest answer))
  | succeed {w now : Nat} {d : DeliveryRow} {rest : List DeliveryRow}
      {m : String} (hw : s.workers.get w = some (.succeeding now d rest)) :
      Did cfg s (.record w .acknowledged m)
        (proceed (updateDelivery s d.id (succeeded now d)) w now rest)
  | succeedLost {w now : Nat} {d : DeliveryRow} {rest : List DeliveryRow}
      {m : String} (hw : s.workers.get w = some (.succeeding now d rest)) :
      Did cfg s (.record w .lost m)
        (moveTo (updateDelivery s d.id (succeeded now d)) w
          (.failing now d ⟨m, false, false⟩ rest))
  | succeedFailed {w now : Nat} {d : DeliveryRow} {rest : List DeliveryRow}
      {m : String} (hw : s.workers.get w = some (.succeeding now d rest)) :
      Did cfg s (.record w .rolledBack m)
        (moveTo s w (.failing now d ⟨m, false, false⟩ rest))
  | fail {w now : Nat} {d : DeliveryRow} {failure : Failure}
      {rest : List DeliveryRow} {m : String}
      (hw : s.workers.get w = some (.failing now d failure rest)) :
      Did cfg s (.record w .acknowledged m)
        (proceed (updateDelivery s d.id (failed now d failure)) w now rest)
  | failLost {w now : Nat} {d : DeliveryRow} {failure : Failure}
      {rest : List DeliveryRow} {m : String}
      (hw : s.workers.get w = some (.failing now d failure rest)) :
      Did cfg s (.record w .lost m)
        (thrown (updateDelivery s d.id (failed now d failure)) w now d
          failure.caught m rest)
  | failFailed {w now : Nat} {d : DeliveryRow} {failure : Failure}
      {rest : List DeliveryRow} {m : String}
      (hw : s.workers.get w = some (.failing now d failure rest)) :
      Did cfg s (.record w .rolledBack m)
        (thrown s w now d failure.caught m rest)
  | crash {w : Nat} {p : Phase} (hw : s.workers.get w = some p) :
      Did cfg s (.crash w) (leave s w)
  | createChecked {q : Nat} {partyId : Id} {url : Text}
      {events : List WebhookEvent} {resolve : Text → List Text} {u : Url}
      (hurl : assertSafeWebhookUrl ⟨cfg.parseUrl, resolve⟩ cfg.allowHttp url
        = .ok u) :
      Did cfg s (.createChecked q partyId url events resolve)
        { s with requests := s.requests.set q (.create partyId url events) }
  | create {q : Nat} {id partyId : Id} {url : Text}
      {events : List WebhookEvent} {iv : List UInt8}
      {secret ciphertext : Text} {now : Nat} {answered : Bool}
      (hid : id ∉ s.subscription.map (·.id))
      (hq : s.requests.get q = some (.create partyId url events))
      (hc : encryptSecret cfg.crypto iv secret cfg.secretKey
        = .ok ciphertext) :
      Did cfg s (.create q id iv secret now answered)
        { s with
          subscription := s.subscription ++
            [⟨id, partyId, url, events.eraseDups, ciphertext, true, now⟩]
          requests := s.requests.remove q
          shown := if answered then s.shown ++ [(id, secret)]
            else s.shown }
  | deactivate {partyId id : Id} {sub : Subscription}
      (hsub : sub ∈ s.subscription) (hid : sub.id = id)
      (hparty : sub.partyId = partyId) :
      Did cfg s (.deactivate partyId id)
        { s with
          subscription := Table.update (·.id) s.subscription sub.id
            fun r => { r with active := false } }
  | redeliverChecked {q : Nat} {partyId id : Id} {d : DeliveryRow}
      {sub : Subscription} (hd : d ∈ s.delivery) (hid : d.id = id)
      (hsub : sub ∈ s.subscription) (hof : sub.id = d.subscriptionId)
      (hparty : sub.partyId = partyId) (hdead : d.status = .dead) :
      Did cfg s (.redeliverChecked q partyId id)
        { s with requests := s.requests.set q (.redeliver d.id) }
  | redeliver {q now : Nat} {id : Id}
      (hq : s.requests.get q = some (.redeliver id)) :
      Did cfg s (.redeliver q now)
        { updateDelivery s id (requeued now) with
          requests := s.requests.remove q }
  | abandon {q : Nat} :
      Did cfg s (.abandon q) { s with requests := s.requests.remove q }

/-- A step of a worker that stands in phase `p`. -/
theorem workerAt_ok {w : Nat} {p : Phase} :
    workerAt s w = .ok p ↔ s.workers.get w = some p := expect_ok

/-- Every committed action is one of these. -/
theorem did_of_step (h : step cfg a s = .ok s') : Did cfg s a s' := by
  cases a with
  | write sources =>
      cases h
      exact .write sources
  | start w now =>
      simp only [step, start, bind_ok, ensure_ok, pure_ok,
        Option.isNone_iff_eq_none] at h
      obtain ⟨-, hw, -, -, rfl⟩ := h
      exact .start hw
  | select w =>
      obtain ⟨p, hw, h⟩ := bind_ok.mp h
      rw [workerAt_ok] at hw
      cases p <;> cases h
      exact .select hw
  | join w =>
      obtain ⟨p, hw, h⟩ := bind_ok.mp h
      rw [workerAt_ok] at hw
      cases p <;> cases h
      exact .join hw
  | insert w id delivery =>
      obtain ⟨_, hid, h⟩ := bind_ok.mp h
      obtain ⟨p, hw, h⟩ := bind_ok.mp h
      rw [workerAt_ok] at hw
      rw [ensure_ok] at hid
      cases p <;> cases delivery <;> cases h
      · exact .insert hid hw
      · exact .insertLost hid hw
      · exact .insertFailed hw
  | selectDue w now picked =>
      obtain ⟨p, hw, h⟩ := bind_ok.mp h
      rw [workerAt_ok] at hw
      cases p <;> try cases h
      obtain ⟨_, hpicked, h⟩ := bind_ok.mp h
      cases h
      exact .selectDue (ensure_ok.mp hpicked) hw
  | selectSubscription w =>
      obtain ⟨p, hw, h⟩ := bind_ok.mp h
      rw [workerAt_ok] at hw
      cases p <;> cases h
      exact .selectSubscription hw
  | send w resolve answer =>
      obtain ⟨p, hw, h⟩ := bind_ok.mp h
      rw [workerAt_ok] at hw
      cases p <;> try cases h
      case sending now d sub rest =>
        simp only at h
        split at h <;> cases h
        next e he => exact .refused he hw
        next post hpost => exact .send hpost hw
  | record w delivery m =>
      obtain ⟨p, hw, h⟩ := bind_ok.mp h
      rw [workerAt_ok] at hw
      cases p <;> cases delivery <;> cases h
      · exact .succeed hw
      · exact .succeedLost hw
      · exact .succeedFailed hw
      · exact .fail hw
      · exact .failLost hw
      · exact .failFailed hw
  | crash w =>
      obtain ⟨p, hw, h⟩ := bind_ok.mp h
      rw [workerAt_ok] at hw
      cases h
      exact .crash hw
  | createChecked q partyId url events resolve =>
      simp only [step, createChecked, bind_ok, ensure_ok, pure_ok] at h
      obtain ⟨-, -, -, -, -, -, u, hurl, -, -, rfl⟩ := h
      exact .createChecked hurl
  | create q id iv secret now answered =>
      obtain ⟨_, hid, h⟩ := bind_ok.mp h
      obtain ⟨r, hq, h⟩ := bind_ok.mp h
      rw [ensure_ok] at hid
      rw [expect_ok] at hq
      cases r <;> try cases h
      obtain ⟨ciphertext, hc, h⟩ := bind_ok.mp h
      cases h
      exact .create hid hq hc
  | deactivate partyId id =>
      obtain ⟨sub, hfind, h⟩ := bind_ok.mp h
      rw [expect_ok] at hfind
      have hsub := List.find?_some hfind
      simp only [Bool.decide_and, Bool.and_eq_true, decide_eq_true_eq]
        at hsub
      cases h
      exact .deactivate (List.mem_of_find?_eq_some hfind) hsub.1 hsub.2
  | redeliverChecked q partyId id =>
      simp only [step, redeliverChecked, bind_ok, ensure_ok, pure_ok,
        expect_ok] at h
      obtain ⟨-, -, d, hd, sub, hsub, -, hparty, -, hdead, rfl⟩ := h
      obtain ⟨hd, hid⟩ := Table.find_some hd
      obtain ⟨hsub, hof⟩ := Table.find_some hsub
      exact .redeliverChecked hd hid hsub hof hparty hdead
  | redeliver q now =>
      obtain ⟨r, hq, h⟩ := bind_ok.mp h
      rw [expect_ok] at hq
      cases r <;> cases h
      exact .redeliver hq
  | abandon q =>
      obtain ⟨r, -, h⟩ := bind_ok.mp h
      cases h
      exact .abandon

-- ================================================================= workers

/-- The worker an action moves. -/
def Act.worker : Act → Option Nat
  | .start w _ => some w
  | .select w => some w
  | .join w => some w
  | .insert w _ _ => some w
  | .selectDue w _ _ => some w
  | .selectSubscription w => some w
  | .send w _ _ => some w
  | .record w _ _ => some w
  | .crash w => some w
  | _ => none

/-- Where a pass is with a batch left. -/
def batchPhase (now : Nat) : List DeliveryRow → Option Phase
  | [] => none
  | d :: rest => some (.next now d rest)

/-- The worker that moves is where it moved to. -/
theorem moveTo_get_self (s : System) (w : Nat) (p : Phase) :
    (moveTo s w p).workers.get w = some p := Store.get_set_self _ _ _

/-- The others are where they were. -/
theorem moveTo_get_ne {v w : Nat} (h : v ≠ w) (s : System) (p : Phase) :
    (moveTo s w p).workers.get v = s.workers.get v := Store.get_set_ne _ _ h

/-- A worker that leaves is gone. -/
theorem leave_get_self (s : System) (w : Nat) :
    (leave s w).workers.get w = none := Store.get_remove_self _ _

/-- The others are still there. -/
theorem leave_get_ne {v w : Nat} (h : v ≠ w) (s : System) :
    (leave s w).workers.get v = s.workers.get v := Store.get_remove_ne _ h

/-- A worker goes on to the rest of its batch, or is done with it. -/
theorem proceed_get_self (s : System) (w now : Nat)
    (rest : List DeliveryRow) :
    (proceed s w now rest).workers.get w = batchPhase now rest := by
  cases rest with
  | nil => exact leave_get_self s w
  | cons d rest => exact moveTo_get_self s w _

/-- The others do not notice. -/
theorem proceed_get_ne {v w : Nat} (h : v ≠ w) (s : System) (now : Nat)
    (rest : List DeliveryRow) :
    (proceed s w now rest).workers.get v = s.workers.get v := by
  cases rest with
  | nil => exact leave_get_ne h s
  | cons d rest => exact moveTo_get_ne h s _

/-- A step that threw is caught and the delivery marked failed, or it
takes the whole pass down. -/
theorem thrown_get_self (s : System) (w now : Nat) (d : DeliveryRow)
    (caught : Bool) (m : String) (rest : List DeliveryRow) :
    (thrown s w now d caught m rest).workers.get w
      = if caught then some (.failing now d ⟨m, false, false⟩ rest)
        else none := by
  unfold thrown
  split
  · exact moveTo_get_self s w _
  · exact leave_get_self s w

/-- Either way the other workers go on. -/
theorem thrown_get_ne {v w : Nat} (h : v ≠ w) (s : System) (now : Nat)
    (d : DeliveryRow) (caught : Bool) (m : String)
    (rest : List DeliveryRow) :
    (thrown s w now d caught m rest).workers.get v = s.workers.get v := by
  unfold thrown
  split
  · exact moveTo_get_ne h s _
  · exact leave_get_ne h s

/-- An action moves its own worker only. -/
theorem Did.others (h : Did cfg s a s') {v : Nat} (hv : a.worker ≠ some v) :
    s'.workers.get v = s.workers.get v := by
  have hne : ∀ {w}, some w ≠ some v → v ≠ w := by
    intro w hw heq
    exact hw (congrArg some heq.symm)
  cases h with
  | write => rfl
  | start => exact moveTo_get_ne (hne hv) s _
  | select => exact moveTo_get_ne (hne hv) s _
  | join => exact moveTo_get_ne (hne hv) s _
  | insert => exact moveTo_get_ne (hne hv) (withRow s _ _) _
  | insertLost => exact leave_get_ne (hne hv) (withRow s _ _)
  | insertFailed => exact leave_get_ne (hne hv) s
  | selectDue => exact proceed_get_ne (hne hv) s _ _
  | selectSubscription => exact moveTo_get_ne (hne hv) s _
  | refused => exact moveTo_get_ne (hne hv) s _
  | send => exact moveTo_get_ne (hne hv) { s with posts := _ } _
  | succeed => exact proceed_get_ne (hne hv) (updateDelivery s _ _) _ _
  | succeedLost => exact moveTo_get_ne (hne hv) (updateDelivery s _ _) _
  | succeedFailed => exact moveTo_get_ne (hne hv) s _
  | fail => exact proceed_get_ne (hne hv) (updateDelivery s _ _) _ _
  | failLost => exact thrown_get_ne (hne hv) (updateDelivery s _ _) _ _ _ _ _
  | failFailed => exact thrown_get_ne (hne hv) s _ _ _ _ _
  | crash => exact leave_get_ne (hne hv) s
  | createChecked => rfl
  | create => rfl
  | deactivate => rfl
  | redeliverChecked => rfl
  | redeliver => rfl
  | abandon => rfl

-- ================================================================== tables

/-- What a delivery says. -/
structure Letter where
  subscriptionId : Id
  eventKey : EventKey
  event : WebhookEvent
  payload : WebhookPayload
  deriving DecidableEq, Repr

def NewDelivery.letter (v : NewDelivery) : Letter :=
  ⟨v.subscriptionId, v.eventKey, v.event, v.payload⟩

def DeliveryRow.letter (r : DeliveryRow) : Letter :=
  ⟨r.subscriptionId, r.eventKey, r.event, r.payload⟩

/-- A row without its status. -/
def DeliveryRow.filed (r : DeliveryRow) : Id × Letter := (r.id, r.letter)

/-- A success changes nothing that was filed. -/
@[simp] theorem filed_succeeded (now : Nat) (d r : DeliveryRow) :
    (succeeded now d r).filed = r.filed := rfl

/-- Nor does a failure. -/
@[simp] theorem filed_failed (now : Nat) (d : DeliveryRow)
    (failure : Failure) (r : DeliveryRow) :
    (failed now d failure r).filed = r.filed := rfl

/-- Nor does a retry asked for by hand. -/
@[simp] theorem filed_requeued (now : Nat) (r : DeliveryRow) :
    (requeued now r).filed = r.filed := rfl

/-- A subscription as it was created. -/
def Subscription.registered (sub : Subscription) : Subscription :=
  { sub with active := true }

/-- The tables after an action: the subscriptions, the deliveries and what
left the API. -/
structure Grows (s s' : System) : Prop where
  subscription : s.subscription.map (·.registered)
    <+: s'.subscription.map (·.registered)
  delivery : s.delivery.map (·.filed) <+: s'.delivery.map (·.filed)
  posts : s.posts <+: s'.posts
  shown : s.shown <+: s'.shown

/-- A state has grown from itself. -/
theorem Grows.refl (s : System) : Grows s s :=
  ⟨List.prefix_rfl, List.prefix_rfl, List.prefix_rfl, List.prefix_rfl⟩

/-- Growth adds up. -/
theorem Grows.trans {s'' : System} (h : Grows s s') (h' : Grows s' s'') :
    Grows s s'' :=
  ⟨h.subscription.trans h'.subscription, h.delivery.trans h'.delivery,
    h.posts.trans h'.posts, h.shown.trans h'.shown⟩

/-- Only the workers, the sources or the requests changed. -/
theorem Grows.of_eq (hsub : s'.subscription = s.subscription)
    (hdel : s'.delivery = s.delivery) (hposts : s'.posts = s.posts)
    (hshown : s'.shown = s.shown) : Grows s s' := by
  constructor
  · rw [hsub]
  · rw [hdel]
  · rw [hposts]
  · rw [hshown]

/-- Moving a worker touches no table. -/
theorem grows_moveTo (s : System) (w : Nat) (p : Phase) :
    Grows s (moveTo s w p) := .of_eq rfl rfl rfl rfl

/-- Nor does its leaving. -/
theorem grows_leave (s : System) (w : Nat) : Grows s (leave s w) :=
  .of_eq rfl rfl rfl rfl

/-- Nor does going on to the next delivery. -/
theorem grows_proceed (s : System) (w now : Nat)
    (rest : List DeliveryRow) : Grows s (proceed s w now rest) :=
  .of_eq rfl rfl rfl rfl

/-- Nor does an exception. -/
theorem grows_thrown (s : System) (w now : Nat) (d : DeliveryRow)
    (caught : Bool) (m : String) (rest : List DeliveryRow) :
    Grows s (thrown s w now d caught m rest) :=
  .of_eq rfl rfl rfl rfl

/-- A delivery is added at the end, or was there already. -/
theorem grows_withRow (s : System) (id : Id) (v : NewDelivery) :
    Grows s (withRow s id v) where
  subscription := List.prefix_rfl
  delivery := (Conflict.prefix_insertRow _ _).map _
  posts := List.prefix_rfl
  shown := List.prefix_rfl

/-- An update that keeps what a row says. -/
theorem grows_updateDelivery (s : System) (id : Id)
    {f : DeliveryRow → DeliveryRow} (hf : ∀ r, (f r).filed = r.filed) :
    Grows s (updateDelivery s id f) where
  subscription := List.prefix_rfl
  delivery := by
    show s.delivery.map _ <+: (Table.update _ s.delivery id f).map _
    rw [Table.map_update hf]
  posts := List.prefix_rfl
  shown := List.prefix_rfl

/-- No action takes back what is on file or what left. -/
theorem Did.grows (h : Did cfg s a s') : Grows s s' := by
  cases h with
  | write => exact .of_eq rfl rfl rfl rfl
  | start => exact grows_moveTo s _ _
  | select => exact grows_moveTo s _ _
  | join => exact grows_moveTo s _ _
  | insert => exact (grows_withRow s _ _).trans (grows_moveTo _ _ _)
  | insertLost => exact (grows_withRow s _ _).trans (grows_leave _ _)
  | insertFailed => exact grows_leave s _
  | selectDue => exact grows_proceed s _ _ _
  | selectSubscription => exact grows_moveTo s _ _
  | refused => exact grows_moveTo s _ _
  | send =>
      exact ⟨List.prefix_rfl, List.prefix_rfl, List.prefix_append _ _,
        List.prefix_rfl⟩
  | succeed =>
      exact (grows_updateDelivery s _ (filed_succeeded _ _)).trans
        (grows_proceed _ _ _ _)
  | succeedLost =>
      exact (grows_updateDelivery s _ (filed_succeeded _ _)).trans
        (grows_moveTo _ _ _)
  | succeedFailed => exact grows_moveTo s _ _
  | fail =>
      exact (grows_updateDelivery s _ (filed_failed _ _ _)).trans
        (grows_proceed _ _ _ _)
  | failLost =>
      exact (grows_updateDelivery s _ (filed_failed _ _ _)).trans
        (grows_thrown _ _ _ _ _ _ _)
  | failFailed => exact grows_thrown s _ _ _ _ _ _
  | crash => exact grows_leave s _
  | createChecked => exact .of_eq rfl rfl rfl rfl
  | @create q id partyId url events iv secret ciphertext now answered =>
      refine ⟨?_, List.prefix_rfl, List.prefix_rfl, ?_⟩
      · show s.subscription.map _ <+: (s.subscription ++ [_]).map _
        rw [List.map_append]
        exact List.prefix_append _ _
      · show s.shown <+: if answered then s.shown ++ [(id, secret)]
          else s.shown
        split
        · exact List.prefix_append _ _
        · exact List.prefix_rfl
  | @deactivate partyId id sub hsub hid hparty =>
      refine ⟨?_, List.prefix_rfl, List.prefix_rfl, List.prefix_rfl⟩
      have hkeep : ∀ r : Subscription,
          Subscription.registered { r with active := false }
            = r.registered := fun _ => rfl
      show s.subscription.map _ <+: (Table.update _ s.subscription _ _).map _
      rw [Table.map_update hkeep]
  | redeliverChecked => exact .of_eq rfl rfl rfl rfl
  | redeliver =>
      exact (grows_updateDelivery s _ (filed_requeued _)).trans
        (.of_eq rfl rfl rfl rfl)
  | abandon => exact .of_eq rfl rfl rfl rfl

-- ============================================================== deliveries

/-- The updates of a delivery. -/
inductive Rewrites (s : System) : Id → (DeliveryRow → DeliveryRow) →
    Prop where
  | succeeded {w now : Nat} {d : DeliveryRow} {rest : List DeliveryRow}
      (hw : s.workers.get w = some (.succeeding now d rest)) :
      Rewrites s d.id (succeeded now d)
  | failed {w now : Nat} {d : DeliveryRow} {failure : Failure}
      {rest : List DeliveryRow}
      (hw : s.workers.get w = some (.failing now d failure rest)) :
      Rewrites s d.id (failed now d failure)
  | requeued {q now : Nat} {id : Id}
      (hq : s.requests.get q = some (.redeliver id)) :
      Rewrites s id (requeued now)

/-- A statement that rewrites a delivery leaves what was filed of it. -/
theorem Rewrites.filed {id : Id} {f : DeliveryRow → DeliveryRow}
    (h : Rewrites s id f) (r : DeliveryRow) : (f r).filed = r.filed := by
  cases h <;> rfl

/-- The deliveries after an action: as they were, with one more, or one of
them updated. -/
inductive Deliveries (s s' : System) : Prop where
  | same (h : s'.delivery = s.delivery)
  | inserted {w : Nat} {id : Id} {scan : Scan} {v : NewDelivery}
      {rest : List NewDelivery} (hid : id ∉ s.delivery.map (·.id))
      (hw : s.workers.get w = some (.inserting scan v rest))
      (h : s'.delivery
        = Conflict.insertRow deliveryKey s.delivery (newRow id v))
  | updated {id : Id} {f : DeliveryRow → DeliveryRow}
      (hf : Rewrites s id f)
      (h : s'.delivery = Table.update (·.id) s.delivery id f)

/-- Of the deliveries, an action adds one, rewrites one, or leaves them. -/
theorem Did.deliveries (h : Did cfg s a s') : Deliveries s s' := by
  cases h with
  | insert hid hw => exact .inserted hid hw rfl
  | insertLost hid hw => exact .inserted hid hw rfl
  | succeed hw => exact .updated (.succeeded hw) rfl
  | succeedLost hw => exact .updated (.succeeded hw) rfl
  | fail hw => exact .updated (.failed hw) rfl
  | failLost hw => exact .updated (.failed hw) rfl
  | redeliver hq => exact .updated (.requeued hq) rfl
  | _ => exact .same rfl

/-- A delivery stays, with another status perhaps. -/
theorem Deliveries.row (h : Deliveries s s') {r' : DeliveryRow}
    (hr' : r' ∈ s'.delivery) :
    (∃ w scan v rest id, s.workers.get w = some (.inserting scan v rest)
        ∧ id ∉ s.delivery.map (·.id) ∧ r' = newRow id v)
      ∨ ∃ r ∈ s.delivery, r = r' ∨ ∃ f, Rewrites s r.id f ∧ r' = f r := by
  cases h with
  | same h =>
      rw [h] at hr'
      exact Or.inr ⟨r', hr', Or.inl rfl⟩
  | @inserted w id scan v rest hid hw h =>
      rw [h] at hr'
      rcases Conflict.mem_insertRow hr' with hold | rfl
      · exact Or.inr ⟨r', hold, Or.inl rfl⟩
      · exact Or.inl ⟨w, scan, v, rest, id, hw, hid, rfl⟩
  | updated hf h =>
      rw [h] at hr'
      rcases Table.mem_update hr' with ⟨hold, -⟩ | ⟨r, hr, rfl, rfl⟩
      · exact Or.inr ⟨r', hold, Or.inl rfl⟩
      · exact Or.inr ⟨r, hr, Or.inr ⟨_, hf, rfl⟩⟩

/-- What a run leaves has grown from where it began. -/
theorem grows_run (s : System) (as : List Act) :
    Grows s ((machine cfg).run s as) := by
  induction as generalizing s with
  | nil => exact .refl s
  | cons a as ih =>
      rw [Machine.run_cons]
      refine Grows.trans ?_ (ih _)
      rcases (machine cfg).exec_cases s a with h | h
      · exact (did_of_step h).grows
      · rw [h]
        exact .refl s

end Ballast.Webhooks
