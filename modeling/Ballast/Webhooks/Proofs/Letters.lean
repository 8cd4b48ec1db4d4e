/-
What is on file and what was sent, in every run of the outbox: a
subscription has at most one delivery of an event key, each delivery is a
letter owed to its subscription, and each request sent is a delivery's,
to the URL and under the secret of its subscription.

The invariant is `Sound`. It follows a letter from the rows a pass reads,
through what the pass has queued, into the table and out again: a pass
holds copies of rows, and the copies agree with the tables in everything
but their status, which nothing else changes.

# A letter on its way

`Announced` is where a letter comes from: a row of a table the pass
scans, as it stood when the pass read it. `Owed` is what becomes of it
for one subscription. From there it is a value in the hands of a worker
until it is inserted (`PassSound`), a row of the delivery table
(`Filed`), and a copy in the hands of the worker that claimed the row.
Every fact on the way is of the kind that tables which only grow cannot
take back, so each has a `mono` lemma, and an action's own work is done
where it hands a letter from one hand to the next.

# The request

A request is tied to the action that made it. `SentBy` names, for the
i-th request of a run, the resolver that action was given, and
`posts_sound` says that the URL had passed the check under that
resolver, in that very action.
-/
import Ballast.Webhooks.Proofs.Passes
import Ballast.Webhooks.Proofs.Signing

namespace Ballast.Webhooks

open Soroban

variable {cfg : Config} {s s' : System} {a : Act}
variable {seen seen' : Sources → Prop}

-- ============================================================ what is owed

/-- A notice of a row that was on file, joined with a table that was. -/
def Announced (seen : Sources → Prop) (n : Notice) : Prop :=
  ∃ db db' since family row, seen db ∧ seen db'
    ∧ row ∈ selectRows since db family ∧ n ∈ notices db' row

/-- The letter a subscription is due for a notice. -/
def Notice.letter (n : Notice) (sub : Subscription) : Letter :=
  ⟨sub.id, n.key, n.payload.event, n.payload⟩

/-- A letter some subscription is due: of something announced, which
concerns its party, which it wants and which is no older than it. -/
def Owed (seen : Sources → Prop) (subs : List Subscription) (l : Letter) :
    Prop :=
  ∃ n, Announced seen n ∧ ∃ sub ∈ subs, told n sub = true
    ∧ l = n.letter sub

/-- Whether a subscription is told of a notice depends on what it
registered, not on what became of it. -/
theorem told_registered (n : Notice) (sub : Subscription) :
    told n sub.registered = told n sub := rfl

/-- What two copies of a subscription have in common. -/
theorem same_of_registered {sub sub' : Subscription}
    (h : sub'.registered = sub.registered) :
    sub'.id = sub.id ∧ sub'.partyId = sub.partyId ∧ sub'.url = sub.url
      ∧ sub'.secretCiphertext = sub.secretCiphertext := by
  injection h with hid hparty hurl hevents hsecret
  exact ⟨hid, hparty, hurl, hsecret⟩

/-- A subscription of this registration is on file. -/
def Known (s : System) (sub : Subscription) : Prop :=
  ∃ sub' ∈ s.subscription, sub'.registered = sub.registered

/-- The row is on file, perhaps with another status. -/
def Filed (s : System) (d : DeliveryRow) : Prop :=
  ∃ r ∈ s.delivery, r.filed = d.filed

/-- A subscription on file is known. -/
theorem known_of_mem {sub : Subscription} (h : sub ∈ s.subscription) :
    Known s sub := ⟨sub, h, rfl⟩

/-- A delivery on file is filed. -/
theorem filed_of_mem {d : DeliveryRow} (h : d ∈ s.delivery) : Filed s d :=
  ⟨d, h, rfl⟩

/-- Subscriptions may be switched off, and are never forgotten. -/
theorem Known.mono {sub : Subscription} (h : Known s sub)
    (hg : Grows s s') : Known s' sub := by
  obtain ⟨sub', hsub', heq⟩ := h
  have hmem := hg.subscription.subset (List.mem_map_of_mem hsub')
  obtain ⟨sub'', hsub'', heq'⟩ := List.mem_map.mp hmem
  exact ⟨sub'', hsub'', heq'.trans heq⟩

/-- Deliveries change their status, and nothing else about them. -/
theorem Filed.mono {d : DeliveryRow} (h : Filed s d) (hg : Grows s s') :
    Filed s' d := by
  obtain ⟨r, hr, heq⟩ := h
  have hmem := hg.delivery.subset (List.mem_map_of_mem hr)
  obtain ⟨r', hr', heq'⟩ := List.mem_map.mp hmem
  exact ⟨r', hr', heq'.trans heq⟩

/-- What some state showed, a longer history has shown too. -/
theorem Announced.mono {n : Notice} (h : Announced seen n)
    (hseen : ∀ db, seen db → seen' db) : Announced seen' n := by
  obtain ⟨db, db', since, family, row, hdb, hdb', hrow, hn⟩ := h
  exact ⟨db, db', since, family, row, hseen _ hdb, hseen _ hdb', hrow, hn⟩

/-- A notice is owed to each subscription that asked for its kind and its
party. -/
theorem owed_of_known {n : Notice} {sub : Subscription}
    (hn : Announced seen n) (hsub : Known s sub)
    (htold : told n sub = true) : Owed seen s.subscription (n.letter sub) := by
  obtain ⟨sub', hsub', heq⟩ := hsub
  refine ⟨n, hn, sub', hsub', ?_, ?_⟩
  · rw [← told_registered, heq, told_registered]
    exact htold
  · rw [Notice.letter, Notice.letter, (same_of_registered heq).1]

/-- A letter that is owed stays owed. -/
theorem Owed.mono {l : Letter} (h : Owed seen s.subscription l)
    (hg : Grows s s') (hseen : ∀ db, seen db → seen' db) :
    Owed seen' s'.subscription l := by
  obtain ⟨n, hn, sub, hsub, htold, rfl⟩ := h
  exact owed_of_known (hn.mono hseen) ((known_of_mem hsub).mono hg) htold

-- =========================================================== the invariant

/-- A request that was sent, and the resolver its URL was checked with: the
delivery it is, the subscription it went to, and what it says. -/
structure PostSound (cfg : Config) (s : System) (post : Post)
    (resolve : Text → List Text) (r : DeliveryRow) (sub : Subscription) :
    Prop where
  delivery : r ∈ s.delivery ∧ r.id = post.deliveryId
  subscription : sub ∈ s.subscription ∧ sub.id = r.subscriptionId
    ∧ sub.id = post.subscriptionId
  url : assertSafeWebhookUrl ⟨cfg.parseUrl, resolve⟩ cfg.allowHttp sub.url
    = .ok post.url
  event : post.event = r.event
  body : post.body = cfg.stringify r.payload
  signature : ∃ secret,
    decryptSecret cfg.crypto sub.secretCiphertext cfg.secretKey = .ok secret
      ∧ post.signature
        = signWebhook cfg.crypto secret post.timestampS post.body

/-- What a pass holds. -/
def PassSound (seen : Sources → Prop) (s : System) : Phase → Prop
  | .selecting scan _ => ∀ sub ∈ scan.active, Known s sub
  | .joining scan rows => (∀ sub ∈ scan.active, Known s sub)
      ∧ ∀ row ∈ rows, ∃ db since family,
        seen db ∧ row ∈ selectRows since db family
  | .inserting scan v rest => (∀ sub ∈ scan.active, Known s sub)
      ∧ ∀ u ∈ v :: rest, Owed seen s.subscription u.letter
  | .scanned => True
  | .next _ d rest => ∀ e ∈ d :: rest, Filed s e
  | .sending _ d sub rest => (∀ e ∈ d :: rest, Filed s e)
      ∧ Known s sub ∧ sub.id = d.subscriptionId
  | .succeeding _ d rest => (∀ e ∈ d :: rest, Filed s e)
      ∧ ∃ post ∈ s.posts, post.deliveryId = d.id ∧ post.answer.ok = true
  | .failing _ d _ rest => ∀ e ∈ d :: rest, Filed s e

structure Sound (cfg : Config) (seen : Sources → Prop) (s : System) :
    Prop where
  subscription_ids : (s.subscription.map (·.id)).Nodup
  delivery_ids : (s.delivery.map (·.id)).Nodup
  keys : (s.delivery.map deliveryKey).Nodup
  owed : ∀ r ∈ s.delivery, Owed seen s.subscription r.letter
  passes : ∀ w p, s.workers.get w = some p → PassSound seen s p
  sent : ∀ post ∈ s.posts, ∃ resolve r sub,
    PostSound cfg s post resolve r sub
  shown : ∀ x ∈ s.shown, ∃ sub ∈ s.subscription, sub.id = x.1
    ∧ ∃ iv, encryptSecret cfg.crypto iv x.2 cfg.secretKey
      = .ok sub.secretCiphertext

/-- A worker's knowledge survives whatever the others do. -/
theorem PassSound.mono {p : Phase} (h : PassSound seen s p)
    (hg : Grows s s') (hseen : ∀ db, seen db → seen' db) :
    PassSound seen' s' p := by
  cases p with
  | selecting scan family => exact fun sub hsub => (h sub hsub).mono hg
  | joining scan rows =>
      refine ⟨fun sub hsub => (h.1 sub hsub).mono hg, ?_⟩
      intro row hrow
      obtain ⟨db, since, family, hdb, hrow⟩ := h.2 row hrow
      exact ⟨db, since, family, hseen _ hdb, hrow⟩
  | inserting scan v rest =>
      exact ⟨fun sub hsub => (h.1 sub hsub).mono hg,
        fun u hu => (h.2 u hu).mono hg hseen⟩
  | scanned => trivial
  | next now d rest => exact fun e he => (h e he).mono hg
  | sending now d sub rest =>
      exact ⟨fun e he => (h.1 e he).mono hg, h.2.1.mono hg, h.2.2⟩
  | succeeding now d rest =>
      refine ⟨fun e he => (h.1 e he).mono hg, ?_⟩
      obtain ⟨post, hpost, hid, hok⟩ := h.2
      exact ⟨post, hg.posts.subset hpost, hid, hok⟩
  | failing now d failure rest => exact fun e he => (h e he).mono hg

/-- The rows a request was made of stay on file, so it stays sound; the
resolver is the one it was sent under. -/
theorem PostSound.mono {post : Post} {resolve : Text → List Text}
    {r : DeliveryRow} {sub : Subscription}
    (h : PostSound cfg s post resolve r sub) (hg : Grows s s') :
    ∃ r sub, PostSound cfg s' post resolve r sub := by
  obtain ⟨⟨hr, hrid⟩, ⟨hsub, hof, hsid⟩, hurl, hevent, hbody, hsign⟩ := h
  obtain ⟨r', hr', hfiled⟩ := (filed_of_mem hr).mono hg
  obtain ⟨sub', hsub', hreg⟩ := (known_of_mem hsub).mono hg
  obtain ⟨hid, -, hurl', hsecret⟩ := same_of_registered hreg
  obtain ⟨hid', hletter⟩ := Prod.mk.inj hfiled
  injection hletter with hof' hkey' hevent' hpayload'
  refine ⟨r', sub', ⟨hr', hid'.trans hrid⟩, ⟨hsub', ?_, ?_⟩, ?_, ?_, ?_, ?_⟩
  · rw [hid, hof, hof']
  · rw [hid, hsid]
  · rw [hurl']
    exact hurl
  · rw [hevent, hevent']
  · rw [hbody, hpayload']
  · rw [hsecret]
    exact hsign

/-- More may have been seen. -/
theorem Sound.mono (h : Sound cfg seen s)
    (hseen : ∀ db, seen db → seen' db) : Sound cfg seen' s where
  subscription_ids := h.subscription_ids
  delivery_ids := h.delivery_ids
  keys := h.keys
  owed r hr := (h.owed r hr).mono (.refl s) hseen
  passes w p hp := (h.passes w p hp).mono (.refl s) hseen
  sent := h.sent
  shown := h.shown

-- ================================================================ the steps

/-- Going on to the next table needs nothing but the subscriptions read at
the start. -/
theorem nextFamily_sound {scan : Scan}
    (h : ∀ sub ∈ scan.active, Known s sub) :
    PassSound seen s (nextFamily scan) := by
  unfold nextFamily
  split
  · trivial
  · exact h

/-- Going on to the next insert needs what is queued to be owed. -/
theorem nextInsert_sound {scan : Scan} {rest : List NewDelivery}
    (h : ∀ sub ∈ scan.active, Known s sub)
    (hrest : ∀ u ∈ rest, Owed seen s.subscription u.letter) :
    PassSound seen s (nextInsert scan rest) := by
  cases rest with
  | nil => exact nextFamily_sound h
  | cons v rest => exact ⟨h, hrest⟩

/-- Going on to the next delivery needs the rest of the batch to be
filed. -/
theorem batchPhase_sound {now : Nat} {rest : List DeliveryRow} {p : Phase}
    (h : ∀ e ∈ rest, Filed s e) (hp : batchPhase now rest = some p) :
    PassSound seen s p := by
  cases rest with
  | nil => cases hp
  | cons d rest =>
      injection hp with hp
      subst hp
      exact h

/-- A worker starts out knowing nothing. -/
theorem opening_sound (s : System) (now : Nat) :
    PassSound seen s (opening now s) := by
  simp only [opening]
  split
  · trivial
  · exact nextFamily_sound fun sub hsub =>
      known_of_mem (List.mem_of_mem_filter hsub)

/-- The subscription a worker finds is on file, is the delivery's, and is
switched on. -/
theorem activeSubscription_some {d : DeliveryRow} {sub : Subscription}
    (h : activeSubscription s d = some sub) :
    sub ∈ s.subscription ∧ sub.id = d.subscriptionId
      ∧ sub.active = true := by
  obtain ⟨hfind, hactive⟩ := Option.filter_eq_some_iff.mp h
  obtain ⟨hmem, hid⟩ := Table.find_some hfind
  exact ⟨hmem, hid, hactive⟩

/-- A worker that has taken a row holds a filed copy. -/
theorem taken_sound {now : Nat} {d : DeliveryRow} {rest : List DeliveryRow}
    (h : ∀ e ∈ d :: rest, Filed s e) :
    PassSound seen s (taken s now d rest) := by
  unfold taken
  split
  next sub hsub =>
    obtain ⟨hmem, hid, -⟩ := activeSubscription_some hsub
    exact ⟨h, known_of_mem hmem, hid⟩
  · exact h

/-- What is queued of rows on file is owed. -/
theorem owed_of_join {scan : Scan} {rows : List SourceRow}
    (hactive : ∀ sub ∈ scan.active, Known s sub)
    (hrows : ∀ row ∈ rows, ∃ db since family,
      seen db ∧ row ∈ selectRows since db family)
    (hnow : seen s.sources) {v : NewDelivery}
    (hv : v ∈ rows.flatMap (deliveries scan.now scan.active s.sources)) :
    Owed seen s.subscription v.letter := by
  obtain ⟨row, hrow, hv⟩ := List.mem_flatMap.mp hv
  obtain ⟨n, hn, sub, hsub, htold, rfl⟩ := mem_deliveries.mp hv
  obtain ⟨db, since, family, hdb, hrow⟩ := hrows row hrow
  exact owed_of_known ⟨db, s.sources, since, family, row, hdb, hnow, hrow, hn⟩
    (hactive sub hsub) htold

/-- A request as it is composed. -/
theorem compose_ok {resolve : Text → List Text} {now : Nat}
    {d : DeliveryRow} {sub : Subscription} {answer : Answer} {post : Post}
    (h : compose cfg resolve now d sub answer = .ok post) :
    post.deliveryId = d.id ∧ post.subscriptionId = sub.id
      ∧ post.answer = answer ∧ post.event = d.event
      ∧ post.body = cfg.stringify d.payload
      ∧ assertSafeWebhookUrl ⟨cfg.parseUrl, resolve⟩ cfg.allowHttp sub.url
        = .ok post.url
      ∧ ∃ secret, decryptSecret cfg.crypto sub.secretCiphertext
          cfg.secretKey = .ok secret
        ∧ post.signature
          = signWebhook cfg.crypto secret post.timestampS post.body := by
  obtain ⟨url, hurl, h⟩ := bind_ok.mp h
  obtain ⟨secret, hsecret, h⟩ := bind_ok.mp h
  cases h
  exact ⟨rfl, rfl, rfl, rfl, rfl, hurl, secret, hsecret, rfl⟩

/-- The worker an action moves is left with what a pass may hold. -/
theorem Did.pass_sound (h : Did cfg s a s') (hs : Sound cfg seen s)
    (hnow : seen s.sources) {v : Nat} (hv : a.worker = some v) {p : Phase}
    (hp : s'.workers.get v = some p) : PassSound seen s' p := by
  have hg := h.grows
  have hkeep : ∀ {q : Phase}, PassSound seen s q → PassSound seen s' q :=
    fun hq => hq.mono hg fun _ => id
  cases h with
  | start hw =>
      cases hv
      rw [moveTo_get_self] at hp
      cases hp
      exact hkeep (opening_sound s _)
  -- the rows are what the sources show now
  | select hw =>
      cases hv
      rw [moveTo_get_self] at hp
      cases hp
      have hactive : ∀ sub ∈ _, Known s sub := hs.passes _ _ hw
      exact hkeep (q := .joining _ _) ⟨hactive, fun row hrow =>
        ⟨s.sources, _, _, hnow, hrow⟩⟩
  | join hw =>
      cases hv
      rw [moveTo_get_self] at hp
      cases hp
      obtain ⟨hactive, hrows⟩ := hs.passes _ _ hw
      exact hkeep (nextInsert_sound hactive fun u hu =>
        owed_of_join hactive hrows hnow hu)
  | insert hid hw =>
      cases hv
      rw [moveTo_get_self] at hp
      cases hp
      obtain ⟨hactive, howed⟩ := hs.passes _ _ hw
      exact hkeep (nextInsert_sound hactive fun u hu =>
        howed u (List.mem_cons_of_mem _ hu))
  | insertLost hid hw =>
      cases hv
      rw [leave_get_self] at hp
      cases hp
  | insertFailed hw =>
      cases hv
      rw [leave_get_self] at hp
      cases hp
  -- what is picked is on file
  | selectDue hpicked hw =>
      cases hv
      rw [proceed_get_self] at hp
      refine hkeep (batchPhase_sound ?_ hp)
      intro e he
      exact filed_of_mem (hpicked.2.1 e he).1
  | selectSubscription hw =>
      cases hv
      rw [moveTo_get_self] at hp
      cases hp
      exact hkeep (taken_sound (hs.passes _ _ hw))
  | refused he hw =>
      cases hv
      rw [moveTo_get_self] at hp
      cases hp
      have hfiled := (hs.passes _ _ hw).1
      exact hkeep (q := .failing _ _ _ _) hfiled
  -- a success is recorded only on the strength of the post just made
  | @send w now d sub rest resolve answer post hpost hw =>
      cases hv
      rw [moveTo_get_self] at hp
      cases hp
      obtain ⟨hfiled, -, -⟩ := hs.passes _ _ hw
      have hfiled' := fun e he => (hfiled e he).mono hg
      obtain ⟨hid, -, hanswer, -⟩ := compose_ok hpost
      unfold afterAnswer
      split
      · exact hfiled'
      · split
        next hok =>
          refine ⟨hfiled', post, List.mem_append_right _ (by simp), hid, ?_⟩
          rw [hanswer]
          exact hok
        · exact hfiled'
  | succeed hw =>
      cases hv
      rw [proceed_get_self] at hp
      refine hkeep (batchPhase_sound ?_ hp)
      intro e he
      exact (hs.passes _ _ hw).1 e (List.mem_cons_of_mem _ he)
  | succeedLost hw =>
      cases hv
      rw [moveTo_get_self] at hp
      cases hp
      exact hkeep (q := .failing _ _ _ _) (hs.passes _ _ hw).1
  | succeedFailed hw =>
      cases hv
      rw [moveTo_get_self] at hp
      cases hp
      exact hkeep (q := .failing _ _ _ _) (hs.passes _ _ hw).1
  | fail hw =>
      cases hv
      rw [proceed_get_self] at hp
      refine hkeep (batchPhase_sound ?_ hp)
      intro e he
      exact hs.passes _ _ hw e (List.mem_cons_of_mem _ he)
  | failLost hw =>
      cases hv
      rw [thrown_get_self] at hp
      split at hp <;> cases hp
      have hfiled := hs.passes _ _ hw
      exact hkeep (q := .failing _ _ _ _) hfiled
  | failFailed hw =>
      cases hv
      rw [thrown_get_self] at hp
      split at hp <;> cases hp
      have hfiled := hs.passes _ _ hw
      exact hkeep (q := .failing _ _ _ _) hfiled
  | crash hw =>
      cases hv
      rw [leave_get_self] at hp
      cases hp
  | write => cases hv
  | createChecked => cases hv
  | create => cases hv
  | deactivate => cases hv
  | redeliverChecked => cases hv
  | redeliver => cases hv
  | abandon => cases hv

/-- Subscriptions keep ids of their own. -/
theorem Did.subscription_ids (h : Did cfg s a s')
    (hs : (s.subscription.map (·.id)).Nodup) :
    (s'.subscription.map (·.id)).Nodup := by
  cases h with
  | create hid hq hc =>
      show ((s.subscription ++ [_]).map _).Nodup
      rw [List.map_append]
      exact hs.append (List.nodup_singleton _)
        (List.disjoint_singleton.mpr hid)
  | deactivate hsub hid hparty =>
      have hkeep : ∀ r : Subscription,
          Subscription.id { r with active := false } = r.id := fun _ => rfl
      show ((Table.update _ s.subscription _ _).map _).Nodup
      rw [Table.map_update hkeep]
      exact hs
  | _ => exact hs

/-- So do deliveries. -/
theorem Deliveries.delivery_ids (h : Deliveries s s')
    (hs : (s.delivery.map (·.id)).Nodup) :
    (s'.delivery.map (·.id)).Nodup := by
  cases h with
  | same h => rwa [h]
  | @inserted w id scan v rest hid hw h =>
      rw [h, Conflict.insertRow]
      split
      · exact hs
      · rw [List.map_append]
        exact hs.append (List.nodup_singleton _)
          (List.disjoint_singleton.mpr hid)
  | updated hf h =>
      have hkeep := fun r => congrArg Prod.fst (hf.filed r)
      rw [h, Table.map_update hkeep]
      exact hs

/-- No two deliveries share subscription and event key: the insert that
would is dropped by the unique index. -/
theorem Deliveries.keys (h : Deliveries s s')
    (hs : (s.delivery.map deliveryKey).Nodup) :
    (s'.delivery.map deliveryKey).Nodup := by
  cases h with
  | same h => rwa [h]
  | inserted hid hw h =>
      rw [h]
      exact Conflict.nodup_insertRow hs _
  | updated hf h =>
      have hkeep : ∀ r, deliveryKey _ = deliveryKey r := fun r =>
        congrArg (fun x : Id × Letter => (x.2.subscriptionId, x.2.eventKey))
          (hf.filed r)
      rw [h, Table.map_update hkeep]
      exact hs

/-- Every delivery on file is a letter owed: it was before, or a worker
has just inserted it. -/
theorem Deliveries.owed (h : Deliveries s s') (hs : Sound cfg seen s)
    {r' : DeliveryRow} (hr' : r' ∈ s'.delivery) :
    Owed seen s.subscription r'.letter := by
  rcases h.row hr' with ⟨w, scan, v, rest, id, hw, -, rfl⟩ | ⟨r, hr, h⟩
  · exact (hs.passes w _ hw).2 v List.mem_cons_self
  · rcases h with rfl | ⟨f, hf, rfl⟩
    · exact hs.owed r hr
    · have hletter := congrArg Prod.snd (hf.filed r)
      rw [show (f r).letter = r.letter from hletter]
      exact hs.owed r hr

/-- A step sends nothing, or it is a `send` that adds one request. That
request is sound, under the resolver of the step: its delivery and its
subscription are on file, as the pass that sends it holds copies of both. -/
theorem Did.sends (h : Did cfg s a s') (hs : Sound cfg seen s) :
    s'.posts = s.posts
      ∨ ∃ w resolve answer post r sub, a = .send w resolve answer
        ∧ s'.posts = s.posts ++ [post]
        ∧ PostSound cfg s' post resolve r sub := by
  have hg := h.grows
  cases h with
  | @send w now d sub rest resolve answer post hpost hw =>
      refine Or.inr ⟨w, resolve, answer, post, ?_⟩
      obtain ⟨hfiled, hknown, hof⟩ := hs.passes _ _ hw
      -- the copies of the pass, found again in the tables after the step
      obtain ⟨r, hr, hsame⟩ := (hfiled d List.mem_cons_self).mono hg
      obtain ⟨sub', hsub', hreg⟩ := hknown.mono hg
      obtain ⟨hid, -, hurl', hsecret⟩ := same_of_registered hreg
      obtain ⟨hrid, hletter⟩ := Prod.mk.inj hsame
      injection hletter with hrof hkey hrevent hrpayload
      obtain ⟨hpid, hpsub, -, hevent, hbody, hurl, hsign⟩ :=
        compose_ok hpost
      refine ⟨r, sub', rfl, rfl, ⟨hr, hrid.trans hpid.symm⟩,
        ⟨hsub', ?_, ?_⟩, ?_, ?_, ?_, ?_⟩
      · rw [hid, hof, hrof]
      · rw [hid, hpsub]
      · rw [hurl']
        exact hurl
      · rw [hevent, hrevent]
      · rw [hbody, hrpayload]
      · rw [hsecret]
        exact hsign
  | _ => exact Or.inl rfl

/-- Every request was made for a delivery on file, under the secret of its
subscription, to a URL that had just passed the check. -/
theorem Did.sent (h : Did cfg s a s') (hs : Sound cfg seen s) :
    ∀ post ∈ s'.posts, ∃ resolve r sub,
      PostSound cfg s' post resolve r sub := by
  have hold : ∀ post ∈ s.posts, ∃ resolve r sub,
      PostSound cfg s' post resolve r sub := by
    intro post hpost
    obtain ⟨resolve, r, sub, hsound⟩ := hs.sent post hpost
    exact ⟨resolve, hsound.mono h.grows⟩
  rcases h.sends hs with hposts | ⟨_, _, _, made, r, sub, -, hposts, hmade⟩
  · rw [hposts]
    exact hold
  · intro post hpost
    rw [hposts] at hpost
    rcases List.mem_append.mp hpost with hpost | hpost
    · exact hold post hpost
    · rw [List.mem_singleton.mp hpost]
      exact ⟨_, r, sub, hmade⟩

/-- A secret is shown once, when it is made, and its cipher is the one on
file. -/
theorem Did.shown (h : Did cfg s a s') (hs : Sound cfg seen s) :
    ∀ x ∈ s'.shown, ∃ sub ∈ s'.subscription, sub.id = x.1
      ∧ ∃ iv, encryptSecret cfg.crypto iv x.2 cfg.secretKey
        = .ok sub.secretCiphertext := by
  have hg := h.grows
  have hold : ∀ x ∈ s.shown, ∃ sub ∈ s'.subscription, sub.id = x.1
      ∧ ∃ iv, encryptSecret cfg.crypto iv x.2 cfg.secretKey
        = .ok sub.secretCiphertext := by
    intro x hx
    obtain ⟨sub, hsub, hid, hsecret⟩ := hs.shown x hx
    obtain ⟨sub', hsub', hreg⟩ := (known_of_mem hsub).mono hg
    obtain ⟨hid', -, -, hsecret'⟩ := same_of_registered hreg
    exact ⟨sub', hsub', hid'.trans hid, by rwa [hsecret']⟩
  cases h with
  | @create q id partyId url events iv secret ciphertext now answered
      hid hq hc =>
      intro x hx
      cases answered with
      | false => exact hold x hx
      | true =>
          rcases List.mem_append.mp hx with hx | hx
          · exact hold x hx
          · rw [List.mem_singleton] at hx
            subst hx
            refine ⟨⟨id, partyId, url, events.eraseDups, ciphertext, true,
              now⟩, ?_, rfl, iv, hc⟩
            exact List.mem_append_right _ List.mem_cons_self
  | _ => exact hold

/-- Every action keeps the invariant. -/
theorem Did.sound (h : Did cfg s a s') (hs : Sound cfg seen s)
    (hnow : seen s.sources) : Sound cfg seen s' where
  subscription_ids := h.subscription_ids hs.subscription_ids
  delivery_ids := h.deliveries.delivery_ids hs.delivery_ids
  keys := h.deliveries.keys hs.keys
  owed _ hr := (h.deliveries.owed hs hr).mono h.grows fun _ => id
  passes v p hp := by
    by_cases hv : a.worker = some v
    · exact h.pass_sound hs hnow hv hp
    · rw [h.others hv] at hp
      exact (hs.passes v p hp).mono h.grows fun _ => id
  sent := h.sent hs
  shown := h.shown hs

-- ================================================================== the run

/-- What the sources have been in the course of a run. -/
def Seen (cfg : Config) (as : List Act) (db : Sources) : Prop :=
  ∃ pre, pre <+: as ∧ ((machine cfg).run (machine cfg).init pre).sources = db

/-- Nothing is on file and nobody has begun. -/
theorem sound_init (cfg : Config) (seen : Sources → Prop) :
    Sound cfg seen (machine cfg).init where
  subscription_ids := List.nodup_nil
  delivery_ids := List.nodup_nil
  keys := List.nodup_nil
  owed _ hr := nomatch hr
  passes _ _ hp := nomatch hp
  sent _ hpost := nomatch hpost
  shown _ hx := nomatch hx

/-- The invariant holds in every run. -/
theorem sound_run (cfg : Config) (as : List Act) :
    Sound cfg (Seen cfg as) ((machine cfg).run (machine cfg).init as) := by
  induction as using List.reverseRecOn with
  | nil => exact sound_init cfg _
  | append_singleton as a ih =>
      have hseen : ∀ db, Seen cfg as db → Seen cfg (as ++ [a]) db := by
        intro db h
        obtain ⟨pre, hpre, hdb⟩ := h
        exact ⟨pre, hpre.trans (List.prefix_append _ _), hdb⟩
      have hbefore := ih.mono hseen
      rw [Machine.run_snoc]
      rcases (machine cfg).exec_cases
        ((machine cfg).run (machine cfg).init as) a with h | h
      · exact (did_of_step h).sound hbefore
          ⟨as, List.prefix_append _ _, rfl⟩
      · rw [h]
        exact hbefore

-- ============================================================= the results

/-- Over any run a subscription has one delivery of an event key at most,
every delivery is a letter the subscription is due, and no later action
removes it or changes what it says. -/
theorem deliveries_sound (cfg : Config) (as : List Act) :
    (((machine cfg).run (machine cfg).init as).delivery.map
        deliveryKey).Nodup
      ∧ (∀ r ∈ ((machine cfg).run (machine cfg).init as).delivery,
        Owed (Seen cfg as)
          ((machine cfg).run (machine cfg).init as).subscription r.letter)
      ∧ ∀ bs, ((machine cfg).run (machine cfg).init as).delivery.map
          (·.filed)
        <+: ((machine cfg).run (machine cfg).init
          (as ++ bs)).delivery.map (·.filed) := by
  have hs := sound_run cfg as
  refine ⟨hs.keys, hs.owed, ?_⟩
  intro bs
  rw [Machine.run_append]
  exact (grows_run _ bs).delivery

/-- The `send` of the run that made its request number `i`, and the
resolver the URL was looked up with there. -/
def SentBy (cfg : Config) (as : List Act) (i : Nat)
    (resolve : Text → List Text) : Prop :=
  ∃ before w answer after,
    as = before ++ .send w resolve answer :: after
      ∧ ((machine cfg).run (machine cfg).init before).posts.length = i
      ∧ ((machine cfg).run (machine cfg).init
          (before ++ [.send w resolve answer])).posts.length = i + 1

/-- The request keeps its number and its resolver as the run goes on. -/
theorem SentBy.snoc {as : List Act} {i : Nat} {resolve : Text → List Text}
    (h : SentBy cfg as i resolve) (a : Act) :
    SentBy cfg (as ++ [a]) i resolve := by
  obtain ⟨before, w, answer, after, rfl, hbefore, hafter⟩ := h
  exact ⟨before, w, answer, after ++ [a], by simp, hbefore, hafter⟩

/-- The request number `i` after a step: it was there before, or the step
is the `send` that made it. -/
theorem Did.sends_at (h : Did cfg s a s') (hs : Sound cfg seen s) {i : Nat}
    {post : Post} (hpost : s'.posts[i]? = some post) :
    s.posts[i]? = some post
      ∨ ∃ w resolve answer r sub, a = .send w resolve answer
        ∧ s.posts.length = i ∧ s'.posts.length = i + 1
        ∧ PostSound cfg s' post resolve r sub := by
  rcases h.sends hs with hposts
    | ⟨w, resolve, answer, made, r, sub, ha, hposts, hmade⟩
  · rw [hposts] at hpost
    exact Or.inl hpost
  · rw [hposts, List.getElem?_append] at hpost
    split at hpost
    · exact Or.inl hpost
    next hlen =>
      -- past the old requests there is the new one alone
      obtain ⟨hi, -⟩ := List.getElem?_eq_some_iff.mp hpost
      have hlast : s.posts.length = i := by
        simp only [List.length_singleton] at hi
        omega
      have hpost' : made = post := by
        simpa [hlast] using hpost
      subst hpost'
      refine Or.inr ⟨w, resolve, answer, r, sub, ha, hlast, ?_, hmade⟩
      rw [hposts, List.length_append, hlast, List.length_singleton]

/-- Every request of a run was made by one of its sends, and is sound
under the resolver of that send. By induction on the run: a step keeps the
requests that were there, or adds one of its own. -/
theorem sent_run (cfg : Config) (as : List Act) {i : Nat} {post : Post}
    (hpost : ((machine cfg).run (machine cfg).init as).posts[i]?
      = some post) :
    ∃ resolve r sub, SentBy cfg as i resolve
      ∧ PostSound cfg ((machine cfg).run (machine cfg).init as) post resolve
        r sub := by
  induction as using List.reverseRecOn with
  | nil => cases hpost
  | append_singleton as a ih =>
      have hrun := (machine cfg).run_snoc as a (s := (machine cfg).init)
      rcases (machine cfg).exec_cases
        ((machine cfg).run (machine cfg).init as) a with h | h
      · have hdid := did_of_step h
        rw [← hrun] at hdid
        rcases hdid.sends_at (sound_run cfg as) hpost with hbefore
          | ⟨w, resolve, answer, r, sub, rfl, hbefore, hafter, hmade⟩
        · obtain ⟨resolve, r, sub, hby, hsound⟩ := ih hbefore
          obtain ⟨r', sub', hsound'⟩ := hsound.mono hdid.grows
          exact ⟨resolve, r', sub', hby.snoc a, hsound'⟩
        · exact ⟨resolve, r, sub,
            ⟨as, w, answer, [], rfl, hbefore, hafter⟩, hmade⟩
      · rw [hrun, h] at hpost ⊢
        obtain ⟨resolve, r, sub, hby, hsound⟩ := ih hpost
        exact ⟨resolve, r, sub, hby.snoc a, hsound⟩

/-- Whatever was sent is a letter that the subscription it went to was
due. It was sent to the URL of that subscription, which passed the check in
the very step that sent it, with the addresses the lookup gave there, and
signed with the secret of that subscription. -/
theorem posts_sound (cfg : Config) (as : List Act) {i : Nat} {post : Post}
    (hpost : ((machine cfg).run (machine cfg).init as).posts[i]?
      = some post) :
    ∃ resolve r sub n, SentBy cfg as i resolve
      ∧ PostSound cfg ((machine cfg).run (machine cfg).init as) post resolve
        r sub
      ∧ Announced (Seen cfg as) n ∧ told n sub = true
      ∧ r.letter = n.letter sub := by
  have hs := sound_run cfg as
  obtain ⟨resolve, r, sub, hby, hsound⟩ := sent_run cfg as hpost
  obtain ⟨hr, hrid⟩ := hsound.delivery
  obtain ⟨hsub, hof, -⟩ := hsound.subscription
  obtain ⟨n, hn, sub', hsub', htold, hletter⟩ := hs.owed r hr
  have hid : sub'.id = sub.id := by
    have := congrArg Letter.subscriptionId hletter
    exact this.symm.trans hof.symm
  have hsame := List.inj_on_of_nodup_map hs.subscription_ids hsub' hsub hid
  subst hsame
  exact ⟨resolve, r, sub', n, hby, hsound, hn, htold, hletter⟩

/-- One line is opened, one subscription told, and the request goes out
under the resolver it was given. -/
theorem posts_sound_demo :
    ∃ post, ((machine Demo.config).run (machine Demo.config).init
        Demo.delivered).posts[0]? = some post
      ∧ ∃ resolve r sub n, SentBy Demo.config Demo.delivered 0 resolve
        ∧ PostSound Demo.config ((machine Demo.config).run
          (machine Demo.config).init Demo.delivered) post resolve r sub
        ∧ Announced (Seen Demo.config Demo.delivered) n
        ∧ told n sub = true ∧ r.letter = n.letter sub := by
  have hsome : (((machine Demo.config).run (machine Demo.config).init
      Demo.delivered).posts[0]?).isSome = true := by decide +kernel
  obtain ⟨post, hpost⟩ := Option.isSome_iff_exists.mp hsome
  exact ⟨post, hpost, posts_sound Demo.config Demo.delivered hpost⟩

/-- With the secret it was shown at creation a subscriber accepts what it
is sent for as long as the time in the signature is fresh. -/
theorem shown_secret_verifies (cfg : Config) (hc : cfg.crypto.Lawful)
    (as : List Act) {id : Id} {secret : Text}
    (hshown : (id, secret)
      ∈ ((machine cfg).run (machine cfg).init as).shown)
    {post : Post}
    (hpost : post ∈ ((machine cfg).run (machine cfg).init as).posts)
    (hof : post.subscriptionId = id) (htime : post.timestampS < 2 ^ 53)
    (nowS : Int) :
    verifyWebhook cfg.crypto secret post.signature post.body nowS = true
      ↔ (nowS - post.timestampS).natAbs ≤ signatureToleranceS := by
  have hs := sound_run cfg as
  obtain ⟨_, r, sub, hsound⟩ := hs.sent post hpost
  obtain ⟨hsub, -, hsid⟩ := hsound.subscription
  obtain ⟨secret', hsecret', hsign⟩ := hsound.signature
  obtain ⟨sub', hsub', hid, iv, hbox⟩ := hs.shown _ hshown
  have hsame := List.inj_on_of_nodup_map hs.subscription_ids hsub' hsub
    (hid.trans (hof.symm.trans hsid.symm))
  subst hsame
  have hopen := decryptSecret_encryptSecret hc hbox
  rw [hsecret'] at hopen
  injection hopen with hopen
  subst hopen
  rw [hsign, verifyWebhook_signWebhook hc (by omega)]
  simp

/-- What the subscriber was shown verifies what it received. -/
theorem shown_secret_verifies_demo :
    ∃ post ∈ ((machine Demo.config).run (machine Demo.config).init
        Demo.delivered).posts,
      verifyWebhook Demo.config.crypto "key".toList post.signature post.body
        post.timestampS = true := by
  have hpost : ∃ post ∈ ((machine Demo.config).run
      (machine Demo.config).init Demo.delivered).posts,
      post.subscriptionId = 1 ∧ post.timestampS < 2 ^ 53 := by decide +kernel
  have hshown : (1, "key".toList) ∈ ((machine Demo.config).run
      (machine Demo.config).init Demo.delivered).shown := by decide +kernel
  obtain ⟨post, hpost, hof, htime⟩ := hpost
  refine ⟨post, hpost, ?_⟩
  rw [shown_secret_verifies Demo.config Demo.lawful Demo.delivered hshown
    hpost hof htime]
  simp

end Ballast.Webhooks
