/-
A scan misses nothing: what stays on file while a scan lasts, and is in
its window, has a delivery when the scan is over, for every subscription
that was active when it began and is due it.

The invariant follows one letter: until it is on file the scan still has
it ahead, in a family to come, among the rows it has read, or among the
inserts it has queued.

# What may go on meanwhile

Other workers may scan and deliver at the same time, subscriptions come
and go, and new rows appear; only the row in question must stay as the
scan would read it, with what it joins to (`Shows`). The scan of another
worker may well insert the letter first, and then the key conflicts and
the letter is on file all the same.
-/
import Ballast.Webhooks.Proofs.Passes

namespace Ballast.Webhooks

open Soroban

variable {cfg : Config} {s s' : System} {a : Act}
variable {w now : Nat} {sub : Subscription} {row : SourceRow} {n : Notice}
variable {family : Family}

/-- The scan has the letter ahead, or is off. -/
def Ahead (now : Nat) (sub : Subscription) (family : Family)
    (row : SourceRow) (n : Notice) : Option Phase → Prop
  | none => True
  | some (.selecting scan f) => scan.now = now ∧ sub ∈ scan.active
      ∧ family ∈ f :: scan.rest
  | some (.joining scan rows) => scan.now = now ∧ sub ∈ scan.active
      ∧ (row ∈ rows ∨ family ∈ scan.rest)
  | some (.inserting scan v rest) => scan.now = now ∧ sub ∈ scan.active
      ∧ (newDelivery now n sub ∈ v :: rest ∨ family ∈ scan.rest)
  | _ => False

/-- The letter is on file. -/
def OnFile (s : System) (sub : Subscription) (n : Notice) : Prop :=
  (sub.id, n.key) ∈ s.delivery.map deliveryKey

theorem OnFile.mono (h : OnFile s sub n) (hg : Grows s s') :
    OnFile s' sub n := by
  obtain ⟨r, hr, hkey⟩ := List.mem_map.mp h
  obtain ⟨r', hr', hfiled⟩ :=
    List.mem_map.mp (hg.delivery.subset (List.mem_map_of_mem hr))
  refine List.mem_map.mpr ⟨r', hr', ?_⟩
  rw [← hkey]
  exact congrArg (fun x : Id × Letter =>
    (x.2.subscriptionId, x.2.eventKey)) hfiled

/-- What the sources show while the scan lasts. -/
def Shows (now : Nat) (family : Family) (row : SourceRow) (n : Notice)
    (s : System) : Prop :=
  row ∈ selectRows (now - fanoutWindowMs) s.sources family
    ∧ n ∈ notices s.sources row

instance (now : Nat) (family : Family) (row : SourceRow) (n : Notice)
    (s : System) : Decidable (Shows now family row n s) :=
  inferInstanceAs (Decidable (_ ∧ _))

/-- The worker begins no other pass. -/
def Act.startsNot (w : Nat) : Act → Prop
  | .start v _ => v ≠ w
  | _ => True

instance (w : Nat) (a : Act) : Decidable (a.startsNot w) := by
  rcases a with ⟨⟩ <;> unfold Act.startsNot <;> infer_instance

/-- While a scan lasts. -/
def Meanwhile (w now : Nat) (family : Family) (row : SourceRow)
    (n : Notice) (a : Act) (s : System) : Prop :=
  a.startsNot w ∧ Shows now family row n s

instance (w now : Nat) (family : Family) (row : SourceRow) (n : Notice)
    (a : Act) (s : System) : Decidable (Meanwhile w now family row n a s) :=
  inferInstanceAs (Decidable (_ ∧ _))

theorem nextFamily_ahead {scan : Scan} (hnow : scan.now = now)
    (hsub : sub ∈ scan.active) (hfamily : family ∈ scan.rest) :
    Ahead now sub family row n (some (nextFamily scan)) := by
  unfold nextFamily
  split
  next hrest =>
    rw [hrest] at hfamily
    cases hfamily
  next f rest hrest =>
    rw [hrest] at hfamily
    exact ⟨hnow, hsub, hfamily⟩

theorem nextInsert_ahead {scan : Scan} {rest : List NewDelivery}
    (hnow : scan.now = now) (hsub : sub ∈ scan.active)
    (h : newDelivery now n sub ∈ rest ∨ family ∈ scan.rest) :
    Ahead now sub family row n (some (nextInsert scan rest)) := by
  cases rest with
  | nil =>
      rcases h with h | h
      · cases h
      · exact nextFamily_ahead hnow hsub h
  | cons v rest => exact ⟨hnow, hsub, h⟩

theorem opening_ahead (hsub : sub ∈ s.subscription)
    (hactive : sub.active = true) (family : Family) :
    Ahead now sub family row n (some (opening now s)) := by
  have hmem : sub ∈ s.subscription.filter (·.active) :=
    List.mem_filter.mpr ⟨hsub, hactive⟩
  simp only [opening]
  rw [if_neg (List.ne_nil_of_mem hmem)]
  refine @nextFamily_ahead now sub row n family ⟨now, _, families⟩ rfl hmem ?_
  show family ∈ families
  cases family <;> decide

/-- Every action keeps the letter ahead until it is on file. -/
theorem Did.ahead (h : Did cfg s a s') (htold : told n sub = true)
    (hstart : a.startsNot w) (hshows : Shows now family row n s)
    (hs : OnFile s sub n ∨ Ahead now sub family row n (s.workers.get w)) :
    OnFile s' sub n
      ∨ Ahead now sub family row n (s'.workers.get w) := by
  rcases hs with hs | hs
  · exact Or.inl (hs.mono h.grows)
  by_cases hw : a.worker = some w
  -- what another worker does leaves this pass where it is
  case neg =>
    rw [h.others hw]
    exact Or.inr hs
  cases h with
  | start => cases hw; exact absurd rfl hstart
  | select hp =>
      cases hw
      rw [hp] at hs
      obtain ⟨rfl, hsub, hfamily⟩ := hs
      right
      rw [moveTo_get_self]
      refine ⟨rfl, hsub, ?_⟩
      rcases List.mem_cons.mp hfamily with rfl | hfamily
      · exact Or.inl hshows.1
      · exact Or.inr hfamily
  -- the row is read, and every subscription that is told gets its insert
  | join hp =>
      cases hw
      rw [hp] at hs
      obtain ⟨rfl, hsub, hrow⟩ := hs
      right
      rw [moveTo_get_self]
      refine nextInsert_ahead rfl hsub (hrow.imp_left fun hrow => ?_)
      exact List.mem_flatMap.mpr ⟨row, hrow,
        mem_deliveries.mpr ⟨n, hshows.2, sub, hsub, htold, rfl⟩⟩
  | @insert w id scan v rest hid hp =>
      cases hw
      rw [hp] at hs
      obtain ⟨rfl, hsub, hqueued⟩ := hs
      rcases hqueued with hqueued | hfamily
      · rcases List.mem_cons.mp hqueued with rfl | hqueued
        · exact Or.inl (@Conflict.key_mem_insertRow _ _ _ deliveryKey
            s.delivery (newRow id (newDelivery scan.now n sub)))
        · right
          rw [moveTo_get_self]
          exact nextInsert_ahead rfl hsub (Or.inl hqueued)
      · right
        rw [moveTo_get_self]
        exact nextInsert_ahead rfl hsub (Or.inr hfamily)
  -- a pass that fails is off, and promises nothing
  | insertLost =>
      cases hw
      right
      rw [leave_get_self]
      trivial
  | insertFailed =>
      cases hw
      right
      rw [leave_get_self]
      trivial
  | crash =>
      cases hw
      right
      rw [leave_get_self]
      trivial
  | selectDue _ hp => cases hw; rw [hp] at hs; exact hs.elim
  | selectSubscription hp => cases hw; rw [hp] at hs; exact hs.elim
  | refused _ hp => cases hw; rw [hp] at hs; exact hs.elim
  | send _ hp => cases hw; rw [hp] at hs; exact hs.elim
  | succeed hp => cases hw; rw [hp] at hs; exact hs.elim
  | succeedLost hp => cases hw; rw [hp] at hs; exact hs.elim
  | succeedFailed hp => cases hw; rw [hp] at hs; exact hs.elim
  | fail hp => cases hw; rw [hp] at hs; exact hs.elim
  | failLost hp => cases hw; rw [hp] at hs; exact hs.elim
  | failFailed hp => cases hw; rw [hp] at hs; exact hs.elim
  | write => cases hw
  | createChecked => cases hw
  | create => cases hw
  | deactivate => cases hw
  | redeliverChecked => cases hw
  | redeliver => cases hw
  | abandon => cases hw


/-- A scan that began and is over has told every subscription it found
active what it is due of a row that stayed on file. -/
theorem scan_tells (cfg : Config) {s s₁ : System} {w now : Nat}
    (hstart : (machine cfg).apply (.start w now) s = .ok s₁)
    {sub : Subscription} (hsub : sub ∈ s.subscription)
    (hactive : sub.active = true) {family : Family} {row : SourceRow}
    {n : Notice} (htold : told n sub = true) {as : List Act}
    (has : (machine cfg).Allowed (Meanwhile w now family row n) s₁ as)
    (hend : ((machine cfg).run s₁ as).workers.get w = some .scanned) :
    ∃ r ∈ ((machine cfg).run s₁ as).delivery,
      r.subscriptionId = sub.id ∧ r.eventKey = n.key := by
  have hbegun : OnFile s₁ sub n
      ∨ Ahead now sub family row n (s₁.workers.get w) := by
    have hstep : step cfg (.start w now) s = .ok s₁ := hstart
    cases did_of_step hstep with
    | start hfree =>
        right
        rw [moveTo_get_self]
        exact opening_ahead hsub hactive family
  have hrun := Machine.run_induction
    (P := fun t => OnFile t sub n
      ∨ Ahead now sub family row n (t.workers.get w))
    (fun t a t' ht hok happ =>
      (did_of_step happ).ahead htold hok.1 hok.2 ht) hbegun has
  rcases hrun with hfile | hahead
  · obtain ⟨r, hr, hkey⟩ := List.mem_map.mp hfile
    exact ⟨r, hr, congrArg Prod.fst hkey, congrArg Prod.snd hkey⟩
  · rw [hend] at hahead
    exact hahead.elim

theorem scan_tells_demo :
    ∃ r ∈ ((machine Demo.config).run (machine Demo.config).init
        Demo.scanned).delivery,
      r.subscriptionId = 1 ∧ r.eventKey = .marginEvent 1 .marginCallIssued
        := by
  have hsplit : Demo.scanned = (Demo.subscribed ++ [.start 0 150000000])
      ++ Demo.scanning := by simp [Demo.scanned]
  rw [hsplit, Machine.run_append]
  have hstart : ((machine Demo.config).apply (.start 0 150000000)
      ((machine Demo.config).run (machine Demo.config).init
        Demo.subscribed)).isOk = true := by decide +kernel
  have hsub : ∃ sub ∈ ((machine Demo.config).run (machine Demo.config).init
      Demo.subscribed).subscription, sub.active = true ∧ sub.id = 1
        ∧ told ⟨.marginEvent 1 .marginCallIssued, Demo.payload,
          some [7, 8]⟩ sub = true := by decide +kernel
  obtain ⟨sub, hsub, hactive, hid, htold⟩ := hsub
  obtain ⟨r, hr, hof, hkey⟩ := @scan_tells Demo.config _ _ 0 150000000
    (Machine.apply_of_isOk hstart) sub hsub hactive .marginEvent
    (.marginEvent Demo.event) _ htold Demo.scanning
    (by decide +kernel) (by decide +kernel)
  exact ⟨r, hr, hof.trans hid, hkey⟩

end Ballast.Webhooks
