/-
With one worker and no write of a success unheard, no delivery is answered
with success twice: a row is `delivered` before it can be picked again.

The ways out of this are the conditions of `Calm`: a second worker, a
success that is not recorded, and a redelivery whose row was delivered
after it was checked.

# The invariant

A delivery that was answered with success is either recorded as
delivered, or is the one the worker has still to record (`owing`). Rows
the worker holds in its batch are open, and a row is in one batch only
because there is one worker; so a request never goes out for a row that
has had its success.
-/
import Ballast.Webhooks.Proofs.Batch

namespace Ballast.Webhooks

open Soroban

variable {cfg : Config} {s s' : System} {a : Act} {w₀ : Nat}

/-- The requests of a delivery that were answered with success. -/
def answers (posts : List Post) (id : Id) : List Post :=
  posts.filter fun p => p.deliveryId = id ∧ p.answer.ok = true

/-- The delivery whose success is to be recorded. -/
def owing : Option Phase → Option Id
  | some (.succeeding _ d _) => some d.id
  | _ => none

/-- A redelivery finds no row delivered. -/
def Undelivered (rows : List DeliveryRow) : Option Request → Prop
  | some (.redeliver id) => ∀ r ∈ rows, r.id = id → r.status ≠ .delivered
  | _ => True

instance (rows : List DeliveryRow) (q : Option Request) :
    Decidable (Undelivered rows q) := by
  unfold Undelivered
  split <;> infer_instance

/-- One worker; a success is recorded; a redelivery finds no row
delivered. -/
def Calm (w₀ : Nat) (a : Act) (s : System) : Prop :=
  match a with
  | .start v _ => v = w₀
  | .record v delivery _ => owing (s.workers.get v) ≠ none →
      delivery = .acknowledged
  | .crash v => owing (s.workers.get v) = none
  | .redeliver q _ => Undelivered s.delivery (s.requests.get q)
  | _ => True

instance (w₀ : Nat) (a : Act) (s : System) : Decidable (Calm w₀ a s) := by
  rcases a with ⟨⟩ <;> unfold Calm <;> infer_instance

/-- No row of a batch is delivered. -/
def Open (rows batch : List DeliveryRow) : Prop :=
  (batch.map (·.id)).Nodup
    ∧ ∀ e ∈ batch, ∀ r ∈ rows, r.id = e.id → r.status ≠ .delivered

structure One (w₀ : Nat) (s : System) : Prop where
  alone : ∀ v, v ≠ w₀ → s.workers.get v = none
  once : ∀ id, (answers s.posts id).length ≤ 1
  waiting : ∀ r ∈ s.delivery, r.status ≠ .delivered →
    answers s.posts r.id = [] ∨ owing (s.workers.get w₀) = some r.id
  batch : ∀ p, s.workers.get w₀ = some p → Open s.delivery p.batch

theorem open_nil (rows : List DeliveryRow) : Open rows [] :=
  ⟨List.nodup_nil, fun _ he => nomatch he⟩

theorem nextInsert_batch (scan : Scan) (rest : List NewDelivery) :
    (nextInsert scan rest).batch = [] := by
  unfold nextInsert nextFamily
  split
  · split <;> rfl
  · rfl

theorem opening_batch (now : Nat) (s : System) :
    (opening now s).batch = [] := by
  simp only [opening, nextFamily]
  split
  · rfl
  · split <;> rfl

theorem owing_afterAnswer {now : Nat} {d : DeliveryRow}
    {rest : List DeliveryRow} {answer : Answer} :
    owing (some (afterAnswer now d rest answer))
      = if answer.ok then some d.id else none := by
  unfold afterAnswer
  split
  · rfl
  · split <;> simp [owing, *]

theorem batch_of_batchPhase {rows : List DeliveryRow} {now : Nat}
    {rest : List DeliveryRow} {p : Phase} (h : Open rows rest)
    (hp : batchPhase now rest = some p) : Open rows p.batch := by
  obtain ⟨-, hbatch⟩ := batchPhase_some hp
  rwa [hbatch]

/-- Nothing written, and no success forgotten. -/
theorem One.moved (h : One w₀ s) (hdel : s'.delivery = s.delivery)
    (hposts : s'.posts = s.posts)
    (howing : owing (s.workers.get w₀) = none
      ∨ owing (s'.workers.get w₀) = owing (s.workers.get w₀))
    (hothers : ∀ v, v ≠ w₀ → s'.workers.get v = s.workers.get v)
    (hbatch : ∀ p, s'.workers.get w₀ = some p → Open s.delivery p.batch) :
    One w₀ s' where
  alone v hv := (hothers v hv).trans (h.alone v hv)
  once id := by
    rw [hposts]
    exact h.once id
  waiting r hr hstatus := by
    rw [hdel] at hr
    rw [hposts]
    rcases h.waiting r hr hstatus with hnone | howes
    · exact Or.inl hnone
    · rcases howing with hnot | hsame
      · rw [hnot] at howes
        cases howes
      · exact Or.inr (hsame.trans howes)
  batch p hp := by
    rw [hdel]
    exact hbatch p hp

/-- A row recorded by the pass whose turn it is. -/
theorem One.recorded (h : One w₀ s) {d : DeliveryRow}
    {rest : List DeliveryRow} {p : Phase}
    (hw : s.workers.get w₀ = some p) (hp : p.batch = d :: rest)
    (howing : ∀ id, owing (some p) = some id → id = d.id)
    {f : DeliveryRow → DeliveryRow} (hid : ∀ r, (f r).id = r.id)
    (hf : ∀ r, (f r).status = .delivered ∨ owing (some p) = none)
    (hdel : s'.delivery = Table.update (·.id) s.delivery d.id f)
    (hposts : s'.posts = s.posts)
    (hothers : ∀ v, v ≠ w₀ → s'.workers.get v = s.workers.get v)
    (hafter : ∀ q, s'.workers.get w₀ = some q → q.batch = rest
      ∨ q.batch = d :: rest ∧ ∀ r, (f r).status ≠ .delivered) :
    One w₀ s' := by
  obtain ⟨hnodup, hopen⟩ := h.batch p hw
  rw [hp] at hnodup hopen
  refine ⟨fun v hv => (hothers v hv).trans (h.alone v hv), ?_, ?_, ?_⟩
  · intro id
    rw [hposts]
    exact h.once id
  · intro r' hr' hstatus
    rw [hdel] at hr'
    rw [hposts]
    rcases Table.mem_update hr' with ⟨hr, hne⟩ | ⟨r, hr, hrd, rfl⟩
    · rcases h.waiting r' hr hstatus with hnone | howes
      · exact Or.inl hnone
      · rw [hw] at howes
        exact absurd (howing _ howes) hne
    · rw [hid]
      rcases hf r with hdelivered | hnot
      · exact absurd hdelivered hstatus
      · rcases h.waiting r hr (hopen d List.mem_cons_self r hr hrd)
          with hnone | howes
        · exact Or.inl hnone
        · rw [hw, hnot] at howes
          cases howes
  · -- of the rows left in the batch only `d` may have been written
    have hrest : ∀ e ∈ rest, ∀ r' ∈ s'.delivery, r'.id = e.id →
        r'.status ≠ .delivered := by
      intro e he r' hr' hre
      rw [hdel] at hr'
      rcases Table.mem_update hr' with ⟨hr, -⟩ | ⟨r, hr, hrd, rfl⟩
      · exact hopen e (List.mem_cons_of_mem _ he) r' hr hre
      · rw [hid, hrd] at hre
        rw [List.map_cons, List.nodup_cons] at hnodup
        exact absurd (hre ▸ List.mem_map_of_mem he) hnodup.1
    intro q hq
    rcases hafter q hq with hbatch | ⟨hbatch, hnever⟩
    · rw [hbatch]
      rw [List.map_cons, List.nodup_cons] at hnodup
      exact ⟨hnodup.2, hrest⟩
    · rw [hbatch]
      refine ⟨hnodup, ?_⟩
      intro e he r' hr' hre
      rcases List.mem_cons.mp he with rfl | he
      · rw [hdel] at hr'
        rcases Table.mem_update hr' with ⟨-, hne⟩ | ⟨r, hr, -, rfl⟩
        · exact absurd hre hne
        · exact hnever r
      · exact hrest e he r' hr' hre

/-- A request that was answered. -/
theorem One.sent (h : One w₀ s) {d : DeliveryRow} {now : Nat}
    {sub : Subscription} {rest : List DeliveryRow} {post : Post}
    {answer : Answer} (hw : s.workers.get w₀ = some (.sending now d sub rest))
    (hfiled : Filed s d) (hof : post.deliveryId = d.id)
    (hanswer : post.answer = answer)
    (hposts : s'.posts = s.posts ++ [post]) (hdel : s'.delivery = s.delivery)
    (hothers : ∀ v, v ≠ w₀ → s'.workers.get v = s.workers.get v)
    (hw' : s'.workers.get w₀ = some (afterAnswer now d rest answer)) :
    One w₀ s' := by
  have hopen := h.batch _ hw
  -- nothing is owed while a request is being sent
  have hnone : ∀ r ∈ s.delivery, r.status ≠ .delivered →
      answers s.posts r.id = [] := by
    intro r hr hstatus
    rcases h.waiting r hr hstatus with hnone | howes
    · exact hnone
    · rw [hw] at howes
      cases howes
  have hd : answers s.posts d.id = [] := by
    obtain ⟨r, hr, hsame⟩ := hfiled
    have hid : r.id = d.id := congrArg Prod.fst hsame
    rw [← hid]
    exact hnone r hr (hopen.2 d List.mem_cons_self r hr hid)
  have happend : ∀ id, answers s'.posts id = answers s.posts id
      ++ if d.id = id ∧ answer.ok = true then [post] else [] := by
    intro id
    rw [hposts, answers, List.filter_append, answers]
    congr 1
    by_cases hc : d.id = id ∧ answer.ok = true
    · rw [if_pos hc]
      simp [hof, hanswer, hc]
    · rw [if_neg hc]
      simpa [hof, hanswer] using hc
  refine ⟨fun v hv => (hothers v hv).trans (h.alone v hv), ?_, ?_, ?_⟩
  · intro id
    rw [happend]
    split
    next hc =>
      rw [← hc.1, hd]
      exact Nat.le_refl _
    · rw [List.append_nil]
      exact h.once id
  · intro r hr hstatus
    rw [hdel] at hr
    rw [happend, hw', owing_afterAnswer, hnone r hr hstatus]
    by_cases hok : answer.ok = true
    · by_cases hid : d.id = r.id
      · right
        rw [if_pos hok, hid]
      · left
        rw [if_neg fun hc => hid hc.1]
        rfl
    · left
      rw [if_neg fun hc => hok hc.2]
      rfl
  · intro q hq
    rw [hw'] at hq
    injection hq with hq
    subst hq
    rw [hdel, (afterAnswer_batch now d rest answer).2]
    exact hopen

/-- A new row was never sent. -/
theorem One.inserted {seen : Sources → Prop} (h : One w₀ s)
    (hs : Sound cfg seen s) {id : Id} (hid : id ∉ s.delivery.map (·.id))
    (v : NewDelivery) : One w₀ (withRow s id v) := by
  have hfresh : answers s.posts id = [] := by
    rw [answers, List.filter_eq_nil_iff]
    intro post hpost hof
    obtain ⟨_, r, sub, hsound⟩ := hs.sent post hpost
    obtain ⟨hr, hrid⟩ := hsound.delivery
    have hpid := (of_decide_eq_true hof).1
    exact hid (hpid ▸ hrid ▸ List.mem_map_of_mem hr)
  refine ⟨h.alone, h.once, ?_, ?_⟩
  · intro r hr hstatus
    rcases Conflict.mem_insertRow hr with hr | rfl
    · exact h.waiting r hr hstatus
    · exact Or.inl hfresh
  · intro p hp
    obtain ⟨hnodup, hopen⟩ := h.batch p hp
    refine ⟨hnodup, ?_⟩
    intro e he r hr hre
    rcases Conflict.mem_insertRow hr with hr | rfl
    · exact hopen e he r hr hre
    · nofun

/-- A row requeued that was not delivered. -/
theorem One.requeued (h : One w₀ s) {q now : Nat} {id : Id}
    (hid : ∀ r ∈ s.delivery, r.id = id → r.status ≠ .delivered) :
    One w₀ { updateDelivery s id (requeued now) with
      requests := s.requests.remove q } := by
  refine ⟨h.alone, h.once, ?_, ?_⟩
  · intro r' hr' hstatus
    rcases Table.mem_update hr' with ⟨hr, -⟩ | ⟨r, hr, hrid, rfl⟩
    · exact h.waiting r' hr hstatus
    · exact h.waiting r hr (hid r hr hrid)
  · intro p hp
    obtain ⟨hnodup, hopen⟩ := h.batch p hp
    refine ⟨hnodup, ?_⟩
    intro e he r' hr' hre
    rcases Table.mem_update hr' with ⟨hr, -⟩ | ⟨r, hr, hrid, rfl⟩
    · exact hopen e he r' hr hre
    · nofun

/-- What is picked is pending. -/
theorem open_of_selects {seen : Sources → Prop} (hs : Sound cfg seen s)
    {now : Nat} {picked : List DeliveryRow}
    (h : Selects s.delivery now picked) : Open s.delivery picked := by
  obtain ⟨hnodup, hdue, -⟩ := h
  constructor
  · refine List.Nodup.map_on ?_ hnodup
    intro d hd e he hid
    exact List.inj_on_of_nodup_map hs.delivery_ids (hdue d hd).1 (hdue e he).1
      hid
  · intro e he r hr hid
    have hsame := List.inj_on_of_nodup_map hs.delivery_ids hr (hdue e he).1 hid
    rw [hsame, (of_decide_eq_true (hdue e he).2).1]
    nofun

theorem failed_ne_delivered (now : Nat) (d : DeliveryRow)
    (failure : Failure) (r : DeliveryRow) :
    (failed now d failure r).status ≠ .delivered := by
  simp only [failed]
  split <;> nofun

theorem One.worker (h : One w₀ s) {w : Nat} {p : Phase}
    (hw : s.workers.get w = some p) : w = w₀ := by
  by_contra hne
  rw [h.alone w hne] at hw
  cases hw

/-- Every action in calm keeps the deliveries at one success each. -/
theorem Did.one (h : Did cfg s a s') {seen : Sources → Prop}
    (hs : Sound cfg seen s) (hcalm : Calm w₀ a s) (ho : One w₀ s) :
    One w₀ s' := by
  -- every action is of the one worker, or of nobody
  have hothers : a.worker = some w₀ →
      ∀ v, v ≠ w₀ → s'.workers.get v = s.workers.get v := by
    intro hw v hv
    refine h.others ?_
    rw [hw]
    exact fun heq => hv (Option.some.inj heq).symm
  cases h with
  | write => exact ho.moved rfl rfl (Or.inr rfl) (fun _ _ => rfl) ho.batch
  | start hw =>
      obtain rfl : _ = w₀ := hcalm
      refine ho.moved rfl rfl (Or.inl (congrArg owing hw)) (hothers rfl) ?_
      intro p hp
      rw [moveTo_get_self] at hp
      injection hp with hp
      subst hp
      rw [opening_batch]
      exact open_nil _
  | select hw =>
      obtain rfl := ho.worker hw
      refine ho.moved rfl rfl (Or.inl (congrArg owing hw)) (hothers rfl) ?_
      intro p hp
      rw [moveTo_get_self] at hp
      injection hp with hp
      subst hp
      exact open_nil _
  | join hw =>
      obtain rfl := ho.worker hw
      refine ho.moved rfl rfl (Or.inl (congrArg owing hw)) (hothers rfl) ?_
      intro p hp
      rw [moveTo_get_self] at hp
      injection hp with hp
      subst hp
      rw [nextInsert_batch]
      exact open_nil _
  | @insert w id scan v rest hid hw =>
      obtain rfl := ho.worker hw
      refine (ho.inserted hs hid v).moved rfl rfl
        (Or.inl (congrArg owing hw)) (hothers rfl) ?_
      intro p hp
      rw [moveTo_get_self] at hp
      injection hp with hp
      subst hp
      rw [nextInsert_batch]
      exact open_nil _
  | @insertLost w id scan v rest hid hw =>
      obtain rfl := ho.worker hw
      refine (ho.inserted hs hid v).moved rfl rfl
        (Or.inl (congrArg owing hw)) (hothers rfl) ?_
      intro p hp
      rw [leave_get_self] at hp
      cases hp
  | insertFailed hw =>
      obtain rfl := ho.worker hw
      refine ho.moved rfl rfl (Or.inl (congrArg owing hw)) (hothers rfl) ?_
      intro p hp
      rw [leave_get_self] at hp
      cases hp
  | selectDue hpicked hw =>
      obtain rfl := ho.worker hw
      refine ho.moved rfl rfl (Or.inl (congrArg owing hw)) (hothers rfl) ?_
      intro p hp
      rw [proceed_get_self] at hp
      exact batch_of_batchPhase (open_of_selects hs hpicked) hp
  | selectSubscription hw =>
      obtain rfl := ho.worker hw
      refine ho.moved rfl rfl (Or.inl (congrArg owing hw)) (hothers rfl) ?_
      intro p hp
      rw [moveTo_get_self] at hp
      injection hp with hp
      subst hp
      rw [(taken_batch s _ _ _).2]
      exact ho.batch _ hw
  | refused he hw =>
      obtain rfl := ho.worker hw
      refine ho.moved rfl rfl (Or.inl (congrArg owing hw)) (hothers rfl) ?_
      intro p hp
      rw [moveTo_get_self] at hp
      injection hp with hp
      subst hp
      have hopen := ho.batch _ hw
      exact hopen
  | send hpost hw =>
      obtain rfl := ho.worker hw
      obtain ⟨hof, -, hanswer, -⟩ := compose_ok hpost
      exact ho.sent hw ((hs.passes _ _ hw).1 _ List.mem_cons_self) hof hanswer
        rfl rfl (hothers rfl) (moveTo_get_self _ _ _)
  | succeed hw =>
      obtain rfl := ho.worker hw
      refine ho.recorded (f := succeeded _ _) hw rfl ?_ (fun _ => rfl)
        (fun _ => Or.inl rfl) rfl rfl (hothers rfl) ?_
      · intro id hid
        exact (Option.some.inj hid).symm
      · intro q hq
        rw [proceed_get_self] at hq
        exact Or.inl (batchPhase_some hq).2
  | succeedLost hw =>
      cases hcalm (by rw [hw]; nofun)
  | succeedFailed hw =>
      cases hcalm (by rw [hw]; nofun)
  | fail hw =>
      obtain rfl := ho.worker hw
      refine ho.recorded (f := failed _ _ _) hw rfl nofun (fun _ => rfl)
        (fun _ => Or.inr rfl) rfl rfl (hothers rfl) ?_
      intro q hq
      rw [proceed_get_self] at hq
      exact Or.inl (batchPhase_some hq).2
  | failLost hw =>
      obtain rfl := ho.worker hw
      refine ho.recorded (f := failed _ _ _) hw rfl nofun (fun _ => rfl)
        (fun _ => Or.inr rfl) rfl rfl (hothers rfl) ?_
      intro q hq
      rw [thrown_get_self] at hq
      split at hq <;> cases hq
      exact Or.inr ⟨rfl, fun r => failed_ne_delivered _ _ _ r⟩
  | failFailed hw =>
      obtain rfl := ho.worker hw
      refine ho.moved rfl rfl (Or.inl (congrArg owing hw)) (hothers rfl) ?_
      intro q hq
      rw [thrown_get_self] at hq
      split at hq <;> cases hq
      have hopen := ho.batch _ hw
      exact hopen
  -- in calm it dies only with nothing owing
  | crash hw =>
      obtain rfl := ho.worker hw
      refine ho.moved rfl rfl (Or.inl hcalm) (hothers rfl) ?_
      intro p hp
      rw [leave_get_self] at hp
      cases hp
  | createChecked =>
      exact ho.moved rfl rfl (Or.inr rfl) (fun _ _ => rfl) ho.batch
  | create => exact ho.moved rfl rfl (Or.inr rfl) (fun _ _ => rfl) ho.batch
  | deactivate =>
      exact ho.moved rfl rfl (Or.inr rfl) (fun _ _ => rfl) ho.batch
  | redeliverChecked =>
      exact ho.moved rfl rfl (Or.inr rfl) (fun _ _ => rfl) ho.batch
  -- in calm the row it requeues is not delivered
  | redeliver hq =>
      simp only [Calm, hq] at hcalm
      exact ho.requeued hcalm
  | abandon => exact ho.moved rfl rfl (Or.inr rfl) (fun _ _ => rfl) ho.batch

/-- With one worker, whose successes are recorded, each delivery is
answered with success once at most, however often it is tried, fails, is
dead and redelivered. -/
theorem answered_once (cfg : Config) (w₀ : Nat) {as : List Act}
    (has : (machine cfg).Allowed (Calm w₀) (machine cfg).init as)
    (id : Id) :
    (answers ((machine cfg).run (machine cfg).init as).posts id).length
      ≤ 1 := by
  have hinit : One w₀ (machine cfg).init :=
    ⟨fun _ _ => rfl, fun _ => Nat.zero_le _, fun _ hr => (nomatch hr),
      fun _ hp => (nomatch hp)⟩
  have hrun := Machine.run_induction
    (P := fun t => Sound cfg (fun _ => True) t ∧ One w₀ t)
    (fun t a t' ht hok happ =>
      ⟨(did_of_step happ).sound ht.1 trivial,
        (did_of_step happ).one ht.1 hok ht.2⟩)
    ⟨sound_init cfg _, hinit⟩ has
  exact hrun.2.once id

theorem answered_once_demo :
    (answers ((machine Demo.config).run (machine Demo.config).init
        Demo.delivered).posts 5).length = 1
      ∧ (answers ((machine Demo.config).run (machine Demo.config).init
        Demo.delivered).posts 5).length ≤ 1 :=
  ⟨by decide +kernel, answered_once Demo.config 0 (by decide +kernel) 5⟩

end Ballast.Webhooks
