/-
What the status of a delivery says, with any number of workers: delivered
means that a request was answered with success, and dead that the
subscription is inactive or the delivery was tried six times.

Two workers may hold copies of one row, and the later write wins, so the
count in a row may fall behind the tries. It never runs ahead: `sends`
counts the tries beside the run, and each copy, too, is no further than
they are.

# Tries

`sends` is counted from the run itself, one for every request that went
out, whatever became of its answer and of the write after it. `RowTried`
and `PassTried` compare with it the rows and the copies workers hold.
All of it is monotone in the count, so a step that tries another
delivery disturbs nothing.
-/
import Ballast.Webhooks.Proofs.Letters

namespace Ballast.Webhooks

open Soroban

variable {cfg : Config} {s s' : System} {a : Act} {b b' : Id → Nat}

-- =============================================================== the tries

/-- The delivery an action tries. -/
def tryOf (a : Act) (s : System) : Option Id :=
  match a with
  | .send w _ _ => (s.workers.get w).bind fun
      | .sending _ d _ _ => some d.id
      | _ => none
  | _ => none

def countSend (b : Id → Nat) (a : Act) (s _ : System) : Id → Nat :=
  match tryOf a s with
  | some id => Function.update b id (b id + 1)
  | none => b

/-- How often each delivery was tried in a run. -/
def sends (cfg : Config) (as : List Act) : Id → Nat :=
  (machine cfg).recorded (fun _ => 0) countSend as

/-- The count only grows. -/
theorem countSend_le (b : Id → Nat) (a : Act) (s s' : System) (id : Id) :
    b id ≤ countSend b a s s' id := by
  unfold countSend
  cases tryOf a s with
  | none => exact Nat.le_refl _
  | some id' =>
      by_cases h : id = id'
      · subst h
        simp
      · simp [Function.update_of_ne h]

/-- A worker that sends adds one try for its delivery. -/
theorem countSend_sending (s' : System) {w now : Nat} {d : DeliveryRow}
    {sub : Subscription} {rest : List DeliveryRow}
    (hw : s.workers.get w = some (.sending now d sub rest))
    (resolve : Text → List Text) (answer : Answer) :
    countSend b (.send w resolve answer) s s' d.id = b d.id + 1 := by
  simp [countSend, tryOf, hw]

-- ======================================================== what a row says

/-- The subscription was deactivated. -/
def Inactive (s : System) (id : Id) : Prop :=
  ∃ sub ∈ s.subscription, sub.id = id ∧ sub.active = false

/-- A deactivated subscription stays so. -/
theorem Did.inactive (h : Did cfg s a s') {id : Id}
    (hi : Inactive s id) : Inactive s' id := by
  cases h with
  | create =>
      obtain ⟨sub, hsub, hid⟩ := hi
      exact ⟨sub, List.mem_append_left _ hsub, hid⟩
  | @deactivate partyId id' sub' hsub' hid' hparty =>
      obtain ⟨sub, hsub, hid, hoff⟩ := hi
      by_cases heq : sub.id = sub'.id
      · refine ⟨{ sub with active := false }, ?_, hid, rfl⟩
        exact List.mem_map.mpr ⟨sub, hsub, if_pos heq⟩
      · exact ⟨sub, List.mem_map.mpr ⟨sub, hsub, if_neg heq⟩, hid, hoff⟩
  | _ => exact hi

/-- A row that may be tried again. -/
def Fresh (b : Id → Nat) (e : DeliveryRow) : Prop :=
  e.attempts < maxAttempts ∧ e.attempts ≤ b e.id

structure RowTried (s : System) (b : Id → Nat) (r : DeliveryRow) :
    Prop where
  attempts : r.attempts ≤ maxAttempts
  pending : r.status = .pending → Fresh b r
  delivered : r.status = .delivered →
    ∃ post ∈ s.posts, post.deliveryId = r.id ∧ post.answer.ok = true
  dead : r.status = .dead →
    Inactive s r.subscriptionId ∨ maxAttempts ≤ b r.id

/-- Why a try is over. -/
def Ended (s : System) (b : Id → Nat) (d : DeliveryRow) (f : Failure) :
    Prop :=
  (f.permanent = true ∧ f.caught = false ∧ Inactive s d.subscriptionId)
    ∨ (f.permanent = false ∧ d.attempts + 1 ≤ b d.id)

def PassTried (s : System) (b : Id → Nat) : Phase → Prop
  | .next _ d rest => ∀ e ∈ d :: rest, Fresh b e
  | .sending _ d _ rest => ∀ e ∈ d :: rest, Fresh b e
  | .succeeding _ d rest => (∀ e ∈ d :: rest, Fresh b e)
      ∧ d.attempts + 1 ≤ b d.id
  | .failing _ d f rest => (∀ e ∈ d :: rest, Fresh b e) ∧ Ended s b d f
  | _ => True

structure Tried (s : System) (b : Id → Nat) : Prop where
  rows : ∀ r ∈ s.delivery, RowTried s b r
  passes : ∀ w p, s.workers.get w = some p → PassTried s b p

/-- A row that may be tried is not ahead of a larger count. -/
theorem Fresh.mono {e : DeliveryRow} (h : Fresh b e)
    (hb : ∀ id, b id ≤ b' id) : Fresh b' e :=
  ⟨h.1, h.2.trans (hb _)⟩

/-- A try that is over is over for a larger count. -/
theorem Ended.mono {d : DeliveryRow} {f : Failure} (h : Ended s b d f)
    (hdid : Did cfg s a s') (hb : ∀ id, b id ≤ b' id) : Ended s' b' d f := by
  rcases h with ⟨hperm, hcaught, hoff⟩ | ⟨hperm, hle⟩
  · exact Or.inl ⟨hperm, hcaught, hdid.inactive hoff⟩
  · exact Or.inr ⟨hperm, hle.trans (hb _)⟩

/-- What a row says of its tries goes on to hold. -/
theorem RowTried.mono {r : DeliveryRow} (h : RowTried s b r)
    (hdid : Did cfg s a s') (hb : ∀ id, b id ≤ b' id) :
    RowTried s' b' r where
  attempts := h.attempts
  pending hp := (h.pending hp).mono hb
  delivered hd := by
    obtain ⟨post, hpost, hof⟩ := h.delivered hd
    exact ⟨post, hdid.grows.posts.subset hpost, hof⟩
  dead hd := (h.dead hd).imp hdid.inactive fun hle => hle.trans (hb _)

/-- And what a worker's copies say. -/
theorem PassTried.mono {p : Phase} (h : PassTried s b p)
    (hdid : Did cfg s a s') (hb : ∀ id, b id ≤ b' id) :
    PassTried s' b' p := by
  cases p with
  | next now d rest => exact fun e he => (h e he).mono hb
  | sending now d sub rest => exact fun e he => (h e he).mono hb
  | succeeding now d rest =>
      exact ⟨fun e he => (h.1 e he).mono hb, h.2.trans (hb _)⟩
  | failing now d f rest =>
      exact ⟨fun e he => (h.1 e he).mono hb, h.2.mono hdid hb⟩
  | _ => trivial

-- ================================================================ the steps

/-- The rest of a batch goes on with rows that may be tried. -/
theorem batchPhase_tried {now : Nat} {rest : List DeliveryRow} {p : Phase}
    (h : ∀ e ∈ rest, Fresh b e) (hp : batchPhase now rest = some p) :
    PassTried s b p := by
  cases rest with
  | nil => cases hp
  | cons d rest =>
      injection hp with hp
      subst hp
      exact h

/-- A subscription that is not found active is inactive: a delivery's is
always on file. -/
theorem activeSubscription_none (hs : Sound cfg (fun _ => True) s)
    {d : DeliveryRow} (hd : Filed s d)
    (h : activeSubscription s d = none) : Inactive s d.subscriptionId := by
  obtain ⟨r, hr, hfiled⟩ := hd
  obtain ⟨n, -, sub, hsub, -, hletter⟩ := hs.owed r hr
  have hof : d.subscriptionId = sub.id := by
    have hsame := congrArg (fun x : Id × Letter => x.2.subscriptionId) hfiled
    exact hsame.symm.trans (congrArg Letter.subscriptionId hletter)
  have hfind := Table.find_of_mem hs.subscription_ids hsub
  rw [activeSubscription, hof, hfind] at h
  refine ⟨sub, hsub, hof.symm, ?_⟩
  cases hactive : sub.active with
  | false => rfl
  | true => simp [Option.filter, hactive] at h

/-- Whatever the answer, the worker now holds a try that was counted. -/
theorem afterAnswer_tried {now : Nat} {d : DeliveryRow}
    {rest : List DeliveryRow} (h : ∀ e ∈ d :: rest, Fresh b e)
    (hd : d.attempts + 1 ≤ b d.id) (answer : Answer) :
    PassTried s b (afterAnswer now d rest answer) := by
  unfold afterAnswer
  split
  · exact ⟨h, Or.inr ⟨rfl, hd⟩⟩
  · split
    · exact ⟨h, hd⟩
    · exact ⟨h, Or.inr ⟨rfl, hd⟩⟩

/-- What is caught is no permanent failure. -/
theorem Ended.caught {d : DeliveryRow} {f : Failure}
    (h : Ended s b d f) (hcaught : f.caught = true) :
    d.attempts + 1 ≤ b d.id := by
  rcases h with ⟨-, hnot, -⟩ | ⟨-, hle⟩
  · rw [hcaught] at hnot
    cases hnot
  · exact hle

/-- Every step of a worker keeps its copies no further than the tries. -/
theorem Did.pass_tried (h : Did cfg s a s')
    (hs : Sound cfg (fun _ => True) s) (ht : Tried s b) {v : Nat}
    (hv : a.worker = some v) {p : Phase}
    (hp : s'.workers.get v = some p) :
    PassTried s' (countSend b a s s') p := by
  have hkeep : ∀ {q : Phase}, PassTried s b q →
      PassTried s' (countSend b a s s') q :=
    fun hq => hq.mono h (countSend_le b a s s')
  cases h with
  | start =>
      cases hv
      rw [moveTo_get_self] at hp
      cases hp
      simp only [opening, nextFamily]
      split
      · trivial
      · split <;> trivial
  | select =>
      cases hv
      rw [moveTo_get_self] at hp
      cases hp
      trivial
  | join =>
      cases hv
      rw [moveTo_get_self] at hp
      cases hp
      unfold nextInsert nextFamily
      split
      · split <;> trivial
      · trivial
  | insert =>
      cases hv
      rw [moveTo_get_self] at hp
      cases hp
      unfold nextInsert nextFamily
      split
      · split <;> trivial
      · trivial
  | insertLost =>
      cases hv
      rw [leave_get_self] at hp
      cases hp
  | insertFailed =>
      cases hv
      rw [leave_get_self] at hp
      cases hp
  -- what is picked is pending on file, so it may be tried
  | selectDue hpicked hw =>
      cases hv
      rw [proceed_get_self] at hp
      refine hkeep (batchPhase_tried ?_ hp)
      intro e he
      obtain ⟨hmem, hdue⟩ := hpicked.2.1 e he
      exact (ht.rows e hmem).pending (of_decide_eq_true hdue).1
  -- without an active subscription the try is over before it began
  | @selectSubscription w now d rest hw =>
      cases hv
      rw [moveTo_get_self] at hp
      cases hp
      have hfresh := ht.passes _ _ hw
      refine hkeep ?_
      unfold taken
      split
      · exact hfresh
      next hnone =>
        exact ⟨hfresh, Or.inl ⟨rfl, rfl, activeSubscription_none hs
          (hs.passes _ _ hw d List.mem_cons_self) hnone⟩⟩
  -- refused or sent, this is a try and is counted
  | @refused w now d sub rest resolve answer e he hw =>
      cases hv
      rw [moveTo_get_self] at hp
      cases hp
      have hfresh := ht.passes _ _ hw
      have hcount := countSend_sending (b := b)
        (moveTo s v (.failing now d ⟨e, false, false⟩ rest)) hw resolve answer
      refine ⟨fun e he => (hfresh e he).mono (countSend_le _ _ _ _),
        Or.inr ⟨rfl, ?_⟩⟩
      rw [hcount]
      exact Nat.succ_le_succ (hfresh d List.mem_cons_self).2
  | @send w now d sub rest resolve answer post hpost hw =>
      cases hv
      rw [moveTo_get_self] at hp
      cases hp
      have hfresh := ht.passes _ _ hw
      have hcount := countSend_sending (b := b)
        (moveTo { s with posts := s.posts ++ [post] } v
          (afterAnswer now d rest answer)) hw resolve answer
      apply afterAnswer_tried
      · exact fun e he => (hfresh e he).mono (countSend_le _ _ _ _)
      · rw [hcount]
        exact Nat.succ_le_succ (hfresh d List.mem_cons_self).2
  | succeed hw =>
      cases hv
      rw [proceed_get_self] at hp
      refine hkeep (batchPhase_tried ?_ hp)
      exact fun e he => (ht.passes _ _ hw).1 e (List.mem_cons_of_mem _ he)
  -- a write that is not heard makes the success a failure of this pass
  | succeedLost hw =>
      cases hv
      rw [moveTo_get_self] at hp
      cases hp
      obtain ⟨hfresh, hle⟩ := ht.passes _ _ hw
      exact hkeep (q := .failing _ _ _ _) ⟨hfresh, Or.inr ⟨rfl, hle⟩⟩
  | succeedFailed hw =>
      cases hv
      rw [moveTo_get_self] at hp
      cases hp
      obtain ⟨hfresh, hle⟩ := ht.passes _ _ hw
      exact hkeep (q := .failing _ _ _ _) ⟨hfresh, Or.inr ⟨rfl, hle⟩⟩
  | fail hw =>
      cases hv
      rw [proceed_get_self] at hp
      refine hkeep (batchPhase_tried ?_ hp)
      exact fun e he => (ht.passes _ _ hw).1 e (List.mem_cons_of_mem _ he)
  | failLost hw =>
      cases hv
      rw [thrown_get_self] at hp
      split at hp <;> cases hp
      next hcaught =>
        obtain ⟨hfresh, hended⟩ := ht.passes _ _ hw
        exact hkeep (q := .failing _ _ _ _)
          ⟨hfresh, Or.inr ⟨rfl, hended.caught hcaught⟩⟩
  | failFailed hw =>
      cases hv
      rw [thrown_get_self] at hp
      split at hp <;> cases hp
      next hcaught =>
        obtain ⟨hfresh, hended⟩ := ht.passes _ _ hw
        exact hkeep (q := .failing _ _ _ _)
          ⟨hfresh, Or.inr ⟨rfl, hended.caught hcaught⟩⟩
  | crash =>
      cases hv
      rw [leave_get_self] at hp
      cases hp
  | write => cases hv
  | createChecked => cases hv
  | create => cases hv
  | deactivate => cases hv
  | redeliverChecked => cases hv
  | redeliver => cases hv
  | abandon => cases hv

/-- A failed try ends the delivery if it is permanent or the sixth. -/
theorem failed_status (now : Nat) (d : DeliveryRow) (failure : Failure)
    (r : DeliveryRow) : (failed now d failure r).status
      = if failure.permanent = true ∨ maxAttempts ≤ d.attempts + 1
        then .dead else .pending := rfl

/-- An update leaves a row that says what happened. -/
theorem Rewrites.tried (hs : Sound cfg (fun _ => True) s) (ht : Tried s b)
    {r : DeliveryRow} {f : DeliveryRow → DeliveryRow} (hr : r ∈ s.delivery)
    (h : Rewrites s r.id f) : RowTried s b (f r) := by
  generalize hid : r.id = id at h
  cases h with
  | @succeeded w now d rest hw =>
      obtain ⟨hfresh, hle⟩ := ht.passes _ _ hw
      obtain ⟨-, post, hpost, hof, hok⟩ := hs.passes _ _ hw
      refine ⟨(hfresh d List.mem_cons_self).1, nofun, ?_, nofun⟩
      intro _
      exact ⟨post, hpost, hof.trans hid.symm, hok⟩
  | @failed w now d failure rest hw =>
      obtain ⟨hfresh, hended⟩ := ht.passes _ _ hw
      have hlt := (hfresh d List.mem_cons_self).1
      obtain ⟨r', hr', hfiled⟩ := hs.passes _ _ hw d List.mem_cons_self
      obtain ⟨hid', hletter⟩ := Prod.mk.inj hfiled
      have hsame : r = r' := List.inj_on_of_nodup_map hs.delivery_ids hr hr'
        (hid.trans hid'.symm)
      have hof : r.subscriptionId = d.subscriptionId := by
        rw [hsame]
        exact congrArg Letter.subscriptionId hletter
      refine ⟨hlt, ?_, ?_, ?_⟩
      · intro hpending
        have hnot : ¬ (failure.permanent = true
            ∨ maxAttempts ≤ d.attempts + 1) := by
          intro hdead
          rw [failed_status, if_pos hdead] at hpending
          cases hpending
        rw [not_or, Nat.not_le] at hnot
        refine ⟨hnot.2, ?_⟩
        show d.attempts + 1 ≤ b r.id
        rw [hid]
        rcases hended with ⟨hperm, -⟩ | ⟨-, hle⟩
        · exact absurd hperm hnot.1
        · exact hle
      · intro hdelivered
        rw [failed_status] at hdelivered
        split at hdelivered <;> cases hdelivered
      · intro hdead
        show Inactive s r.subscriptionId ∨ maxAttempts ≤ b r.id
        rw [hof, hid]
        rcases hended with ⟨-, -, hoff⟩ | ⟨hperm, hle⟩
        · exact Or.inl hoff
        · right
          by_contra hlt'
          have hnot : ¬ (failure.permanent = true
              ∨ maxAttempts ≤ d.attempts + 1) := by
            rw [not_or, hperm]
            exact ⟨nofun, fun hmax => hlt' (hmax.trans hle)⟩
          rw [failed_status, if_neg hnot] at hdead
          cases hdead
  | requeued hq =>
      exact ⟨Nat.zero_le _, fun _ => ⟨Nat.zero_lt_succ _, Nat.zero_le _⟩,
        nofun, nofun⟩

/-- Every step keeps rows and copies so. -/
theorem Did.tried (h : Did cfg s a s') (hs : Sound cfg (fun _ => True) s)
    (ht : Tried s b) : Tried s' (countSend b a s s') where
  rows r' hr' := by
    have hle := countSend_le b a s s'
    rcases h.deliveries.row hr' with ⟨w, scan, v, rest, id, -, -, rfl⟩
      | ⟨r, hr, rfl | ⟨f, hf, rfl⟩⟩
    · exact ⟨Nat.zero_le _, fun _ => ⟨Nat.zero_lt_succ _, Nat.zero_le _⟩,
        nofun, nofun⟩
    · exact (ht.rows r hr).mono h hle
    · exact (hf.tried hs ht hr).mono h hle
  passes v p hp := by
    by_cases hv : a.worker = some v
    · exact h.pass_tried hs ht hv hp
    · rw [h.others hv] at hp
      exact (ht.passes v p hp).mono h (countSend_le b a s s')

/-- Whatever workers, processes and routes do, and however writes go: a
delivery counts no more than six attempts and waits with fewer; one that
is delivered was answered with success; one that is dead has an inactive
subscription or was tried six times. -/
theorem status_tried (cfg : Config) (as : List Act) :
    ∀ r ∈ ((machine cfg).run (machine cfg).init as).delivery,
      RowTried ((machine cfg).run (machine cfg).init as) (sends cfg as)
        r := by
  have hinit : Tried (machine cfg).init fun _ => 0 :=
    ⟨fun _ hr => (nomatch hr), fun _ _ hp => (nomatch hp)⟩
  have hrun : Sound cfg (fun _ => True)
        ((machine cfg).run (machine cfg).init as)
      ∧ Tried ((machine cfg).run (machine cfg).init as) (sends cfg as) := by
    refine Machine.recorded_induction
      (P := fun t b => Sound cfg (fun _ => True) t ∧ Tried t b)
      ⟨sound_init cfg _, hinit⟩ ?_ (Machine.allowed_true _ as)
    intro t b a t' ht _ happ
    have hdid := did_of_step happ
    exact ⟨hdid.sound ht.1 trivial, hdid.tried ht.1 ht.2⟩
  exact hrun.2.rows

/-- A delivery that is delivered at its first try. -/
theorem status_tried_demo :
    ∃ r ∈ ((machine Demo.config).run (machine Demo.config).init
        Demo.delivered).delivery, r.status = .delivered
      ∧ RowTried ((machine Demo.config).run (machine Demo.config).init
        Demo.delivered) (sends Demo.config Demo.delivered) r := by
  have hrow : ∃ r ∈ ((machine Demo.config).run (machine Demo.config).init
      Demo.delivered).delivery, r.status = .delivered := by decide +kernel
  obtain ⟨r, hr, hstatus⟩ := hrow
  exact ⟨r, hr, hstatus, status_tried Demo.config Demo.delivered r hr⟩

end Ballast.Webhooks
