/-
A batch, when nothing goes wrong around it.

A pass that runs to its end alone, and whose statements are heard, leaves
every row of its batch delivered, dead or put off, with one attempt more
(`batch_settled`). What each answer leaves of a row is `Settled`; the
induction is on the rows the pass has still to take (`Phase.batch`), and a
row that has been taken is not touched again.

That no row is answered with success twice is about passes that follow one
another, and is in `Answered`.

# Undisturbed

That nobody else writes deliveries is asked for the length of one pass
(`Undisturbed`), and it is asked of actions: no other worker records,
and no one requeues a row. Other workers may select and send; what they
have picked they do not write in that time.
-/
import Ballast.Webhooks.Proofs.Letters

namespace Ballast.Webhooks

open Soroban

variable {cfg : Config} {s s' : System} {a : Act} {w₀ : Nat}

/-- What a pass has still to send or to record, itself first. -/
def Phase.batch : Phase → List DeliveryRow
  | .next _ d rest => d :: rest
  | .sending _ d _ rest => d :: rest
  | .succeeding _ d rest => d :: rest
  | .failing _ d _ rest => d :: rest
  | _ => []

-- ============================================================ settled batch

/-- How a try of `d` in a pass that began at `now` left the row. -/
structure Settled (now : Nat) (d r : DeliveryRow) : Prop where
  id : r.id = d.id
  attempts : r.attempts = d.attempts + 1
  status : r.status = .delivered ∨ r.status = .dead
    ∨ (r.status = .pending
      ∧ r.nextAttemptAt = now + backoff (d.attempts + 1) * 1000)

/-- The time of a pass that delivers. -/
def Phase.time : Phase → Option Nat
  | .next now _ _ => some now
  | .sending now _ _ _ => some now
  | .succeeding now _ _ => some now
  | .failing now _ _ _ => some now
  | _ => none

/-- Each row picked is settled or still to come. -/
def Settling (w now : Nat) (picked : List DeliveryRow) (s : System) :
    Prop :=
  (∀ p, s.workers.get w = some p → p.time = some now
      ∧ ∀ e ∈ p.batch, e ∈ picked)
    ∧ ∀ d ∈ picked, (∃ r ∈ s.delivery, Settled now d r)
      ∨ ∃ p, s.workers.get w = some p ∧ d ∈ p.batch

/-- The pass of `w` runs on, its writes are acknowledged, and nobody else
writes deliveries. -/
def Undisturbed (w : Nat) (a : Act) (_ : System) : Prop :=
  match a with
  | .start v _ => v ≠ w
  | .record v delivery _ => v = w ∧ delivery = .acknowledged
  | .crash v => v ≠ w
  | .redeliver _ _ => False
  | _ => True

instance (w : Nat) (a : Act) (s : System) :
    Decidable (Undisturbed w a s) := by
  unfold Undisturbed
  split <;> infer_instance

theorem settled_succeeded {now : Nat} {d r : DeliveryRow}
    (hid : r.id = d.id) : Settled now d (succeeded now d r) :=
  ⟨hid, rfl, Or.inl rfl⟩

theorem settled_failed {now : Nat} {d r : DeliveryRow} (failure : Failure)
    (hid : r.id = d.id) : Settled now d (failed now d failure r) := by
  refine ⟨hid, rfl, ?_⟩
  by_cases hdead : failure.permanent = true ∨ maxAttempts ≤ d.attempts + 1
  · exact Or.inr (Or.inl (if_pos hdead))
  · exact Or.inr (Or.inr ⟨if_neg hdead, rfl⟩)

/-- Where a pass goes on, its batch shorter by the row it recorded. -/
theorem batchPhase_some {now : Nat} {rest : List DeliveryRow} {p : Phase}
    (h : batchPhase now rest = some p) :
    p.time = some now ∧ p.batch = rest := by
  cases rest with
  | nil => cases h
  | cons d rest =>
      injection h with h
      subst h
      exact ⟨rfl, rfl⟩

theorem mem_batchPhase {now : Nat} {rest : List DeliveryRow}
    {d : DeliveryRow} (h : d ∈ rest) :
    ∃ p, batchPhase now rest = some p ∧ d ∈ p.batch := by
  cases rest with
  | nil => cases h
  | cons e rest => exact ⟨_, rfl, h⟩

/-- Only recording and redelivering change rows. -/
theorem Did.delivery_prefix (h : Did cfg s a s')
    (hrecord : ∀ w delivery m, a ≠ .record w delivery m)
    (hredeliver : ∀ q t, a ≠ .redeliver q t) :
    s.delivery <+: s'.delivery := by
  cases h with
  | insert => exact Conflict.prefix_insertRow _ _
  | insertLost => exact Conflict.prefix_insertRow _ _
  | succeed => exact absurd rfl (hrecord _ _ _)
  | succeedLost => exact absurd rfl (hrecord _ _ _)
  | fail => exact absurd rfl (hrecord _ _ _)
  | failLost => exact absurd rfl (hrecord _ _ _)
  | redeliver => exact absurd rfl (hredeliver _ _)
  | _ => exact List.prefix_rfl

/-- A pass that has recorded `d` goes on with the rest. -/
theorem settling_of_record {w now : Nat} {picked : List DeliveryRow}
    {d : DeliveryRow} {rest : List DeliveryRow}
    {f : DeliveryRow → DeliveryRow} (hset : Settling w now picked s)
    {p : Phase} (hp : s.workers.get w = some p) (hbatch : p.batch = d :: rest)
    (hfiled : Filed s d)
    (hids : ∀ d ∈ picked, ∀ e ∈ picked, d.id = e.id → d = e)
    (hf : ∀ r, r.id = d.id → Settled now d (f r))
    (hdel : s'.delivery = Table.update (·.id) s.delivery d.id f)
    (hw : s'.workers.get w = batchPhase now rest) :
    Settling w now picked s' := by
  obtain ⟨htime, hsub⟩ := hset.1 p hp
  rw [hbatch] at hsub
  have hd : d ∈ picked := hsub d List.mem_cons_self
  constructor
  · intro p' hp'
    rw [hw] at hp'
    obtain ⟨htime', hbatch'⟩ := batchPhase_some hp'
    rw [hbatch']
    exact ⟨htime', fun e he => hsub e (List.mem_cons_of_mem _ he)⟩
  · intro e he
    by_cases hed : e = d
    · subst hed
      obtain ⟨r, hr, hsame⟩ := hfiled
      have hid : r.id = e.id := congrArg Prod.fst hsame
      refine Or.inl ⟨f r, ?_, hf r hid⟩
      rw [hdel]
      exact Table.update_mem hr hid
    · rcases hset.2 e he with ⟨r, hr, hsettled⟩ | ⟨q, hq, hmem⟩
      · have hne : r.id ≠ d.id := fun hrd =>
          hed (hids e he d hd (hsettled.id.symm.trans hrd))
        refine Or.inl ⟨r, ?_, hsettled⟩
        rw [hdel]
        exact Table.update_mem_of_ne hr hne
      · rw [hp] at hq
        injection hq with hq
        subst hq
        rw [hbatch] at hmem
        right
        rw [hw]
        rcases List.mem_cons.mp hmem with rfl | hmem
        · exact absurd rfl hed
        · exact mem_batchPhase hmem

/-- A pass that only goes on keeps what it has to do. -/
theorem settling_of_phase {w now : Nat} {picked : List DeliveryRow}
    (hset : Settling w now picked s) (hdel : s.delivery <+: s'.delivery)
    (hw : ∀ p', s'.workers.get w = some p' → ∃ p, s.workers.get w = some p
      ∧ p'.time = p.time ∧ p'.batch = p.batch)
    (hw' : ∀ p, s.workers.get w = some p → ∃ p',
      s'.workers.get w = some p' ∧ p'.batch = p.batch) :
    Settling w now picked s' := by
  constructor
  · intro p' hp'
    obtain ⟨p, hp, htime, hbatch⟩ := hw p' hp'
    rw [htime, hbatch]
    exact hset.1 p hp
  · intro d hd
    rcases hset.2 d hd with ⟨r, hr, hsettled⟩ | ⟨p, hp, hmem⟩
    · exact Or.inl ⟨r, hdel.subset hr, hsettled⟩
    · obtain ⟨p', hp', hbatch⟩ := hw' p hp
      exact Or.inr ⟨p', hp', by rwa [hbatch]⟩

theorem taken_batch (s : System) (now : Nat) (d : DeliveryRow)
    (rest : List DeliveryRow) : (taken s now d rest).time = some now
      ∧ (taken s now d rest).batch = d :: rest := by
  unfold taken
  split <;> exact ⟨rfl, rfl⟩

theorem afterAnswer_batch (now : Nat) (d : DeliveryRow)
    (rest : List DeliveryRow) (answer : Answer) :
    (afterAnswer now d rest answer).time = some now
      ∧ (afterAnswer now d rest answer).batch = d :: rest := by
  unfold afterAnswer
  split
  · exact ⟨rfl, rfl⟩
  · split <;> exact ⟨rfl, rfl⟩

/-- The same, with the phases before and after known. -/
theorem settling_of_moved {w now : Nat} {picked : List DeliveryRow}
    {p p' : Phase} (hset : Settling w now picked s)
    (hdel : s.delivery <+: s'.delivery) (hp : s.workers.get w = some p)
    (hp' : s'.workers.get w = some p')
    (hsame : p'.time = p.time ∧ p'.batch = p.batch) :
    Settling w now picked s' := by
  apply settling_of_phase hset hdel
  · intro q hq
    rw [hp'] at hq
    injection hq with hq
    subst hq
    exact ⟨p, hp, hsame⟩
  · intro q hq
    rw [hp] at hq
    injection hq with hq
    subst hq
    exact ⟨p', hp', hsame.2⟩

theorem Did.settling (h : Did cfg s a s') {seen : Sources → Prop}
    (hs : Sound cfg seen s) {w now : Nat} {picked : List DeliveryRow}
    (hids : ∀ d ∈ picked, ∀ e ∈ picked, d.id = e.id → d = e)
    (hok : Undisturbed w a s) (hset : Settling w now picked s) :
    Settling w now picked s' := by
  -- a pass that delivers is at none of the phases of a scan
  have hnone : ∀ p, s.workers.get w = some p → p.time ≠ none := by
    intro p hp htime
    rw [(hset.1 p hp).1] at htime
    cases htime
  by_cases hv : a.worker = some w
  case neg =>
    have hprefix : s.delivery <+: s'.delivery := by
      apply h.delivery_prefix
      · rintro v delivery m rfl
        exact hv (congrArg some hok.1)
      · rintro q t rfl
        exact hok
    apply settling_of_phase hset hprefix
    · intro p' hp'
      rw [h.others hv] at hp'
      exact ⟨p', hp', rfl, rfl⟩
    · intro p hp
      exact ⟨p, (h.others hv).trans hp, rfl⟩
  have htime : ∀ {p : Phase} {t : Nat}, s.workers.get w = some p →
      p.time = some t → t = now := by
    intro p t hp ht
    rw [(hset.1 p hp).1] at ht
    injection ht with ht
    exact ht.symm
  cases h with
  | start => cases hv; exact absurd rfl hok
  | select hw => cases hv; exact absurd rfl (hnone _ hw)
  | join hw => cases hv; exact absurd rfl (hnone _ hw)
  | insert hid hw => cases hv; exact absurd rfl (hnone _ hw)
  | insertLost hid hw => cases hv; exact absurd rfl (hnone _ hw)
  | insertFailed hw => cases hv; exact absurd rfl (hnone _ hw)
  | selectDue hpicked hw => cases hv; exact absurd rfl (hnone _ hw)
  | selectSubscription hw =>
      cases hv
      exact settling_of_moved hset List.prefix_rfl hw (moveTo_get_self _ _ _)
        (taken_batch s _ _ _)
  | refused he hw =>
      cases hv
      exact settling_of_moved hset List.prefix_rfl hw (moveTo_get_self _ _ _)
        ⟨rfl, rfl⟩
  | send hpost hw =>
      cases hv
      exact settling_of_moved hset List.prefix_rfl hw (moveTo_get_self _ _ _)
        (afterAnswer_batch _ _ _ _)
  | succeed hw =>
      cases hv
      obtain rfl := htime hw rfl
      exact settling_of_record hset hw rfl
        ((hs.passes _ _ hw).1 _ List.mem_cons_self) hids
        (fun r hr => settled_succeeded hr) rfl (proceed_get_self _ _ _ _)
  | fail hw =>
      cases hv
      obtain rfl := htime hw rfl
      exact settling_of_record hset hw rfl
        (hs.passes _ _ hw _ List.mem_cons_self) hids
        (fun r hr => settled_failed _ hr) rfl (proceed_get_self _ _ _ _)
  | succeedLost => cases hok.2
  | succeedFailed => cases hok.2
  | failLost => cases hok.2
  | failFailed => cases hok.2
  | crash => cases hv; exact absurd rfl hok
  | write => cases hv
  | createChecked => cases hv
  | create => cases hv
  | deactivate => cases hv
  | redeliverChecked => cases hv
  | redeliver => cases hv
  | abandon => cases hv

/-- A pass that delivers alone and undisturbed and is over has settled
every row of its batch: delivered, dead, or put off by the backoff of one
more attempt. -/
theorem batch_settled (cfg : Config) (pre : List Act) {w now : Nat}
    {picked : List DeliveryRow} {s₁ : System}
    (hpick : (machine cfg).apply (.selectDue w now picked)
      ((machine cfg).run (machine cfg).init pre) = .ok s₁)
    {as : List Act}
    (has : (machine cfg).Allowed (Undisturbed w) s₁ as)
    (hover : ((machine cfg).run s₁ as).workers.get w = none) :
    ∀ d ∈ picked, ∃ r ∈ ((machine cfg).run s₁ as).delivery,
      Settled now d r := by
  have hsound := sound_run cfg pre
  have hdid : Did cfg ((machine cfg).run (machine cfg).init pre)
      (.selectDue w now picked) s₁ := did_of_step hpick
  have hsound₁ : Sound cfg (fun _ => True) s₁ :=
    hdid.sound (hsound.mono fun _ _ => trivial) trivial
  have hbegun : Settling w now picked s₁
      ∧ ∀ d ∈ picked, ∀ e ∈ picked, d.id = e.id → d = e := by
    cases hdid with
    | selectDue hpicked hw =>
        refine ⟨⟨?_, ?_⟩, ?_⟩
        · intro p hp
          rw [proceed_get_self] at hp
          obtain ⟨htime, hbatch⟩ := batchPhase_some hp
          rw [hbatch]
          exact ⟨htime, fun e he => he⟩
        · intro d hd
          right
          rw [proceed_get_self]
          exact mem_batchPhase hd
        · intro d hd e he hid
          exact List.inj_on_of_nodup_map hsound.delivery_ids
            (hpicked.2.1 d hd).1 (hpicked.2.1 e he).1 hid
  obtain ⟨hset, hids⟩ := hbegun
  have hrun := Machine.run_induction
    (P := fun t => Sound cfg (fun _ => True) t ∧ Settling w now picked t)
    (fun t a t' ht hok happ =>
      ⟨(did_of_step happ).sound ht.1 trivial,
        (did_of_step happ).settling ht.1 hids hok ht.2⟩)
    ⟨hsound₁, hset⟩ has
  intro d hd
  rcases hrun.2.2 d hd with h | ⟨p, hp, -⟩
  · exact h
  · rw [hover] at hp
    cases hp

theorem batch_settled_demo :
    ∃ r ∈ ((machine Demo.config).run (machine Demo.config).init
        Demo.delivered).delivery, Settled 150000000 Demo.row r := by
  have hsplit : Demo.delivered
      = (Demo.scanned ++ [.selectDue 0 150000000 [Demo.row]])
        ++ Demo.delivering := by simp [Demo.delivered]
  rw [hsplit, Machine.run_append]
  have hpick : ((machine Demo.config).apply
      (.selectDue 0 150000000 [Demo.row])
      ((machine Demo.config).run (machine Demo.config).init
        Demo.scanned)).isOk = true := by decide +kernel
  exact @batch_settled Demo.config Demo.scanned 0 150000000 [Demo.row] _
    (Machine.apply_of_isOk hpick) Demo.delivering (by decide +kernel)
    (by decide +kernel) Demo.row List.mem_cons_self

end Ballast.Webhooks
