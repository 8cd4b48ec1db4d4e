/-
Every paid payout is booked exactly once, in every run that meets `Clear`,
and a repair none of whose own statements fails sends every row it
selected, whatever happens in between (`Tracked`). Two runs in which a
shared quote, or one that is not on file, breaks it.

# A repair

A repair reads the rows that wait and takes them one after another, with
other calls going on in between. A row it selected can only have been
sent meanwhile (`Selected.sent_step`), so booking what it selected is
never late. With nothing in between it is `bookPendingPayouts`
(`run_repair`).

# The two runs

A payout is booked under its quote's id when it has one, and a repair
asks the journal by that id. In one run two payouts share a quote and
the pair of the first stands for the second; in the other the quote is
not on file, so the pair cannot be written at all.
-/
import Ballast.PayoutHop.Proofs.Booked
import Ballast.PayoutHop.Proofs.Paid

namespace Ballast.PayoutHop

open Soroban

variable {hop : Hop} {s s' : System} {a : Act} {r : Nat} {key : Text}
  {row : PayoutForward}

-- ======================================================= a run of the repair

/-- The statements of the repair `r` all get through, and it is not
stopped. -/
def FaultFree (r : Nat) (acts : List Act) : Prop :=
  (∀ delivery, .repair r delivery ∈ acts → delivery = .acknowledged)
    ∧ .endRepair r ∉ acts

/-- Each of the rows is sent, or still to be taken. -/
def Tracked (r : Nat) (rows : List (Text × PayoutForward)) (s : System) :
    Prop :=
  ∀ p ∈ rows, Selected s p
    ∧ (s.db.payoutForward.get p.1 = some { p.2 with status := .sent }
      ∨ ∃ rest, s.repairs.get r = some rest ∧ p ∈ rest)

/-- A sent row that was selected stays sent. -/
theorem Selected.sent_step {p : Text × PayoutForward} (h : Selected s p)
    (hsent : s.db.payoutForward.get p.1 = some { p.2 with status := .sent })
    (hdid : Did hop s s' a) :
    s'.db.payoutForward.get p.1 = some { p.2 with status := .sent } := by
  cases hdid.row p.1 with
  | same hsame => exact hsame.trans hsent
  | free hfree => cases hfree _ hsent
  | held hc hholds hkey => exact absurd hkey (h.nobody _ _ hc hholds)
  | taken hnow hpending _ =>
      rw [hsent] at hnow
      rw [← Option.some.inj hnow] at hpending
      cases hpending

/-- A repair that is acknowledged sends its row. -/
theorem Booked.sends (hbooked : Booked s)
    {rest : List (Text × PayoutForward)}
    (hclear : Clear (.repair r .acknowledged) s)
    (hrows : s.repairs.get r = some ((key, row) :: rest))
    (hdid : Repaired s s' r .acknowledged key row rest) :
    s'.db.payoutForward.get key = some { row with status := .sent } := by
  have hselected : Selected s (key, row) :=
    hbooked.repairs r _ hrows _ List.mem_cons_self
  cases hdid with
  | skipped hwhy hs' =>
      subst hs'
      rcases hselected.row with hrow | hrow
      · -- it waits, so it was not skipped
        have hpending := isPending_eq.mpr ⟨row, hrow, hselected.pending⟩
        have hcounted := hbooked.rows key
        rw [hrow] at hcounted
        obtain ⟨htx, hcount⟩ := hcounted.of_pending hselected.pending
        rcases hwhy with hback | hnot | ⟨hpair, hunbookable⟩
        · cases hback
        · rw [hpending] at hnot
          cases hnot
        · have hmissing : ∀ b ∈ s.written, b.fromTxHash ≠ key := by
            intro b hb hkey
            have hmem := mem_bookingsOf.mpr ⟨hb, hkey⟩
            rcases hcount with hnone | ⟨b', hb', has⟩
            · rw [hnone] at hmem
              cases hmem
            · rw [hb'] at hmem
              cases List.mem_singleton.mp hmem
              have hexists :=
                hbooked.pairExists_iff.mpr ⟨b, hb, has.refId⟩
              rw [hpair] at hexists
              cases hexists
          have hfiled := (hclear (key, row) (by simp [repairing, hrows])
            hpending hmissing).2
          exact absurd ⟨htx, hbooked.positive key row hrow, hfiled⟩
            hunbookable
      · exact hrow
  | already hnow hpending _ _ hs' =>
      subst hs'
      have heq := hselected.eq_of_pending hnow hpending
      rw [← show _ = row from heq]
      exact (get_takenOn key).trans (if_pos rfl)
  | booked hnow hpending _ _ hs' =>
      subst hs'
      have heq := hselected.eq_of_pending hnow hpending
      rw [← show _ = row from heq]
      exact (get_takenOn key).trans (if_pos rfl)

theorem tracked_step {rows : List (Text × PayoutForward)}
    (htracked : Tracked r rows s) (hbooked : Booked s) (hclear : Clear a s)
    (hfault : FaultFree r [a]) (hdid : Did hop s s' a) :
    Tracked r rows s' := by
  intro p hp
  obtain ⟨hselected, hsent | ⟨rest, hrest, hmem⟩⟩ := htracked p hp
  · exact ⟨hselected.step hdid, .inl (hselected.sent_step hsent hdid)⟩
  refine ⟨hselected.step hdid, ?_⟩
  cases hdid with
  | @selected r' rows' hnone _ hs' =>
      subst hs'
      have hne : r ≠ r' := by
        rintro rfl
        rw [hnone] at hrest
        cases hrest
      exact .inr ⟨rest, (Store.get_set_ne _ _ hne).trans hrest, hmem⟩
  | @repaired r' delivery key row rest' hrows hrepaired =>
      have hrepairs : s'.repairs = s.repairs.set r' rest' := by
        cases hrepaired <;> subst_vars <;> rfl
      by_cases hr : r = r'
      · subst hr
        rw [hrows] at hrest
        cases hrest
        cases hfault.1 delivery List.mem_cons_self
        rcases List.mem_cons.mp hmem with rfl | hmem
        · exact .inl (hbooked.sends hclear hrows hrepaired)
        · refine .inr ⟨rest', ?_, hmem⟩
          rw [hrepairs, Store.get_set_self]
      · refine .inr ⟨rest, ?_, hmem⟩
        rw [hrepairs, Store.get_set_ne _ _ hr, hrest]
  | @ended r' hs' =>
      subst hs'
      have hne : r ≠ r' := by
        rintro rfl
        exact hfault.2 List.mem_cons_self
      exact .inr ⟨rest, (Store.get_remove_ne _ hne).trans hrest, hmem⟩
  | booked _ _ _ hs' =>
      subst hs'
      exact .inr ⟨rest, hrest, hmem⟩
  | _ =>
      subst_vars
      exact .inr ⟨rest, hrest, hmem⟩

-- ========================================================== what it computes

/-- An acknowledged step of a repair is one turn of `bookPendingPayouts`'
loop. -/
theorem repairStep_next (hop : Hop) {rest : List (Text × PayoutForward)}
    {p : Text × PayoutForward} (result : RepairResult)
    (hrows : s.repairs.get r = some (p :: rest)) :
    ∃ s', (machine hop).apply (.repair r .acknowledged) s = .ok s'
      ∧ s'.db = (repairNext (result, s.db) p).2
      ∧ s'.repairs.get r = some rest := by
  obtain ⟨key, row⟩ := p
  cases hrepair : repairRow s.db key row with
  | error e =>
      refine ⟨{ s with repairs := s.repairs.set r rest }, ?_, ?_,
        Store.get_set_self _ _ _⟩
      · simp only [machine, step, repairStep, hrows, bind_ok, expect_ok]
        exact ⟨_, rfl, by simp [hrepair]⟩
      · simp only [repairNext, hrepair]
  | ok out =>
      obtain ⟨outcome, db⟩ := out
      cases outcome with
      | taken =>
          refine ⟨{ s with repairs := s.repairs.set r rest, db := db }, ?_,
            ?_, Store.get_set_self _ _ _⟩
          · simp only [machine, step, repairStep, hrows, bind_ok, expect_ok]
            exact ⟨_, rfl, by simp [hrepair]⟩
          · simp only [repairNext, hrepair]
      | already =>
          refine ⟨{ s with repairs := s.repairs.set r rest, db := db }, ?_,
            ?_, Store.get_set_self _ _ _⟩
          · simp only [machine, step, repairStep, hrows, bind_ok, expect_ok]
            exact ⟨_, rfl, by simp [hrepair]⟩
          · simp only [repairNext, hrepair]
      | booked =>
          refine ⟨{ s with
            repairs := s.repairs.set r rest, db := db
            written := s.written ++ [rowBooking key row] }, ?_, ?_,
            Store.get_set_self _ _ _⟩
          · simp only [machine, step, repairStep, hrows, bind_ok, expect_ok]
            exact ⟨_, rfl, by simp [hrepair]⟩
          · simp only [repairNext, hrepair]

/-- A repair nothing comes between computes `bookPendingPayouts`. -/
theorem run_repair {rows : List (Text × PayoutForward)}
    (hrows : s.repairs.get r = some rows) :
    let s' := (machine hop).run s
      (List.replicate rows.length (.repair r .acknowledged))
    s'.db = (bookPendingPayouts s.db rows).2
      ∧ s'.repairs.get r = some [] := by
  have hloop : ∀ (rows : List (Text × PayoutForward)) (s : System)
      (result : RepairResult), s.repairs.get r = some rows →
      let s' := (machine hop).run s
        (List.replicate rows.length (.repair r .acknowledged))
      s'.db = (rows.foldl repairNext (result, s.db)).2
        ∧ s'.repairs.get r = some [] := by
    intro rows
    induction rows with
    | nil =>
        intro s result hrows
        exact ⟨rfl, hrows⟩
    | cons p rest ih =>
        intro s result hrows
        obtain ⟨s₁, happ, hdb, hrest⟩ :=
          repairStep_next hop result hrows
        rw [List.length_cons, List.replicate_succ, Machine.run_cons,
          Machine.exec_of_ok happ, List.foldl_cons]
        have hnext := ih s₁ (repairNext (result, s.db) p).1 hrest
        rw [hdb] at hnext
        exact hnext
  exact hloop rows s ⟨[], [], []⟩ hrows

-- ================================================================== the runs

theorem booked_run {acts : List Act} (hstart : Held s ∧ Booked s)
    (hclear : (machine hop).Allowed Clear s acts) :
    Held ((machine hop).run s acts) ∧ Booked ((machine hop).run s acts) := by
  refine Machine.run_induction (P := fun s => Held s ∧ Booked s) ?_ hstart
    hclear
  rintro s a s' ⟨hheld, hbooked⟩ hok happ
  have hdid := step_did happ
  exact ⟨held_step hheld hdid, booked_step hbooked hheld hok hdid⟩

/-- A repair that selected its rows and had no fault of its own has sent
them all when none is left to take. -/
theorem repaired_run {acts : List Act} {rows : List (Text × PayoutForward)}
    (hheld : Held s) (hbooked : Booked s)
    (hselect : (machine hop).apply (.selectPending r rows) s = .ok s')
    (hclear : (machine hop).Allowed Clear s' acts)
    (hfault : FaultFree r acts)
    (hdone : ((machine hop).run s' acts).repairs.get r = some [])
    (hpending : isPending s.db key = true) : ∃ row,
      ((machine hop).run s' acts).db.payoutForward.get key = some row
        ∧ row.status = .sent := by
  have hdid := step_did hselect
  have hheld' := held_step hheld hdid
  have hbooked' : Booked s' := by
    refine booked_step hbooked hheld ?_ hdid
    intro p hp
    cases hp
  simp only [machine, step, selectPending, bind_ok, ensure_ok,
    pure_ok] at hselect
  obtain ⟨-, -, -, hselects, rfl⟩ := hselect
  have hstart : Tracked r rows
      { s with repairs := s.repairs.set r rows } := by
    intro p hp
    exact ⟨hbooked'.repairs r rows (Store.get_set_self _ _ _) p hp,
      .inr ⟨rows, Store.get_set_self _ _ _, hp⟩⟩
  have hfaults : (machine hop).Allowed (fun a _ => FaultFree r [a])
      { s with repairs := s.repairs.set r rows } acts := by
    apply Machine.allowed_of_prefix
    rintro pre a post rfl
    refine ⟨fun delivery ha => hfault.1 delivery ?_, fun ha => hfault.2 ?_⟩
    · rw [List.mem_singleton.mp ha]
      simp
    · rw [List.mem_singleton.mp ha]
      simp
  obtain ⟨-, -, htracked⟩ : Held _ ∧ Booked _
      ∧ Tracked r rows ((machine hop).run _ acts) := by
    refine Machine.run_induction
      (P := fun s => Held s ∧ Booked s ∧ Tracked r rows s) ?_
      ⟨hheld', hbooked', hstart⟩ (hclear.and hfaults)
    rintro s a s' ⟨hheld, hbooked, htracked⟩ ⟨hok, hfault⟩ happ
    have hdid := step_did happ
    exact ⟨held_step hheld hdid, booked_step hbooked hheld hok hdid,
      tracked_step htracked hbooked hok hfault hdid⟩
  obtain ⟨now, hnow, -⟩ := isPending_eq.mp hpending
  have hkey : key ∈ s.db.payoutForward.keys := by
    rw [s.db.payoutForward.mem_keys, hnow]
    rfl
  obtain ⟨p, hp, rfl⟩ := List.mem_map.mp (hselects.2.2 key hkey hpending)
  rcases (htracked p hp).2 with hsent | ⟨rest, hrest, hmem⟩
  · exact ⟨_, hsent, rfl⟩
  · rw [hdone] at hrest
    cases hrest
    cases hmem

/-- In every run in which a row that waits unbooked is repaired only while
nothing is booked under its id and its quote is on file: the hop's entries
on the journal are the pairs it wrote, a row is sent only with exactly one
booking of its amount, none has two, and a repair without a fault of its
own sends every row that waited when it began. -/
theorem payouts_booked_once (hop : Hop) (acts : List Act)
    (hclear : (machine hop).Allowed Clear (machine hop).init acts) :
    let M := machine hop
    let s := M.run M.init acts
    s.db.journalEntry.filter (·.refType = .payoutHop)
        = s.written.flatMap pairOf
      ∧ (∀ key row, s.db.payoutForward.get key = some row →
        row.status = .sent → BookedOnce row (bookingsOf s key))
      ∧ (∀ key, (bookingsOf s key).length ≤ 1)
      ∧ ∀ pre r rows post s₁, acts = pre ++ .selectPending r rows :: post →
        M.apply (.selectPending r rows) (M.run M.init pre) = .ok s₁ →
        FaultFree r post → s.repairs.get r = some [] →
        ∀ key, isPending (M.run M.init pre).db key = true → ∃ row,
          s.db.payoutForward.get key = some row ∧ row.status = .sent := by
  intro M s
  obtain ⟨-, hbooked⟩ := booked_run ⟨held_init, booked_init⟩ hclear
  refine ⟨hbooked.journal, ?_, fun key => (hbooked.rows key).length_le, ?_⟩
  · intro key row hrow hsent
    have hcounted := hbooked.rows key
    rw [hrow] at hcounted
    exact hcounted.of_sent hsent
  · rintro pre r rows post s₁ rfl happ hfault hdone key hpending
    obtain ⟨hpre, -, hpost⟩ := Machine.Allowed.append.mp hclear
    have hrun : s = M.run s₁ post := by
      show M.run M.init (pre ++ .selectPending r rows :: post) = _
      rw [Machine.run_append, Machine.run_cons, Machine.exec_of_ok happ]
    rw [Machine.exec_of_ok happ] at hpost
    obtain ⟨hheld', hbooked'⟩ :=
      booked_run ⟨held_init, booked_init⟩ hpre
    rw [hrun] at hdone ⊢
    exact repaired_run hheld' hbooked' happ hpost hfault hdone hpending

-- =========================================================== three histories

namespace Demo

/-- Another first leg. -/
def second : Text := List.replicate 64 'b'

/-- A call pays, and its payment is accepted. -/
def paid (i : Nat) (key : Text) (quoteId : Option Uuid) : List Act :=
  arrive i key quoteId
    ++ [.insert i .acknowledged, .submit i i, .close i true,
      .answered i "PENDING"]

/-- The row of a payout that waits to be booked. -/
def waiting (i : Nat) (refId : Uuid) (quoteId : Option Uuid) :
    PayoutForward :=
  ⟨anchor, 500, ['7'], .bookkeepingPending, some i, refId, quoteId⟩

/-- The booking fails, and a repair takes the row. -/
def repairedLater (i : Nat) (delivery : Delivery) (key : Text)
    (refId : Uuid) (quoteId : Option Uuid) : List Act :=
  paid i key quoteId
    ++ [.book i delivery, .markUnbooked i .acknowledged,
      .selectPending 1 [(key, waiting i refId quoteId)],
      .repair 1 .acknowledged]

/-- The booking commits and the call does not hear of it. -/
def unheard : List Act := repairedLater 1 .lost small 1 none

/-- Two payouts for one quote; the second is not booked at first. -/
def sharedQuote : List Act :=
  [.quote 9] ++ paid 1 small (some 9) ++ [.book 1 .acknowledged]
    ++ repairedLater 2 .rolledBack second 9 (some 9)

/-- A payout for a quote that is not on file. -/
def unfiledQuote : List Act :=
  repairedLater 1 .acknowledged small 9 (some 9)

end Demo

theorem payouts_booked_once_unheard :
    let M := machine Demo.payoutHop
    let s := M.run M.init Demo.unheard
    s.db.journalEntry.filter (·.refType = .payoutHop)
        = s.written.flatMap pairOf
      ∧ (∀ key row, s.db.payoutForward.get key = some row →
        row.status = .sent → BookedOnce row (bookingsOf s key))
      ∧ (∀ key, (bookingsOf s key).length ≤ 1)
      ∧ ∀ pre r rows post s₁,
        Demo.unheard = pre ++ .selectPending r rows :: post →
        M.apply (.selectPending r rows) (M.run M.init pre) = .ok s₁ →
        FaultFree r post → s.repairs.get r = some [] →
        ∀ key, isPending (M.run M.init pre).db key = true → ∃ row,
          s.db.payoutForward.get key = some row ∧ row.status = .sent :=
  payouts_booked_once Demo.payoutHop Demo.unheard (by decide +kernel)

/-- Every step of the history was taken, the repair has no row left, and
the row of `key` has `status` and no booking. -/
def LeftUnbooked (history : List Act) (key : Text)
    (status : ForwardStatus) : Prop :=
  let M := machine Demo.payoutHop
  let s := M.run M.init history
  (M.trace M.init history).length = history.length
    ∧ s.repairs.get 1 = some []
    ∧ (s.db.payoutForward.get key).any (·.status = status) = true
    ∧ bookingsOf s key = []

instance (history : List Act) (key : Text) (status : ForwardStatus) :
    Decidable (LeftUnbooked history key status) :=
  inferInstanceAs (Decidable (_ ∧ _))

/-- The second payout for a quote is sent without a pair, and one for a
quote that is not on file waits for ever. -/
theorem left_unbooked : LeftUnbooked Demo.sharedQuote Demo.second .sent
    ∧ LeftUnbooked Demo.unfiledQuote Demo.small .bookkeepingPending := by
  decide +kernel

end Ballast.PayoutHop
