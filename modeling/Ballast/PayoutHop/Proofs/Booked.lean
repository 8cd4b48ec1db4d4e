/-
What was booked for a row, by its status (`Counted`): once when it is
`sent`, at most once when it waits to be booked, and nothing before.

The claim keeps the two writers of bookings apart. A call books the row it
holds, which is `claimed`; a repair books rows that wait, which nobody
holds (`Selected`). Whether a waiting row was booked after all, its
acknowledgement lost, the repair reads off the journal, by the id the
payout is booked under. `Clear` is what makes that reading right: where
the row's own pair is missing, no other payout's pair stands under its id.
-/
import Ballast.PayoutHop.Proofs.Claims

namespace Ballast.PayoutHop

open Soroban

variable {hop : Hop} {s s' : System} {a : Act} {i r : Nat} {c : Caller}
  {key : Text} {row now : PayoutForward}

-- ============================================================ the condition

/-- The row this step repairs. -/
def repairing (s : System) : Act → Option (Text × PayoutForward)
  | .repair r delivery =>
      if delivery = .rolledBack then none
      else (s.repairs.get r).bind List.head?
  | _ => none

/-- When a row is repaired that waits and was not booked, nothing is
booked under its id and its quote is on file. -/
def Clear (a : Act) (s : System) : Prop :=
  ∀ p ∈ repairing s a, isPending s.db p.1 = true →
    (∀ b ∈ s.written, b.fromTxHash ≠ p.1) →
    pairExists s.db p.2.refId = false
      ∧ ∀ q ∈ p.2.quoteId, q ∈ s.db.exitQuote

instance (a : Act) (s : System) : Decidable (Clear a s) :=
  inferInstanceAs (Decidable (∀ p ∈ repairing s a, _))

-- ============================================================ the invariant

/-- The bookings written for a row. -/
def bookingsOf (s : System) (key : Text) : List PayoutBooking :=
  s.written.filter (·.fromTxHash = key)

/-- The booking is the row's. -/
structure BookedAs (row : PayoutForward) (b : PayoutBooking) : Prop where
  amount : b.amount = row.amount
  refId : b.refId = row.refId

/-- The one booking of a row. -/
def BookedOnce (row : PayoutForward) (bs : List PayoutBooking) : Prop :=
  ∃ b, bs = [b] ∧ BookedAs row b

/-- What is booked for a row of each status. -/
def Counted (row : Option PayoutForward) (bs : List PayoutBooking) : Prop :=
  match row with
  | none => bs = []
  | some row =>
      match row.status with
      | .claimed => bs = []
      | .failed => bs = []
      | .bookkeepingPending =>
          row.txHash.isSome ∧ (bs = [] ∨ BookedOnce row bs)
      | .sent => BookedOnce row bs

/-- A row a repair selected is as it was then, or is sent by now, and
nobody holds it. -/
structure Selected (s : System) (p : Text × PayoutForward) : Prop where
  pending : p.2.status = .bookkeepingPending
  row : s.db.payoutForward.get p.1 = some p.2
    ∨ s.db.payoutForward.get p.1 = some { p.2 with status := .sent }
  nobody : ∀ i c, s.callers.get i = some c → c.stage.holds = true →
    c.key ≠ p.1

structure Booked (s : System) : Prop where
  journal : s.db.journalEntry.filter (·.refType = .payoutHop)
    = s.written.flatMap pairOf
  rows : ∀ key, Counted (s.db.payoutForward.get key) (bookingsOf s key)
  positive : ∀ key row, s.db.payoutForward.get key = some row →
    0 < row.amount
  repairs : ∀ r rows, s.repairs.get r = some rows → ∀ p ∈ rows,
    Selected s p

/-- Nothing is booked at the start. -/
theorem booked_init : Booked (machine hop).init where
  journal := rfl
  rows := by
    intro key
    rfl
  positive := by
    intro key row hrow
    cases hrow
  repairs := by
    intro r rows hrows
    cases hrows

/-- A claimed row has no booking yet. -/
theorem Counted.of_claimed {bs : List PayoutBooking}
    (h : Counted (some row) bs) (hstatus : row.status = .claimed) :
    bs = [] := by
  simpa only [Counted, hstatus] using h

/-- A sent one has one, of its own amount and id. -/
theorem Counted.of_sent {bs : List PayoutBooking}
    (h : Counted (some row) bs) (hstatus : row.status = .sent) :
    BookedOnce row bs := by
  simpa only [Counted, hstatus] using h

/-- A waiting one has at most one. -/
theorem Counted.of_pending {bs : List PayoutBooking}
    (h : Counted (some row) bs) (hstatus : row.status = .bookkeepingPending) :
    row.txHash.isSome ∧ (bs = [] ∨ BookedOnce row bs) := by
  simpa only [Counted, hstatus] using h

/-- No row has two. -/
theorem Counted.length_le {row : Option PayoutForward}
    {bs : List PayoutBooking} (h : Counted row bs) : bs.length ≤ 1 := by
  have honce : ∀ {row}, BookedOnce row bs → bs.length ≤ 1 := by
    rintro row ⟨b, rfl, -⟩
    exact le_rfl
  have hnone : bs = [] → bs.length ≤ 1 := by
    rintro rfl
    exact Nat.zero_le 1
  unfold Counted at h
  split at h
  · exact hnone h
  · split at h
    · exact hnone h
    · exact hnone h
    · exact h.2.elim hnone honce
    · exact honce h

/-- Nothing is booked for a row a claim is let through at. -/
theorem Booked.free (hbooked : Booked s) (hfree : Free s.db key) :
    bookingsOf s key = [] := by
  have hcounted := hbooked.rows key
  cases hrow : s.db.payoutForward.get key with
  | none =>
      rw [hrow] at hcounted
      exact hcounted
  | some row =>
      rw [hrow] at hcounted
      simpa only [Counted, hfree row hrow] using hcounted

/-- The journal shows what was booked under an id. -/
theorem Booked.pairExists_iff (hbooked : Booked s) {refId : Uuid} :
    pairExists s.db refId = true ↔ ∃ b ∈ s.written, b.refId = refId := by
  have hmem : ∀ e, (e ∈ s.db.journalEntry ∧ e.refType = .payoutHop)
      ↔ ∃ b ∈ s.written, e ∈ pairOf b := by
    intro e
    rw [← List.mem_flatMap, ← hbooked.journal, List.mem_filter,
      decide_eq_true_iff]
  unfold pairExists
  rw [List.any_eq_true]
  constructor
  · rintro ⟨e, he, hrefs⟩
    obtain ⟨htype, href⟩ := of_decide_eq_true hrefs
    obtain ⟨b, hb, he⟩ := (hmem e).mp ⟨he, htype⟩
    refine ⟨b, hb, ?_⟩
    rcases List.mem_pair.mp he with rfl | rfl
    · exact href
    · exact href
  · rintro ⟨b, hb, href⟩
    obtain ⟨he, htype⟩ := (hmem (debitOf b)).mpr
      ⟨b, hb, List.mem_cons_self⟩
    exact ⟨debitOf b, he, decide_eq_true ⟨htype, href⟩⟩

/-- The bookings of a row are those written from its hash. -/
theorem mem_bookingsOf {b : PayoutBooking} :
    b ∈ bookingsOf s key ↔ b ∈ s.written ∧ b.fromTxHash = key := by
  rw [bookingsOf, List.mem_filter, decide_eq_true_iff]

/-- A row that was selected and still waits is as it was. -/
theorem Selected.eq_of_pending {p : Text × PayoutForward} (h : Selected s p)
    (hnow : s.db.payoutForward.get p.1 = some now)
    (hpending : now.status = .bookkeepingPending) : now = p.2 := by
  rcases h.row with hrow | hrow <;> rw [hnow] at hrow
  · exact Option.some.inj hrow
  · rw [Option.some.inj hrow] at hpending
    cases hpending

/-- Nothing but a repair touches a row that was selected. -/
theorem Selected.step {p : Text × PayoutForward} (h : Selected s p)
    (hdid : Did hop s s' a) : Selected s' p where
  pending := h.pending
  row := by
    cases hdid.row p.1 with
    | same hsame =>
        rw [hsame]
        exact h.row
    | free hfree =>
        rcases h.row with hrow | hrow
        · have hfailed := hfree _ hrow
          rw [h.pending] at hfailed
          cases hfailed
        · cases hfree _ hrow
    | held hc hholds hkey => exact absurd hkey (h.nobody _ _ hc hholds)
    | taken hnow hpending hrow =>
        rw [h.eq_of_pending hnow hpending] at hrow
        exact .inr hrow
  nobody := by
    intro j d hd hholds hkey
    rcases hdid.holder hd hholds with ⟨c, hc, hc', hsame⟩ | hfree
    · exact h.nobody j c hc hc' (hsame.trans hkey)
    · rw [hkey] at hfree
      rcases h.row with hrow | hrow
      · have hfailed := hfree _ hrow
        rw [h.pending] at hfailed
        cases hfailed
      · cases hfree _ hrow

/-- A row that is selected waits, so nobody holds it. -/
theorem Held.selected (hheld : Held s) {rows : List (Text × PayoutForward)}
    (hselects : Selects s.db rows) {p : Text × PayoutForward}
    (hp : p ∈ rows) : Selected s p where
  pending := (hselects.2.1 p hp).2
  row := .inl (hselects.2.1 p hp).1
  nobody := fun _ _ hc hholds =>
    hheld.ne_of_pending (hselects.2.1 p hp).1 (hselects.2.1 p hp).2 hc hholds

-- ================================================================ the writes

/-- Bookings of another row. -/
theorem bookingsOf_append_ne {b : PayoutBooking} (hne : b.fromTxHash ≠ key)
    {db : Db} {repairs : Store Nat (List (Text × PayoutForward))}
    {callers : Store Nat Caller} :
    bookingsOf { s with
      db := db, callers := callers, repairs := repairs
      written := s.written ++ [b] } key = bookingsOf s key := by
  simp [bookingsOf, List.filter_append, hne]

/-- A first booking is the only one. -/
theorem bookingsOf_append_self {b : PayoutBooking} {db : Db}
    {repairs : Store Nat (List (Text × PayoutForward))}
    {callers : Store Nat Caller}
    (hnone : bookingsOf s b.fromTxHash = []) :
    bookingsOf { s with
      db := db, callers := callers, repairs := repairs
      written := s.written ++ [b] } b.fromTxHash = [b] := by
  unfold bookingsOf at hnone ⊢
  simp [List.filter_append, hnone]

/-- The journal holds the two entries of each booking, in order. -/
theorem journal_append {entries : List JournalEntry}
    {written : List PayoutBooking} (b : PayoutBooking)
    (h : entries.filter (·.refType = .payoutHop) = written.flatMap pairOf) :
    (entries ++ pairOf b).filter (·.refType = .payoutHop)
      = (written ++ [b]).flatMap pairOf := by
  rw [List.filter_append, h, List.flatMap_append]
  rfl

-- =============================================================== the fields

/-- One row changes, with what is booked for it. -/
theorem Booked.at_key (hbooked : Booked s) (key : Text)
    (hget : ∀ k, k ≠ key →
      s'.db.payoutForward.get k = s.db.payoutForward.get k)
    (hbookings : ∀ k, k ≠ key → bookingsOf s' k = bookingsOf s k)
    (hkey : Counted (s'.db.payoutForward.get key) (bookingsOf s' key))
    (k : Text) : Counted (s'.db.payoutForward.get k) (bookingsOf s' k) := by
  by_cases hk : k = key
  · rw [hk]
    exact hkey
  · rw [hget k hk, hbookings k hk]
    exact hbooked.rows k

/-- A row keeps its amount, or takes a request's. -/
theorem Did.amount (hdid : Did hop s s' a)
    (hrow : s'.db.payoutForward.get key = some row) :
    (∃ old, s.db.payoutForward.get key = some old
        ∧ row.amount = old.amount)
      ∨ ∃ i c, s.callers.get i = some c ∧ row.amount = c.args.amount := by
  have hclaim : ∀ {i c txHash}, s.callers.get i = some c →
      (claimOn s.db c txHash).payoutForward.get key = some row →
      (∃ old, s.db.payoutForward.get key = some old
          ∧ row.amount = old.amount)
        ∨ ∃ i c, s.callers.get i = some c ∧ row.amount = c.args.amount := by
    intro i c txHash hc hrow
    rw [get_claimOn] at hrow
    split at hrow
    · cases hrow
      exact .inr ⟨i, c, hc, rfl⟩
    · exact .inl ⟨row, hrow, rfl⟩
  have hupdate : ∀ {k f},
      (updateRow s.db k f).payoutForward.get key = some row →
      (∀ row : PayoutForward, (f row).amount = row.amount) →
      ∃ old, s.db.payoutForward.get key = some old
        ∧ row.amount = old.amount := by
    intro k f hrow hf
    rw [get_updateRow] at hrow
    split at hrow
    · next hk =>
      obtain ⟨old, hold, rfl⟩ := Option.map_eq_some_iff.mp hrow
      exact ⟨old, hk ▸ hold, hf old⟩
    · exact ⟨row, hrow, rfl⟩
  have htaken : ∀ {k now}, s.db.payoutForward.get k = some now →
      (takenOn s.db k now).payoutForward.get key = some row →
      ∃ old, s.db.payoutForward.get key = some old
        ∧ row.amount = old.amount := by
    intro k now hnow hrow
    rw [get_takenOn] at hrow
    split at hrow
    · next hk =>
      cases hrow
      exact ⟨now, hk ▸ hnow, rfl⟩
    · exact ⟨row, hrow, rfl⟩
  cases hdid with
  | claimed hc _ _ _ hs' =>
      subst hs'
      exact hclaim hc hrow
  | abandoned hc _ _ hs' =>
      subst hs'
      exact hclaim hc hrow
  | failed _ _ _ hs' =>
      subst hs'
      exact .inl (hupdate hrow fun _ => rfl)
  | booked _ _ _ hs' =>
      subst hs'
      exact .inl (hupdate hrow fun _ => rfl)
  | flagged _ _ hs' =>
      subst hs'
      exact .inl (hupdate hrow fun _ => rfl)
  | repaired _ hrepaired =>
      cases hrepaired with
      | skipped _ hs' =>
          subst hs'
          exact .inl ⟨row, hrow, rfl⟩
      | already hnow _ _ _ hs' =>
          subst hs'
          exact .inl (htaken hnow hrow)
      | booked hnow _ _ _ hs' =>
          subst hs'
          exact .inl (htaken hnow hrow)
  | _ =>
      subst_vars
      exact .inl ⟨row, hrow, rfl⟩

/-- What a repair has still to take, it has selected. -/
theorem Did.repairs (hdid : Did hop s s' a) (hheld : Held s)
    (hbooked : Booked s) (r : Nat) (rows : List (Text × PayoutForward))
    (hrows : s'.repairs.get r = some rows) (p : Text × PayoutForward)
    (hp : p ∈ rows) : Selected s' p := by
  refine Selected.step ?_ hdid
  have hrest : ∀ {r' key row rest},
      s.repairs.get r' = some ((key, row) :: rest) →
      (s.repairs.set r' rest).get r = some rows → Selected s p := by
    intro r' key row rest hget hrows
    rw [Store.get_set] at hrows
    split at hrows
    · cases hrows
      exact hbooked.repairs r' _ hget p (List.mem_cons_of_mem _ hp)
    · exact hbooked.repairs r rows hrows p hp
  cases hdid with
  | selected _ hselects hs' =>
      subst hs'
      rw [Store.get_set] at hrows
      split at hrows
      · cases hrows
        exact hheld.selected hselects hp
      · exact hbooked.repairs r rows hrows p hp
  | repaired hget hrepaired =>
      cases hrepaired <;> subst_vars <;> exact hrest hget hrows
  | ended hs' =>
      subst hs'
      rw [Store.get_remove] at hrows
      split at hrows
      · cases hrows
      · exact hbooked.repairs r rows hrows p hp
  | _ =>
      subst_vars
      exact hbooked.repairs r rows hrows p hp

/-- Amounts stay positive. -/
theorem Booked.positive_step (hbooked : Booked s) (hheld : Held s)
    (hdid : Did hop s s' a) (key : Text) (row : PayoutForward)
    (hrow : s'.db.payoutForward.get key = some row) : 0 < row.amount := by
  rcases hdid.amount hrow with ⟨old, hold, heq⟩ | ⟨i, c, hc, heq⟩
  · rw [heq]
    exact hbooked.positive key old hold
  · rw [heq]
    exact hheld.positive i c hc

/-- The journal grows by the pair of what is written, or by others'
entries. -/
theorem Booked.journal_step (hbooked : Booked s) (hdid : Did hop s s' a) :
    s'.db.journalEntry.filter (·.refType = .payoutHop)
      = s'.written.flatMap pairOf := by
  cases hdid with
  | booked _ _ _ hs' =>
      subst hs'
      exact journal_append _ hbooked.journal
  | repaired _ hrepaired =>
      cases hrepaired with
      | skipped _ hs' =>
          subst hs'
          exact hbooked.journal
      | already _ _ _ _ hs' =>
          subst hs'
          exact hbooked.journal
      | booked _ _ _ _ hs' =>
          subst hs'
          exact journal_append _ hbooked.journal
  | posted hother hs' =>
      subst hs'
      show (s.db.journalEntry ++ [_]).filter _ = _
      rw [List.filter_append, hbooked.journal]
      simp [hother]
  | _ =>
      subst_vars
      exact hbooked.journal

/-- The row of a holder, before its booking committed. -/
theorem Held.claimed (hheld : Held s) (hc : s.callers.get i = some c)
    (hholds : c.stage.holds = true) (hstage : ∀ h, c.stage ≠ .unbooked h) :
    ∃ row, s.db.payoutForward.get c.key = some row ∧ row.status = .claimed
      ∧ row.amount = c.args.amount ∧ row.refId = c.refId := by
  obtain ⟨row, hrow, hr⟩ := hheld.row i c hc hholds
  rcases hr.status with hclaimed | ⟨-, h, hunbooked⟩
  · exact ⟨row, hrow, hclaimed, hr.amount, hr.refId⟩
  · exact absurd hunbooked (hstage h)

/-- What a repair does with its next row keeps the count. -/
theorem Booked.repaired (hbooked : Booked s) {delivery : Delivery}
    {rest : List (Text × PayoutForward)} (hclear : Clear (.repair r delivery) s)
    (hrows : s.repairs.get r = some ((key, row) :: rest))
    (hdid : Repaired s s' r delivery key row rest) (k : Text) :
    Counted (s'.db.payoutForward.get k) (bookingsOf s' k) := by
  have hselected : Selected s (key, row) :=
    hbooked.repairs r _ hrows _ List.mem_cons_self
  -- the row is the one selected, and is booked exactly when its id is
  have hread : ∀ {now}, s.db.payoutForward.get key = some now →
      now.status = .bookkeepingPending → delivery ≠ .rolledBack →
      now = row ∧ (pairExists s.db row.refId = true →
        BookedOnce row (bookingsOf s key))
        ∧ (pairExists s.db row.refId = false → bookingsOf s key = []) := by
    intro now hnow hpending hback
    have heq := hselected.eq_of_pending hnow hpending
    subst heq
    have hcounted := hbooked.rows key
    rw [hnow] at hcounted
    refine ⟨rfl, ?_, ?_⟩ <;> intro hpair <;>
      rcases (hcounted.of_pending hpending).2 with hnone | honce
    · have hmissing : ∀ b ∈ s.written, b.fromTxHash ≠ key := by
        intro b hb hkey
        have hmem := mem_bookingsOf.mpr ⟨hb, hkey⟩
        rw [hnone] at hmem
        cases hmem
      have hrepairing :
          (key, now) ∈ repairing s (.repair r delivery) := by
        simp [repairing, hback, hrows]
      have hclear' := (hclear _ hrepairing
        (isPending_eq.mpr ⟨now, hnow, hpending⟩) hmissing).1
      rw [hpair] at hclear'
      cases hclear'
    · exact honce
    · exact hnone
    · obtain ⟨b, hb, hbooked'⟩ := honce
      have hexists := hbooked.pairExists_iff.mpr ⟨b,
        (mem_bookingsOf.mp (hb ▸ List.mem_singleton_self b)).1,
        hbooked'.refId⟩
      rw [hpair] at hexists
      cases hexists
  cases hdid with
  | skipped _ hs' =>
      subst hs'
      exact hbooked.rows k
  | already hnow hpending hback hpair hs' =>
      subst hs'
      obtain ⟨rfl, honce, -⟩ := hread hnow hpending hback
      refine hbooked.at_key key ?_ ?_ ?_ k
      · intro k hk
        exact (get_takenOn k).trans (if_neg hk)
      · intro k _
        rfl
      · show Counted ((takenOn s.db key _).payoutForward.get key) _
        rw [get_takenOn, if_pos rfl]
        obtain ⟨b, hb, has⟩ := honce hpair
        exact ⟨b, hb, has.amount, has.refId⟩
  | booked hnow hpending hback hpair hs' =>
      subst hs'
      obtain ⟨rfl, -, hnone⟩ := hread hnow hpending hback
      refine hbooked.at_key key ?_ ?_ ?_ k
      · intro k hk
        exact (get_takenOn k).trans (if_neg hk)
      · intro k hk
        exact bookingsOf_append_ne fun h => hk h.symm
      · show Counted ((takenOn s.db key _).payoutForward.get key) _
        rw [get_takenOn, if_pos rfl]
        exact ⟨_, bookingsOf_append_self (hnone hpair), rfl, rfl⟩

/-- Every clear step keeps each row's count. -/
theorem Booked.rows_step (hbooked : Booked s) (hheld : Held s)
    (hclear : Clear a s) (hdid : Did hop s s' a) (k : Text) :
    Counted (s'.db.payoutForward.get k) (bookingsOf s' k) := by
  cases hdid with
  | @claimed i c txHash _ _ _ _ hfree hs' =>
      subst hs'
      refine hbooked.at_key c.key ?_ ?_ ?_ k
      · intro k hk
        exact (get_claimOn k).trans (if_neg hk)
      · intro k _
        rfl
      · show Counted ((claimOn s.db c txHash).payoutForward.get c.key) _
        rw [get_claimOn, if_pos rfl]
        -- a free row has no booking, whether it is new or had failed
        exact hbooked.free hfree
  | @abandoned i c txHash _ _ _ hfree hs' =>
      subst hs'
      refine hbooked.at_key c.key ?_ ?_ ?_ k
      · intro k hk
        exact (get_claimOn k).trans (if_neg hk)
      · intro k _
        rfl
      · show Counted ((claimOn s.db c txHash).payoutForward.get c.key) _
        rw [get_claimOn, if_pos rfl]
        exact hbooked.free hfree
  | @failed i c h _ hc hstage _ hs' =>
      subst hs'
      obtain ⟨row, hrow, hclaimed, -⟩ := hheld.claimed hc
        (by rw [hstage]; rfl) (by rw [hstage]; intro; exact Stage.noConfusion)
      have hcounted := hbooked.rows c.key
      rw [hrow] at hcounted
      refine hbooked.at_key c.key ?_ ?_ ?_ k
      · intro k hk
        exact (get_updateRow k).trans (if_neg hk)
      · intro k _
        rfl
      · show Counted ((updateRow s.db c.key _).payoutForward.get c.key) _
        rw [get_updateRow, if_pos rfl, hrow]
        exact hcounted.of_claimed hclaimed
  | @booked i c h fills callers _ hc hstage _ hs' =>
      subst hs'
      obtain ⟨row, hrow, hclaimed, hamount, href⟩ := hheld.claimed hc
        (by rw [hstage]; rfl) (by rw [hstage]; intro; exact Stage.noConfusion)
      have hcounted := hbooked.rows c.key
      rw [hrow] at hcounted
      refine hbooked.at_key c.key ?_ ?_ ?_ k
      · intro k hk
        exact (get_updateRow k).trans (if_neg hk)
      · intro k hk
        exact bookingsOf_append_ne fun h => hk h.symm
      · show Counted ((updateRow s.db c.key _).payoutForward.get c.key) _
        rw [get_updateRow, if_pos rfl, hrow]
        exact ⟨bookingOf c h,
          -- the first booking of a row that had none
          bookingsOf_append_self (hcounted.of_claimed hclaimed),
          hamount.symm, href.symm⟩
  | @flagged i c h _ hc hstage hs' =>
      subst hs'
      obtain ⟨row, hrow, hr⟩ := hheld.row i c hc (by rw [hstage]; rfl)
      have hcounted := hbooked.rows c.key
      rw [hrow] at hcounted
      refine hbooked.at_key c.key ?_ ?_ ?_ k
      · intro k hk
        exact (get_updateRow k).trans (if_neg hk)
      · intro k _
        rfl
      · show Counted ((updateRow s.db c.key _).payoutForward.get c.key) _
        rw [get_updateRow, if_pos rfl, hrow]
        refine ⟨rfl, ?_⟩
        -- it may have been booked after all, and the call has not heard of
        -- it
        rcases hr.status with hclaimed | ⟨hsent, -⟩
        · exact .inl (hcounted.of_claimed hclaimed)
        · obtain ⟨b, hb, has⟩ := hcounted.of_sent hsent
          exact .inr ⟨b, hb, has.amount, has.refId⟩
  | repaired hrows hrepaired => exact hbooked.repaired hclear hrows hrepaired k
  | _ =>
      subst_vars
      exact hbooked.rows k

/-- So it keeps the whole of `Booked`. -/
theorem booked_step (hbooked : Booked s) (hheld : Held s)
    (hclear : Clear a s) (hdid : Did hop s s' a) : Booked s' where
  journal := hbooked.journal_step hdid
  rows := hbooked.rows_step hheld hclear hdid
  positive := hbooked.positive_step hheld hdid
  repairs := hdid.repairs hheld hbooked

end Ballast.PayoutHop
