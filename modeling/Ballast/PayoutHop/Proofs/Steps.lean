/-
What a committed step of the hop did: one constructor of `Did` for each
kind of effect, with what the step had to find to get there. `Goes` are
the moves of a call that write nothing, `Repaired` what a repair did with
its next row.

# What the lemmas report

Every step is one statement of `hop.ts` or `repair.ts` against the
table, the network or the journal, and may end in one of several ways:
the row was won or lost, the acknowledgement came or did not, the answer
was a success, a refusal or silence. `Did` has a constructor for each
effect, not for each way, so that a later proof sees how the table
changed and does not ask why. The bookings come first because both the
hop and the repair make them, and a booking is all or nothing: either
the whole journal pair and the fill are written, or the transaction is
rolled back (`bookPayout_commits` says when it goes through).
-/
import Ballast.PayoutHop.System

namespace Ballast.PayoutHop

open Soroban

variable {hop : Hop} {s s' : System}

-- ============================================================== the booking

/-- The entries of one booking. -/
def pairOf (b : PayoutBooking) : List JournalEntry := [debitOf b, creditOf b]

/-- An entry that passes its checks is appended, and nothing else
changes. -/
theorem recordJournalEntry_ok {db db' : Db} {e : JournalEntry}
    (h : recordJournalEntry db e = .ok db') :
    db' = { db with journalEntry := db.journalEntry ++ [e] } := by
  simp only [recordJournalEntry, bind_ok, ensure_ok, pure_ok] at h
  obtain ⟨-, -, -, -, rfl⟩ := h
  rfl

/-- The fill of a quote touches the fills alone. -/
theorem insertExitFill_ok {db db' : Db} {b : PayoutBooking}
    (h : insertExitFill db b = .ok db') :
    ∃ fills, db' = { db with exitFill := fills } := by
  unfold insertExitFill at h
  split at h
  · exact ⟨db.exitFill, (pure_ok.mp h).symm⟩
  · simp only [bind_ok, ensure_ok, pure_ok] at h
    obtain ⟨-, -, rfl⟩ := h
    exact ⟨_, rfl⟩

/-- A database with a booking on it. -/
def bookedOn (db : Db) (fills : List ExitFill) (b : PayoutBooking) : Db :=
  { db with
    exitFill := fills, journalEntry := db.journalEntry ++ pairOf b }

/-- A booking that commits puts its pair at the end of the journal. -/
theorem bookPayout_ok {db db' : Db} {b : PayoutBooking}
    (h : bookPayout db b = .ok db') : ∃ fills, db' = bookedOn db fills b := by
  simp only [bookPayout, bind_ok] at h
  obtain ⟨db₁, h₁, db₂, h₂, h₃⟩ := h
  obtain ⟨fills, rfl⟩ := insertExitFill_ok h₁
  rw [recordJournalEntry_ok h₂] at h₃
  rw [recordJournalEntry_ok h₃]
  exact ⟨fills, by simp [bookedOn, pairOf, List.append_assoc]⟩

/-- What a booking needs to commit. -/
structure Bookable (exitQuote : List Uuid) (amount : Int)
    (quoteId : Option Uuid) : Prop where
  positive : 0 < amount
  filed : ∀ q, quoteId = some q → q ∈ exitQuote

/-- A fill is refused only for a quote that is not on file. -/
theorem insertExitFill_commits {db : Db} {b : PayoutBooking}
    (h : ∀ q, b.quoteId = some q → q ∈ db.exitQuote) :
    ∃ db', insertExitFill db b = .ok db' := by
  unfold insertExitFill
  cases hquote : b.quoteId with
  | none => exact ⟨db, rfl⟩
  | some q =>
      simp only [bind_ok, ensure_ok, pure_ok]
      exact ⟨_, (), h q hquote, rfl⟩

/-- An entry with exactly one leg, and that not negative, is never
refused. -/
theorem recordJournalEntry_commits (db : Db) (e : JournalEntry)
    (hdebit : 0 ≤ e.debit) (hcredit : 0 ≤ e.credit)
    (hone : 0 < e.debit ↔ ¬ 0 < e.credit) :
    ∃ db', recordJournalEntry db e = .ok db' := by
  simp only [recordJournalEntry, bind_ok, ensure_ok, pure_ok]
  exact ⟨_, (), ⟨hdebit, hcredit⟩, (), hone, rfl⟩

/-- So a bookable payout is booked whole. -/
theorem bookPayout_commits (db : Db) (b : PayoutBooking)
    (h : Bookable db.exitQuote b.amount b.quoteId) :
    ∃ db', bookPayout db b = .ok db' := by
  have hpos := h.positive
  obtain ⟨db₁, h₁⟩ := insertExitFill_commits h.filed
  obtain ⟨db₂, h₂⟩ := recordJournalEntry_commits db₁ (debitOf b)
    hpos.le le_rfl (by simp [debitOf, hpos])
  obtain ⟨db₃, h₃⟩ := recordJournalEntry_commits db₂ (creditOf b)
    le_rfl hpos.le (by simp [creditOf, hpos])
  simp only [bookPayout, bind_ok]
  exact ⟨db₃, db₁, h₁, db₂, h₂, h₃⟩

-- ================================================================== repairs

/-- The row taken by a repair. -/
def takenOn (db : Db) (key : Text) (now : PayoutForward) : Db :=
  { db with
    payoutForward := db.payoutForward.set key { now with status := .sent } }

/-- What a repair did with the row `key`, selected as `row`. -/
inductive Repaired (s s' : System) (r : Nat) (delivery : Delivery)
    (key : Text) (row : PayoutForward)
    (rest : List (Text × PayoutForward)) : Prop
  | skipped : delivery = .rolledBack ∨ isPending s.db key = false
        ∨ pairExists s.db row.refId = false
          ∧ ¬ (row.txHash.isSome
            ∧ Bookable s.db.exitQuote row.amount row.quoteId) →
      s' = { s with repairs := s.repairs.set r rest } →
      Repaired s s' r delivery key row rest
  | already {now : PayoutForward} : s.db.payoutForward.get key = some now →
      now.status = .bookkeepingPending → delivery ≠ .rolledBack →
      pairExists s.db row.refId = true →
      s' = { s with
        repairs := s.repairs.set r rest, db := takenOn s.db key now } →
      Repaired s s' r delivery key row rest
  | booked {now : PayoutForward} {fills : List ExitFill} :
      s.db.payoutForward.get key = some now →
      now.status = .bookkeepingPending → delivery ≠ .rolledBack →
      pairExists s.db row.refId = false →
      s' = { s with
        repairs := s.repairs.set r rest
        db := bookedOn (takenOn s.db key now) fills (rowBooking key row)
        written := s.written ++ [rowBooking key row] } →
      Repaired s s' r delivery key row rest

/-- What `repairRow` comes to on a row that waits to be booked. -/
theorem repairRow_pending {db : Db} {key : Text} {row now : PayoutForward}
    (hnow : db.payoutForward.get key = some now)
    (hstatus : now.status = .bookkeepingPending) :
    repairRow db key row
      = if pairExists db row.refId then .ok (.already, takenOn db key now)
        else do
          let txHash ← expect row.txHash
            "bookkeeping_pending row has no tx_hash"
          let db ← bookPayout (takenOn db key now)
            ⟨key, txHash, row.refId, row.quoteId, row.amount, row.memo⟩
          return (.booked, db) := by
  simp only [repairRow, hnow, hstatus, if_true]
  rfl

/-- A row that no longer awaits its booking is passed over. -/
theorem repairRow_not_pending {db : Db} {key : Text} {row : PayoutForward}
    (h : isPending db key = false) :
    repairRow db key row = .ok (.taken, db) := by
  unfold isPending at h
  unfold repairRow
  cases hnow : db.payoutForward.get key with
  | none => rfl
  | some now =>
      have hstatus : now.status ≠ .bookkeepingPending := by
        simpa [hnow] using h
      simp only [hstatus, if_false]
      rfl

/-- A row awaits its booking. -/
theorem isPending_eq {db : Db} {key : Text} : isPending db key = true ↔
    ∃ now, db.payoutForward.get key = some now
      ∧ now.status = .bookkeepingPending := by
  unfold isPending
  cases db.payoutForward.get key <;> simp

/-- A repair takes the rows of its list one by one, each in a transaction
of its own: it passes a row over, marks it sent, or books it as well. -/
theorem repairStep_did {r : Nat} {delivery : Delivery}
    (h : repairStep r delivery s = .ok s') : ∃ key row rest,
      s.repairs.get r = some ((key, row) :: rest)
        ∧ Repaired s s' r delivery key row rest := by
  simp only [repairStep, bind_ok, expect_ok] at h
  obtain ⟨rows, hrows, h⟩ := h
  cases rows with
  | nil => cases h
  | cons p rest =>
      obtain ⟨key, row⟩ := p
      refine ⟨key, row, rest, hrows, ?_⟩
      simp only at h
      by_cases hback : delivery = .rolledBack
      · rw [if_pos hback] at h
        exact .skipped (.inl hback) (pure_ok.mp h).symm
      rw [if_neg hback] at h
      cases hpending : isPending s.db key with
      | false =>
          rw [repairRow_not_pending hpending] at h
          exact .skipped (.inr (.inl hpending)) (pure_ok.mp h).symm
      | true =>
          obtain ⟨now, hnow, hstatus⟩ := isPending_eq.mp hpending
          rw [repairRow_pending hnow hstatus] at h
          cases hpair : pairExists s.db row.refId with
          | true =>
              rw [hpair, if_pos rfl] at h
              exact .already hnow hstatus hback hpair (pure_ok.mp h).symm
          | false =>
              rw [hpair] at h
              simp only [Bool.false_eq_true, if_false] at h
              split at h
              · next db hbooked =>
                simp only [bind_ok, expect_ok, pure_ok] at hbooked
                obtain ⟨txHash, htx, db', hbook, heq⟩ := hbooked
                obtain ⟨fills, rfl⟩ := bookPayout_ok hbook
                injection heq with _ heq
                have hs' : s' = { s with
                    repairs := s.repairs.set r rest
                    db := bookedOn (takenOn s.db key now) fills
                      (rowBooking key row)
                    written := s.written ++ [rowBooking key row] } := by
                  rw [← pure_ok.mp h, ← heq, rowBooking, htx]
                  rfl
                exact .booked hnow hstatus hback hpair hs'
              · next outcome db hne hbooked =>
                simp only [bind_ok, expect_ok, pure_ok] at hbooked
                obtain ⟨txHash, htx, db', hbook, heq⟩ := hbooked
                injection heq with heq _
                exact absurd heq.symm hne
              · next e herr =>
                refine .skipped (.inr (.inr ⟨hpair, ?_⟩))
                  (pure_ok.mp h).symm
                rintro ⟨htx, hbookable⟩
                obtain ⟨txHash, htx⟩ := Option.isSome_iff_exists.mp htx
                obtain ⟨db', hbook⟩ := bookPayout_commits
                  (takenOn s.db key now) ⟨key, txHash, row.refId,
                    row.quoteId, row.amount, row.memo⟩ hbookable
                have hok : (do
                    let txHash ← expect row.txHash
                      "bookkeeping_pending row has no tx_hash"
                    let db ← bookPayout (takenOn s.db key now) ⟨key, txHash,
                      row.refId, row.quoteId, row.amount, row.memo⟩
                    return (RepairOutcome.booked, db))
                    = .ok (.booked, db') := by
                  simp only [bind_ok, expect_ok, pure_ok]
                  exact ⟨txHash, htx, db', hbook, rfl⟩
                rw [hok] at herr
                cases herr

-- ================================================================ the steps

/-- The call holds the claim on its row. -/
def Stage.holds : Stage → Bool
  | .verifying => false
  | .inserting => false
  | .reclaiming => false
  | _ => true

/-- The moves of a call that write nothing. -/
inductive Goes (hop : Hop) (c : Caller) : Stage → Stage → Prop
  | verified {lookup : Lookup} :
      verify hop.setup (answerOf hop.legs lookup) c.key
        hop.policy.usdcIssuer c.args.amount = .ok () →
      Goes hop c .verifying .inserting
  | conflict : Goes hop c .inserting .reclaiming
  | gaveUp : Goes hop c .claimed (.failing none)
  | failed {h : PaymentHash} : Goes hop c (.submitting h) (.failing (some h))
  | paid {h : PaymentHash} : Goes hop c (.submitting h) (.paid h)
  | unbooked {h : PaymentHash} : Goes hop c (.paid h) (.unbooked h)

/-- The row a claim finds lets it through: there is none, or it failed. -/
def Free (db : Db) (key : Text) : Prop :=
  ∀ row, db.payoutForward.get key = some row → row.status = .failed

/-- The call that takes a claim with this step, to go on with it. -/
def claimant (s : System) : Act → Option Caller
  | .insert i .acknowledged =>
      (s.callers.get i).filter fun c =>
        c.stage = .inserting && (insertClaim s.db c).2
  | .reclaim i .acknowledged =>
      (s.callers.get i).filter fun c =>
        c.stage = .reclaiming && (reclaimRow s.db c).2
  | _ => none

/-- The database with a claim's row. -/
def claimOn (db : Db) (c : Caller) (txHash : Option PaymentHash) : Db :=
  { db with
    payoutForward :=
      db.payoutForward.set c.key { claimRow c with txHash := txHash } }

/-- What a committed step did. -/
inductive Did (hop : Hop) (s s' : System) : Act → Prop
  | started {i : Nat} {args : ForwardPayoutArgs} {uuid : Uuid} :
      s.callers.get i = none → checkPolicy args hop.policy = .ok () →
      s' = { s with
        callers := s.callers.set i
          ⟨args, args.quoteId.getD uuid, .verifying⟩ } →
      Did hop s s' (.start i args uuid)
  | moved {i : Nat} {c : Caller} {stage : Stage} {a : Act} :
      s.callers.get i = some c → Goes hop c c.stage stage →
      s' = moveTo s i c stage → Did hop s s' a
  | left {i : Nat} {a : Act} : s' = leave s i → Did hop s s' a
  | claimed {i : Nat} {c : Caller} {txHash : Option PaymentHash} {a : Act} :
      s.callers.get i = some c → c.stage.holds = false →
      claimant s a = some c → Free s.db c.key →
      s' = moveTo { s with db := claimOn s.db c txHash } i c .claimed →
      Did hop s s' a
  | abandoned {i : Nat} {c : Caller} {txHash : Option PaymentHash} {a : Act} :
      s.callers.get i = some c → c.stage.holds = false → Free s.db c.key →
      s' = leave { s with db := claimOn s.db c txHash } i → Did hop s s' a
  | submitted {i : Nat} {c : Caller} {h : PaymentHash} :
      s.callers.get i = some c → c.stage = .claimed →
      s' = moveTo { s with
        submitted := s.submitted ++ [⟨h, c.key, c.args.toAnchorAccount,
          c.args.amount, c.args.memo⟩] } i c (.submitting h) →
      Did hop s s' (.submit i h)
  | closed {h : PaymentHash} {accepted : Bool} : s.closed.get h = none →
      s' = { s with closed := s.closed.set h accepted } →
      Did hop s s' (.close h accepted)
  | failed {i : Nat} {c : Caller} {h : Option PaymentHash}
      {delivery : Delivery} : s.callers.get i = some c →
      c.stage = .failing h → delivery ≠ .rolledBack →
      s' = leave { s with db := updateRow s.db c.key fun row =>
        { row with status := .failed } } i →
      Did hop s s' (.markFailed i delivery)
  | booked {i : Nat} {c : Caller} {h : PaymentHash} {fills : List ExitFill}
      {callers : Store Nat Caller} {a : Act} :
      s.callers.get i = some c → c.stage = .paid h →
      callers = s.callers.remove i
        ∨ callers = s.callers.set i { c with stage := .unbooked h } →
      s' = { s with
        callers := callers
        db := bookedOn (markSent s.db (bookingOf c h)) fills (bookingOf c h)
        written := s.written ++ [bookingOf c h] } →
      Did hop s s' a
  | flagged {i : Nat} {c : Caller} {h : PaymentHash} {a : Act} :
      s.callers.get i = some c → c.stage = .unbooked h →
      s' = leave { s with db := updateRow s.db c.key fun row =>
        { row with status := .bookkeepingPending, txHash := some h } } i →
      Did hop s s' a
  | selected {r : Nat} {rows : List (Text × PayoutForward)} :
      s.repairs.get r = none → Selects s.db rows →
      s' = { s with repairs := s.repairs.set r rows } →
      Did hop s s' (.selectPending r rows)
  | repaired {r : Nat} {delivery : Delivery} {key : Text}
      {row : PayoutForward} {rest : List (Text × PayoutForward)} :
      s.repairs.get r = some ((key, row) :: rest) →
      Repaired s s' r delivery key row rest →
      Did hop s s' (.repair r delivery)
  | ended {r : Nat} : s' = { s with repairs := s.repairs.remove r } →
      Did hop s s' (.endRepair r)
  | quoted {q : Uuid} : s' = { s with
        db := { s.db with exitQuote := s.db.exitQuote ++ [q] } } →
      Did hop s s' (.quote q)
  | posted {e : JournalEntry} : e.refType = .other →
      s' = { s with
        db := { s.db with journalEntry := s.db.journalEntry ++ [e] } } →
      Did hop s s' (.post e)

/-- A step of a caller that has begun. -/
theorem callerAt_ok {i : Nat} {c : Caller} :
    callerAt s i = .ok c ↔ s.callers.get i = some c :=
  expect_ok

/-- A key that is not on file is claimed. -/
theorem insertClaim_won {db : Db} {c : Caller}
    (h : db.payoutForward.get c.key = none) :
    insertClaim db c = (claimOn db c none, true) := by
  simp only [insertClaim, h]
  rfl

/-- A key that is on file is left alone, whatever its status. -/
theorem insertClaim_conflict {db : Db} {c : Caller} {row : PayoutForward}
    (h : db.payoutForward.get c.key = some row) :
    insertClaim db c = (db, false) := by
  simp only [insertClaim, h]

/-- An update that returns a row found a failed one. -/
theorem reclaimRow_cases (db : Db) (c : Caller) :
    (reclaimRow db c = (db, false))
      ∨ ∃ row, db.payoutForward.get c.key = some row
        ∧ row.status = .failed
        ∧ reclaimRow db c = (claimOn db c row.txHash, true) := by
  unfold reclaimRow
  cases hrow : db.payoutForward.get c.key with
  | none => exact .inl rfl
  | some row =>
      by_cases hfailed : row.status = .failed
      · right
        exact ⟨row, rfl, hfailed, by simp only [hfailed, if_true]; rfl⟩
      · left
        simp only [hfailed, if_false]

/-- A key that is not on file is free. -/
theorem free_of_none {db : Db} {key : Text}
    (h : db.payoutForward.get key = none) : Free db key := by
  intro row hrow
  rw [h] at hrow
  cases hrow

/-- So is one whose row is marked failed, whatever became of its payment. -/
theorem free_of_failed {db : Db} {key : Text} {row : PayoutForward}
    (h : db.payoutForward.get key = some row) (hfailed : row.status = .failed) :
    Free db key := by
  intro row' hrow'
  rw [h] at hrow'
  cases hrow'
  exact hfailed

/-- A call begins, and has read nothing yet. -/
theorem start_did {i : Nat} {args : ForwardPayoutArgs} {uuid : Uuid}
    (h : start hop i args uuid s = .ok s') :
    Did hop s s' (.start i args uuid) := by
  simp only [start, bind_ok, ensure_ok, pure_ok] at h
  obtain ⟨-, hnone, u, hpolicy, rfl⟩ := h
  exact .started (by simpa using hnone) hpolicy rfl

/-- The first leg is looked up, and either passes every check or ends the
call. -/
theorem checkLeg_did {i : Nat} {lookup : Lookup}
    (h : checkLeg hop i lookup s = .ok s') :
    Did hop s s' (.checkLeg i lookup) := by
  simp only [checkLeg, bind_ok, callerAt_ok] at h
  obtain ⟨c, hc, h⟩ := h
  split at h
  · next hstage =>
    split at h
    · next u hverify =>
      refine .moved hc ?_ (pure_ok.mp h).symm
      rw [hstage]
      exact .verified hverify
    · exact .left (pure_ok.mp h).symm
  · cases h

/-- The claim: won, lost to a row on file, or its answer lost on the way. -/
theorem insert_did {i : Nat} {delivery : Delivery}
    (h : insert i delivery s = .ok s') :
    Did hop s s' (.insert i delivery) := by
  simp only [insert, bind_ok, callerAt_ok, ensure_ok] at h
  obtain ⟨c, hc, -, hstage, h⟩ := h
  have hholds : c.stage.holds = false := by rw [hstage]; rfl
  cases hrow : s.db.payoutForward.get c.key with
  | none =>
      rw [insertClaim_won hrow] at h
      cases delivery with
      | acknowledged =>
          refine .claimed hc hholds ?_ (free_of_none hrow)
            (pure_ok.mp h).symm
          simp [claimant, hc, hstage, insertClaim_won hrow]
      | lost =>
          exact .abandoned hc hholds (free_of_none hrow) (pure_ok.mp h).symm
      | rolledBack => exact .left (pure_ok.mp h).symm
  | some row =>
      rw [insertClaim_conflict hrow] at h
      cases delivery with
      | acknowledged =>
          refine .moved hc ?_ (pure_ok.mp h).symm
          rw [hstage]
          exact .conflict
      | lost => exact .left (pure_ok.mp h).symm
      | rolledBack => exact .left (pure_ok.mp h).symm

/-- A failed row is taken over, if it is still failed when the statement
runs. -/
theorem reclaim_did {i : Nat} {delivery : Delivery}
    (h : reclaim i delivery s = .ok s') :
    Did hop s s' (.reclaim i delivery) := by
  simp only [reclaim, bind_ok, callerAt_ok, ensure_ok] at h
  obtain ⟨c, hc, -, hstage, h⟩ := h
  have hholds : c.stage.holds = false := by rw [hstage]; rfl
  rcases reclaimRow_cases s.db c with hkept | ⟨row, hrow, hfailed, hwon⟩
  · rw [hkept] at h
    cases delivery with
    | acknowledged => exact .left (pure_ok.mp h).symm
    | lost => exact .left (pure_ok.mp h).symm
    | rolledBack => exact .left (pure_ok.mp h).symm
  · have hfree := free_of_failed hrow hfailed
    rw [hwon] at h
    cases delivery with
    | acknowledged =>
        refine .claimed hc hholds ?_ hfree (pure_ok.mp h).symm
        simp [claimant, hc, hstage, hwon]
    | lost => exact .abandoned hc hholds hfree (pure_ok.mp h).symm
    | rolledBack => exact .left (pure_ok.mp h).symm

/-- The holder of a claim fails before anything is sent. -/
theorem giveUp_did {i : Nat} (h : giveUp i s = .ok s') :
    Did hop s s' (.giveUp i) := by
  simp only [giveUp, bind_ok, callerAt_ok, ensure_ok, pure_ok] at h
  obtain ⟨c, hc, -, hstage, rfl⟩ := h
  exact .moved hc (hstage ▸ .gaveUp) rfl

/-- The holder of a claim sends its payment. -/
theorem submit_did {i : Nat} {h : PaymentHash}
    (hok : submit i h s = .ok s') : Did hop s s' (.submit i h) := by
  simp only [submit, bind_ok, callerAt_ok, ensure_ok, pure_ok] at hok
  obtain ⟨c, hc, -, hstage, -, -, rfl⟩ := hok
  exact .submitted hc hstage rfl

/-- The network answers with a status. Any but an error counts as paid. -/
theorem answered_did {i : Nat} {status : String}
    (h : answered i status s = .ok s') :
    Did hop s s' (.answered i status) := by
  simp only [answered, bind_ok, callerAt_ok] at h
  obtain ⟨c, hc, h⟩ := h
  split at h
  · next hash hstage =>
    refine .moved hc ?_ (pure_ok.mp h).symm
    rw [hstage]
    split
    · exact .failed
    · exact .paid
  · cases h

/-- The submission throws, and nobody knows whether it went out. -/
theorem threw_did {i : Nat} (h : threw i s = .ok s') :
    Did hop s s' (.threw i) := by
  simp only [threw, bind_ok, callerAt_ok] at h
  obtain ⟨c, hc, h⟩ := h
  split at h
  · next hash hstage =>
    exact .moved hc (hstage ▸ .failed) (pure_ok.mp h).symm
  · cases h

/-- The row is marked failed, though the payment may have gone out. -/
theorem markFailed_did {i : Nat} {delivery : Delivery}
    (h : markFailed i delivery s = .ok s') :
    Did hop s s' (.markFailed i delivery) := by
  simp only [markFailed, bind_ok, callerAt_ok] at h
  obtain ⟨c, hc, h⟩ := h
  split at h
  · next o hstage =>
    split at h
    · exact .left (pure_ok.mp h).symm
    · next hback => exact .failed hc hstage hback (pure_ok.mp h).symm
  · cases h

/-- A payment that counts as paid is booked and its row marked sent, in
one transaction. -/
theorem book_did {i : Nat} {delivery : Delivery}
    (h : book i delivery s = .ok s') : Did hop s s' (.book i delivery) := by
  simp only [book, bind_ok, callerAt_ok] at h
  obtain ⟨c, hc, h⟩ := h
  split at h
  · next hash hstage =>
    have hunbooked : s' = moveTo s i c (.unbooked hash) →
        Did hop s s' (.book i delivery) :=
      .moved hc (hstage ▸ .unbooked)
    split at h
    · next db hbook =>
      obtain ⟨fills, rfl⟩ := bookPayout_ok hbook
      exact .booked hc hstage (.inl rfl) (pure_ok.mp h).symm
    · next db hbook =>
      obtain ⟨fills, rfl⟩ := bookPayout_ok hbook
      exact .booked hc hstage (.inr rfl) (pure_ok.mp h).symm
    · exact hunbooked (pure_ok.mp h).symm
  · cases h

/-- One that could not be booked is left to the repair. -/
theorem markUnbooked_did {i : Nat} {delivery : Delivery}
    (h : markUnbooked i delivery s = .ok s') :
    Did hop s s' (.markUnbooked i delivery) := by
  simp only [markUnbooked, bind_ok, callerAt_ok] at h
  obtain ⟨c, hc, h⟩ := h
  split at h
  · next hash hstage =>
    split at h
    · exact .left (pure_ok.mp h).symm
    · exact .flagged hc hstage (pure_ok.mp h).symm
  · cases h

/-- Every step, as one of these. -/
theorem step_did {a : Act} (h : (machine hop).apply a s = .ok s') :
    Did hop s s' a := by
  cases a with
  | start i args uuid => exact start_did h
  | checkLeg i lookup => exact checkLeg_did h
  | insert i delivery => exact insert_did h
  | reclaim i delivery => exact reclaim_did h
  | giveUp i => exact giveUp_did h
  | submit i hash => exact submit_did h
  | answered i status => exact answered_did h
  | threw i => exact threw_did h
  | markFailed i delivery => exact markFailed_did h
  | book i delivery => exact book_did h
  | markUnbooked i delivery => exact markUnbooked_did h
  | crash i =>
      simp only [machine, step, crash, bind_ok, callerAt_ok, pure_ok] at h
      obtain ⟨c, hc, rfl⟩ := h
      exact .left rfl
  | close hash accepted =>
      simp only [machine, step, close, bind_ok, ensure_ok, pure_ok] at h
      obtain ⟨-, -, -, hnone, rfl⟩ := h
      exact .closed (by simpa using hnone) rfl
  | selectPending r rows =>
      simp only [machine, step, selectPending, bind_ok, ensure_ok,
        pure_ok] at h
      obtain ⟨-, hnone, -, hrows, rfl⟩ := h
      exact .selected (by simpa using hnone) hrows rfl
  | repair r delivery =>
      obtain ⟨key, row, rest, hrows, hrepaired⟩ := repairStep_did h
      exact .repaired hrows hrepaired
  | endRepair r =>
      simp only [machine, step, endRepair, bind_ok, pure_ok] at h
      obtain ⟨rows, -, rfl⟩ := h
      exact .ended rfl
  | quote q => exact .quoted (pure_ok.mp h).symm
  | post e =>
      simp only [machine, step, bind_ok, ensure_ok, pure_ok] at h
      obtain ⟨-, hother, rfl⟩ := h
      exact .posted hother rfl

-- =================================================================== a call

/-- What a step did to a call that is there after it. -/
inductive Became (hop : Hop) (s : System) (a : Act) (j : Nat) (d : Caller) :
    Prop
  | same : s.callers.get j = some d → Became hop s a j d
  | started : d.stage = .verifying → Became hop s a j d
  | moved {c : Caller} {stage : Stage} : s.callers.get j = some c →
      Goes hop c c.stage stage → d = { c with stage := stage } →
      Became hop s a j d
  | claimed {c : Caller} : s.callers.get j = some c →
      claimant s a = some c → Free s.db c.key →
      d = { c with stage := .claimed } → Became hop s a j d
  | sent {c : Caller} {h : PaymentHash} : s.callers.get j = some c →
      c.stage = .claimed → d = { c with stage := .submitting h } →
      Became hop s a j d
  | unbooked {c : Caller} {h : PaymentHash} : s.callers.get j = some c →
      c.stage = .paid h → d = { c with stage := .unbooked h } →
      Became hop s a j d

/-- Read backwards: a caller that stands somewhere after a step stood
there before, or the step is what brought it there. -/
theorem Did.became {a : Act} {j : Nat} {d : Caller} (hdid : Did hop s s' a)
    (hd : s'.callers.get j = some d) : Became hop s a j d := by
  have hset : ∀ {i c}, (s.callers.set i c).get j = some d →
      i = j ∧ d = c ∨ s.callers.get j = some d := by
    intro i c hd
    rw [Store.get_set] at hd
    split at hd
    · next hj => exact .inl ⟨hj.symm, (Option.some.inj hd).symm⟩
    · exact .inr hd
  have hremove : ∀ {i}, (s.callers.remove i).get j = some d →
      Became hop s a j d := by
    intro i hd
    rw [Store.get_remove] at hd
    split at hd
    · cases hd
    · exact .same hd
  cases hdid with
  | started _ _ hs' =>
      subst hs'
      rcases hset hd with ⟨-, rfl⟩ | hd
      · exact .started rfl
      · exact .same hd
  | moved hc hgo hs' =>
      subst hs'
      rcases hset hd with ⟨rfl, heq⟩ | hd
      · exact .moved hc hgo heq
      · exact .same hd
  | left hs' =>
      subst hs'
      exact hremove hd
  | claimed hc _ hclaimant hfree hs' =>
      subst hs'
      rcases hset hd with ⟨rfl, heq⟩ | hd
      · exact .claimed hc hclaimant hfree heq
      · exact .same hd
  | abandoned _ _ _ hs' =>
      subst hs'
      exact hremove hd
  | submitted hc hstage hs' =>
      subst hs'
      rcases hset hd with ⟨rfl, heq⟩ | hd
      · exact .sent hc hstage heq
      · exact .same hd
  | failed _ _ _ hs' =>
      subst hs'
      exact hremove hd
  | booked hc hpaid hcallers hs' =>
      subst hs'
      rcases hcallers with rfl | rfl
      · exact hremove hd
      · rcases hset hd with ⟨rfl, heq⟩ | hd
        · exact .unbooked hc hpaid heq
        · exact .same hd
  | flagged _ _ hs' =>
      subst hs'
      exact hremove hd
  | repaired _ hrepaired =>
      cases hrepaired <;> subst_vars <;> exact .same hd
  | _ =>
      subst_vars
      exact .same hd

end Ballast.PayoutHop
