/-
The pledge books match the vault.

A settlement moves a row's units on the books by what its transaction
moved in the vault, since the row has the status its intent pins. So
position and books differ by exactly what has landed and is not booked
(`Matched`), and a row's release, once it took effect, pins the row for
good: there is no second one.

# Where it fails

`released_reopened` is the run in which it fails: the write-off of one
request flips its row back to `active`, whatever has become of the row
in between. The condition of the theorem excludes it where it begins, at
the second request recorded for a row that is no longer active.
-/
import Ballast.Api.Proofs.Pins

namespace Ballast.Api

open Soroban Machine

variable {d : Deployed} {start : Chain} {db₀ : Db} {r : RowId} {line : Nat}
  {asset : Address} {s s' : System Chain} {a : Act ChainTx}

-- ============================================================ the balance

/-- What the vault holds for the line is what the books say it does, up
to what has landed and is not booked. -/
def Matched (r : RowId) (line : Nat) (asset : Address) (s : System Chain) :
    Prop :=
  heldOf s.chain line asset = vaultUnits s.db r
    + unbooked (fun _ => true) (movedUnits line asset) s

/-- A rewritten status moves the books by the row's units, when it takes
them into the vault or out. -/
theorem vaultUnits_adjust {db db' : Db} {p : RowId} {row : PledgeRow}
    {st : PledgeStatus} (hrow : db.pledge.get p = some row)
    (h : db'.pledge = db.pledge.adjust p fun row =>
      { row with status := st }) :
    vaultUnits db' r = vaultUnits db r - row.counts r PledgeStatus.inVault
      + ({ row with status := st } : PledgeRow).counts r
        PledgeStatus.inVault := by
  unfold vaultUnits
  rw [h, Store.adjust_some _ hrow, Store.total_set, Store.part_some _ hrow]

theorem vaultUnits_congr {db db' : Db} (h : db'.pledge = db.pledge) :
    vaultUnits db' r = vaultUnits db r := by
  rw [vaultUnits, h, vaultUnits]

/-- A new row counts for nothing while it is pending, and one about to be
released counts as it did. -/
theorem PledgeWrite.vaultUnits {db db' : Db} {id : RowId} {dr : Draft}
    (h : PledgeWrite db db' id dr.write)
    (hdraft : PledgeDraft r line db dr)
    (hactive : ∀ p ∈ dr.write.releases, ∀ row ∈ db.pledge.get p,
      row.creditLineId = r → row.status = .active) :
    Api.vaultUnits db' r = Api.vaultUnits db r := by
  cases h with
  | @insert row hw hnone hset =>
      obtain ⟨-, -, hst, -⟩ := hdraft.of_insert hw
      unfold Api.vaultUnits
      rw [hset, Store.total_set, Store.part_none _ hnone]
      simp [PledgeRow.counts, PledgeStatus.inVault, hst]
  | @release p hw hadjust =>
      obtain ⟨-, -, row, hrow, -⟩ := hdraft.of_release hw
      rw [vaultUnits_adjust hrow hadjust]
      by_cases hof : row.creditLineId = r
      · have hst := hactive p (by rw [hw]; rfl) row hrow hof
        simp [PledgeRow.counts, PledgeStatus.inVault, hst]
      · simp [PledgeRow.counts, hof]
  | other _ _ hsame => exact vaultUnits_congr hsame

/-- What a transaction of this kind moves of the units it is for. -/
def unitsMoved (kind : IntentKind) (outcome : Outcome) (units : Int) :
    Int :=
  match kind, outcome with
  | .pledgeCreate, .success _ _ => units
  | .pledgeRelease, .success _ _ => -units
  | _, _ => 0

theorem unitsMoved_failed (kind : IntentKind) (ledger : Nat)
    (units : Int) : unitsMoved kind (.failed ledger) units = 0 := by
  cases kind <;> rfl

/-- What a landed transaction of an intent about row `row` moved. -/
theorem UnitsOf.moved {e : Envelope} {kind : IntentKind} {row : PledgeRow}
    {env : Env} {x : Landing Chain} (h : UnitsOf r line e kind row)
    (hlands : Lands (network d start) env e x.before x)
    (hesc : Escrowing x.before line asset) :
    movedUnits line asset x
      = if row.creditLineId = r then unitsMoved kind x.outcome row.units
        else 0 := by
  obtain ⟨b, id, a, hid, he⟩ := h
  split
  case isFalse hof =>
    rcases he with ⟨-, rfl⟩ | ⟨-, rfl⟩ <;>
      exact hlands.moved_other hesc trivial fun hc =>
        hof (hid.mpr (Option.some.inj hc))
  case isTrue hof =>
    have hline := hid.mp hof
    subst hline
    cases hout : x.outcome with
    | failed ledger =>
        have hafter := hlands.failed_after hout
        rcases he with ⟨rfl, -⟩ | ⟨rfl, -⟩ <;>
          simp [movedUnits, hafter, unitsMoved]
    | success ledger v =>
        rcases he with ⟨rfl, rfl⟩ | ⟨rfl, rfl⟩
        · exact hlands.moved_pledge hesc hout
        · exact hlands.moved_release hesc hout

/-- A settlement moves the books by what its transaction moved, a
write-off by nothing. -/
theorem Pinned.booked (hp : Pinned r s)
    (hfiled : PledgeFiled d start db₀ r line asset s) {k : TxHash}
    {i intent : TxIntent} {outcome : Outcome} {db : Db}
    (hi : s.db.txIntent.get k = some i) (hpending : i.status = .pending)
    (halike : Alike i intent)
    (hpledge : db.pledge = bookPledge s.db.pledge intent outcome)
    (hland : (∃ x, s.landed.get k = some x ∧ x.outcome = outcome)
      ∨ s.landed.get k = none ∧ ∃ ledger, outcome = .failed ledger) :
    vaultUnits db r = vaultUnits s.db r
      + (s.landed.get k).elim 0 (movedUnits line asset) := by
  have hkind : intent.kind = i.kind := halike.kind.symm
  have href : intent.refId = i.refId := halike.refId.symm
  rw [bookPledge, hkind, href] at hpledge
  by_cases hof : ofPledge i.kind = true
  -- an intent about something else moved nothing of the line's in the vault
  case neg =>
    have hnone : bookedStatus i.kind outcome = none := by
      rw [← Option.not_isSome_iff_eq_none, bookedStatus_isSome]
      exact hof
    rw [hnone] at hpledge
    rw [vaultUnits_congr hpledge]
    rcases hland with ⟨x, hx, -⟩ | ⟨hx, -⟩
    · obtain ⟨e, env, he, hlands⟩ := hfiled.filed.landed k x hx
      obtain ⟨j, hj, hgood⟩ := hfiled.filed.handed k e he
      rw [hi] at hj
      injection hj with hj
      subst hj
      have hmoved : movedUnits line asset x = 0 := by
        refine hlands.moved_other (hfiled.escrows k x hx) (hgood.keeps asset) ?_
        intro hc
        exact hof (hgood.only (by rw [hc]; simp))
      rw [hx]
      simp [hmoved]
    · rw [hx]
      simp
  case pos =>
    obtain ⟨row, hrow, -⟩ := hfiled.about k i hi hof
    obtain ⟨st, hst⟩ := Option.isSome_iff_exists.mp
      ((bookedStatus_isSome outcome).mpr hof)
    rw [hst] at hpledge
    rw [vaultUnits_adjust hrow hpledge]
    have hmoved : (s.landed.get k).elim 0 (movedUnits line asset)
        = if row.creditLineId = r then unitsMoved i.kind outcome row.units
          else 0 := by
      rcases hland with ⟨x, hx, rfl⟩ | ⟨hx, ledger, rfl⟩
      · obtain ⟨e, env, he, hlands⟩ := hfiled.filed.landed k x hx
        have hunits := hfiled.made k e i row he hi hof hrow
        rw [hx]
        exact hunits.moved hlands (hfiled.escrows k x hx)
      · rw [hx]
        simp [unitsMoved_failed]
    rw [hmoved]
    -- the pin says what status the row had, and so what the write changes
    by_cases hline : row.creditLineId = r
    · simp only [ofPledge, decide_eq_true_eq] at hof
      rcases hof with hcreate | hrelease
      · have hrowst : row.status = .pending :=
          hp.pinned k i row .pending hi
            (by simp [TxIntent.pins, hcreate, hpending]) hrow hline
        rw [hcreate] at hst ⊢
        cases outcome <;> injection hst with hst <;>
          simp [PledgeRow.counts, PledgeStatus.inVault, hline, hrowst, ← hst,
            unitsMoved]
      · have hrowst : row.status = .pendingRelease :=
          hp.pinned k i row .pendingRelease hi
            (by simp [TxIntent.pins, hrelease, hpending]) hrow hline
        rw [hrelease] at hst ⊢
        cases outcome <;> injection hst with hst <;>
          simp [PledgeRow.counts, PledgeStatus.inVault, hline, hrowst, ← hst,
            unitsMoved, sub_eq_add_neg]
    · simp [PledgeRow.counts, hline]

/-- Nothing the balance speaks of has moved. -/
theorem Matched.congr (hm : Matched r line asset s)
    (hchain : heldOf s'.chain line asset = heldOf s.chain line asset)
    (hunits : vaultUnits s'.db r = vaultUnits s.db r)
    (hunbooked : unbooked (fun _ => true) (movedUnits line asset) s'
      = unbooked (fun _ => true) (movedUnits line asset) s) :
    Matched r line asset s' := by
  rw [Matched, hchain, hunits, hunbooked]
  exact hm

/-- Every step keeps the balance. -/
theorem matched_step (hm : Matched r line asset s) (hp : Pinned r s)
    (hfiled : PledgeFiled d start db₀ r line asset s)
    (hdid : Did (network d start) s s' a)
    (hthrough : PledgesThroughApi line asset a s) (hord : Orderly a s)
    (hactive : ReleasesActive r a s) : Matched r line asset s' := by
  cases hdid with
  | @outside tx chain happ hs' =>
      subst hs'
      refine hm.congr ?_ rfl rfl
      -- nobody but the API moves the position
      cases (held_step hfiled.escrow hthrough.2 happ).1 with
      | other _ hsame => exact hsame
      | pledge => exact absurd rfl hthrough.1
      | release => exact absurd rfl hthrough.1
      | liquidate => exact absurd rfl hthrough.1
  | started _ hs' => subst hs'; exact hm
  | @recorded id h row now dr db hdr hdb hs' =>
      subst hs'
      have hunits : vaultUnits db r = vaultUnits s.db r :=
        (record_pledge hdb).vaultUnits (hfiled.drafts id dr hdr)
          (hactive dr hdr)
      obtain ⟨db₁, -, hnew, rfl⟩ := record_ok hdb
      exact hm.congr rfl hunits
        (unbooked_recorded (hfiled.filed.not_landed hnew) rfl rfl)
  | lapsed hdb hs' =>
      subst hs'
      obtain ⟨quotes, rfl⟩ := lapseQuote_ok hdb
      exact hm
  | @landed h env e x he hnew hlands hs' =>
      subst hs'
      obtain ⟨i, hi, -⟩ := hfiled.filed.handed h e he
      have hpending := hfiled.filed.land_pending hord he hnew hi
      -- what the landing moved is in the vault now, and not yet booked
      have hgrows : unbooked (fun _ => true) (movedUnits line asset)
          { s with chain := x.after, landed := s.landed.set h x }
          = unbooked (fun _ => true) (movedUnits line asset) s
            + movedUnits line asset x :=
        unbooked_landed hi hpending hnew rfl rfl
      have hbefore : heldOf x.before line asset = heldOf s.chain line asset :=
        congrArg (heldOf · line asset) hlands.before
      show heldOf x.after line asset = vaultUnits s.db r + _
      rw [hgrows, ← add_assoc, ← hm, movedUnits, hbefore]
      omega
  | moved _ _ hs' => subst hs'; exact hm
  | @settled w now delivery k outcome read db p hk hphase hrun _ hs' =>
      subst hs'
      obtain ⟨i, hi, hpending, happ⟩ := runWithDb_some hrun
      obtain ⟨i', hi', halike⟩ := hfiled.filed.workers w k hk
      rw [hi] at hi'
      injection hi' with hi'
      subst hi'
      have hbooked := applyOutcome_pledge happ
      -- the books move by what the landing moved, and that much less is
      -- unbooked
      have hunits := hp.booked hfiled hi hpending halike hbooked
        (.inl (hfiled.filed.told w k outcome hk (by rw [hphase]; rfl)))
      have hshrinks : unbooked (fun _ => true) (movedUnits line asset)
          (moveTo { s with
            db := db
            booked := s.booked ++ [k.intent.txHash] } w k.intent p)
          = unbooked (fun _ => true) (movedUnits line asset) s
            - (s.landed.get k.intent.txHash).elim 0
              (movedUnits line asset) :=
        unbooked_claimed hi hpending
          (j := settledRow i outcome now) outcome.next_ne_pending
          (applyOutcome_txIntent happ) rfl
      show heldOf s.chain line asset = vaultUnits db r + _
      rw [hunits, hshrinks]
      have hm' : heldOf s.chain line asset = _ := hm
      omega
  | @writtenOff w now delivery k db hk habsent hexp hs' =>
      subst hs'
      obtain ⟨i, hi, hpending, happ⟩ := expire_outcome hexp
      have happ' := happ s.chain.contracts
      obtain ⟨i', hi', halike⟩ := hfiled.filed.workers w k hk
      rw [hi] at hi'
      injection hi' with hi'
      subst hi'
      -- nothing landed, so the write-off moves neither side
      have hnone : s.landed.get k.intent.txHash = none :=
        Option.isNone_iff_eq_none.mp (hord k hk)
      have hbooked := applyOutcome_pledge happ'
      have hunits := hp.booked hfiled hi hpending halike hbooked
        (.inr ⟨hnone, 0, rfl⟩)
      rw [hnone, Option.elim_none, add_zero] at hunits
      refine hm.congr rfl hunits ?_
      have hshrinks : unbooked (fun _ => true) (movedUnits line asset)
          (moveTo { s with
            db := db
            booked := s.booked ++ [k.intent.txHash] } w k.intent .holding)
          = unbooked (fun _ => true) (movedUnits line asset) s
            - (s.landed.get k.intent.txHash).elim 0
              (movedUnits line asset) :=
        unbooked_claimed hi hpending
          (j := { i with status := .expired, settledAt := some now })
          (by simp) (applyOutcome_txIntent happ') rfl
      rw [hshrinks, hnone, Option.elim_none, sub_zero]
  | @erred w k err hk hphase hs' =>
      subst hs'
      obtain ⟨i, hi, -⟩ := hfiled.filed.workers w k hk
      refine hm.congr rfl rfl ?_
      refine unbooked_kept (j :=
        { i with status := .pending, error := some err }) hi rfl
        (hord k hk i hi).symm ?_ rfl
      simp [moveTo, recordSettleError, Store.adjust_some _ hi]

-- ================================================================= the run

/-- A line before its first pledge: its row names it, no pledge row is of
it, and the vault holds nothing for it. -/
structure NoPledges (db : Db) (start : Chain) (r : RowId) (line : Nat)
    (asset : Address) : Prop where
  row : contractLine db r = some line
  only : ∀ r', contractLine db r' = some line → r' = r
  filed : ∀ h i, db.txIntent.get h = some i → i.txHash = h
  opened : ∀ h i, db.txIntent.get h = some i → i.refId = r →
    i.kind = .creditLineOpen → i.status ≠ .pending
  about : ∀ h i, db.txIntent.get h = some i → ofPledge i.kind = true →
    (db.pledge.get i.refId).isSome
  none : ∀ p row, db.pledge.get p = some row → row.creditLineId ≠ r
  escrow : Escrowing start line asset
  empty : heldOf start line asset = 0

/-- No pledge and no release of one of the line's rows is pending. -/
def PledgesQuiet (db : Db) (r : RowId) : Prop :=
  ∀ h i row, db.txIntent.get h = some i → ofPledge i.kind = true →
    db.pledge.get i.refId = some row → row.creditLineId = r →
    i.status ≠ .pending

/-- A release of pledge `p` that took effect on the chain. -/
def ReleasedBy (s : System Chain) (p : RowId) (h : TxHash) : Prop :=
  (∃ i ∈ s.db.txIntent.get h, i.kind = .pledgeRelease ∧ i.refId = p)
    ∧ ∃ x ∈ s.landed.get h, x.outcome.next = .settled

instance (s : System Chain) (p : RowId) (h : TxHash) :
    Decidable (ReleasedBy s p h) :=
  inferInstanceAs (Decidable (_ ∧ _))

/-- The release that took effect holds its row. -/
theorem ReleasedBy.pins {p : RowId} {h : TxHash} (hrel : ReleasedBy s p h)
    (hended : Ended s) :
    ∃ i, s.db.txIntent.get h = some i ∧ i.refId = p ∧ i.pins.isSome := by
  obtain ⟨⟨i, hi, hkind, href⟩, x, hx, hout⟩ := hrel
  refine ⟨i, hi, href, ?_⟩
  cases hxo : x.outcome with
  | failed ledger => rw [hxo] at hout; cases hout
  | success ledger v =>
      rcases hended h i x ledger v hi hx hxo with hst | hst <;>
        simp [TxIntent.pins, hkind, hst]

theorem Escrowing.minted {c : Chain} (hesc : Escrowing c line asset) :
    line < c.lending.creditLine.nextLineId := by
  obtain ⟨l, hl, -⟩ := hesc.stored
  by_contra hle
  rw [hesc.fresh line (by omega)] at hl
  cases hl

theorem NoPledges.pledgeFiled (hnew : NoPledges db₀ start r line asset) :
    PledgeFiled d start db₀ r line asset
      (machine (network d start) db₀).init := by
  refine ⟨filed_init hnew.filed, ⟨hnew.row, hnew.only, ?_, ?_,
    hnew.escrow.minted, ?_⟩, hnew.escrow, ?_, ?_, ?_, ?_⟩
  case refine_1 =>
    intro h i hi hkind href
    exact hnew.opened h i hi href hkind
  case refine_6 =>
    intro h i hi hkind
    obtain ⟨row, hrow⟩ :=
      Option.isSome_iff_exists.mp (hnew.about h i hi hkind)
    exact ⟨row, hrow, fun hof => absurd hof (hnew.none _ row hrow)⟩
  all_goals
    intros
    contradiction

theorem NoPledges.pinned (hnew : NoPledges db₀ start r line asset) :
    Pinned r (machine (network d start) db₀).init := by
  constructor
  · intro h i row st _ _ hrow hof
    exact absurd hof (hnew.none _ row hrow)
  · intro h h' i i' row _ _ _ _ _ hrow hof
    exact absurd hof (hnew.none _ row hrow)
  · intro p row hrow hof
    exact absurd hof (hnew.none p row hrow)

theorem NoPledges.matched (hnew : NoPledges db₀ start r line asset) :
    Matched r line asset (machine (network d start) db₀).init := by
  have hzero : vaultUnits db₀ r = 0 := by
    apply Finset.sum_eq_zero
    intro p _
    unfold Store.part
    split
    · next row hrow => simp [PledgeRow.counts, hnew.none p row hrow]
    · rfl
  have hunbooked : unbooked (fun _ => true) (movedUnits line asset)
      (machine (network d start) db₀).init = 0 := Store.total_empty _
  rw [Matched, hunbooked]
  show heldOf start line asset = vaultUnits db₀ r + 0
  rw [hnew.empty, hzero]
  rfl

/-- In the books of a quiet line, what is in the vault is active. -/
theorem Pinned.quiet (hp : Pinned r s) (hquiet : PledgesQuiet s.db r) :
    vaultUnits s.db r = activeUnits s.db r := by
  apply Store.total_congr
  intro p
  cases hrow : s.db.pledge.get p with
  | none => rw [Store.part_none _ hrow, Store.part_none _ hrow]
  | some row =>
      rw [Store.part_some _ hrow, Store.part_some _ hrow]
      by_cases hof : row.creditLineId = r
      · have hst : row.status ≠ .pendingRelease := by
          intro hst
          obtain ⟨h, i, hi, hkind, href, hpending⟩ :=
            hp.awaits p row hrow hof hst
          exact hquiet h i row hi (by simp [ofPledge, hkind])
            (by rw [href]; exact hrow) hof hpending
        simp [PledgeRow.counts, PledgeStatus.inVault, hof, hst]
      · simp [PledgeRow.counts, hof]

/-- What a quiet line has unbooked moved nothing in the vault. -/
theorem PledgeFiled.quiet (hfiled : PledgeFiled d start db₀ r line asset s)
    (hquiet : PledgesQuiet s.db r) :
    unbooked (fun _ => true) (movedUnits line asset) s = 0 := by
  apply Finset.sum_eq_zero
  intro h _
  unfold Store.part
  split
  case h_2 => rfl
  case h_1 x hx =>
    show (if Waits _ s.db h then movedUnits line asset x else 0) = 0
    split
    case isFalse => rfl
    case isTrue hwaits =>
      obtain ⟨i, hi, -, hpending⟩ := waits_iff.mp hwaits
      obtain ⟨e, env, he, hlands⟩ := hfiled.filed.landed h x hx
      by_cases hof : ofPledge i.kind = true
      · obtain ⟨row, hrow, -⟩ := hfiled.about h i hi hof
        rw [(hfiled.made h e i row he hi hof hrow).moved hlands
          (hfiled.escrows h x hx), if_neg]
        intro hline
        exact hquiet h i row hi hof hrow hline hpending
      · obtain ⟨j, hj, hgood⟩ := hfiled.filed.handed h e he
        rw [hi] at hj
        injection hj with hj
        subst hj
        refine hlands.moved_other (hfiled.escrows h x hx)
          (hgood.keeps asset) ?_
        intro hc
        exact hof (hgood.only (by rw [hc]; simp))

/-- In every run in which a release commits only while its row is active,
the active rows of a quiet line add up to the vault's position, and no
row is released twice. -/
theorem pledge_books_match (d : Deployed) (start : Chain) (db : Db)
    (r : RowId) (line : Nat) (asset : Address) (acts : List (Act ChainTx))
    (hnew : NoPledges db start r line asset)
    (hdomain : (machine (network d start) db).Allowed
      (fun a s => PledgesThroughApi line asset a s ∧ Orderly a s)
      (machine (network d start) db).init acts)
    (hholds : (machine (network d start) db).Allowed (ReleasesActive r)
      (machine (network d start) db).init acts) :
    let s := (machine (network d start) db).run
      (machine (network d start) db).init acts
    (PledgesQuiet s.db r → activeUnits s.db r = heldOf s.chain line asset)
    ∧ ∀ p row, s.db.pledge.get p = some row → row.creditLineId = r →
      ∀ h h', ReleasedBy s p h → ReleasedBy s p h' → h' = h := by
  intro s
  obtain ⟨hfiled, hended, hpinned, hmatched⟩ :
      PledgeFiled d start db r line asset s ∧ Ended s ∧ Pinned r s
        ∧ Matched r line asset s := by
    refine run_induction
      (P := fun s => PledgeFiled d start db r line asset s ∧ Ended s
        ∧ Pinned r s ∧ Matched r line asset s) ?_
      ⟨hnew.pledgeFiled, ?_, hnew.pinned, hnew.matched⟩ (hdomain.and hholds)
    · rintro s a s' ⟨hf, he, hp, hm⟩ ⟨⟨hthrough, hord⟩, hactive⟩ happ
      have hdid := step_did happ
      exact ⟨pledgeFiled_step hf hdid hthrough hord,
        ended_step hf.filed he hdid hord,
        pinned_step hp hf hdid hord hactive,
        matched_step hm hp hf hdid hthrough hord hactive⟩
    · intro h i x ledger v _ hx
      cases hx
  constructor
  · intro hquiet
    rw [← hpinned.quiet hquiet, hmatched, hfiled.quiet hquiet, add_zero]
  · intro p row hrow hof h h' hrel hrel'
    obtain ⟨i, hi, href, hpins⟩ := hrel.pins hended
    obtain ⟨i', hi', href', hpins'⟩ := hrel'.pins hended
    exact hpinned.single h h' i i' row hi hi' hpins hpins'
      (href'.trans href.symm) (by rw [href]; exact hrow) hof

-- ============================================================== two runs

namespace Demo

/-- Line 0, funded with 1000, with nothing pledged to it yet. -/
def bare : Chain := lendingAfter (Wired.Demo.lent.take 8)

/-- The books of row 7, with its collateral asset as row 5. -/
def pledgeBooks : Db :=
  { lineBooks with asset := Store.empty.set 5 Wired.Demo.asset }

/-- Two pledges of 100 land and are settled, as rows 0 and 1. -/
def pledged : List (Act ChainTx) :=
  hand 0 50 (.pledge 3 7 5 100) ++ [.land 50 (env 0 3)] ++ settles 1 50
    ++ hand 1 51 (.pledge 3 7 5 100) ++ [.land 51 (env 0 3)]
    ++ settles 1 51

/-- Row 0 is released. -/
def releasedOnce : List (Act ChainTx) :=
  pledged ++ hand 2 52 (.release 3 7 0 true) ++ [.land 52 (env 0 4)]
    ++ settles 1 52

/-- Two requests to release row 0 both find it active. Their envelopes
have one sequence number: the first lands and is settled, the second never
can, and the sweep writes it off. -/
def writtenOff : List (Act ChainTx) :=
  pledged ++ [.start 2 (.release 3 7 0 true) (env 0 2),
      .start 3 (.release 3 7 0 true) (env 0 2), .commitDraft 2 52 2 0,
      .commitDraft 3 53 3 0, .land 52 (env 0 4)]
    ++ settles 1 52
    ++ [.pick 2 53, .ask 2 .notFound, .writeOff 2 .acknowledged 420001]

theorem bare_fresh : CreditLine.FreshIds bare.lending.creditLine := by
  intro id hid
  have hkeys : ∀ k ∈ bare.lending.creditLine.lines.keys,
      k < bare.lending.creditLine.nextLineId := by
    decide +kernel
  apply Store.not_mem_keys.mp
  intro hmem
  have hlt := hkeys id hmem
  omega

theorem noPledges : NoPledges pledgeBooks bare 7 0 Wired.Demo.asset := by
  have hnone : ∀ h i, pledgeBooks.txIntent.get h ≠ some i := by
    intro h i hi
    cases hi
  have hescrow : Escrowing bare 0 Wired.Demo.asset := by
    refine ⟨bare_fresh, ⟨_, rfl, by decide +kernel⟩, ?_,
      by decide +kernel⟩
    have hmode : ∀ config ∈ bare.lending.vault.assetConfig.get
        Wired.Demo.asset, config.custodyMode = .escrow := by
      decide +kernel
    exact hmode
  refine ⟨rfl, ?_, fun h i hi => absurd hi (hnone h i),
    fun h i hi => absurd hi (hnone h i),
    fun h i hi => absurd hi (hnone h i), ?_, hescrow, by decide +kernel⟩
  · intro r' hr'
    by_contra hne
    simp [contractLine, pledgeBooks, lineBooks, Store.get_set_ne _ _ hne,
      Db.empty] at hr'
  · intro p row hrow
    cases hrow

end Demo

/-- Released once, the row leaves 100 active and 100 in the vault. -/
theorem pledge_books_match_released :
    let M := machine (network Demo.deployed Demo.bare) Demo.pledgeBooks
    let s := M.run M.init Demo.releasedOnce
    (PledgesQuiet s.db 7 →
      activeUnits s.db 7 = heldOf s.chain 0 Wired.Demo.asset)
    ∧ ∀ p row, s.db.pledge.get p = some row → row.creditLineId = 7 →
      ∀ h h', ReleasedBy s p h → ReleasedBy s p h' → h' = h :=
  pledge_books_match Demo.deployed Demo.bare Demo.pledgeBooks 7 0
    Wired.Demo.asset Demo.releasedOnce Demo.noPledges (by decide +kernel)
    (by decide +kernel)

/-- Asked for twice, the release opens its row again when the second
request is written off: with nothing pending the books show 200 active,
and the vault holds 100. -/
theorem released_reopened :
    let M := machine (network Demo.deployed Demo.bare) Demo.pledgeBooks
    let s := M.run M.init Demo.writtenOff
    M.Allowed (fun a s => PledgesThroughApi 0 Wired.Demo.asset a s
        ∧ Orderly a s) M.init Demo.writtenOff
      ∧ (∀ h ∈ s.db.txIntent.keys, statusOf s h ≠ some .pending)
      ∧ ReleasedBy s 0 52
      ∧ activeUnits s.db 7 = 200
      ∧ heldOf s.chain 0 Wired.Demo.asset = 100 := by
  decide +kernel

end Ballast.Api
