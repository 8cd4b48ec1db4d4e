/-
The pledge rows of a line, and the intents about them.

An intent pins the status of the row it is about (`pins`): a create that
is pending, a release that is pending or settled. While no two intents
pin one row, a row's status says what became of its units, and a
settlement writes the status it should.

A release is checked when it is requested and written when it commits,
and in between another release of the same row may commit. So that a row
is pinned once is a condition on the run (`ReleasesActive`): a release
commits only while its row is still active.
-/
import Ballast.Api.Proofs.Held
import Ballast.Api.Proofs.Rows

namespace Ballast.Api

open Soroban Machine

variable {d : Deployed} {start : Chain} {db₀ : Db} {r : RowId} {line : Nat}
  {asset : Address} {s s' : System Chain} {a : Act ChainTx}

-- ============================================================== the rows

/-- A pledge row of the line `r` with a status of the kind. -/
def PledgeRow.counts (r : RowId) (ok : PledgeStatus → Bool)
    (row : PledgeRow) : Int :=
  if row.creditLineId = r ∧ ok row.status then row.units else 0

/-- The units of the line's pledge rows with status `active`. -/
def activeUnits (db : Db) (r : RowId) : Int :=
  db.pledge.total fun _ row => row.counts r (· = .active)

/-- A status whose units are in the vault, by the books. -/
def PledgeStatus.inVault (st : PledgeStatus) : Bool :=
  st = .active ∨ st = .pendingRelease

/-- The units of the rows whose units are in the vault. -/
def vaultUnits (db : Db) (r : RowId) : Int :=
  db.pledge.total fun _ row => row.counts r PledgeStatus.inVault

/-- An intent about a pledge row. -/
def ofPledge (kind : IntentKind) : Bool :=
  kind = .pledgeCreate ∨ kind = .pledgeRelease

/-- The status an intent holds its row to. -/
def TxIntent.pins (i : TxIntent) : Option PledgeStatus :=
  match i.kind, i.status with
  | .pledgeCreate, .pending => some .pending
  | .pledgeRelease, .pending => some .pendingRelease
  | .pledgeRelease, .settled => some .released
  | _, _ => none

/-- The status a settlement writes to the row it is about. -/
def bookedStatus (kind : IntentKind) (outcome : Outcome) :
    Option PledgeStatus :=
  match kind, outcome with
  | .pledgeCreate, .success _ _ => some .active
  | .pledgeCreate, .failed _ => some .failed
  | .pledgeRelease, .success _ _ => some .released
  | .pledgeRelease, .failed _ => some .active
  | _, _ => none

/-- The pledge table after a settlement. -/
def bookPledge (pledge : Store RowId PledgeRow) (intent : TxIntent)
    (outcome : Outcome) : Store RowId PledgeRow :=
  match bookedStatus intent.kind outcome with
  | some st => pledge.adjust intent.refId fun row => { row with status := st }
  | none => pledge

theorem applyOutcome_pledge {db db' : Db} {contracts : Contracts}
    {intent : TxIntent} {outcome : Outcome} {read : ContractState}
    {now : Nat}
    (hdb : applyOutcome db contracts intent outcome read now = .ok db') :
    db'.pledge = bookPledge db.pledge intent outcome := by
  cases outcome with
  | failed ledger =>
      injection hdb with hdb
      subst hdb
      unfold applyFailure bookPledge
      cases hkind : intent.kind <;> rfl
  | success ledger v =>
      have hdb' : applySuccess db contracts intent ledger v read now
          = .ok db' := hdb
      unfold applySuccess at hdb'
      unfold bookPledge
      split at hdb' <;> simp only [bind_ok, pure_ok] at hdb' <;>
        next hkind =>
        rw [hkind]
        first
          | (subst hdb'; rfl)
          | (obtain ⟨_, -, rfl⟩ := hdb'; rfl)
          | (obtain ⟨_, -, _, -, rfl⟩ := hdb'; rfl)

-- ========================================================== the conditions

/-- Every pledge and release of the line is built by the API, nothing
liquidates it, and its asset stays in escrow. -/
def PledgesThroughApi (line : Nat) (asset : Address) (a : Act ChainTx)
    (_s : System Chain) : Prop :=
  match a with
  | .outside tx => tx.pledgeLine ≠ some line ∧ tx.keepsEscrow asset
  | _ => True

/-- The pledge row a draft is about to release. -/
def RowWrite.releases : RowWrite → Option RowId
  | .releasePledge pledge => some pledge
  | _ => none

/-- A release of one of the line's rows commits only while the row is
still active. -/
def ReleasesActive (r : RowId) (a : Act ChainTx) (s : System Chain) :
    Prop :=
  match a with
  | .commitDraft id _ _ _ => ∀ dr ∈ s.drafts.get id,
      ∀ p ∈ dr.write.releases, ∀ row ∈ s.db.pledge.get p,
        row.creditLineId = r → row.status = .active
  | _ => True

instance (asset : Address) (tx : ChainTx) :
    Decidable (tx.keepsEscrow asset) :=
  match tx with
  | .lending (.vault _ (.configureAsset _ a _ _ _ _ mode)) =>
      inferInstanceAs (Decidable (a = asset → mode = .escrow))
  | .lending (.vault _ (.initContract ..))
  | .lending (.vault _ (.setGateway ..)) | .lending (.vault _ (.pledge ..))
  | .lending (.vault _ (.release ..)) | .lending (.vault _ (.recordLien ..))
  | .lending (.vault _ (.liquidate ..)) | .lending (.creditLine ..)
  | .lending (.outside _) | .repo _ | .desk _ => isTrue trivial

instance (line : Nat) (asset : Address) (a : Act ChainTx)
    (s : System Chain) : Decidable (PledgesThroughApi line asset a s) :=
  match a with
  | .outside tx => inferInstanceAs (Decidable
      (tx.pledgeLine ≠ some line ∧ tx.keepsEscrow asset))
  | .start .. | .commitDraft .. | .lapseQuote .. | .land .. | .pick ..
  | .ask .. | .readContracts .. | .commit .. | .reread .. | .recordError ..
  | .writeOff .. => isTrue trivial

instance (r : RowId) (a : Act ChainTx) (s : System Chain) :
    Decidable (ReleasesActive r a s) :=
  match a with
  | .commitDraft id _ _ _ => inferInstanceAs (Decidable
      (∀ dr ∈ s.drafts.get id, ∀ p ∈ dr.write.releases,
        ∀ row ∈ s.db.pledge.get p,
          row.creditLineId = r → row.status = .active))
  | .outside _ | .start .. | .lapseQuote .. | .land .. | .pick .. | .ask ..
  | .readContracts .. | .commit .. | .reread .. | .recordError ..
  | .writeOff .. => isTrue trivial

-- ============================================================== the table

/-- Rows stay, and change in their status alone. -/
def PledgesKept (db db' : Db) : Prop :=
  ∀ p row, db.pledge.get p = some row →
    ∃ st, db'.pledge.get p = some { row with status := st }

theorem PledgesKept.of_eq {db db' : Db} (h : db'.pledge = db.pledge) :
    PledgesKept db db' := by
  intro p row hrow
  exact ⟨row.status, by rw [h]; exact hrow⟩

theorem PledgesKept.of_adjust {db db' : Db} {p : RowId}
    {st : PledgeStatus}
    (h : db'.pledge = db.pledge.adjust p fun row =>
      { row with status := st }) : PledgesKept db db' := by
  intro q row hrow
  rw [h, Store.get_adjust]
  by_cases hq : q = p
  · subst hq
    rw [if_pos rfl, hrow]
    exact ⟨st, rfl⟩
  · rw [if_neg hq]
    exact ⟨row.status, hrow⟩

theorem bookPledge_kept {db db' : Db} {intent : TxIntent}
    {outcome : Outcome}
    (h : db'.pledge = bookPledge db.pledge intent outcome) :
    PledgesKept db db' := by
  unfold bookPledge at h
  split at h
  · exact .of_adjust h
  · exact .of_eq h

/-- What a request writes to the pledge table. -/
inductive PledgeWrite (db db' : Db) (id : RowId) (write : RowWrite) : Prop
  | insert {row : PledgeRow} : write = .insertPledge row →
      db.pledge.get id = none → db'.pledge = db.pledge.set id row →
      PledgeWrite db db' id write
  | release {p : RowId} : write = .releasePledge p →
      db'.pledge = db.pledge.adjust p (fun row =>
        { row with status := .pendingRelease }) →
      PledgeWrite db db' id write
  | other : (∀ row, write ≠ .insertPledge row) → write.releases = none →
      db'.pledge = db.pledge → PledgeWrite db db' id write

theorem record_pledge {db db' : Db} {h : TxHash} {dr : Draft} {id : RowId}
    {now : Nat} (hdb : record db h dr id now = .ok db') :
    PledgeWrite db db' id dr.write := by
  obtain ⟨db₁, hwrite, -, rfl⟩ := record_ok hdb
  unfold writeRow at hwrite
  split at hwrite <;>
    simp only [bind_ok, ensure_ok, pure_ok, exists_const] at hwrite
  case h_1 hw =>
    subst hwrite
    exact .other (by simp [hw]) (by simp [hw, RowWrite.releases]) rfl
  case h_2 row hw =>
    obtain ⟨-, rfl⟩ := hwrite
    exact .other (by simp [hw]) (by simp [hw, RowWrite.releases]) rfl
  case h_3 row hw =>
    obtain ⟨hnone, rfl⟩ := hwrite
    exact .insert hw hnone rfl
  case h_4 p hw =>
    subst hwrite
    exact .release hw rfl
  case h_5 row hw =>
    obtain ⟨-, rfl⟩ := hwrite
    exact .other (by simp [hw]) (by simp [hw, RowWrite.releases]) rfl

theorem PledgeWrite.kept {db db' : Db} {id : RowId} {write : RowWrite}
    (h : PledgeWrite db db' id write) : PledgesKept db db' := by
  cases h with
  | insert _ hnone hdb =>
      intro p row hrow
      refine ⟨row.status, ?_⟩
      rw [hdb, Store.get_set_ne, hrow]
      intro hp
      rw [hp, hnone] at hrow
      cases hrow
  | release _ hdb => exact .of_adjust hdb
  | other _ _ hdb => exact .of_eq hdb

-- ============================================================== the drafts

/-- An envelope is the pledge, or the release, of a row's units; it is of
the contract line `line` exactly when the row is of the line `r`. -/
def UnitsOf (r : RowId) (line : Nat) (e : Envelope) (kind : IntentKind)
    (row : PledgeRow) : Prop :=
  ∃ b id a, (row.creditLineId = r ↔ id = line)
    ∧ (kind = .pledgeCreate ∧ e = .pledgeVault (.pledge b id a row.units)
      ∨ kind = .pledgeRelease
        ∧ e = .pledgeVault (.release b id a row.units))

/-- What an envelope has to do with its intent's kind. -/
structure PledgeGood (e : Envelope) (kind : IntentKind) (_refId : RowId)
    (_amount : Option Int) : Prop where
  only : e.pledgeLine ≠ none → ofPledge kind = true
  keeps : ∀ asset, e.keepsEscrow asset
  opened : kind = .creditLineOpen →
    ∃ lender borrower asset limit rate cure agreement,
      e = .creditLine (.openLine lender borrower asset limit rate cure
        agreement)

/-- What a request in flight is about to do to the pledge table. -/
structure PledgeDraft (r : RowId) (line : Nat) (db : Db) (dr : Draft) :
    Prop where
  create : dr.kind = .pledgeCreate → dr.refId = none
    ∧ ∃ row, dr.write = .insertPledge row ∧ row.status = .pending
      ∧ UnitsOf r line dr.envelope dr.kind row
  release : dr.kind = .pledgeRelease → ∃ p row, dr.refId = some p
    ∧ dr.write = .releasePledge p ∧ db.pledge.get p = some row
    ∧ UnitsOf r line dr.envelope dr.kind row
  other : ofPledge dr.kind = false →
    (∀ row, dr.write ≠ .insertPledge row) ∧ dr.write.releases = none
  good : ∀ refId, PledgeGood dr.envelope dr.kind refId dr.amount

theorem Drafted.pledgeDraft {db : Db} {dr : Draft} (hd : Drafted db dr)
    (hown : contractLine db r = some line)
    (honly : ∀ r', contractLine db r' = some line → r' = r) :
    PledgeDraft r line db dr := by
  -- a row names the line exactly when it is row `r`
  have hrow : ∀ {r' : RowId} {row : CreditLineRow} {id : Nat},
      db.creditLine.get r' = some row → row.contractLineId = some id →
      (r' = r ↔ id = line) := by
    intro r' row id hrow hid
    have hline : contractLine db r' = some id := by
      rw [contractLine, hrow]
      exact hid
    constructor
    · rintro rfl
      exact Option.some.inj (hline.symm.trans hown)
    · rintro rfl
      exact honly r' hline
  cases hd with
  | openLine he =>
      obtain ⟨account, other, asset, limit, rateBps, cureS, agreement, rfl⟩ :=
        he
      exact ⟨by simp, by simp, by simp [RowWrite.releases],
        fun _ => ⟨by simp [Envelope.pledgeLine], fun _ => trivial,
          fun _ => ⟨_, _, _, _, _, _, _, rfl⟩⟩⟩
  | lender he =>
      rcases he with ⟨rfl, -⟩ | ⟨rfl, -⟩ | ⟨rfl, -⟩ <;>
      exact ⟨by simp, by simp, by simp [RowWrite.releases],
        fun _ => ⟨by simp [Envelope.pledgeLine], fun _ => trivial, by simp⟩⟩
  | @pledge party r' a row id account contract units _ hline hid _ =>
      refine ⟨fun _ => ⟨rfl, _, rfl, rfl, account, id, contract,
        hrow hline hid, .inl ⟨rfl, rfl⟩⟩, by simp, by simp [ofPledge],
        fun _ => ⟨by simp [ofPledge], fun _ => trivial, by simp⟩⟩
  | @release party r' p row id prow account contract hline hid hp hof _ _ =>
      refine ⟨by simp, fun _ => ⟨p, prow, rfl, rfl, hp, account, id,
        contract, ?_, .inr ⟨rfl, rfl⟩⟩, by simp [ofPledge],
        fun _ => ⟨by simp [ofPledge], fun _ => trivial, by simp⟩⟩
      rw [hof]
      exact hrow hline hid
  | _ =>
      exact ⟨by simp, by simp, by simp [RowWrite.releases],
        fun _ => ⟨by simp [Envelope.pledgeLine], fun _ => trivial, by simp⟩⟩

/-- A draft that inserts a row is a pledge, and the row is pending. -/
theorem PledgeDraft.of_insert {db : Db} {dr : Draft} {row : PledgeRow}
    (h : PledgeDraft r line db dr) (hw : dr.write = .insertPledge row) :
    dr.kind = .pledgeCreate ∧ dr.refId = none ∧ row.status = .pending
      ∧ UnitsOf r line dr.envelope dr.kind row := by
  have hkind : dr.kind = .pledgeCreate := by
    by_contra hne
    by_cases hrel : dr.kind = .pledgeRelease
    · obtain ⟨q, _, -, hwrel, -⟩ := h.release hrel
      rw [hw] at hwrel
      cases hwrel
    · have hother := h.other (by simp [ofPledge, hne, hrel])
      exact hother.1 row hw
  obtain ⟨href, row', hins, hst, hunits⟩ := h.create hkind
  rw [hw] at hins
  injection hins with hins
  subst hins
  exact ⟨hkind, href, hst, hunits⟩

/-- A draft that flips a row is a release of it. -/
theorem PledgeDraft.of_release {db : Db} {dr : Draft} {p : RowId}
    (h : PledgeDraft r line db dr) (hw : dr.write = .releasePledge p) :
    dr.kind = .pledgeRelease ∧ dr.refId = some p
      ∧ ∃ row, db.pledge.get p = some row
        ∧ UnitsOf r line dr.envelope dr.kind row := by
  have hkind : dr.kind = .pledgeRelease := by
    by_contra hne
    by_cases hcreate : dr.kind = .pledgeCreate
    · obtain ⟨-, _, hins, -⟩ := h.create hcreate
      rw [hw] at hins
      cases hins
    · have hother := h.other (by simp [ofPledge, hne, hcreate])
      have hnone := hother.2
      rw [hw] at hnone
      cases hnone
  obtain ⟨q, row, href, hrel, hrow, hunits⟩ := h.release hkind
  rw [hw] at hrel
  injection hrel with hrel
  subst hrel
  exact ⟨hkind, href, row, hrow, hunits⟩

/-- Other requests' writes do not take back what a draft has seen. -/
theorem PledgeDraft.kept {db db' : Db} {dr : Draft}
    (h : PledgeDraft r line db dr) (hkept : PledgesKept db db') :
    PledgeDraft r line db' dr := by
  refine ⟨h.create, ?_, h.other, h.good⟩
  intro hkind
  obtain ⟨p, row, href, hwrite, hrow, hunits⟩ := h.release hkind
  obtain ⟨st, hrow'⟩ := hkept p row hrow
  exact ⟨p, _, href, hwrite, hrow', hunits⟩

end Ballast.Api
