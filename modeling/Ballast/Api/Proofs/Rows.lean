/-
Which row a contract line belongs to.

The line table is a column of contract ids (`lineColumn`), so of the rows
on file only one names a given line, and the name is never rewritten
(`LineRows`): a transaction the API builds for the line is about that
row.

The id a row names is the one its open returned when it landed, and no
two opens return the same (`Lands.opened`). Since rows are written at
the settlement, which may come late or twice, the invariant has to speak
of the intents that are still open as well, and of the requests that are
about to insert a row.
-/
import Ballast.Api.Proofs.Minted
import Ballast.Wired.Proofs.Mirror

namespace Ballast.Api

open Soroban Machine

-- ========================================================== what is minted

section

variable {d : Deployed} {start c c' : Chain} {tx : ChainTx}

/-- Contract line ids only go up. -/
theorem nextLineId_step
    (happ : (chainMachine d start).apply tx c = .ok c') :
    c.lending.creditLine.nextLineId ≤ c'.lending.creditLine.nextLineId := by
  cases tx with
  | lending tx =>
      obtain ⟨w, hw, rfl⟩ := map_ok.mp happ
      cases tx with
      | creditLine env e =>
          obtain ⟨hcall, -⟩ := Wired.callLine_ok
            (show Wired.callLine d.lending env e ⟨c.tokens, c.lending⟩
              = .ok w from hw)
          have hnext := (CreditLine.call_store hcall).next
          show c.lending.creditLine.nextLineId
            ≤ w.store.creditLine.nextLineId
          have hnext' : w.store.creditLine.nextLineId
              = c.lending.creditLine.nextLineId + e.minted := hnext
          omega
      | vault env e =>
          cases Wired.callVault_ok
            (show Wired.callVault d.lending env e ⟨c.tokens, c.lending⟩
              = .ok w from hw) with
          | setup _ _ hsame =>
              show _ ≤ w.store.creditLine.nextLineId
              rw [hsame]
          | position _ _ _ _ hwrite =>
              show _ ≤ w.store.creditLine.nextLineId
              rw [hwrite]
              exact le_rfl
      | outside tokens =>
          injection hw with hw
          subst hw
          exact le_rfl
  | repo tx =>
      obtain ⟨w, -, rfl⟩ := map_ok.mp happ
      exact le_rfl
  | desk tx =>
      obtain ⟨w, -, rfl⟩ := map_ok.mp happ
      exact le_rfl

/-- An open that lands returns an id no line had before. -/
theorem Lands.opened {env : Env} {x : Landing Chain} {lender borrower asset
    : Address} {limit : Int} {rate cure : Nat} {agreement : BytesN 32}
    (h : Lands (network d start) env
      (.creditLine (.openLine lender borrower asset limit rate cure
        agreement)) c x) {ledger : Nat} {v : Int}
    (hsuccess : x.outcome = .success ledger v) :
    v = c.lending.creditLine.nextLineId := by
  cases h with
  | success =>
      injection hsuccess with _ hv
      exact hv.symm
  | failed => cases hsuccess

end

-- ============================================================== the column

section

variable {db db' : Db} {contracts : Contracts} {intent : TxIntent}
  {outcome : Outcome} {read : ContractState} {now : Nat} {r : RowId}

/-- The contract line a row is about. -/
def contractLine (db : Db) (r : RowId) : Option Nat :=
  (db.creditLine.get r).bind (·.contractLineId)

/-- A settlement leaves a row's contract line alone, unless it is of the
row's open, which writes what the transaction returned. -/
theorem applyOutcome_contractLine
    (hdb : applyOutcome db contracts intent outcome read now = .ok db')
    (r : RowId) :
    contractLine db' r = contractLine db r
      ∨ intent.kind = .creditLineOpen ∧ intent.refId = r
        ∧ ∃ ledger v, outcome = .success ledger v
          ∧ contractLine db' r = some v.toNat := by
  have hkeep : ∀ f : CreditLineRow → CreditLineRow,
      (∀ row, (f row).contractLineId = row.contractLineId) →
      ((db.creditLine.adjust intent.refId f).get r).bind (·.contractLineId)
        = (db.creditLine.get r).bind (·.contractLineId) := by
    intro f hf
    rw [Store.get_adjust]
    split
    · next hr =>
      rw [hr]
      cases db.creditLine.get intent.refId with
      | none => rfl
      | some row => exact hf row
    · rfl
  cases outcome with
  | failed ledger =>
      injection hdb with hdb
      subst hdb
      refine .inl ?_
      unfold applyFailure
      split
      · exact hkeep _ fun _ => rfl
      all_goals rfl
  | success ledger v =>
      have hdb' : applySuccess db contracts intent ledger v read now
          = .ok db' := hdb
      unfold applySuccess at hdb'
      split at hdb' <;> simp only [bind_ok, pure_ok] at hdb'
      case h_1 hkind =>
        subst hdb'
        by_cases hr : intent.refId = r
        · subst hr
          cases hrow : db.creditLine.get intent.refId with
          | none =>
              refine .inl ?_
              show ((db.creditLine.adjust intent.refId _).get _).bind _ = _
              rw [Store.adjust_none _ hrow]
              rfl
          | some row =>
              refine .inr ⟨hkind, rfl, ledger, v, rfl, ?_⟩
              show ((db.creditLine.adjust intent.refId _).get _).bind _ = _
              rw [Store.adjust_some _ hrow, Store.get_set_self]
              rfl
        · refine .inl ?_
          show ((db.creditLine.adjust intent.refId _).get r).bind _ = _
          rw [Store.get_adjust, if_neg (Ne.symm hr)]
          rfl
      case h_4 hkind =>
        obtain ⟨record, -, rfl⟩ := hdb'
        exact .inl (hkeep _ fun _ => rfl)
      all_goals first
        | (subst hdb'; exact .inl rfl)
        | (obtain ⟨_, -, rfl⟩ := hdb'; exact .inl rfl)
        | (obtain ⟨_, -, _, -, rfl⟩ := hdb'; exact .inl rfl)

/-- A recorded request leaves every row's contract line alone; the row
it may insert was not there. -/
theorem record_contractLine {h : TxHash} {dr : Draft} {row : RowId}
    (hdb : record db h dr row now = .ok db')
    (hblank : ∀ line, dr.write = .insertLine line →
      line.contractLineId = none) (r : RowId) :
    contractLine db' r = contractLine db r := by
  obtain ⟨db₁, hwrite, -, rfl⟩ := record_ok hdb
  show contractLine db₁ r = _
  unfold writeRow at hwrite
  split at hwrite <;>
    simp only [bind_ok, ensure_ok, pure_ok, exists_const] at hwrite
  case h_2 line hins =>
    obtain ⟨hnone, rfl⟩ := hwrite
    unfold contractLine
    rw [Store.get_set]
    split
    · next hr =>
      rw [hr, hnone]
      exact hblank line hins
    · rfl
  all_goals first
    | (subst hwrite; rfl)
    | (obtain ⟨-, rfl⟩ := hwrite; rfl)

end

-- ============================================================== the owner

/-- What a request in flight does to the line table. -/
structure OpensRow (dr : Draft) : Prop where
  opens : dr.kind = .creditLineOpen →
    dr.refId = none ∧ ∃ row, dr.write = .insertLine row
  blank : ∀ row, dr.write = .insertLine row → row.contractLineId = none

theorem Drafted.opensRow {db : Db} {dr : Draft} (hd : Drafted db dr) :
    OpensRow dr := by
  cases hd with
  | openLine _ => exact ⟨fun _ => ⟨rfl, _, rfl⟩, by simp⟩
  | lender he =>
      rcases he with ⟨rfl, -⟩ | ⟨rfl, -⟩ | ⟨rfl, -⟩ <;>
        exact ⟨by simp, by simp⟩
  | _ => exact ⟨by simp, by simp⟩

/-- The line table's contract ids. -/
def lineColumn : IdColumn where
  read := contractLine
  opener := .creditLineOpen
  mints e := ∃ lender borrower asset limit rate cure agreement,
    e = .creditLine (.openLine lender borrower asset limit rate cure
      agreement)
  next c := c.lending.creditLine.nextLineId
  wellFormed _ := True
  fits := OpensRow

/-- Row `r`, and no other, is about the contract line `line`. -/
structure LineRows (r : RowId) (line : Nat) (s : System Chain) : Prop where
  row : contractLine s.db r = some line
  only : ∀ r', contractLine s.db r' = some line → r' = r
  opens : ∀ h i, s.db.txIntent.get h = some i →
    i.kind = .creditLineOpen → i.refId = r → i.status ≠ .pending
  drafts : ∀ id dr, s.drafts.get id = some dr → OpensRow dr
  minted : line < s.chain.lending.creditLine.nextLineId
  before : ∀ h x, s.landed.get h = some x →
    line < x.before.lending.creditLine.nextLineId

section

variable {d : Deployed} {start : Chain} {db₀ : Db}
  {Good : Envelope → IntentKind → RowId → Option Int → Prop}
  {r : RowId} {line : Nat} {s s' : System Chain} {a : Act ChainTx}

/-- The intents of an open are of `open_line` calls. -/
def OpensLine (Good : Envelope → IntentKind → RowId → Option Int → Prop) :
    Prop :=
  ∀ e kind refId amount, Good e kind refId amount →
    kind = .creditLineOpen →
    ∃ lender borrower asset limit rate cure agreement,
      e = .creditLine (.openLine lender borrower asset limit rate cure
        agreement)

theorem lineMinting (d : Deployed) (start : Chain) :
    Minting d start lineColumn := by
  constructor
  case congr =>
    intro db db' hline _ r
    show contractLine db' r = contractLine db r
    rw [contractLine, hline, contractLine]
  case booked =>
    intro db db' contracts intent outcome read now hdb r
    exact applyOutcome_contractLine hdb r
  case drafted =>
    intro db dr hd
    exact hd.opensRow
  case recorded =>
    intro db db' h dr row now hfits hdb
    refine ⟨record_contractLine hdb hfits.blank, ?_⟩
    intro hkind
    obtain ⟨hnone, line, hins⟩ := hfits.opens hkind
    refine ⟨hnone, ?_⟩
    obtain ⟨db₁, hwrite, -, -⟩ := record_ok hdb
    rw [hins] at hwrite
    simp only [writeRow, bind_ok, ensure_ok, exists_const] at hwrite
    show contractLine db row = none
    rw [contractLine, hwrite.1]
    rfl
  case grows =>
    intro c c' tx _ happ
    exact ⟨trivial, nextLineId_step happ⟩
  case returns =>
    intro env e c x ledger v he hlands hout
    obtain ⟨_, _, _, _, _, _, _, rfl⟩ := he
    exact hlands.opened hout

theorem lineRows_iff : LineRows r line s ↔ Named lineColumn r line s :=
  ⟨fun h => ⟨h.row, h.only, h.opens, h.drafts, trivial, h.minted, h.before⟩,
    fun h => ⟨h.row, h.only, h.opens, h.drafts, h.minted, h.before⟩⟩

theorem lineRows_step (hl : LineRows r line s)
    (hf : Filed (network d start) db₀ Good s) (hgood : OpensLine Good)
    (hdid : Did (network d start) s s' a) (hord : Orderly a s) :
    LineRows r line s' :=
  lineRows_iff.mpr
    (named_step (lineMinting d start) (lineRows_iff.mp hl) hf hgood hdid hord)

end

end Ballast.Api
