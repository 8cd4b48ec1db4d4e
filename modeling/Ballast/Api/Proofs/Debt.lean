/-
When the debt books equal the contract.

The contract takes `min(amount, owed)` of a repayment and says how much
that was; the API records the whole `amount` and splits it by comparing
its own books with a later reading of what the line has drawn. So the
books are right under two conditions, one on what lands and one on what
is booked.

# What lands

A repayment is for no more than is owed when it lands (`PaysWhatIsOwed`).
Then what the contract applied is what the row says.

# What is booked

The reading a repayment is booked with, together with the draws that
have landed and are not on the books, is no less than what the line has
drawn now, and no more than that and the principal of the other
repayments still to be booked (`ReadsInStep`). A draw booked since the
reading, one the reading saw that is not booked, and a repayment booked
that the reading did not see are the three ways out of that band.

Inside it, books and contract differ at every moment by what has landed
and is not booked (`Balanced`), and by nothing once nothing is pending.
-/
import Ballast.Api.Proofs.Drawn
import Ballast.Api.Proofs.Rows

namespace Ballast.Api

open Soroban Machine

-- ============================================================== the books

/-- The draws on the books. -/
def bookedDraws (db : Db) (r : RowId) : Int :=
  ((db.draw.filter (·.creditLineId = r)).map (·.amount)).sum

/-- The principal the books show as repaid. -/
def bookedPrincipal (db : Db) (r : RowId) : Int :=
  ((db.repayment.filter (·.creditLineId = r)).map (·.principal)).sum

/-- What a landed transaction added to what the line has drawn. -/
def added (line : Nat) (x : Landing Chain) : Int :=
  drawnOf x.after line - drawnOf x.before line

/-- What has been drawn and is not on the books. -/
def unbookedDraws (s : System Chain) (r : RowId) (line : Nat) : Int :=
  unbooked (onRow .creditLineDraw r) (added line) s

/-- The principal that has been repaid and is not on the books. -/
def unbookedPrincipal (s : System Chain) (r : RowId) (line : Nat) : Int :=
  unbooked (onRow .creditLineRepay r) (fun x => -added line x) s

-- ========================================================= the conditions

variable {r : RowId} {line : Nat}

/-- The line an envelope closes out. -/
def Envelope.closes : Envelope → Option Nat
  | .creditLine (.closeLiquidated _ id) => some id
  | _ => none

/-- The line's draws and repayments are all made through the API, and
nothing closes it out. -/
def ThroughBooks (line : Nat) (a : Act ChainTx) (s : System Chain) :
    Prop :=
  match a with
  | .outside tx => tx.debtLine ≠ some line
  | .commitDraft id _ _ _ => ∀ d ∈ s.drafts.get id,
      d.envelope.closes ≠ some line
  | _ => True

/-- What the envelope pays to the line. -/
def Envelope.repays (line : Nat) : Envelope → Option Int
  | .creditLine (.repay _ id amount) => if id = line then some amount else none
  | _ => none

/-- What a caller about to book a success has read. -/
def Phase.bookedWith : Phase → Option ContractState
  | .ready (.success _ _) read => some read
  | _ => none

/-- A repayment that lands is for no more than is owed. -/
def PaysWhatIsOwed (line : Nat) (a : Act ChainTx) (s : System Chain) :
    Prop :=
  match a with
  | .land h env => ∀ e ∈ s.envelopes.get h, ∀ amount ∈ e.repays line,
      ∀ owed ∈ (owedAt env s.chain line).toOption, amount ≤ owed
  | _ => True

/-- A repayment is booked with a reading that is in step with the draws
and repayments on the books. -/
def ReadsInStep (r : RowId) (line : Nat) (a : Act ChainTx)
    (s : System Chain) : Prop :=
  match a with
  | .commit w delivery _ => delivery ≠ .rolledBack →
      ∀ k ∈ s.workers.get w,
      Waits (onRow .creditLineRepay r) s.db k.intent.txHash →
      ∀ read ∈ k.phase.bookedWith, ∀ onChain ∈ read.line,
      ∀ x ∈ s.landed.get k.intent.txHash,
        drawnOf s.chain line ≤ onChain.drawn + unbookedDraws s r line
          ∧ onChain.drawn + unbookedDraws s r line - added line x
            ≤ drawnOf s.chain line + unbookedPrincipal s r line
  | _ => True

instance (line : Nat) (a : Act ChainTx) (s : System Chain) :
    Decidable (ThroughBooks line a s) :=
  match a with
  | .outside tx => inferInstanceAs (Decidable (tx.debtLine ≠ some line))
  | .commitDraft id _ _ _ => inferInstanceAs (Decidable
      (∀ d ∈ s.drafts.get id, d.envelope.closes ≠ some line))
  | .start .. | .lapseQuote .. | .land .. | .pick .. | .ask ..
  | .readContracts .. | .commit .. | .reread .. | .recordError ..
  | .writeOff .. => isTrue trivial

instance (line : Nat) (a : Act ChainTx) (s : System Chain) :
    Decidable (PaysWhatIsOwed line a s) :=
  match a with
  | .land h env => inferInstanceAs (Decidable
      (∀ e ∈ s.envelopes.get h, ∀ amount ∈ e.repays line,
        ∀ owed ∈ (owedAt env s.chain line).toOption, amount ≤ owed))
  | .outside _ | .start .. | .commitDraft .. | .lapseQuote .. | .pick ..
  | .ask .. | .readContracts .. | .commit .. | .reread .. | .recordError ..
  | .writeOff .. => isTrue trivial

instance (r : RowId) (line : Nat) (a : Act ChainTx) (s : System Chain) :
    Decidable (ReadsInStep r line a s) :=
  match a with
  | .commit w delivery _ => inferInstanceAs (Decidable
      (delivery ≠ .rolledBack →
        ∀ k ∈ s.workers.get w,
        Waits (onRow .creditLineRepay r) s.db k.intent.txHash →
        ∀ read ∈ k.phase.bookedWith, ∀ onChain ∈ read.line,
        ∀ x ∈ s.landed.get k.intent.txHash,
          drawnOf s.chain line ≤ onChain.drawn + unbookedDraws s r line
            ∧ onChain.drawn + unbookedDraws s r line - added line x
              ≤ drawnOf s.chain line + unbookedPrincipal s r line))
  | .outside _ | .start .. | .commitDraft .. | .lapseQuote .. | .land ..
  | .pick .. | .ask .. | .readContracts .. | .reread .. | .recordError ..
  | .writeOff .. => isTrue trivial

-- ========================================================= what is on file

/-- What the envelope of an intent has to do with the line. -/
structure LineGood (r : RowId) (line : Nat) (e : Envelope)
    (kind : IntentKind) (refId : RowId) (amount : Option Int) : Prop where
  draw : kind = .creditLineDraw → refId = r →
    ∃ b a recipient, e = .creditLine (.draw b line a recipient)
      ∧ amount = some a
  repay : kind = .creditLineRepay → refId = r →
    ∃ p a, e = .creditLine (.repay p line a) ∧ amount = some a
  only : e.debtLine = some line → refId = r
    ∧ (kind = .creditLineDraw ∨ kind = .creditLineRepay)
  opened : kind = .creditLineOpen →
    ∃ lender borrower asset limit rate cure agreement,
      e = .creditLine (.openLine lender borrower asset limit rate cure
        agreement)

/-- What a request in flight has to do with the line. -/
structure LineDraft (r : RowId) (line : Nat) (d : Draft) : Prop where
  draw : d.kind = .creditLineDraw → ∃ b id a recipient r',
    d.envelope = .creditLine (.draw b id a recipient) ∧ d.amount = some a
      ∧ d.refId = some r' ∧ (r' = r → id = line)
  repay : d.kind = .creditLineRepay → ∃ p id a r',
    d.envelope = .creditLine (.repay p id a) ∧ d.amount = some a
      ∧ d.refId = some r' ∧ (r' = r → id = line)
  only : d.envelope.debtLine = some line →
    d.envelope.closes = some line
      ∨ d.refId = some r
        ∧ (d.kind = .creditLineDraw ∨ d.kind = .creditLineRepay)
  opened : d.kind = .creditLineOpen →
    ∃ lender borrower asset limit rate cure agreement,
      d.envelope = .creditLine (.openLine lender borrower asset limit rate
        cure agreement)

theorem Drafted.lineDraft {db : Db} {d : Draft} (hd : Drafted db d)
    (hown : contractLine db r = some line)
    (honly : ∀ r', contractLine db r' = some line → r' = r) :
    LineDraft r line d := by
  have hrow : ∀ {row : CreditLineRow} {id : Nat},
      db.creditLine.get r = some row → row.contractLineId = some id →
      id = line := by
    intro row id hrow hid
    rw [contractLine, hrow] at hown
    exact Option.some.inj (hid.symm.trans hown)
  cases hd with
  | openLine he =>
      obtain ⟨account, other, asset, limit, rateBps, cureS, agreement, rfl⟩ :=
        he
      exact ⟨by simp, by simp, by simp [Envelope.debtLine, debtLine],
        fun _ => ⟨_, _, _, _, _, _, _, rfl⟩⟩
  | lender he =>
      rcases he with ⟨rfl, _, _, _, rfl⟩ | ⟨rfl, _, _, _, rfl | rfl⟩
        | ⟨rfl, _, _, rfl⟩ <;>
      exact ⟨by simp, by simp,
        by simp [Envelope.debtLine, debtLine, Envelope.closes], by simp⟩
  | @draw party r' row id account recipient amount _ hline hid =>
      refine ⟨fun _ => ⟨account, id, amount, recipient, r', rfl, rfl, rfl,
        ?_⟩, by simp, ?_, by simp⟩
      · rintro rfl
        exact hrow hline hid
      · intro hdebt
        injection hdebt with hdebt
        subst hdebt
        have hr := honly r' (by rw [contractLine, hline]; exact hid)
        subst hr
        exact .inr ⟨rfl, .inl rfl⟩
  | @repay party r' row id account amount _ hline hid =>
      refine ⟨by simp, fun _ => ⟨account, id, amount, r', rfl, rfl, rfl,
        ?_⟩, ?_, by simp⟩
      · rintro rfl
        exact hrow hline hid
      · intro hdebt
        injection hdebt with hdebt
        subst hdebt
        have hr := honly r' (by rw [contractLine, hline]; exact hid)
        subst hr
        exact .inr ⟨rfl, .inr rfl⟩
  | _ => exact ⟨by simp, by simp, by simp [Envelope.debtLine], by simp⟩

/-- A draft the API may record for the line is good. -/
theorem LineDraft.good {d : Draft} {id h row now : Nat} {s : System Chain}
    (hd : LineDraft r line d) (hdraft : s.drafts.get id = some d)
    (hthrough : ThroughBooks line (.commitDraft id h row now) s) :
    LineGood r line d.envelope d.kind (d.refId.getD row) d.amount := by
  constructor
  · intro hkind href
    obtain ⟨b, id', a, recipient, r', he, hamount, href', hline⟩ :=
      hd.draw hkind
    rw [href'] at href
    rw [hline href] at he
    exact ⟨b, a, recipient, he, hamount⟩
  · intro hkind href
    obtain ⟨p, id', a, r', he, hamount, href', hline⟩ := hd.repay hkind
    rw [href'] at href
    rw [hline href] at he
    exact ⟨p, a, he, hamount⟩
  · intro hdebt
    rcases hd.only hdebt with hclose | ⟨href, hkind⟩
    · exact absurd hclose (hthrough d hdraft)
    · rw [href]
      exact ⟨rfl, hkind⟩
  · exact hd.opened

-- ============================================================ book effects

section

variable {db db' : Db} {contracts : Contracts} {intent : TxIntent}
  {outcome : Outcome} {read : ContractState} {now : Nat}

/-- What a settlement does to the debt books. -/
inductive DebtBooked (db db' : Db) (contracts : Contracts)
    (intent : TxIntent) (read : ContractState) : Outcome → Prop
  | draw {ledger : Nat} {v amount : Int} :
      intent.kind = .creditLineDraw → intent.amount = some amount →
      db'.draw = db.draw ++
        [⟨intent.refId, amount, intent.txHash, ledger⟩] →
      db'.repayment = db.repayment →
      DebtBooked db db' contracts intent read (.success ledger v)
  | repay {ledger : Nat} {v amount : Int} {onChain : CreditLine.Line} :
      intent.kind = .creditLineRepay → intent.amount = some amount →
      (read.line = some onChain ∨ read.line = none) →
      db'.draw = db.draw →
      db'.repayment = db.repayment ++
        [⟨intent.refId,
          principalOf (outstandingDebt db intent.refId) onChain.drawn amount,
          amount - principalOf (outstandingDebt db intent.refId)
            onChain.drawn amount,
          intent.txHash, ledger⟩] →
      DebtBooked db db' contracts intent read (.success ledger v)
  | other {outcome : Outcome} :
      (∀ ledger v, outcome = .success ledger v →
        intent.kind ≠ .creditLineDraw ∧ intent.kind ≠ .creditLineRepay) →
      db'.draw = db.draw → db'.repayment = db.repayment →
      DebtBooked db db' contracts intent read outcome

theorem applyOutcome_debt
    (hdb : applyOutcome db contracts intent outcome read now = .ok db') :
    DebtBooked db db' contracts intent read outcome := by
  cases outcome with
  | failed ledger =>
      injection hdb with hdb
      subst hdb
      refine .other (by simp) ?_ ?_ <;> (unfold applyFailure; split <;> rfl)
  | success ledger v =>
      have hdb' : applySuccess db contracts intent ledger v read now
          = .ok db' := hdb
      unfold applySuccess at hdb'
      split at hdb'
      case h_5 hkind =>
        simp only [bind_ok, expect_ok, pure_ok] at hdb'
        obtain ⟨amount, hamount, rfl⟩ := hdb'
        exact .draw hkind hamount rfl rfl
      case h_6 hkind =>
        simp only [bind_ok, expect_ok, pure_ok] at hdb'
        obtain ⟨amount, hamount, onChain, hread, rfl⟩ := hdb'
        refine .repay hkind hamount ?_ rfl rfl
        unfold orRead at hread
        split at hread
        · next hsome =>
          injection hread with hread
          exact .inl (by rw [hsome, hread])
        · next hnone => exact .inr hnone
      all_goals
        next hkind =>
        simp only [bind_ok, pure_ok] at hdb'
        refine .other (by simp [hkind]) ?_ ?_ <;>
        first
          | (subst hdb'; rfl)
          | (obtain ⟨_, -, rfl⟩ := hdb'; rfl)

end

-- ============================================================== in order

variable {d : Deployed} {start : Chain} {db : Db} {s s' : System Chain}
  {a : Act ChainTx}

/-- What is on file about the line, on both sides. -/
structure LineFiled (d : Deployed) (start : Chain) (db : Db) (r : RowId)
    (line : Nat) (s : System Chain) : Prop where
  filed : Filed (network d start) db (LineGood r line) s
  rows : LineRows r line s
  up : LineUp s.chain line
  drafts : ∀ id dr, s.drafts.get id = some dr → LineDraft r line dr
  ups : ∀ h x, s.landed.get h = some x → LineUp x.before line
  read : ∀ w k ledger v read, s.workers.get w = some k →
    k.phase = .ready (.success ledger v) read →
    k.intent.kind = .creditLineRepay → k.intent.refId = r →
    ∃ onChain, read.line = some onChain ∧ 0 ≤ onChain.drawn

/-- The caller's reading for a repayment of row `r` is of this line. -/
theorem LineFiled.read_step (hf : LineFiled d start db r line s)
    (hdid : Did (network d start) s s' a) :
    ∀ w k ledger v read, s'.workers.get w = some k →
      k.phase = .ready (.success ledger v) read →
      k.intent.kind = .creditLineRepay → k.intent.refId = r →
      ∃ onChain, read.line = some onChain ∧ 0 ≤ onChain.drawn := by
  have hmove : ∀ (w : Nat) (i : TxIntent) (p : Phase),
      (∀ ledger v read, p = .ready (.success ledger v) read →
        i.kind = .creditLineRepay → i.refId = r →
        ∃ onChain, read.line = some onChain ∧ 0 ≤ onChain.drawn) →
      s'.workers = s.workers.set w ⟨i, p⟩ →
      ∀ w k ledger v read, s'.workers.get w = some k →
        k.phase = .ready (.success ledger v) read →
        k.intent.kind = .creditLineRepay → k.intent.refId = r →
        ∃ onChain, read.line = some onChain ∧ 0 ≤ onChain.drawn := by
    intro w i p hp hw w' k ledger v read hk
    rw [hw, Store.get_set] at hk
    split at hk
    · injection hk with hk
      subst hk
      exact hp ledger v read
    · exact hf.read w' k ledger v read hk
  cases hdid with
  | outside _ hs' => subst hs'; exact hf.read
  | started _ hs' => subst hs'; exact hf.read
  | recorded _ _ hs' => subst hs'; exact hf.read
  | lapsed _ hs' => subst hs'; exact hf.read
  | landed _ _ _ hs' => subst hs'; exact hf.read
  | @moved _ w i p _ hm hs' =>
      subst hs'
      refine hmove w i p ?_ rfl
      intro ledger v read hp hkind href
      subst hp
      cases hm with
      | read hk _ hread =>
          have hline : (s.db.creditLine.get r).bind (·.contractLineId)
              = some line := hf.rows.row
          simp only [preRead, hkind, href, hline, bind_ok, pure_ok] at hread
          obtain ⟨onChain, honChain, rfl⟩ := hread
          obtain ⟨l, hl, hdrawn, -⟩ := hf.up.line
          have hget : CreditLine.readLine s.chain.lending.creditLine line
              = .ok onChain := honChain
          rw [CreditLine.readLine, expect_ok, hl] at hget
          injection hget with hget
          subst hget
          exact ⟨l, rfl, hdrawn⟩
  | @settled w now delivery k outcome read db' p hk hphase hrun hp hs' =>
      subst hs'
      refine hmove w k.intent p ?_ rfl
      intro ledger v read' hp'
      rcases hp with rfl | ⟨err, rfl⟩ <;> cases hp'
  | @writtenOff w now delivery k db' hk habsent hexp hs' =>
      subst hs'
      exact hmove w k.intent .holding (by simp) rfl
  | @erred w k err hk hphase hs' =>
      subst hs'
      exact hmove w k.intent .holding (by simp) rfl

/-- Nothing recorded for the line closes it. -/
theorem LineFiled.not_close (hf : LineFiled d start db r line s)
    {h : TxHash} {e : Envelope} (he : s.envelopes.get h = some e)
    (payee : Address) :
    e ≠ .creditLine (.closeLiquidated payee line) := by
  intro hclose
  obtain ⟨i, -, hgood⟩ := hf.filed.handed h e he
  subst hclose
  obtain ⟨href, hkind | hkind⟩ := hgood.only rfl
  · obtain ⟨b, a, recipient, he', -⟩ := hgood.draw hkind href
    cases he'
  · obtain ⟨p, a, he', -⟩ := hgood.repay hkind href
    cases he'

/-- The line stays up. -/
theorem LineFiled.up_step (hf : LineFiled d start db r line s)
    (hdid : Did (network d start) s s' a)
    (hthrough : ThroughBooks line a s) : LineUp s'.chain line := by
  cases hdid with
  | outside happ hs' =>
      subst hs'
      refine (debt_step hf.up happ ?_).2
      intro env payee htx
      subst htx
      exact hthrough rfl
  | landed he _ hlands hs' =>
      subst hs'
      exact hlands.up hf.up (hf.not_close he)
  | started _ hs' => subst hs'; exact hf.up
  | recorded _ _ hs' => subst hs'; exact hf.up
  | lapsed _ hs' => subst hs'; exact hf.up
  | moved _ _ hs' => subst hs'; exact hf.up
  | settled _ _ _ _ hs' => subst hs'; exact hf.up
  | writtenOff _ _ _ hs' => subst hs'; exact hf.up
  | erred _ _ hs' => subst hs'; exact hf.up

theorem LineFiled.drafts_step (hf : LineFiled d start db r line s)
    (hdid : Did (network d start) s s' a) :
    ∀ id dr, s'.drafts.get id = some dr → LineDraft r line dr := by
  cases hdid with
  | @started id req env d' hd hs' =>
      subst hs'
      intro id' dr hdr
      rw [Store.get_set] at hdr
      split at hdr
      · injection hdr with hdr
        subst hdr
        exact (route_drafted hd).lineDraft hf.rows.row hf.rows.only
      · exact hf.drafts id' dr hdr
  | recorded _ _ hs' =>
      subst hs'
      intro id' dr hdr
      rw [Store.get_remove] at hdr
      split at hdr
      · cases hdr
      · exact hf.drafts id' dr hdr
  | outside _ hs' => subst hs'; exact hf.drafts
  | lapsed _ hs' => subst hs'; exact hf.drafts
  | landed _ _ _ hs' => subst hs'; exact hf.drafts
  | moved _ _ hs' => subst hs'; exact hf.drafts
  | settled _ _ _ _ hs' => subst hs'; exact hf.drafts
  | writtenOff _ _ _ hs' => subst hs'; exact hf.drafts
  | erred _ _ hs' => subst hs'; exact hf.drafts

theorem LineFiled.ups_step (hf : LineFiled d start db r line s)
    (hdid : Did (network d start) s s' a) :
    ∀ h x, s'.landed.get h = some x → LineUp x.before line := by
  cases hdid with
  | landed _ _ hlands hs' =>
      subst hs'
      intro h x hx
      rw [Store.get_set] at hx
      split at hx
      · injection hx with hx
        subst hx
        rw [hlands.before]
        exact hf.up
      · exact hf.ups h x hx
  | outside _ hs' => subst hs'; exact hf.ups
  | started _ hs' => subst hs'; exact hf.ups
  | recorded _ _ hs' => subst hs'; exact hf.ups
  | lapsed _ hs' => subst hs'; exact hf.ups
  | moved _ _ hs' => subst hs'; exact hf.ups
  | settled _ _ _ _ hs' => subst hs'; exact hf.ups
  | writtenOff _ _ _ hs' => subst hs'; exact hf.ups
  | erred _ _ hs' => subst hs'; exact hf.ups

/-- Every step of the system keeps the line's files in order. -/
theorem lineFiled_step (hf : LineFiled d start db r line s)
    (hdid : Did (network d start) s s' a)
    (hthrough : ThroughBooks line a s) (hord : Orderly a s) :
    LineFiled d start db r line s' where
  filed := by
    refine filed_step hf.filed hdid ?_
    rintro id h row now dr rfl hdr
    exact (hf.drafts id dr hdr).good hdr hthrough
  rows := lineRows_step hf.rows hf.filed
    (fun _ _ _ _ hgood => hgood.opened) hdid hord
  up := hf.up_step hdid hthrough
  drafts := hf.drafts_step hdid
  ups := hf.ups_step hdid
  read := hf.read_step hdid

end Ballast.Api
