/-
What a request that passes its checks is about to do: one constructor of
`Drafted` per route, with the checks that held in the books it read.

A draft is not recorded at once: the transaction is built and handed out
first, and the books may have moved when `commitDraft` records it. So
these facts are about the books the request read, and what of them still
holds at the recording is for the results to say.
-/
import Ballast.Api.Proofs.Steps

namespace Ballast.Api

open Soroban

/-- The drafts the routes build from the books `db`. -/
inductive Drafted (db : Db) : Draft → Prop
  | openLine {party lender borrower : PartyId} {e : CreditLine.Entry} :
      (∃ account other asset limit rateBps cureS agreement,
        e = .openLine account other asset limit rateBps cureS agreement) →
      Drafted db ⟨.creditLine e, .creditLineOpen, none, party, none,
        .insertLine ⟨lender, borrower, .pendingOpen, none, none⟩⟩
  | lender {party : PartyId} {line : RowId} {kind : IntentKind}
      {amount : Option Int} {e : CreditLine.Entry} :
      (kind = .creditLineFund ∧ ∃ account id a, e = .fund account id a)
        ∨ (kind = .creditLineWithdraw
          ∧ ∃ account id a, e = .withdrawUndrawn account id a
            ∨ e = .withdrawInterest account id a)
        ∨ (kind = .creditLineCloseLiquidated
          ∧ ∃ account id, e = .closeLiquidated account id) →
      Drafted db ⟨.creditLine e, kind, some line, party, amount, .nothing⟩
  | draw {party : PartyId} {line : RowId} {row : CreditLineRow} {id : Nat}
      {account recipient : Address} {amount : Int} :
      0 < amount → db.creditLine.get line = some row →
      row.contractLineId = some id →
      Drafted db ⟨.creditLine (.draw account id amount recipient),
        .creditLineDraw, some line, party, some amount, .nothing⟩
  | repay {party : PartyId} {line : RowId} {row : CreditLineRow} {id : Nat}
      {account : Address} {amount : Int} :
      0 < amount → db.creditLine.get line = some row →
      row.contractLineId = some id →
      Drafted db ⟨.creditLine (.repay account id amount), .creditLineRepay,
        some line, party, some amount, .nothing⟩
  | pledge {party : PartyId} {line asset : RowId} {row : CreditLineRow}
      {id : Nat} {account contract : Address} {units : Int} :
      0 < units → db.creditLine.get line = some row →
      row.contractLineId = some id → db.asset.get asset = some contract →
      Drafted db ⟨.pledgeVault (.pledge account id contract units),
        .pledgeCreate, none, party, none,
        .insertPledge ⟨line, asset, units, .pending⟩⟩
  | release {party : PartyId} {line pledge : RowId} {row : CreditLineRow}
      {id : Nat} {p : PledgeRow} {account contract : Address} :
      db.creditLine.get line = some row → row.contractLineId = some id →
      db.pledge.get pledge = some p → p.creditLineId = line →
      p.status = .active → db.asset.get p.assetId = some contract →
      Drafted db ⟨.pledgeVault (.release account id contract p.units),
        .pledgeRelease, some pledge, party, none, .releasePledge pledge⟩
  | executeExit {party : PartyId} {quote : RowId} {e : ExitDesk.Entry} :
      Drafted db ⟨.exitDesk e, .exitExecute, some quote, party, none,
        .nothing⟩
  | propose {party lender borrower : PartyId} {asset : RowId} {units : Int}
      {account other contract : Address} {cashAmount : Int} {rateBps : Nat}
      {kind : RepoDvp.RepoKind} {maturityAt : Nat}
      {agreementHash : BytesN 32} :
      Drafted db ⟨.repoDvp (.propose account other contract units cashAmount
          rateBps kind maturityAt agreementHash), .repoPropose, none, party,
        none, .insertTrade
          ⟨lender, borrower, asset, units, 0, .proposed, none, none, none⟩⟩
  | accept {party : PartyId} {trade : RowId} {t : RepoTradeRow}
      {contractTradeId : Option Nat} {id : Nat} {account : Address} :
      db.repoTrade.get trade = some t → t.status = .proposed →
      contractTradeId.or t.contractTradeId = some id →
      Drafted db ⟨.repoDvp (.acceptAndSettle account id), .repoAccept,
        some trade, party, none, .nothing⟩
  | unwind {party : PartyId} {trade : RowId} {t : RepoTradeRow}
      {contractTradeId : Option Nat} {id : Nat} {account : Address} :
      db.repoTrade.get trade = some t → t.status = .settled →
      contractTradeId.or t.contractTradeId = some id →
      Drafted db ⟨.repoDvp (.unwind account id), .repoUnwind, some trade,
        party, none, .nothing⟩
  | topUp {party : PartyId} {trade : RowId} {t : RepoTradeRow} {id : Nat}
      {account : Address} {units : Int} : 0 < units →
      db.repoTrade.get trade = some t → t.status = .settled →
      t.contractTradeId = some id →
      Drafted db ⟨.repoDvp (.topUp account id units), .repoTopUp, some trade,
        party, none, .nothing⟩

variable {db : Db} {d : Draft} {party : PartyId}

/-- A line whose opening has settled has its contract id. -/
theorem requireSettledLine_ok {line : RowId} {p : CreditLineRow × Nat} :
    requireSettledLine db line = .ok p ↔
      db.creditLine.get line = some p.1 ∧ p.1.contractLineId = some p.2 := by
  simp only [requireSettledLine, bind_ok, expect_ok, pure_ok]
  constructor
  · rintro ⟨row, hrow, id, hid, rfl⟩
    exact ⟨hrow, hid⟩
  · rintro ⟨hrow, hid⟩
    exact ⟨p.1, hrow, p.2, hid, rfl⟩

/-- The lender's routes share one body. -/
theorem routeLender_ok {line : RowId} {kind : IntentKind}
    {amount : Option Int} {refusal : String}
    {build : Address → Nat → CreditLine.Entry}
    (h : routeLender db party line kind amount refusal build = .ok d) :
    ∃ account id, d = ⟨.creditLine (build account id), kind, some line,
      party, amount, .nothing⟩ := by
  simp only [routeLender, bind_ok, ensure_ok, pure_ok, exists_const] at h
  obtain ⟨-, ⟨row, id⟩, -, -, -, account, -, rfl⟩ := h
  exact ⟨account, id, rfl⟩

/-- A draw is positive, on a settled line. -/
theorem routeDraw_ok {line : RowId} {amount : Int} {recipient : Address}
    (h : routeDraw db party line amount recipient = .ok d) :
    Drafted db d := by
  simp only [routeDraw, positiveAmount, bind_ok, ensure_ok, pure_ok,
    exists_const] at h
  obtain ⟨hpos, ⟨row, id⟩, hrow, -, account, -, rfl⟩ := h
  obtain ⟨hrow, hid⟩ := requireSettledLine_ok.mp hrow
  exact .draw hpos hrow hid

/-- So is a repayment. -/
theorem routeRepay_ok {line : RowId} {amount : Int}
    (h : routeRepay db party line amount = .ok d) : Drafted db d := by
  simp only [routeRepay, positiveAmount, bind_ok, ensure_ok, pure_ok,
    exists_const] at h
  obtain ⟨hpos, ⟨row, id⟩, hrow, -, account, -, rfl⟩ := h
  obtain ⟨hrow, hid⟩ := requireSettledLine_ok.mp hrow
  exact .repay hpos hrow hid

/-- A pledge is of an asset on file, and its row is new. -/
theorem routePledge_ok {line asset : RowId} {units : Int}
    (h : routePledge db party line asset units = .ok d) : Drafted db d := by
  simp only [routePledge, requireAsset, positiveAmount, bind_ok, ensure_ok,
    expect_ok, pure_ok, exists_const] at h
  obtain ⟨hpos, ⟨row, id⟩, hrow, -, contract, hcontract, account, -, rfl⟩ :=
    h
  obtain ⟨hrow, hid⟩ := requireSettledLine_ok.mp hrow
  exact .pledge hpos hrow hid hcontract

/-- A release is of an active pledge of that line, in full. -/
theorem routeRelease_ok {line pledge : RowId} {healthy : Bool}
    (h : routeRelease db party line pledge healthy = .ok d) :
    Drafted db d := by
  simp only [routeRelease, requireAsset, bind_ok, ensure_ok, expect_ok,
    pure_ok, exists_const] at h
  obtain ⟨⟨row, id⟩, hrow, -, p, hp, hline, hactive, -, contract, hcontract,
    account, -, rfl⟩ := h
  obtain ⟨hrow, hid⟩ := requireSettledLine_ok.mp hrow
  exact .release hrow hid hp hline hactive hcontract

/-- A proposed trade is accepted. -/
theorem routeAccept_ok {trade : RowId} {contractTradeId : Option Nat}
    (h : routeAccept db party trade contractTradeId = .ok d) :
    Drafted db d := by
  simp only [routeAccept, bind_ok, ensure_ok, expect_ok, pure_ok,
    exists_const] at h
  obtain ⟨t, ht, -, hstatus, account, -, id, hid, rfl⟩ := h
  exact .accept ht hstatus hid

/-- A settled one is unwound. -/
theorem routeUnwind_ok {trade : RowId} {contractTradeId : Option Nat}
    (h : routeUnwind db party trade contractTradeId = .ok d) :
    Drafted db d := by
  simp only [routeUnwind, bind_ok, ensure_ok, expect_ok, pure_ok,
    exists_const] at h
  obtain ⟨t, ht, -, hstatus, account, -, id, hid, rfl⟩ := h
  exact .unwind ht hstatus hid

/-- It may be topped up, by the contract id on file. -/
theorem routeTopUp_ok {trade : RowId} {units : Int}
    (h : routeTopUp db party trade units = .ok d) : Drafted db d := by
  simp only [routeTopUp, positiveAmount, bind_ok, ensure_ok, expect_ok,
    pure_ok, exists_const] at h
  obtain ⟨hpos, t, ht, -, hstatus, id, hid, account, -, rfl⟩ := h
  exact .topUp hpos ht hstatus hid

/-- So every route builds one of these. -/
theorem route_drafted {req : Request} (h : route db req = .ok d) :
    Drafted db d := by
  cases req with
  | openLine party lender borrower asset limit rateBps cureS agreement =>
      simp only [route, routeOpenLine, positiveAmount, bind_ok, ensure_ok,
        pure_ok, exists_const] at h
      obtain ⟨-, -, account, -, other, -, rfl⟩ := h
      exact .openLine ⟨_, _, _, _, _, _, _, rfl⟩
  | fund party line amount =>
      obtain ⟨account, id, rfl⟩ := routeLender_ok
        (show routeFund db party line amount = .ok d from h)
      exact .lender (.inl ⟨rfl, account, id, amount, rfl⟩)
  | withdrawUndrawn party line amount =>
      obtain ⟨account, id, rfl⟩ := routeLender_ok
        (show routeWithdrawUndrawn db party line amount = .ok d from h)
      exact .lender (.inr (.inl ⟨rfl, account, id, amount, .inl rfl⟩))
  | withdrawInterest party line amount =>
      obtain ⟨account, id, rfl⟩ := routeLender_ok
        (show routeWithdrawInterest db party line amount = .ok d from h)
      exact .lender (.inr (.inl ⟨rfl, account, id, amount, .inr rfl⟩))
  | closeLiquidation party line =>
      obtain ⟨account, id, rfl⟩ := routeLender_ok
        (show routeCloseLiquidation db party line = .ok d from h)
      exact .lender (.inr (.inr ⟨rfl, account, id, rfl⟩))
  | pledge party line asset units => exact routePledge_ok h
  | release party line pledge healthy => exact routeRelease_ok h
  | draw party line amount recipient => exact routeDraw_ok h
  | repay party line amount => exact routeRepay_ok h
  | executeExit party quote minUsdcOut recipient now =>
      simp only [route, routeExecuteExit, bind_ok, ensure_ok, expect_ok,
        pure_ok, exists_const] at h
      obtain ⟨-, q, -, -, -, -, -, -, contract, -, account, -, rfl⟩ := h
      exact .executeExit
  | propose party lender borrower asset units cashAmount rateBps kind
      maturityAt agreementHash =>
      simp only [route, routePropose, positiveAmount, bind_ok, ensure_ok,
        pure_ok, exists_const] at h
      obtain ⟨-, -, -, contract, -, account, -, other, -, rfl⟩ := h
      exact .propose
  | accept party trade contractTradeId => exact routeAccept_ok h
  | unwind party trade contractTradeId => exact routeUnwind_ok h
  | topUp party trade units => exact routeTopUp_ok h

/-- The kind of intent a request records. -/
def Request.kind : Request → IntentKind
  | .openLine .. => .creditLineOpen
  | .fund .. => .creditLineFund
  | .withdrawUndrawn .. | .withdrawInterest .. => .creditLineWithdraw
  | .closeLiquidation .. => .creditLineCloseLiquidated
  | .pledge .. => .pledgeCreate
  | .release .. => .pledgeRelease
  | .draw .. => .creditLineDraw
  | .repay .. => .creditLineRepay
  | .executeExit .. => .exitExecute
  | .propose .. => .repoPropose
  | .accept .. => .repoAccept
  | .unwind .. => .repoUnwind
  | .topUp .. => .repoTopUp

/-- The intent is of the kind that was asked for. -/
theorem route_kind {req : Request} (h : route db req = .ok d) :
    d.kind = req.kind := by
  cases req with
  | openLine =>
      simp only [route, routeOpenLine, bind_ok, pure_ok] at h
      obtain ⟨_, -, _, -, _, -, _, -, rfl⟩ := h
      rfl
  | fund party line amount =>
      obtain ⟨_, _, rfl⟩ := routeLender_ok
        (show routeFund db party line amount = .ok d from h)
      rfl
  | withdrawUndrawn party line amount =>
      obtain ⟨_, _, rfl⟩ := routeLender_ok
        (show routeWithdrawUndrawn db party line amount = .ok d from h)
      rfl
  | withdrawInterest party line amount =>
      obtain ⟨_, _, rfl⟩ := routeLender_ok
        (show routeWithdrawInterest db party line amount = .ok d from h)
      rfl
  | closeLiquidation party line =>
      obtain ⟨_, _, rfl⟩ := routeLender_ok
        (show routeCloseLiquidation db party line = .ok d from h)
      rfl
  | pledge =>
      simp only [route, routePledge, bind_ok, pure_ok] at h
      obtain ⟨_, -, _, -, _, -, _, -, _, -, rfl⟩ := h
      rfl
  | release =>
      simp only [route, routeRelease, bind_ok, pure_ok] at h
      obtain ⟨_, -, _, -, _, -, _, -, _, -, _, -, _, -, _, -, rfl⟩ := h
      rfl
  | draw =>
      simp only [route, routeDraw, bind_ok, pure_ok] at h
      obtain ⟨_, -, _, -, _, -, _, -, rfl⟩ := h
      rfl
  | repay =>
      simp only [route, routeRepay, bind_ok, pure_ok] at h
      obtain ⟨_, -, _, -, _, -, _, -, rfl⟩ := h
      rfl
  | executeExit =>
      simp only [route, routeExecuteExit, bind_ok, pure_ok] at h
      obtain ⟨_, -, _, -, _, -, _, -, _, -, _, -, _, -, _, -, _, -, rfl⟩ := h
      rfl
  | propose =>
      simp only [route, routePropose, bind_ok, pure_ok] at h
      obtain ⟨_, -, _, -, _, -, _, -, _, -, _, -, rfl⟩ := h
      rfl
  | accept =>
      simp only [route, routeAccept, bind_ok, pure_ok] at h
      obtain ⟨_, -, _, -, _, -, _, -, _, -, rfl⟩ := h
      rfl
  | unwind =>
      simp only [route, routeUnwind, bind_ok, pure_ok] at h
      obtain ⟨_, -, _, -, _, -, _, -, _, -, rfl⟩ := h
      rfl
  | topUp =>
      simp only [route, routeTopUp, bind_ok, pure_ok] at h
      obtain ⟨_, -, _, -, _, -, _, -, _, -, _, -, rfl⟩ := h
      rfl

end Ballast.Api
