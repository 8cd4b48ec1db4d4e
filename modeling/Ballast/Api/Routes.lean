/-
The routes that hand out unsigned transactions, up to the point where
each writes its rows.

A route reads the books, checks who is asking and what state the row is
in, has the envelope built, and only then writes: the rows it flips or
creates and the `tx_intent` row, in one database transaction. Between
the check and the write other requests run, so the two halves are
separate steps: `route` is the first and yields a `Draft`, `record` is
the second and does not look at what was checked again.

An envelope is one contract invocation (`Envelope`). It is simulated
while it is built, and a simulation that aborts ends the request; that
check needs the chain and is made where the steps are put together.

# Left out

The health estimate of the release route reads price snapshots and
haircuts no other route touches: here its verdict is an argument of the
request (`healthy`), and `Ballast.Api.Estimate` computes it. Audit-log
rows are written and never read.
-/
import Ballast.Api.Books
import Ballast.ExitDesk.Basic
import Ballast.PledgeVault.Basic

namespace Ballast.Api

open Soroban

/-- The invocation an unsigned transaction carries. -/
inductive Envelope where
  | creditLine (e : CreditLine.Entry)
  | pledgeVault (e : PledgeVault.Entry)
  | exitDesk (e : ExitDesk.Entry)
  | repoDvp (e : RepoDvp.Entry)

/-- What a route writes beside its intent. -/
inductive RowWrite where
  | nothing
  | insertLine (row : CreditLineRow)
  | insertPledge (row : PledgeRow)
  | releasePledge (pledge : RowId)
  | insertTrade (row : RepoTradeRow)
  deriving DecidableEq, Repr

/-- A request whose checks have passed: the envelope built for it, and
what it is about to write. `refId` is the row the intent is about; for a
row yet to be inserted it is the one the insert creates. -/
structure Draft where
  envelope : Envelope
  kind : IntentKind
  refId : Option RowId
  partyId : PartyId
  amount : Option Int
  write : RowWrite

/-- `positiveAmount`, on the parsed number. -/
def positiveAmount (v : Int) : Call Unit :=
  ensure (0 < v) "amount must be positive (> 0)"

/-- `requireStellarAccount`. -/
def requireStellarAccount (db : Db) (party : PartyId) : Call Address :=
  expect (db.partyAccount.get party) "no stellar account on file for party"

/-- `requireAsset`. -/
def requireAsset (db : Db) (asset : RowId) : Call Address :=
  expect (db.asset.get asset) "asset not found"

/-- `requireCreditLine`, and that the line is on chain: the row and its
contract id. -/
def requireSettledLine (db : Db) (line : RowId) :
    Call (CreditLineRow × Nat) := do
  let row ← expect (db.creditLine.get line) "credit line not found"
  let id ← expect row.contractLineId
    "credit line has not settled on-chain yet"
  return (row, id)

/-- `EXIT_MIN_OUT_FLOOR_BPS`. -/
def exitMinOutFloorBps : Int := 9900

-- =============================================================== requests

/-- The requests that build a transaction. The first argument is the
authenticated party. -/
inductive Request where
  | openLine (party lender borrower : PartyId) (asset : Address)
      (limit : Int) (rateBps cureS : Nat) (agreement : BytesN 32)
  | fund (party : PartyId) (line : RowId) (amount : Int)
  | withdrawUndrawn (party : PartyId) (line : RowId) (amount : Int)
  | withdrawInterest (party : PartyId) (line : RowId) (amount : Int)
  | closeLiquidation (party : PartyId) (line : RowId)
  | pledge (party : PartyId) (line asset : RowId) (units : Int)
  | release (party : PartyId) (line pledge : RowId) (healthy : Bool)
  | draw (party : PartyId) (line : RowId) (amount : Int)
      (recipient : Address)
  | repay (party : PartyId) (line : RowId) (amount : Int)
  | executeExit (party : PartyId) (quote : RowId)
      (minUsdcOut : Option Int) (recipient : Address) (now : Nat)
  | propose (party lender borrower : PartyId) (asset : RowId)
      (units cashAmount : Int) (rateBps : Nat) (kind : RepoDvp.RepoKind)
      (maturityAt : Nat) (agreementHash : BytesN 32)
  | accept (party : PartyId) (trade : RowId) (contractTradeId : Option Nat)
  | unwind (party : PartyId) (trade : RowId) (contractTradeId : Option Nat)
  | topUp (party : PartyId) (trade : RowId) (units : Int)

-- =========================================================== credit lines

/-- `POST /v1/credit-lines`. -/
def routeOpenLine (db : Db) (party lender borrower : PartyId)
    (asset : Address) (limit : Int) (rateBps cureS : Nat)
    (agreement : BytesN 32) : Call Draft := do
  positiveAmount limit
  ensure (lender = party)
    "a credit line can only be opened by its own lender"
  let lenderAccount ← requireStellarAccount db lender
  let borrowerAccount ← requireStellarAccount db borrower
  return {
    envelope := .creditLine (.openLine lenderAccount borrowerAccount asset
      limit rateBps cureS agreement)
    kind := .creditLineOpen
    refId := none
    partyId := party
    amount := none
    write := .insertLine ⟨lender, borrower, .pendingOpen, none, none⟩ }

/-- The lender's three routes on a line: each asks the same of the
request and differs in the envelope and the intent. -/
def routeLender (db : Db) (party : PartyId) (line : RowId)
    (kind : IntentKind) (amount : Option Int) (refusal : String)
    (build : Address → Nat → CreditLine.Entry) : Call Draft := do
  ensure (∀ v ∈ amount, 0 < v) "amount must be positive (> 0)"
  let (row, id) ← requireSettledLine db line
  ensure (row.lenderId = party) refusal
  ensure (kind = .creditLineCloseLiquidated → row.status = .liquidating)
    "credit line is not liquidating"
  let account ← requireStellarAccount db row.lenderId
  return {
    envelope := .creditLine (build account id)
    kind := kind
    refId := some line
    partyId := party
    amount := amount
    write := .nothing }

/-- `POST /v1/credit-lines/:id/fund`. -/
def routeFund (db : Db) (party : PartyId) (line : RowId) (amount : Int) :
    Call Draft :=
  routeLender db party line .creditLineFund (some amount)
    "only this line's lender may fund it"
    fun account id => .fund account id amount

/-- `POST /v1/credit-lines/:id/withdrawals` of kind `undrawn`. -/
def routeWithdrawUndrawn (db : Db) (party : PartyId) (line : RowId)
    (amount : Int) : Call Draft :=
  routeLender db party line .creditLineWithdraw (some amount)
    "only this line's lender may withdraw from it"
    fun account id => .withdrawUndrawn account id amount

/-- `POST /v1/credit-lines/:id/withdrawals` of kind `interest`. -/
def routeWithdrawInterest (db : Db) (party : PartyId) (line : RowId)
    (amount : Int) : Call Draft :=
  routeLender db party line .creditLineWithdraw (some amount)
    "only this line's lender may withdraw from it"
    fun account id => .withdrawInterest account id amount

/-- `POST /v1/credit-lines/:id/close-liquidation`. -/
def routeCloseLiquidation (db : Db) (party : PartyId) (line : RowId) :
    Call Draft :=
  routeLender db party line .creditLineCloseLiquidated none
    "only this line's lender may close it"
    fun account id => .closeLiquidated account id

/-- `POST /v1/credit-lines/:id/draws`. -/
def routeDraw (db : Db) (party : PartyId) (line : RowId) (amount : Int)
    (recipient : Address) : Call Draft := do
  positiveAmount amount
  let (row, id) ← requireSettledLine db line
  ensure (row.borrowerId = party) "only this line's borrower may draw on it"
  let account ← requireStellarAccount db row.borrowerId
  return {
    envelope := .creditLine (.draw account id amount recipient)
    kind := .creditLineDraw
    refId := some line
    partyId := party
    amount := some amount
    write := .nothing }

/-- `POST /v1/credit-lines/:id/repayments`. -/
def routeRepay (db : Db) (party : PartyId) (line : RowId) (amount : Int) :
    Call Draft := do
  positiveAmount amount
  let (row, id) ← requireSettledLine db line
  ensure (row.borrowerId = party) "only this line's borrower may repay it"
  let account ← requireStellarAccount db row.borrowerId
  return {
    envelope := .creditLine (.repay account id amount)
    kind := .creditLineRepay
    refId := some line
    partyId := party
    amount := some amount
    write := .nothing }

-- ============================================================ collateral

/-- `POST /v1/credit-lines/:id/pledges`. -/
def routePledge (db : Db) (party : PartyId) (line asset : RowId)
    (units : Int) : Call Draft := do
  positiveAmount units
  let (row, id) ← requireSettledLine db line
  ensure (row.borrowerId = party)
    "only this line's borrower may pledge to it"
  let contract ← requireAsset db asset
  let account ← requireStellarAccount db row.borrowerId
  return {
    envelope := .pledgeVault (.pledge account id contract units)
    kind := .pledgeCreate
    refId := none
    partyId := party
    amount := none
    write := .insertPledge ⟨line, asset, units, .pending⟩ }

/-- `DELETE /v1/credit-lines/:id/pledges/:pledgeId`. -/
def routeRelease (db : Db) (party : PartyId) (line pledge : RowId)
    (healthy : Bool) : Call Draft := do
  let (row, id) ← requireSettledLine db line
  ensure (row.borrowerId = party)
    "only this line's borrower may release its collateral"
  let p ← expect (db.pledge.get pledge) "pledge not found on this credit line"
  ensure (p.creditLineId = line) "pledge not found on this credit line"
  ensure (p.status = .active) "pledge is not active"
  ensure (healthy = true) "release would breach the healthy LTV threshold"
  let contract ← requireAsset db p.assetId
  let account ← requireStellarAccount db row.borrowerId
  return {
    envelope := .pledgeVault (.release account id contract p.units)
    kind := .pledgeRelease
    refId := some pledge
    partyId := party
    amount := none
    write := .releasePledge pledge }

-- ================================================================= exits

/-- An `exit.execute` intent of the quote is pending. -/
def exitInFlight (db : Db) (quote : RowId) : Bool :=
  decide (∃ h ∈ db.txIntent.keys, (db.txIntent.get h).any fun i =>
    i.refId = quote ∧ i.kind = .exitExecute ∧ i.status = .pending)

/-- `POST /v1/exit/quotes/:id/execute`. -/
def routeExecuteExit (db : Db) (party : PartyId) (quote : RowId)
    (minUsdcOut : Option Int) (recipient : Address) (now : Nat) :
    Call Draft := do
  ensure (∀ v ∈ minUsdcOut, 0 < v) "amount must be positive (> 0)"
  let q ← expect (db.exitQuote.get quote) "quote not found"
  ensure (q.holderId = party) "quote not found"
  ensure (q.status = .opened) "quote is not open"
  ensure (now ≤ q.expiresAt) "quote expired"
  ensure (exitInFlight db quote = false)
    "an execute for this quote is already pending"
  let least := minUsdcOut.getD q.usdcOut
  ensure ((q.usdcOut * exitMinOutFloorBps).tdiv 10000 ≤ least)
    "minUsdcOut is below the allowed slippage floor for this quote"
  let contract ← requireAsset db q.assetId
  let account ← requireStellarAccount db q.holderId
  return {
    envelope := .exitDesk (.exit account contract q.units least recipient)
    kind := .exitExecute
    refId := some quote
    partyId := party
    amount := none
    write := .nothing }

/-- The write of a refused execute: an open quote past its time is marked
`expired`. -/
def lapseQuote (db : Db) (quote : RowId) (now : Nat) : Call Db := do
  let q ← expect (db.exitQuote.get quote) "quote not found"
  ensure (q.status = .opened) "quote is not open"
  ensure (q.expiresAt < now) "quote has not expired"
  return { db with
    exitQuote := db.exitQuote.set quote { q with status := .expired } }

-- ================================================================= repos

/-- `POST /v1/repo/proposals`. -/
def routePropose (db : Db) (party lender borrower : PartyId)
    (asset : RowId) (units cashAmount : Int) (rateBps : Nat)
    (kind : RepoDvp.RepoKind) (maturityAt : Nat)
    (agreementHash : BytesN 32) : Call Draft := do
  positiveAmount units
  positiveAmount cashAmount
  ensure (lender = party)
    "a repo can only be proposed by its own cash lender"
  let contract ← requireAsset db asset
  let lenderAccount ← requireStellarAccount db lender
  let borrowerAccount ← requireStellarAccount db borrower
  return {
    envelope := .repoDvp (.propose lenderAccount borrowerAccount contract
      units cashAmount rateBps kind maturityAt agreementHash)
    kind := .repoPropose
    refId := none
    partyId := party
    amount := none
    write := .insertTrade
      ⟨lender, borrower, asset, units, 0, .proposed, none, none, none⟩ }

/-- `POST /v1/repo/proposals/:id/accept`. -/
def routeAccept (db : Db) (party : PartyId) (trade : RowId)
    (contractTradeId : Option Nat) : Call Draft := do
  let t ← expect (db.repoTrade.get trade) "repo proposal not found"
  ensure (t.cashBorrowerId = party)
    "only the cash borrower can accept a repo proposal"
  ensure (t.status = .proposed) "trade is not proposed"
  let account ← requireStellarAccount db t.cashBorrowerId
  let id ← expect (contractTradeId.or t.contractTradeId)
    "repo proposal has not settled on-chain yet"
  return {
    envelope := .repoDvp (.acceptAndSettle account id)
    kind := .repoAccept
    refId := some trade
    partyId := party
    amount := none
    write := .nothing }

/-- `POST /v1/repo/trades/:id/unwind`. -/
def routeUnwind (db : Db) (party : PartyId) (trade : RowId)
    (contractTradeId : Option Nat) : Call Draft := do
  let t ← expect (db.repoTrade.get trade) "repo trade not found"
  ensure (t.cashBorrowerId = party ∨ t.cashLenderId = party)
    "repo trade not found"
  ensure (t.status = .settled) "trade is not settled"
  let account ← requireStellarAccount db party
  let id ← expect (contractTradeId.or t.contractTradeId)
    "repo proposal has not settled on-chain yet"
  return {
    envelope := .repoDvp (.unwind account id)
    kind := .repoUnwind
    refId := some trade
    partyId := party
    amount := none
    write := .nothing }

/-- `POST /v1/repo/trades/:id/top-ups`. -/
def routeTopUp (db : Db) (party : PartyId) (trade : RowId) (units : Int) :
    Call Draft := do
  positiveAmount units
  let t ← expect (db.repoTrade.get trade) "repo trade not found"
  ensure (t.cashBorrowerId = party)
    "only the cash borrower can add collateral to a repo"
  ensure (t.status = .settled) "trade is not settled"
  let id ← expect t.contractTradeId "repo has not settled on-chain yet"
  let account ← requireStellarAccount db t.cashBorrowerId
  return {
    envelope := .repoDvp (.topUp account id units)
    kind := .repoTopUp
    refId := some trade
    partyId := party
    amount := none
    write := .nothing }

-- ============================================================ the two halves

/-- A request up to its write. -/
def route (db : Db) : Request → Call Draft
  | .openLine party lender borrower asset limit rateBps cureS agreement =>
      routeOpenLine db party lender borrower asset limit rateBps cureS
        agreement
  | .fund party line amount => routeFund db party line amount
  | .withdrawUndrawn party line amount =>
      routeWithdrawUndrawn db party line amount
  | .withdrawInterest party line amount =>
      routeWithdrawInterest db party line amount
  | .closeLiquidation party line => routeCloseLiquidation db party line
  | .pledge party line asset units => routePledge db party line asset units
  | .release party line pledge healthy =>
      routeRelease db party line pledge healthy
  | .draw party line amount recipient =>
      routeDraw db party line amount recipient
  | .repay party line amount => routeRepay db party line amount
  | .executeExit party quote minUsdcOut recipient now =>
      routeExecuteExit db party quote minUsdcOut recipient now
  | .propose party lender borrower asset units cashAmount rateBps kind
      maturityAt agreementHash =>
      routePropose db party lender borrower asset units cashAmount rateBps
        kind maturityAt agreementHash
  | .accept party trade contractTradeId =>
      routeAccept db party trade contractTradeId
  | .unwind party trade contractTradeId =>
      routeUnwind db party trade contractTradeId
  | .topUp party trade units => routeTopUp db party trade units

/-- The row a draft writes, under the fresh id `id` if it inserts one. -/
def writeRow (db : Db) (id : RowId) : RowWrite → Call Db
  | .nothing => return db
  | .insertLine row => do
      ensure (db.creditLine.get id = none) "duplicate key"
      return { db with creditLine := db.creditLine.set id row }
  | .insertPledge row => do
      ensure (db.pledge.get id = none) "duplicate key"
      return { db with pledge := db.pledge.set id row }
  | .releasePledge pledge =>
      return { db with
        pledge := db.pledge.adjust pledge fun r =>
          { r with status := .pendingRelease } }
  | .insertTrade row => do
      ensure (db.repoTrade.get id = none) "duplicate key"
      return { db with repoTrade := db.repoTrade.set id row }

/-- `recordIntent`, for an envelope with hash `h`. -/
def recordIntent (db : Db) (h : TxHash) (d : Draft) (refId : RowId)
    (now : Nat) : Call Db := do
  ensure (db.txIntent.get h = none) "duplicate key"
  return { db with
    txIntent := db.txIntent.set h
      ⟨h, d.kind, refId, d.partyId, d.amount, .pending, none, none, now,
        none⟩ }

/-- The second half of a request, `withTransaction`: its row write and
its intent, or neither. -/
def record (db : Db) (h : TxHash) (d : Draft) (id : RowId) (now : Nat) :
    Call Db := do
  let db ← writeRow db id d.write
  recordIntent db h d (d.refId.getD id) now

end Ballast.Api
