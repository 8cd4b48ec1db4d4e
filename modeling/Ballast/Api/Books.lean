/-
The API's books: the tables `services/api` writes, and what a
transaction it built means for them once the network has an answer.

Rows keep the columns some modelled function reads or writes. Money
columns hold decimal strings with seven fractional digits and are read
back through `decimalStringToScaled`; here they are the scaled integers
themselves. A table is keyed by its primary key, except `draw`,
`repayment` and `exit_fill`, which are only ever appended to.

`update(..).where(eq(id, ..))` touches the row if there is one and is
silent otherwise (`Store.adjust`); a `!` on a missing row or a `BigInt`
of a missing value throws, which is an aborted `Call` here.
-/
import Ballast.CreditLine.Basic
import Ballast.RepoDvp.Basic

namespace Ballast.Api

open Soroban

/-- `tx_hash`: the hash of an envelope's body, the same before and after
it is signed. -/
abbrev TxHash := Nat

/-- A row's uuid. -/
abbrev RowId := Nat

/-- A party's uuid. -/
abbrev PartyId := Nat

-- =============================================================== intents

/-- `IntentKind`. -/
inductive IntentKind where
  | creditLineOpen
  | creditLineFund
  | creditLineWithdraw
  | creditLineCloseLiquidated
  | creditLineDraw
  | creditLineRepay
  | pledgeCreate
  | pledgeRelease
  | exitExecute
  | repoPropose
  | repoAccept
  | repoUnwind
  | repoTopUp
  deriving DecidableEq, Repr

inductive IntentStatus where
  | pending
  | settled
  | failed
  | expired
  deriving DecidableEq, Repr

/-- A `tx_intent` row. Of `payload` only the amount is ever read back. -/
structure TxIntent where
  txHash : TxHash
  kind : IntentKind
  refId : RowId
  partyId : PartyId
  amount : Option Int
  status : IntentStatus
  ledger : Option Nat
  error : Option String
  createdAt : Nat
  settledAt : Option Nat
  deriving DecidableEq, Repr

-- ================================================================= tables

inductive LineStatus where
  | pendingOpen
  | opened
  | liquidating
  | closed
  | failed
  deriving DecidableEq, Repr

structure CreditLineRow where
  lenderId : PartyId
  borrowerId : PartyId
  status : LineStatus
  contractLineId : Option Nat
  closedAt : Option Nat
  deriving DecidableEq, Repr

inductive PledgeStatus where
  | pending
  | active
  | pendingRelease
  | released
  | failed
  | liquidated
  deriving DecidableEq, Repr

structure PledgeRow where
  creditLineId : RowId
  assetId : RowId
  units : Int
  status : PledgeStatus
  deriving DecidableEq, Repr

structure DrawRow where
  creditLineId : RowId
  amount : Int
  txHash : TxHash
  ledger : Nat
  deriving DecidableEq, Repr

structure RepaymentRow where
  creditLineId : RowId
  principal : Int
  interest : Int
  txHash : TxHash
  ledger : Nat
  deriving DecidableEq, Repr

/-- A `liquidation` row; `credit_line_id` is unique and keys it. -/
structure LiquidationRow where
  units : Int
  proceeds : Option Int
  shortfall : Option Int
  txHashes : List TxHash
  completedAt : Option Nat
  deriving DecidableEq, Repr

inductive QuoteStatus where
  | opened
  | filled
  | expired
  deriving DecidableEq, Repr

structure ExitQuoteRow where
  holderId : PartyId
  assetId : RowId
  units : Int
  usdcOut : Int
  expiresAt : Nat
  status : QuoteStatus
  deriving DecidableEq, Repr

/-- An `exit_fill` row with payout route `direct`. -/
structure ExitFillRow where
  quoteId : RowId
  txHash : TxHash
  deriving DecidableEq, Repr

inductive TradeStatus where
  | proposed
  | settled
  | unwound
  | failed
  deriving DecidableEq, Repr

structure RepoTradeRow where
  cashLenderId : PartyId
  cashBorrowerId : PartyId
  assetId : RowId
  units : Int
  startLedger : Nat
  status : TradeStatus
  contractTradeId : Option Nat
  leg1Tx : Option TxHash
  leg2Tx : Option TxHash
  deriving DecidableEq, Repr

/-- A `repo_margin_call` row. Times are in milliseconds. -/
structure RepoMarginCallRow where
  tradeId : RowId
  amount : Int
  ccy : String
  dueAt : Nat
  curedAt : Option Nat
  deriving DecidableEq, Repr

structure Db where
  txIntent : Store TxHash TxIntent
  /-- a party's Stellar account -/
  partyAccount : Store PartyId Address
  /-- `asset.contract_c` -/
  asset : Store RowId Address
  creditLine : Store RowId CreditLineRow
  pledge : Store RowId PledgeRow
  draw : List DrawRow
  repayment : List RepaymentRow
  liquidation : Store RowId LiquidationRow
  exitQuote : Store RowId ExitQuoteRow
  exitFill : List ExitFillRow
  repoTrade : Store RowId RepoTradeRow
  repoMarginCall : List RepoMarginCallRow

/-- A database nothing has been written to. -/
def Db.empty : Db where
  txIntent := Store.empty
  partyAccount := Store.empty
  asset := Store.empty
  creditLine := Store.empty
  pledge := Store.empty
  draw := []
  repayment := []
  liquidation := Store.empty
  exitQuote := Store.empty
  exitFill := []
  repoTrade := Store.empty
  repoMarginCall := []

-- ============================================================ the network

/-- `TxOutcome` once it is final. `returnValue` is the number the
invocation returned, zero where it returns nothing. -/
inductive Outcome where
  | success (ledger : Nat) (returnValue : Int)
  | failed (ledger : Nat)
  deriving DecidableEq, Repr

/-- `outcome.ledger`. -/
def Outcome.ledger : Outcome → Nat
  | .success ledger _ => ledger
  | .failed ledger => ledger

/-- The status a claimed intent takes. -/
def Outcome.next : Outcome → IntentStatus
  | .success _ _ => .settled
  | .failed _ => .failed

/-- The contract reads a settlement makes, as the contracts answer them
now. -/
structure Contracts where
  liquidationRecord : Nat → Call CreditLine.LiquidationRecord
  line : Nat → Call CreditLine.Line
  trade : Nat → Call RepoDvp.RepoTrade

/-- `contractState`: what was read before the database transaction. -/
structure ContractState where
  liquidationRecord : Option CreditLine.LiquidationRecord
  line : Option CreditLine.Line
  trade : Option RepoDvp.RepoTrade
  deriving DecidableEq

/-- `contractState` where nothing was read. -/
def ContractState.unread : ContractState := ⟨none, none, none⟩

-- ============================================================ book effects

/-- `outstandingDebt`: the principal the books still show as owed. -/
def outstandingDebt (db : Db) (line : RowId) : Int :=
  let drawn := ((db.draw.filter (·.creditLineId = line)).map (·.amount)).sum
  let repaid := ((db.repayment.filter (·.creditLineId = line)).map
    (·.principal)).sum
  max (drawn - repaid) 0

/-- `line.contractLineId!` of a row that must exist. -/
def contractLineOf (db : Db) (line : RowId) : Call Nat := do
  let row ← expect (db.creditLine.get line) "credit line not found"
  expect row.contractLineId "contractLineId is null"

/-- `trade.contractTradeId!` of a row that must exist. -/
def contractTradeOf (db : Db) (trade : RowId) : Call Nat := do
  let row ← expect (db.repoTrade.get trade) "repo trade not found"
  expect row.contractTradeId "contractTradeId is null"

/-- `a ?? (await b)`. -/
def orRead {α : Type} (a : Option α) (b : Call α) : Call α :=
  match a with
  | some x => .ok x
  | none => b

/-- The principal a repayment retired, by difference: what the books show
as owed less what the contract shows as drawn, no less than nothing and
no more than was paid. -/
def principalOf (before drawn amount : Int) : Int :=
  min (max (before - drawn) 0) amount

/-- A liquidation row after `close_liquidated` settled under `h`. -/
def LiquidationRow.close (r : LiquidationRow)
    (record : CreditLine.LiquidationRecord) (h : TxHash) (now : Nat) :
    LiquidationRow :=
  { r with
    proceeds := some record.recovered
    shortfall := some record.shortfall
    txHashes := if h ∈ r.txHashes then r.txHashes else r.txHashes ++ [h]
    completedAt := some now }

/-- `set({ curedAt: now })` on the open margin calls of a trade. -/
def cureCalls (calls : List RepoMarginCallRow) (trade : RowId)
    (now : Nat) : List RepoMarginCallRow :=
  calls.map fun c =>
    if c.tradeId = trade ∧ c.curedAt.isNone
    then { c with curedAt := some now } else c

/-- `applySuccess`. -/
def applySuccess (db : Db) (contracts : Contracts) (intent : TxIntent)
    (ledger : Nat) (returnValue : Int) (read : ContractState) (now : Nat) :
    Call Db :=
  match intent.kind with
  | .creditLineOpen =>
      return { db with
        creditLine := db.creditLine.adjust intent.refId fun r =>
          { r with
            contractLineId := some returnValue.toNat
            status := .opened } }
  | .creditLineFund => return db
  | .creditLineWithdraw => return db
  | .creditLineCloseLiquidated => do
      let record ← orRead read.liquidationRecord do
        let line ← contractLineOf db intent.refId
        contracts.liquidationRecord line
      return { db with
        liquidation := db.liquidation.adjust intent.refId fun r =>
          r.close record intent.txHash now
        creditLine := db.creditLine.adjust intent.refId fun r =>
          { r with status := .closed, closedAt := some now } }
  | .creditLineDraw => do
      let amount ← expect intent.amount "payload.amount is undefined"
      return { db with
        draw := db.draw ++ [⟨intent.refId, amount, intent.txHash, ledger⟩] }
  | .creditLineRepay => do
      let amount ← expect intent.amount "payload.amount is undefined"
      let before := outstandingDebt db intent.refId
      let onChain ← orRead read.line do
        let line ← contractLineOf db intent.refId
        contracts.line line
      let principal := principalOf before onChain.drawn amount
      return { db with
        repayment := db.repayment ++
          [⟨intent.refId, principal, amount - principal, intent.txHash,
            ledger⟩] }
  | .pledgeCreate =>
      return { db with
        pledge := db.pledge.adjust intent.refId fun r =>
          { r with status := .active } }
  | .pledgeRelease =>
      return { db with
        pledge := db.pledge.adjust intent.refId fun r =>
          { r with status := .released } }
  | .exitExecute =>
      return { db with
        exitQuote := db.exitQuote.adjust intent.refId fun r =>
          { r with status := .filled }
        exitFill := db.exitFill ++ [⟨intent.refId, intent.txHash⟩] }
  | .repoPropose =>
      return { db with
        repoTrade := db.repoTrade.adjust intent.refId fun r =>
          { r with contractTradeId := some returnValue.toNat } }
  | .repoAccept =>
      return { db with
        repoTrade := db.repoTrade.adjust intent.refId fun r =>
          { r with
            status := .settled
            leg1Tx := some intent.txHash
            startLedger := ledger } }
  | .repoUnwind =>
      return { db with
        repoTrade := db.repoTrade.adjust intent.refId fun r =>
          { r with status := .unwound, leg2Tx := some intent.txHash } }
  | .repoTopUp => do
      let onChain ← orRead read.trade do
        let trade ← contractTradeOf db intent.refId
        contracts.trade trade
      return { db with
        repoTrade := db.repoTrade.adjust intent.refId fun r =>
          { r with units := onChain.units }
        repoMarginCall := if onChain.pendingMarginCall then db.repoMarginCall
          else cureCalls db.repoMarginCall intent.refId now }

/-- `applyFailure`: undoes the row a route wrote when it built the
transaction. -/
def applyFailure (db : Db) (intent : TxIntent) : Db :=
  match intent.kind with
  | .creditLineOpen =>
      { db with
        creditLine := db.creditLine.adjust intent.refId fun r =>
          { r with status := .failed } }
  | .pledgeCreate =>
      { db with
        pledge := db.pledge.adjust intent.refId fun r =>
          { r with status := .failed } }
  | .pledgeRelease =>
      { db with
        pledge := db.pledge.adjust intent.refId fun r =>
          { r with status := .active } }
  | .repoPropose =>
      { db with
        repoTrade := db.repoTrade.adjust intent.refId fun r =>
          { r with status := .failed } }
  | _ => db

end Ballast.Api
