/-
The nightly reconciliation, `runReconciliation`.

For each asset it sets the active pledge rows against what the indexed
vault events add up to, and reports a break when the two are more than
`toleranceUnits` apart. The asset of an event is the first field of its
body, whichever contract published it; units are the second.

Amount columns are the scaled integers their decimal strings stand for.
A table is the list its query returns, in any order.

# Reading an event

An event counts when its name is one of the three and its body begins
with the asset's string. A body that is no tuple names no asset. Where
the units should be and no text is, nothing is counted; a text that is
no integer makes the whole run throw. The journal's balances are
reported beside it and compared with nothing.
-/
import Ballast.Api.Books
import Ballast.Indexer.Decode

namespace Ballast.Reconcile

open Soroban Js Indexer

-- ============================================================== the tables

structure JournalEntryRow where
  account : String
  debit : Int
  credit : Int

structure AssetRow where
  id : Api.RowId
  code : String
  contractC : String
  deriving DecidableEq, Repr

structure AssetMismatch where
  assetId : Api.RowId
  code : String
  pgUnits : String
  chainUnitsImplied : String
  diffUnits : String
  deriving DecidableEq, Repr

/-- An account's line in the report. -/
structure AccountBalance where
  debit : String
  credit : String
  net : String
  deriving DecidableEq, Repr

structure ReportScope where
  compared : String
  deferred : List String
  deriving DecidableEq, Repr

structure ReconciliationReport where
  comparedAssets : Nat
  mismatches : List AssetMismatch
  journalAccountBalances : List (String × AccountBalance)
  scope : ReportScope
  deriving DecidableEq, Repr

structure ReconciliationOutcome where
  breaks : Nat
  report : ReconciliationReport
  deriving DecidableEq, Repr

/-- A row of `reconciliation_run`. -/
structure ReconciliationRunRow where
  scope : String
  breaks : Nat
  report : ReconciliationReport

inductive Alert where
  | reconciliationBreak (breaks : Nat) (mismatches : List AssetMismatch)

structure Tables where
  journalEntry : List JournalEntryRow
  asset : List AssetRow
  pledge : List Api.PledgeRow
  chainEvent : List (ChainEvent Value)
  reconciliationRun : List ReconciliationRunRow
  alerts : List Alert

-- ============================================================= the journal

/-- One account's sums. -/
structure Sums where
  debit : Int
  credit : Int
  net : Int

/-- Adds a row to its account, which it opens if it is the first. -/
def addJournal (row : JournalEntryRow) :
    List (String × Sums) → List (String × Sums)
  | [] => [(row.account, ⟨row.debit, row.credit, row.debit - row.credit⟩)]
  | (account, b) :: rest =>
      if account = row.account then
        (account, ⟨b.debit + row.debit, b.credit + row.credit,
          b.net + (row.debit - row.credit)⟩) :: rest
      else (account, b) :: addJournal row rest

def journalBalances (rows : List JournalEntryRow) : List (String × Sums) :=
  rows.foldl (fun balances row => addJournal row balances) []

-- ============================================================== the events

/-- `TOLERANCE_UNITS`. -/
def toleranceUnits : Int := 100

/-- `PLEDGE_TOPICS`. -/
def pledgeTopics : List String := ["pledged", "released", "liquidated"]

def topicDelta (topic : String) (units : Int) : Int :=
  if topic = "pledged" then units
  else if topic = "released" ∨ topic = "liquidated" then -units
  else 0

/-- `data.value`, when it is an array. -/
def tupleOf (e : ChainEvent Value) : Option (List Value) :=
  match e.data.get "value" with
  | some (.array xs) => some xs
  | _ => none

/-- The event names the asset first. -/
def names (contractC : String) (e : ChainEvent Value) : Bool :=
  match tupleOf e with
  | some (.string s :: _) => s = contractC
  | _ => false

def relevantEvents (contractC : String) (rows : List (ChainEvent Value)) :
    List (ChainEvent Value) :=
  rows.filter fun e => pledgeTopics.contains e.topic && names contractC e

/-- The units of an event; nothing if there is no text where they
belong. -/
def unitsField (e : ChainEvent Value) : Call Int :=
  match tupleOf e with
  | some (_ :: .string s :: _) => bigIntOf s
  | _ => .ok 0

/-- `chainUnits`: the sum over the relevant events. -/
def sumUnits : List (ChainEvent Value) → Int → Call Int
  | [], sum => return sum
  | e :: events, sum => do
      let units ← unitsField e
      sumUnits events (sum + topicDelta e.topic units)

def chainUnits (contractC : String) (rows : List (ChainEvent Value)) :
    Call Int :=
  sumUnits (relevantEvents contractC rows) 0

/-- `pgUnits`: the asset's active pledges on file. -/
def pgUnits (asset : Api.RowId) (rows : List Api.PledgeRow) : Int :=
  ((rows.filter fun p => p.assetId = asset ∧ p.status = .active).map
    (·.units)).sum

-- ================================================================= the run

def bigintString (n : Int) : String := String.ofList (bigintText n)

/-- One asset compared. -/
def compareAsset (t : Tables) (asset : AssetRow) :
    Call (Option AssetMismatch) := do
  let pg := pgUnits asset.id t.pledge
  let chain ← chainUnits asset.contractC t.chainEvent
  let diff := pg - chain
  return if toleranceUnits < |diff| then
      some ⟨asset.id, asset.code, bigintString pg, bigintString chain,
        bigintString diff⟩
    else none

/-- The loop over the assets. -/
def compareAssets (t : Tables) : List AssetRow → Call (List AssetMismatch)
  | [] => return []
  | asset :: assets => do
      let mismatch ← compareAsset t asset
      let mismatches ← compareAssets t assets
      return mismatch.toList ++ mismatches

def reportScope : ReportScope where
  compared :=
    "postgres pledge.units (status='active') per asset vs. "
      ++ "pledged/released/liquidated "
      ++ "chain_event rows naming that asset at index 0 of the decoded "
      ++ "(asset, units, ...) data.value tuple, reading units from index 1"
  deferred := [
    "no direct on-chain contract-balance introspection (this compares "
      ++ "against our own indexed chain_event log, not a fresh read of "
      ++ "contract storage)",
    "credit-line USDC draw/repay balances are not reconciled here, only "
      ++ "RWA pledge units",
    "repo_trade and exit_fill flows are not yet folded into the "
      ++ "chain-event-implied comparison"]

def runReconciliation (t : Tables) :
    Call (ReconciliationOutcome × Tables) := do
  let mismatches ← compareAssets t t.asset
  let breaks := mismatches.length
  let report : ReconciliationReport := {
    comparedAssets := t.asset.length
    mismatches := mismatches
    journalAccountBalances := (journalBalances t.journalEntry).map
      fun (account, b) => (account,
        ⟨bigintString b.debit, bigintString b.credit, bigintString b.net⟩)
    scope := reportScope }
  let alerts := if 0 < breaks then
      t.alerts ++ [.reconciliationBreak breaks mismatches]
    else t.alerts
  return (⟨breaks, report⟩, { t with
    reconciliationRun := t.reconciliationRun ++ [⟨"nightly", breaks, report⟩]
    alerts := alerts })

end Ballast.Reconcile
