/-
The compliance gate: `checkParty`, the screener it asks and the two
operator commands that change what it answers.

A row of `compliance_check` is of kind "sanctions": no other is written.
Times are milliseconds, as the driver reads them. Rows with one
`checkedAt` come in any order, so a select that sorts is given the order
it answered in. `reviewedEntNums` is a set in the source: only membership
and emptiness are asked of it.

# Steps

Every await of a call ends a step: the party, the latest row, the
history, the accounts, the list, the insert, the audit. Calls of any
number of API processes, each with its screener, interleave with the
operator and with changes of the parties and their accounts. Each call
brings its own `now`, each review its own database time. A statement may
fail, or commit without its caller hearing of it; a process may die
anywhere. A load brings whatever rows the two files have by then.
-/
import Ballast.Common.Delivery
import Ballast.Compliance.SanctionsList
import Ballast.Soroban.Machine

namespace Ballast.Compliance

open Soroban

variable (p : Platform)

/-- `SCREENING_TTL_MS`. -/
def screeningTtlMs : Int := 24 * 3600 * 1000

/-- The default of `refreshMs`. -/
def refreshMs : Int := 12 * 3600 * 1000

/-- The default of `maxAgeMs`. -/
def maxAgeMs : Int := 7 * 24 * 3600 * 1000

inductive KybStatus where
  | approved
  | pending
  | rejected
  deriving DecidableEq, Repr

def KybStatus.text : KybStatus → String
  | .approved => "approved"
  | .pending => "pending"
  | .rejected => "rejected"

structure Party where
  legalName : Text
  kybStatus : KybStatus
  deriving DecidableEq

inductive CheckResult where
  | clear
  /-- `match` -/
  | matched
  deriving DecidableEq, Repr

/-- A row of `compliance_check`; `hits` is its column `matches`. -/
structure ComplianceCheck where
  partyId : Text
  result : CheckResult
  hits : List SanctionsMatch
  listSource : Text
  listLoadedAt : Option Int
  checkedAt : Int
  deriving DecidableEq

structure ScreenResult where
  hits : List SanctionsMatch
  listSource : Text
  listLoadedAt : Int
  deriving DecidableEq

inductive HoldStatus where
  /-- 403 -/
  | forbidden
  /-- 503 -/
  | unavailable
  deriving DecidableEq, Repr

structure Hold where
  status : HoldStatus
  error : String
  deriving DecidableEq, Repr

def Hold.partyNotFound : Hold := ⟨.forbidden, "party not found"⟩

def Hold.kyb (status : KybStatus) : Hold :=
  ⟨.forbidden, "compliance hold: KYB is " ++ status.text⟩

def Hold.needsReview : Hold :=
  ⟨.forbidden, "compliance hold: sanctions screening needs review"⟩

def Hold.listUnavailable (message : String) : Hold :=
  ⟨.unavailable, "sanctions list unavailable: " ++ message⟩

inductive AuditEntry where
  | kybSet (partyId : Text) (before after : KybStatus)
  | sanctionsMatch (partyId : Text) (hits : List SanctionsMatch)
  | sanctionsCleared (reviewer partyId note : Text)
  deriving DecidableEq

-- ============================================================ the reviews

def manualReviewPrefix : Text := "manual review by ".toList

/-- A clear that a person wrote. -/
def ComplianceCheck.manualReview (c : ComplianceCheck) : Bool :=
  c.result = .clear ∧ manualReviewPrefix.isPrefixOf c.listSource

/-- The hits of the first match row. -/
def priorHits : List ComplianceCheck → List SanctionsMatch
  | [] => []
  | prior :: rest =>
      if prior.result = .matched then prior.hits else priorHits rest

/-- The nested scan of the history, newest row first. -/
def reviewedEntNums : List ComplianceCheck → List Text
  | [] => []
  | c :: rest =>
      if c.manualReview then
        (priorHits rest).map (·.entNum) ++ reviewedEntNums rest
      else reviewedEntNums rest

def unreviewedMatches (reviewed : List Text) (hits : List SanctionsMatch) :
    List SanctionsMatch :=
  hits.filter fun m => m.entNum ∉ reviewed

/-- The row a screening leaves. -/
def screeningRow (partyId : Text) (now : Int) (reviewed : List Text)
    (result : ScreenResult) : ComplianceCheck :=
  let hit := unreviewedMatches reviewed result.hits ≠ []
  { partyId := partyId
    result := if hit then .matched else .clear
    hits := result.hits
    listSource :=
      if hit then result.listSource
      else if reviewed ≠ [] ∧ result.hits ≠ [] then
        result.listSource ++ " (reviewed matches ignored)".toList
      else result.listSource
    listLoadedAt := some result.listLoadedAt
    checkedAt := now }

/-- The row of a manual clear. -/
def reviewRow (partyId reviewer : Text) (note : List Text)
    (checkedAt : Int) : ComplianceCheck :=
  { partyId := partyId
    result := .clear
    hits := []
    listSource := manualReviewPrefix ++ reviewer ++ [':', ' ']
      ++ [' '].intercalate note
    listLoadedAt := none
    checkedAt := checkedAt }

-- ============================================================== the state

/-- What became of a load. -/
inductive Load where
  | pending
  | loaded
  | failed (message : String)
  deriving DecidableEq, Repr

structure OfacScreener where
  list : Option SanctionsList
  loadedAt : Int
  /-- the load under way -/
  inFlight : Option Nat

/-- Where a call of `checkParty` stands. -/
inductive Phase where
  | started
  /-- the party's KYB is approved -/
  | approved (party : Party)
  /-- the latest row does not settle it -/
  | due (party : Party)
  | recalled (party : Party) (reviewed : List Text)
  /-- about to screen -/
  | screening (reviewed : List Text) (subject : ScreeningSubject)
  /-- awaiting a load; the list was this old -/
  | loading (reviewed : List Text) (subject : ScreeningSubject)
      (age : Int) (load : Nat)
  | fresh (reviewed : List Text) (subject : ScreeningSubject)
  | screened (reviewed : List Text) (result : ScreenResult)
  /-- the match row is written; the audit is next -/
  | held (unreviewed : List SanctionsMatch)
  | returned (hold : Option Hold)
  | threw
  deriving DecidableEq

/-- What a call saw, as history: the rows on file when it began, when it
looked for the latest, when it read the history and when it passed; what
it was told of the party; what it screened. -/
structure Seen where
  begun : List ComplianceCheck
  party : Option Party
  looked : List ComplianceCheck
  latest : Option ComplianceCheck
  recalled : List ComplianceCheck
  accounts : List Text
  screened : Option (SanctionsList × ScreeningSubject)
  passed : List ComplianceCheck

structure Caller where
  /-- the API process -/
  process : Nat
  partyId : Text
  now : Int
  phase : Phase
  seen : Seen

structure Gate where
  party : Store Text Party
  /-- the accounts of each party -/
  partyAccount : Store Text (List Text)
  /-- in the order of their inserts -/
  complianceCheck : List ComplianceCheck
  auditLog : List AuditEntry
  screeners : Store Nat OfacScreener
  loads : Store Nat Load
  callers : Store Nat Caller

/-- A party's rows among these. -/
def checksOf (partyId : Text) (rows : List ComplianceCheck) :
    List ComplianceCheck :=
  rows.filter fun r => r.partyId = partyId

/-- What `order by checked_at desc limit 1` may answer. -/
def Latest (rows : List ComplianceCheck) :
    Option ComplianceCheck → Prop
  | none => rows = []
  | some c => c ∈ rows ∧ ∀ r ∈ rows, r.checkedAt ≤ c.checkedAt

instance (rows : List ComplianceCheck) (found : Option ComplianceCheck) :
    Decidable (Latest rows found) := by
  cases found <;> unfold Latest <;> infer_instance

/-- What `order by checked_at desc` may answer. -/
def NewestFirst (rows found : List ComplianceCheck) : Prop :=
  found.Perm rows
    ∧ found.Pairwise fun newer older => older.checkedAt ≤ newer.checkedAt

instance (rows found : List ComplianceCheck) :
    Decidable (NewestFirst rows found) :=
  inferInstanceAs (Decidable (_ ∧ _))

-- ============================================================ the operator

/-- A party's row is written. -/
def setParty (partyId : Text) (row : Party) (s : Gate) : Call Gate :=
  return { s with party := s.party.set partyId row }

def setAccounts (partyId : Text) (accounts : List Text) (s : Gate) :
    Call Gate :=
  return { s with partyAccount := s.partyAccount.set partyId accounts }

/-- `compliance kyb`; its audit row may not be written. -/
def kyb (partyId : Text) (status : KybStatus) (audited : Bool) (s : Gate) :
    Call Gate := do
  let row ← expect (s.party.get partyId) "no party"
  let entry := AuditEntry.kybSet partyId row.kybStatus status
  return { s with
    party := s.party.set partyId { row with kybStatus := status }
    auditLog := s.auditLog ++ if audited then [entry] else [] }

/-- `compliance clear`; its audit row may not be written. -/
def clear (partyId reviewer : Text) (note : List Text) (checkedAt : Int)
    (audited : Bool) (s : Gate) : Call Gate := do
  let _ ← expect (s.party.get partyId) "no party"
  ensure (reviewer ≠ [] ∧ note ≠ []) "usage"
  let entry := AuditEntry.sanctionsCleared reviewer partyId
    ([' '].intercalate note)
  return { s with
    complianceCheck :=
      s.complianceCheck ++ [reviewRow partyId reviewer note checkedAt]
    auditLog := s.auditLog ++ if audited then [entry] else [] }

-- ============================================================ the screener

/-- An API process starts. -/
def startProcess (process : Nat) (s : Gate) : Call Gate := do
  ensure (s.screeners.get process = none) "the process runs"
  return { s with screeners := s.screeners.set process ⟨none, 0, none⟩ }

/-- `load` settles: with the rows of the two files and the time, or
because a download failed. Fewer than 1000 rows are a broken download. -/
def finishLoad (process : Nat)
    (got : Except String
      (List (List Text) × Option (List (List Text)) × Int))
    (s : Gate) : Call Gate := do
  let screener ← expect (s.screeners.get process) "no such process"
  let load ← expect screener.inFlight "no load under way"
  let settle (screener : OfacScreener) (outcome : Load) : Gate :=
    { s with
      screeners := s.screeners.set process { screener with inFlight := none }
      loads := s.loads.set load outcome }
  match got with
  | .error message => return settle screener (.failed message)
  | .ok (sdn, alt, now) =>
      let list := SanctionsList.ofRows p sdn alt
      if list.entries < 1000 then
        return settle screener (.failed ("SDN list looks truncated ("
          ++ toString list.entries ++ " rows)"))
      return settle { screener with list := some list, loadedAt := now }
        .loaded

-- ================================================================ the call

/-- The call `id`, moved to `phase`. -/
def moveTo (s : Gate) (id : Nat) (c : Caller) (phase : Phase) : Gate :=
  { s with callers := s.callers.set id { c with phase := phase } }

/-- The call `id` lets the party pass. -/
def pass (s : Gate) (id : Nat) (c : Caller) : Gate :=
  let seen := { c.seen with passed := s.complianceCheck }
  moveTo s id { c with seen := seen } (.returned none)

def begin (id process : Nat) (partyId : Text) (now : Int) (s : Gate) :
    Call Gate := do
  ensure (s.callers.get id = none) "the call is under way"
  let _ ← expect (s.screeners.get process) "no such process"
  return { s with
    callers := s.callers.set id
      ⟨process, partyId, now, .started,
        ⟨s.complianceCheck, none, [], none, [], [], none, []⟩⟩ }

/-- A statement of the call failed, and the call threw. -/
def fault (id : Nat) (s : Gate) : Call Gate := do
  let c ← expect (s.callers.get id) "no such call"
  match c.phase with
  | .returned _ => throw "the call returned"
  | _ => return moveTo s id c .threw

def selectParty (id : Nat) (s : Gate) : Call Gate := do
  let c ← expect (s.callers.get id) "no such call"
  ensure (c.phase = .started) "not at the party"
  let found := s.party.get c.partyId
  let c := { c with seen := { c.seen with party := found } }
  match found with
  | none => return moveTo s id c (.returned (some .partyNotFound))
  | some party =>
      if party.kybStatus ≠ .approved then
        return moveTo s id c (.returned (some (.kyb party.kybStatus)))
      return moveTo s id c (.approved party)

def selectLatest (id : Nat) (found : Option ComplianceCheck) (s : Gate) :
    Call Gate := do
  let c ← expect (s.callers.get id) "no such call"
  match c.phase with
  | .approved party =>
      ensure (Latest (checksOf c.partyId s.complianceCheck) found)
        "not the latest row"
      let seen := { c.seen with looked := s.complianceCheck, latest := found }
      let c := { c with seen := seen }
      match found with
      | none => return moveTo s id c (.due party)
      | some latest =>
          -- A match is never reused or aged out.
          if latest.result = .matched then
            return moveTo s id c (.returned (some .needsReview))
          if c.now - latest.checkedAt < screeningTtlMs then
            return pass s id c
          return moveTo s id c (.due party)
  | _ => throw "not at the latest row"

def selectChecks (id : Nat) (found : List ComplianceCheck) (s : Gate) :
    Call Gate := do
  let c ← expect (s.callers.get id) "no such call"
  match c.phase with
  | .due party =>
      ensure (NewestFirst (checksOf c.partyId s.complianceCheck) found)
        "not the history"
      let seen := { c.seen with recalled := s.complianceCheck }
      return moveTo s id { c with seen := seen }
        (.recalled party (reviewedEntNums found))
  | _ => throw "not at the history"

def selectAccounts (id : Nat) (s : Gate) : Call Gate := do
  let c ← expect (s.callers.get id) "no such call"
  match c.phase with
  | .recalled party reviewed =>
      let accounts := (s.partyAccount.get c.partyId).getD []
      let seen := { c.seen with accounts := accounts }
      return moveTo s id { c with seen := seen }
        (.screening reviewed ⟨party.legalName, accounts⟩)
  | _ => throw "not at the accounts"

/-- `ensureFresh`, up to its await; `load` names the load it may start. -/
def ensureFresh (id : Nat) (now : Int) (load : Nat) (s : Gate) :
    Call Gate := do
  let c ← expect (s.callers.get id) "no such call"
  match c.phase with
  | .screening reviewed subject =>
      let screener ← expect (s.screeners.get c.process) "no such process"
      let age := now - screener.loadedAt
      if screener.list.isSome ∧ age < refreshMs then
        return moveTo s id c (.fresh reviewed subject)
      match screener.inFlight with
      | some load => return moveTo s id c (.loading reviewed subject age load)
      | none =>
          ensure (s.loads.get load = none) "the name is taken"
          return moveTo { s with
            screeners := s.screeners.set c.process
              { screener with inFlight := some load }
            loads := s.loads.set load .pending }
            id c (.loading reviewed subject age load)
  | _ => throw "not at the screener"

/-- The load settled: the last good copy will do unless it is too old. -/
def awaitLoad (id : Nat) (s : Gate) : Call Gate := do
  let c ← expect (s.callers.get id) "no such call"
  match c.phase with
  | .loading reviewed subject age load =>
      let screener ← expect (s.screeners.get c.process) "no such process"
      match s.loads.get load with
      | some .loaded => return moveTo s id c (.fresh reviewed subject)
      | some (.failed message) =>
          if screener.list.isSome ∧ age < maxAgeMs then
            return moveTo s id c (.fresh reviewed subject)
          return moveTo s id c (.returned (some (.listUnavailable message)))
      | _ => throw "the load is under way"
  | _ => throw "not at a load"

/-- The list is read. -/
def screen (id : Nat) (s : Gate) : Call Gate := do
  let c ← expect (s.callers.get id) "no such call"
  match c.phase with
  | .fresh reviewed subject =>
      let screener ← expect (s.screeners.get c.process) "no such process"
      match screener.list with
      | none => return moveTo s id c .threw
      | some list =>
          let seen := { c.seen with screened := some (list, subject) }
          return moveTo s id { c with seen := seen } (.screened reviewed
            ⟨list.screen p subject, "OFAC SDN".toList, screener.loadedAt⟩)
  | _ => throw "not at the list"

/-- The insert, and the return of a party that passes. -/
def insertCheck (id : Nat) (delivery : Delivery) (s : Gate) :
    Call Gate := do
  let c ← expect (s.callers.get id) "no such call"
  match c.phase with
  | .screened reviewed result =>
      let row := screeningRow c.partyId c.now reviewed result
      let filed := { s with complianceCheck := s.complianceCheck ++ [row] }
      match delivery with
      | .rolledBack => return moveTo s id c .threw
      | .lost => return moveTo filed id c .threw
      | .acknowledged =>
          if row.result = .matched then
            return moveTo filed id c
              (.held (unreviewedMatches reviewed result.hits))
          return pass filed id c
  | _ => throw "not at the insert"

/-- The audit of a match, and the hold. -/
def audit (id : Nat) (delivery : Delivery) (s : Gate) : Call Gate := do
  let c ← expect (s.callers.get id) "no such call"
  match c.phase with
  | .held unreviewed =>
      let entry := AuditEntry.sanctionsMatch c.partyId unreviewed
      let audited := { s with auditLog := s.auditLog ++ [entry] }
      match delivery with
      | .rolledBack => return moveTo s id c .threw
      | .lost => return moveTo audited id c .threw
      | .acknowledged =>
          return moveTo audited id c (.returned (some .needsReview))
  | _ => throw "not at the audit"

-- ============================================================ the machine

/-- What can happen next. -/
inductive Act where
  | setParty (partyId : Text) (row : Party)
  | setAccounts (partyId : Text) (accounts : List Text)
  | kyb (partyId : Text) (status : KybStatus) (audited : Bool)
  | clear (partyId reviewer : Text) (note : List Text) (checkedAt : Int)
      (audited : Bool)
  | startProcess (process : Nat)
  | finishLoad (process : Nat)
      (got : Except String
        (List (List Text) × Option (List (List Text)) × Int))
  | begin (id process : Nat) (partyId : Text) (now : Int)
  | fault (id : Nat)
  | selectParty (id : Nat)
  | selectLatest (id : Nat) (found : Option ComplianceCheck)
  | selectChecks (id : Nat) (found : List ComplianceCheck)
  | selectAccounts (id : Nat)
  | ensureFresh (id : Nat) (now : Int) (load : Nat)
  | awaitLoad (id : Nat)
  | screen (id : Nat)
  | insertCheck (id : Nat) (delivery : Delivery)
  | audit (id : Nat) (delivery : Delivery)

def step (a : Act) (s : Gate) : Call Gate :=
  match a with
  | .setParty partyId row => setParty partyId row s
  | .setAccounts partyId accounts => setAccounts partyId accounts s
  | .kyb partyId status audited => kyb partyId status audited s
  | .clear partyId reviewer note checkedAt audited =>
      clear partyId reviewer note checkedAt audited s
  | .startProcess process => startProcess process s
  | .finishLoad process got => finishLoad p process got s
  | .begin id process partyId now => begin id process partyId now s
  | .fault id => fault id s
  | .selectParty id => selectParty id s
  | .selectLatest id found => selectLatest id found s
  | .selectChecks id found => selectChecks id found s
  | .selectAccounts id => selectAccounts id s
  | .ensureFresh id now load => ensureFresh id now load s
  | .awaitLoad id => awaitLoad id s
  | .screen id => screen p id s
  | .insertCheck id delivery => insertCheck id delivery s
  | .audit id delivery => audit id delivery s

/-- The gate over an empty database. -/
def machine : Machine Gate Act where
  init := ⟨Store.empty, Store.empty, [], [], Store.empty, Store.empty,
    Store.empty⟩
  apply := step p

end Ballast.Compliance
