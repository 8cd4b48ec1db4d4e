/-
The execute route of an exit quote, await by await.

The route reads the quote, then the intents of the quote that are
pending, then has the envelope built and simulated, and only then records
its intent: four steps, with anything in between. `System` runs a
request's reads at once; here each is a step of its own, over the same
books, chain and callers (`base`), and read at once they are the route
(`routeExecuteExit_eq`).

A request that finds the quote past its time marks it expired, in an
update of its own that asks nothing of the row.

# The clock

`clock` is the API's, in milliseconds. An intent is recorded at the
clock, a sweep reads the clock when it starts, and the network takes a
transaction only within its time bound: `UNSIGNED_TX_TIMEOUT_S` after it
was built, which was before its intent was recorded.
-/
import Ballast.Api.System

namespace Ballast.Api

open Soroban

-- ============================================================= the halves

/-- The route up to its first read: the quote, if it can be executed. -/
def readQuote (db : Db) (party : PartyId) (quote : RowId)
    (minUsdcOut : Option Int) (now : Nat) : Call ExitQuoteRow := do
  ensure (∀ v ∈ minUsdcOut, 0 < v) "amount must be positive (> 0)"
  let q ← expect (db.exitQuote.get quote) "quote not found"
  ensure (q.holderId = party) "quote not found"
  ensure (q.status = .opened) "quote is not open"
  ensure (now ≤ q.expiresAt) "quote expired"
  return q

/-- The rest of the route, for the quote `q` as it was read. -/
def draftExit (db : Db) (party : PartyId) (quote : RowId)
    (q : ExitQuoteRow) (minUsdcOut : Option Int) (recipient : Address) :
    Call Draft := do
  ensure (exitInFlight db quote = false)
    "an execute for this quote is already pending"
  let least := minUsdcOut.getD q.usdcOut
  ensure ((q.usdcOut * exitMinOutFloorBps).tdiv 10000 ≤ least)
    "minUsdcOut is below the allowed slippage floor for this quote"
  let contract ← requireAsset db q.assetId
  let account ← requireStellarAccount db q.holderId
  return {
    envelope := .exitDesk (.exit account contract q.units least recipient)
    kind := .exitExecute
    refId := some quote
    partyId := party
    amount := none
    write := .nothing }

/-- Read at once, the halves are the route. -/
theorem routeExecuteExit_eq (db : Db) (party : PartyId) (quote : RowId)
    (minUsdcOut : Option Int) (recipient : Address) (now : Nat) :
    routeExecuteExit db party quote minUsdcOut recipient now
      = (readQuote db party quote minUsdcOut now >>= fun q =>
          draftExit db party quote q minUsdcOut recipient) := by
  simp only [routeExecuteExit, readQuote, draftExit, bind_assoc, pure_bind]

-- ============================================================== the state

/-- Where an execute request stands. -/
inductive ExitStage where
  | begun
  /-- the quote can be executed -/
  | quoted (q : ExitQuoteRow)
  /-- the quote was open and past its time -/
  | lapsing (q : ExitQuoteRow)
  /-- nothing was pending; the envelope is to be built -/
  | cleared (d : Draft)
  /-- answered, or handed on to be recorded -/
  | over

structure ExitRequest where
  party : PartyId
  quote : RowId
  minUsdcOut : Option Int
  recipient : Address
  stage : ExitStage

structure Exits (χ : Type) where
  system : System χ
  /-- milliseconds -/
  clock : Nat
  requests : Store Nat ExitRequest

-- ============================================================== the steps

variable {χ τ : Type} (net : Network χ τ)

/-- The request `id`, moved to `stage`. -/
def Exits.moveTo (s : Exits χ) (id : Nat) (r : ExitRequest)
    (stage : ExitStage) : Exits χ :=
  { s with requests := s.requests.set id { r with stage := stage } }

/-- When a step of the system may be taken. -/
def OnTime (clock : Nat) (db : Db) : Act τ → Prop
  | .commitDraft _ _ _ now => now = clock
  | .writeOff _ _ now => now ≤ clock
  | .land h _ => ∀ i ∈ db.txIntent.get h,
      clock ≤ i.createdAt + unsignedTxTimeoutS * 1000
  | _ => True

instance (clock : Nat) (db : Db) (a : Act τ) :
    Decidable (OnTime clock db a) := by
  unfold OnTime
  split <;> infer_instance

/-- The select of the quote, and the checks on it. -/
def selectQuote (id : Nat) (s : Exits χ) : Call (Exits χ) := do
  let r ← expect (s.requests.get id) "no such request"
  match r.stage with
  | .begun =>
      match readQuote s.system.db r.party r.quote r.minUsdcOut s.clock with
      | .ok q => return s.moveTo id r (.quoted q)
      | .error _ =>
          match s.system.db.exitQuote.get r.quote with
          | some q =>
              if (∀ v ∈ r.minUsdcOut, 0 < v) ∧ q.holderId = r.party
                  ∧ q.status = .opened ∧ q.expiresAt < s.clock then
                return s.moveTo id r (.lapsing q)
              else return s.moveTo id r .over
          | none => return s.moveTo id r .over
  | _ => throw "not at the quote"

/-- The update of a quote past its time. -/
def lapse (id : Nat) (s : Exits χ) : Call (Exits χ) := do
  let r ← expect (s.requests.get id) "no such request"
  match r.stage with
  | .lapsing _ =>
      let db := { s.system.db with
        exitQuote := s.system.db.exitQuote.adjust r.quote fun q =>
          { q with status := .expired } }
      return Exits.moveTo { s with system := { s.system with db := db } } id
        r .over
  | _ => throw "nothing to expire"

/-- The select of the pending intents, and the rest of the checks. -/
def selectInFlight (id : Nat) (s : Exits χ) : Call (Exits χ) := do
  let r ← expect (s.requests.get id) "no such request"
  match r.stage with
  | .quoted q =>
      match draftExit s.system.db r.party r.quote q r.minUsdcOut
          r.recipient with
      | .ok d => return s.moveTo id r (.cleared d)
      | .error _ => return s.moveTo id r .over
  | _ => throw "not at the intents"

/-- The envelope is built and simulated, and is draft `draft` from now
on. -/
def build (id draft : Nat) (env : Env) (s : Exits χ) :
    Call (Exits χ) := do
  let r ← expect (s.requests.get id) "no such request"
  match r.stage with
  | .cleared d => do
      let _ ← net.machine.apply (net.invoke env d.envelope) s.system.chain
      return Exits.moveTo
        { s with system := { s.system with
          drafts := s.system.drafts.set draft d } } id r .over
  | _ => throw "nothing to build"

-- ============================================================ the machine

/-- What can happen next. -/
inductive ExitAct (τ : Type) where
  | tick (now : Nat)
  | base (a : Act τ)
  | begin (id : Nat) (party : PartyId) (quote : RowId)
      (minUsdcOut : Option Int) (recipient : Address)
  | selectQuote (id : Nat)
  | lapse (id : Nat)
  | selectInFlight (id : Nat)
  | build (id draft : Nat) (env : Env)

def exitStep (a : ExitAct τ) (s : Exits χ) : Call (Exits χ) :=
  match a with
  | .tick now => do
      ensure (s.clock ≤ now) "time runs forward"
      return { s with clock := now }
  | .base a => do
      ensure (OnTime s.clock s.system.db a) "not at this time"
      let system ← step net a s.system
      return { s with system := system }
  | .begin id party quote minUsdcOut recipient => do
      ensure (s.requests.get id).isNone "the request is under way"
      return { s with
        requests := s.requests.set id
          ⟨party, quote, minUsdcOut, recipient, .begun⟩ }
  | .selectQuote id => selectQuote id s
  | .lapse id => lapse id s
  | .selectInFlight id => selectInFlight id s
  | .build id draft env => build net id draft env s

/-- The API over the books `db`, with its execute requests in steps. -/
def exitMachine (db : Db) : Machine (Exits χ) (ExitAct τ) where
  init := ⟨(machine net db).init, 0, Store.empty⟩
  apply := exitStep net

end Ballast.Api
