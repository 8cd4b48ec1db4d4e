/-
What one step of the system can do, said once.

Only three steps of a caller touch the books: the settling transaction,
the write-off and the error write (`Did.settled`, `Did.writtenOff`,
`Did.erred`). Every other one only moves the caller along (`Moves`).

# Books

What each of the three writes does to `tx_intent` is said here as well:
a row is claimed while it is pending (`claim_some`), and the effects of
an outcome write other tables only. So a result about intents never
looks into an effect, and one about effects may assume a claimed row.
-/
import Ballast.Api.System

namespace Ballast.Api

open Soroban

variable {χ τ : Type} {net : Network χ τ} {s s' : System χ} {a : Act τ}

-- ============================================================ the caller

/-- A caller `w` comes to stand in a phase, the books as they were. -/
inductive Moves (net : Network χ τ) (s : System χ) (w : Nat) :
    TxIntent → Phase → Prop
  | picked {h : TxHash} {row : TxIntent} :
      s.db.txIntent.get h = some row → Moves net s w row .holding
  | rests {worker : Worker} : s.workers.get w = some worker →
      Moves net s w worker.intent .holding
  | absent {worker : Worker} : s.workers.get w = some worker →
      worker.intent.status = .pending →
      Moves net s w worker.intent .absent
  | answered {worker : Worker} {landing : Landing χ} :
      s.workers.get w = some worker → worker.intent.status = .pending →
      s.landed.get worker.intent.txHash = some landing →
      Moves net s w worker.intent (.answered landing.outcome)
  | read {worker : Worker} {outcome : Outcome} {read : ContractState} :
      s.workers.get w = some worker → worker.phase = .answered outcome →
      preRead s.db (net.contracts s.chain) worker.intent outcome
        = .ok read →
      Moves net s w worker.intent (.ready outcome read)
  | beaten {worker : Worker} : s.workers.get w = some worker →
      Moves net s w worker.intent .beaten
  | erring {worker : Worker} {err : String} :
      s.workers.get w = some worker →
      Moves net s w worker.intent (.erring err)

/-- How a transaction lands. -/
inductive Lands (net : Network χ τ) (env : Env) (envelope : Envelope)
    (chain : χ) : Landing χ → Prop
  | success {chain' : χ} :
      net.machine.apply (net.invoke env envelope) chain = .ok chain' →
      Lands net env envelope chain
        ⟨.success env.sequence (net.returns env envelope chain), chain,
          chain'⟩
  | failed : Lands net env envelope chain
      ⟨.failed env.sequence, chain, chain⟩

/-- A landing is recorded with the chain it met. -/
theorem Lands.before {env : Env} {e : Envelope} {c : χ} {x : Landing χ}
    (h : Lands net env e c x) : x.before = c := by
  cases h <;> rfl

/-- A transaction that failed left the chain as it was. -/
theorem Lands.failed_after {env : Env} {e : Envelope} {c : χ}
    {x : Landing χ} {ledger : Nat} (h : Lands net env e c x)
    (hfailed : x.outcome = .failed ledger) : x.after = x.before := by
  cases h with
  | success => cases hfailed
  | failed => rfl

-- ================================================================ a step

/-- What a committed step did. -/
inductive Did (net : Network χ τ) (s s' : System χ) : Act τ → Prop
  | outside {tx : τ} {chain : χ} :
      net.machine.apply tx s.chain = .ok chain →
      s' = { s with chain := chain } → Did net s s' (.outside tx)
  | started {id : Nat} {req : Request} {env : Env} {d : Draft} :
      route s.db req = .ok d →
      s' = { s with drafts := s.drafts.set id d } →
      Did net s s' (.start id req env)
  | recorded {id : Nat} {h : TxHash} {row : RowId} {now : Nat} {d : Draft}
      {db : Db} : s.drafts.get id = some d →
      record s.db h d row now = .ok db →
      s' = { s with
        db := db
        drafts := s.drafts.remove id
        envelopes := s.envelopes.set h d.envelope } →
      Did net s s' (.commitDraft id h row now)
  | lapsed {quote : RowId} {now : Nat} {db : Db} :
      lapseQuote s.db quote now = .ok db → s' = { s with db := db } →
      Did net s s' (.lapseQuote quote now)
  | landed {h : TxHash} {env : Env} {envelope : Envelope}
      {landing : Landing χ} :
      s.envelopes.get h = some envelope → s.landed.get h = none →
      Lands net env envelope s.chain landing →
      s' = { s with
        chain := landing.after
        landed := s.landed.set h landing } →
      Did net s s' (.land h env)
  | moved {a : Act τ} {w : Nat} {intent : TxIntent} {p : Phase} :
      (∀ w', a ≠ .recordError w' false) → Moves net s w intent p →
      s' = moveTo s w intent p → Did net s s' a
  | settled {w now : Nat} {delivery : Delivery} {worker : Worker}
      {outcome : Outcome} {read : ContractState} {db : Db} {p : Phase} :
      s.workers.get w = some worker →
      worker.phase = .ready outcome read →
      runWithDb s.db (net.contracts s.chain) worker.intent outcome read now
        = .ok (some db) →
      p = .holding ∨ (∃ err, p = .erring err) →
      s' = moveTo { s with
        db := db
        booked := s.booked ++ [worker.intent.txHash] } w worker.intent p →
      Did net s s' (.commit w delivery now)
  | writtenOff {w now : Nat} {delivery : Delivery} {worker : Worker}
      {db : Db} : s.workers.get w = some worker →
      worker.phase = .absent →
      expire s.db worker.intent now = some db →
      s' = moveTo { s with
        db := db
        booked := s.booked ++ [worker.intent.txHash] } w worker.intent
        .holding →
      Did net s s' (.writeOff w delivery now)
  | erred {w : Nat} {worker : Worker} {err : String} :
      s.workers.get w = some worker → worker.phase = .erring err →
      s' = moveTo
        { s with db := recordSettleError s.db worker.intent err } w
        worker.intent .holding →
      Did net s s' (.recordError w false)

/-- Asking the network moves the caller along. -/
theorem ask_did {w : Nat} {answer : Answer}
    (h : ask w answer s = .ok s') : Did net s s' (.ask w answer) := by
  simp only [ask, bind_ok, expect_ok, ensure_ok, exists_const] at h
  obtain ⟨worker, hw, -, hpending, h⟩ := h
  cases answer with
  | final =>
      simp only [bind_ok, expect_ok, pure_ok] at h
      obtain ⟨landing, hlanding, rfl⟩ := h
      exact .moved (by simp) (.answered hw hpending hlanding) rfl
  | notFound =>
      injection h with h
      exact .moved (by simp) (.absent hw hpending) h.symm
  | unreachable =>
      injection h with h
      exact .moved (by simp) (.rests hw) h.symm

/-- So does reading the contracts before the transaction. -/
theorem readContracts_did {w : Nat} {fault : Bool}
    (h : readContracts net w fault s = .ok s') :
    Did net s s' (.readContracts w fault) := by
  simp only [readContracts, bind_ok, expect_ok] at h
  obtain ⟨worker, hw, h⟩ := h
  split at h
  · next outcome hphase =>
    split at h
    · simp only [bind_ok, ensure_ok, exists_const, pure_ok] at h
      exact .moved (by simp) (.erring hw) h.2.symm
    · split at h
      · next read hread =>
        injection h with h
        exact .moved (by simp) (.read hw hphase hread) h.symm
      · injection h with h
        exact .moved (by simp) (.erring hw) h.symm
  · cases h

/-- The settling transaction books, or finds the row taken, or fails. -/
theorem commit_did {w now : Nat} {delivery : Delivery}
    (h : commit net w delivery now s = .ok s') :
    Did net s s' (.commit w delivery now) := by
  simp only [commit, bind_ok, expect_ok] at h
  obtain ⟨worker, hw, h⟩ := h
  split at h
  · next outcome read hphase =>
    split at h
    · injection h with h
      exact .moved (by simp) (.erring hw) h.symm
    · injection h with h
      exact .moved (by simp) (.erring hw) h.symm
    · injection h with h
      exact .moved (by simp) (.beaten hw) h.symm
    · injection h with h
      exact .moved (by simp) (.erring hw) h.symm
    · next db hdb =>
      injection h with h
      exact .settled hw hphase hdb (.inl rfl) h.symm
    · next db hdb =>
      injection h with h
      exact .settled hw hphase hdb (.inr ⟨_, rfl⟩) h.symm
  · cases h

/-- A rolled back commit moves its caller and nothing else. -/
theorem commit_rolledBack {w now : Nat}
    (h : commit net w .rolledBack now s = .ok s') :
    ∃ i p, s' = moveTo s w i p := by
  simp only [commit, bind_ok, expect_ok] at h
  obtain ⟨k, -, h⟩ := h
  split at h
  · injection h with h
    exact ⟨_, _, h.symm⟩
  · cases h

/-- The error write touches the intent, or is lost. -/
theorem recordError_did {w : Nat} {fault : Bool}
    (h : recordError w fault s = .ok s') :
    Did net s s' (.recordError w fault) := by
  simp only [recordError, bind_ok, expect_ok] at h
  obtain ⟨worker, hw, h⟩ := h
  split at h
  · next err hphase =>
    cases fault with
    | true =>
        injection h with h
        exact .moved (by simp) (.rests hw) h.symm
    | false =>
        injection h with h
        exact .erred hw hphase h.symm
  · cases h

/-- The write-off books a failure, or finds the row taken, or fails. -/
theorem writeOff_did {w now : Nat} {delivery : Delivery}
    (h : writeOff w delivery now s = .ok s') :
    Did net s s' (.writeOff w delivery now) := by
  simp only [writeOff, bind_ok, expect_ok, ensure_ok, exists_const] at h
  obtain ⟨worker, hw, habsent, -, h⟩ := h
  split at h
  · injection h with h
    exact .moved (by simp) (.rests hw) h.symm
  · injection h with h
    exact .moved (by simp) (.rests hw) h.symm
  · next db hdb =>
    injection h with h
    exact .writtenOff hw habsent hdb h.symm

/-- A transaction lands once, with its effect on the chain. -/
theorem land_did {h : TxHash} {env : Env} (hok : land net h env s = .ok s') :
    Did net s s' (.land h env) := by
  simp only [land, bind_ok, expect_ok, ensure_ok, exists_const] at hok
  obtain ⟨envelope, henv, hnew, hok⟩ := hok
  rw [Option.isNone_iff_eq_none] at hnew
  split at hok
  · next chain happ =>
    injection hok with hok
    exact .landed henv hnew (.success happ) hok.symm
  · injection hok with hok
    exact .landed henv hnew .failed hok.symm

/-- Every committed step did one of these. -/
theorem step_did (h : step net a s = .ok s') : Did net s s' a := by
  cases a with
  | outside tx =>
      simp only [step, bind_ok, pure_ok] at h
      obtain ⟨chain, happ, rfl⟩ := h
      exact .outside happ rfl
  | start id req env =>
      simp only [step, start, bind_ok, pure_ok] at h
      obtain ⟨d, hd, _, -, rfl⟩ := h
      exact .started hd rfl
  | commitDraft id hash row now =>
      simp only [step, commitDraft, bind_ok, expect_ok, pure_ok] at h
      obtain ⟨d, hd, db, hdb, rfl⟩ := h
      exact .recorded hd hdb rfl
  | lapseQuote quote now =>
      simp only [step, bind_ok, pure_ok] at h
      obtain ⟨db, hdb, rfl⟩ := h
      exact .lapsed hdb rfl
  | land hash env => exact land_did h
  | pick w hash =>
      simp only [step, pick, bind_ok, expect_ok, pure_ok] at h
      obtain ⟨row, hrow, rfl⟩ := h
      exact .moved (by simp) (.picked hrow) rfl
  | ask w answer => exact ask_did h
  | readContracts w fault => exact readContracts_did h
  | commit w delivery now => exact commit_did h
  | reread w fault =>
      simp only [step, reread, bind_ok, expect_ok, ensure_ok, pure_ok,
        exists_const] at h
      obtain ⟨worker, hw, -, rfl⟩ := h
      cases fault with
      | true => exact .moved (by simp) (.erring hw) rfl
      | false => exact .moved (by simp) (.rests hw) rfl
  | recordError w fault => exact recordError_did h
  | writeOff w delivery now => exact writeOff_did h

-- ============================================================== the books

variable {db db' : Db} {contracts : Contracts} {intent : TxIntent}
  {outcome : Outcome} {read : ContractState} {now : Nat} {h : TxHash}

/-- A claim takes a row that is on file and pending, and writes that row
alone. -/
theorem claim_some {f : TxIntent → TxIntent} :
    claim db h f = some db' ↔ ∃ row, db.txIntent.get h = some row
      ∧ row.status = .pending
      ∧ db' = { db with txIntent := db.txIntent.set h (f row) } := by
  unfold claim
  cases db.txIntent.get h with
  | none => simp
  | some row =>
      by_cases hp : row.status = .pending
      · simp [hp, eq_comm]
      · simp [hp]

/-- A claimed row after its transaction ended with `outcome`. -/
def settledRow (row : TxIntent) (outcome : Outcome) (now : Nat) :
    TxIntent :=
  { row with
    status := outcome.next
    ledger := some outcome.ledger
    settledAt := some now }

/-- A settling transaction that books has claimed the row, and applied the
outcome to the books with the row claimed. -/
theorem runWithDb_some
    (hrun : runWithDb db contracts intent outcome read now
      = .ok (some db')) :
    ∃ row, db.txIntent.get intent.txHash = some row
      ∧ row.status = .pending
      ∧ applyOutcome { db with
          txIntent := db.txIntent.set intent.txHash
            (settledRow row outcome now) } contracts intent outcome read now
        = .ok db' := by
  unfold runWithDb at hrun
  split at hrun
  · cases hrun
  · next db₁ hclaim =>
    obtain ⟨row, hrow, hpending, rfl⟩ := claim_some.mp hclaim
    obtain ⟨db₂, hdb₂, heq⟩ := map_ok.mp hrun
    injection heq with heq
    subst heq
    exact ⟨row, hrow, hpending, hdb₂⟩

/-- A write-off that books has claimed the row too. -/
theorem expire_some (hexp : expire db intent now = some db') :
    ∃ row, db.txIntent.get intent.txHash = some row
      ∧ row.status = .pending
      ∧ db' = applyFailure { db with
          txIntent := db.txIntent.set intent.txHash
            { row with status := .expired, settledAt := some now } }
          intent := by
  unfold expire at hexp
  rw [Option.map_eq_some_iff] at hexp
  obtain ⟨db₁, hclaim, rfl⟩ := hexp
  obtain ⟨row, hrow, hpending, rfl⟩ := claim_some.mp hclaim
  exact ⟨row, hrow, hpending, rfl⟩

/-- A write-off has the effect of a transaction that failed. -/
theorem expire_outcome (hexp : expire db intent now = some db') :
    ∃ row, db.txIntent.get intent.txHash = some row
      ∧ row.status = .pending
      ∧ ∀ contracts, applyOutcome { db with
          txIntent := db.txIntent.set intent.txHash
            { row with status := .expired, settledAt := some now } }
          contracts intent (.failed 0) .unread now = .ok db' := by
  obtain ⟨row, hrow, hpending, rfl⟩ := expire_some hexp
  exact ⟨row, hrow, hpending, fun _ => rfl⟩

/-- A book effect never touches `tx_intent`. -/
theorem applySuccess_txIntent {ledger : Nat} {returnValue : Int}
    (hdb : applySuccess db contracts intent ledger returnValue read now
      = .ok db') : db'.txIntent = db.txIntent := by
  unfold applySuccess at hdb
  split at hdb <;> simp only [bind_ok, pure_ok] at hdb
  all_goals first
    | (subst hdb; rfl)
    | (obtain ⟨_, -, rfl⟩ := hdb; rfl)
    | (obtain ⟨_, -, _, -, rfl⟩ := hdb; rfl)

/-- Nor does the effect of a failure. -/
theorem applyFailure_txIntent (db : Db) (intent : TxIntent) :
    (applyFailure db intent).txIntent = db.txIntent := by
  unfold applyFailure
  split <;> rfl

/-- Nor, therefore, that of any outcome. -/
theorem applyOutcome_txIntent
    (hdb : applyOutcome db contracts intent outcome read now = .ok db') :
    db'.txIntent = db.txIntent := by
  cases outcome with
  | success ledger returnValue => exact applySuccess_txIntent hdb
  | failed ledger =>
      injection hdb with hdb
      subst hdb
      exact applyFailure_txIntent db intent

/-- A refused execute writes to the quotes alone. -/
theorem lapseQuote_ok {quote : RowId}
    (hdb : lapseQuote db quote now = .ok db') :
    ∃ quotes, db' = { db with exitQuote := quotes } := by
  simp only [lapseQuote, bind_ok, expect_ok, ensure_ok, pure_ok,
    exists_const] at hdb
  obtain ⟨q, -, -, -, rfl⟩ := hdb
  exact ⟨_, rfl⟩

/-- The `tx_intent` row a draft records. -/
def Draft.asIntent (d : Draft) (h : TxHash) (row : RowId) (now : Nat) :
    TxIntent :=
  ⟨h, d.kind, d.refId.getD row, d.partyId, d.amount, .pending, none, none,
    now, none⟩

/-- A route's own row is in another table. -/
theorem writeRow_txIntent {row : RowId} {write : RowWrite}
    (hdb : writeRow db row write = .ok db') :
    db'.txIntent = db.txIntent := by
  unfold writeRow at hdb
  split at hdb <;>
    simp only [bind_ok, ensure_ok, pure_ok, exists_const] at hdb
  all_goals first
    | (subst hdb; rfl)
    | (obtain ⟨-, rfl⟩ := hdb; rfl)

/-- A recorded draft: its row write, and a new pending intent. -/
theorem record_ok {d : Draft} {row : RowId}
    (hdb : record db h d row now = .ok db') :
    ∃ db₁, writeRow db row d.write = .ok db₁
      ∧ db.txIntent.get h = none
      ∧ db' = { db₁ with
          txIntent := db.txIntent.set h (d.asIntent h row now) } := by
  simp only [record, recordIntent, bind_ok, ensure_ok, pure_ok,
    exists_const] at hdb
  obtain ⟨db₁, hwrite, hnew, rfl⟩ := hdb
  have hsame := writeRow_txIntent hwrite
  rw [hsame] at hnew
  refine ⟨db₁, hwrite, hnew, ?_⟩
  rw [← hsame]
  rfl

end Ballast.Api
