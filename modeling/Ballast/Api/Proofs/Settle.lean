/-
When settlement is exactly-once.

The claim is a conditional update, so of all the callers that hold a row
as pending one applies its effect. What breaks it is the error write: it
sets the row back to pending whoever settled it meanwhile, and the
caller that failed may be one that had already lost the race, or one
whose own transaction committed without its hearing so. The effect is
then applied again by the next sweep.

So settlement is exactly-once in precisely those runs in which every
error write finds its row still pending (`settles_once_iff`).
-/
import Ballast.Api.Chain
import Ballast.Api.Proofs.Steps

namespace Ballast.Api

open Soroban Machine

variable {χ τ : Type} {net : Network χ τ} {s s' : System χ} {a : Act τ}
  {h : TxHash}

/-- The status of the intent under `h`. -/
def statusOf (s : System χ) (h : TxHash) : Option IntentStatus :=
  (s.db.txIntent.get h).map (·.status)

/-- A step that writes the error of a caller holding `h`. -/
def ErrsOn (a : Act τ) (s : System χ) (h : TxHash) : Prop :=
  ∃ w worker, a = .recordError w false ∧ s.workers.get w = some worker
    ∧ worker.intent.txHash = h

/-- An error is recorded only on a row that is still pending. -/
def ErrsInTime (a : Act τ) (s : System χ) : Prop :=
  match a with
  | .recordError w false => ∀ k ∈ s.workers.get w,
      ∀ row ∈ s.db.txIntent.get k.intent.txHash, row.status = .pending
  | _ => True

/-- What a step does to the status of one intent. -/
inductive StatusStep (a : Act τ) (s s' : System χ) (h : TxHash) : Prop
  | same : statusOf s' h = statusOf s h →
      s'.booked.count h = s.booked.count h → StatusStep a s s' h
  | recorded : statusOf s h = none → statusOf s' h = some .pending →
      s'.booked.count h = s.booked.count h → StatusStep a s s' h
  | claimed {st : IntentStatus} : statusOf s h = some .pending →
      st ≠ .pending → statusOf s' h = some st →
      s'.booked.count h = s.booked.count h + 1 → StatusStep a s s' h
  | reopened : ErrsOn a s h → (statusOf s h).isSome →
      statusOf s' h = some .pending →
      s'.booked.count h = s.booked.count h → StatusStep a s s' h

/-- One row of `tx_intent` written: the status of every other intent
stays. -/
theorem statusOf_set {k : TxHash} {row : TxIntent}
    (hdb : s'.db.txIntent = s.db.txIntent.set k row) (h : TxHash) :
    statusOf s' h = if h = k then some row.status else statusOf s h := by
  unfold statusOf
  rw [hdb, Store.map_get_set]

theorem Outcome.next_ne_pending (outcome : Outcome) :
    outcome.next ≠ .pending := by
  cases outcome <;> simp [Outcome.next]

/-- A transaction that claims `k` and books its effect. -/
theorem StatusStep.of_claim {k : TxHash} {row row' : TxIntent}
    (hrow : s.db.txIntent.get k = some row) (hpending : row.status = .pending)
    (hdone : row'.status ≠ .pending)
    (hdb : s'.db.txIntent = s.db.txIntent.set k row')
    (hbooked : s'.booked = s.booked ++ [k]) (h : TxHash) :
    StatusStep a s s' h := by
  by_cases hk : h = k
  · subst hk
    refine .claimed ?_ hdone ?_ ?_
    · simp [statusOf, hrow, hpending]
    · rw [statusOf_set hdb, if_pos rfl]
    · simp [hbooked]
  · refine .same ?_ ?_
    · rw [statusOf_set hdb, if_neg hk]
    · rw [hbooked, List.count_append, List.count_singleton]
      simp [Ne.symm hk]

theorem statusStep (hdid : Did net s s' a) (h : TxHash) :
    StatusStep a s s' h := by
  cases hdid with
  | outside _ hs' => exact .same (by rw [hs']; rfl) (by rw [hs'])
  | started _ hs' => exact .same (by rw [hs']; rfl) (by rw [hs'])
  | @recorded id k row now d db _ hdb hs' =>
      subst hs'
      obtain ⟨db₁, -, hnew, rfl⟩ := record_ok hdb
      by_cases hk : h = k
      · subst hk
        refine .recorded ?_ ?_ rfl
        · simp [statusOf, hnew]
        · simp [statusOf, Draft.asIntent]
      · refine .same ?_ rfl
        simp [statusOf, hk]
  | lapsed hdb hs' =>
      subst hs'
      obtain ⟨quotes, rfl⟩ := lapseQuote_ok hdb
      exact .same rfl rfl
  | landed _ _ _ hs' => exact .same (by rw [hs']; rfl) (by rw [hs'])
  | moved _ _ hs' => exact .same (by rw [hs']; rfl) (by rw [hs']; rfl)
  | @settled w now delivery worker outcome read db p hw hphase hrun _ hs' =>
      subst hs'
      obtain ⟨row, hrow, hpending, happ⟩ := runWithDb_some hrun
      exact .of_claim hrow hpending outcome.next_ne_pending
        (applyOutcome_txIntent happ) rfl h
  | writtenOff hw habsent hexp hs' =>
      subst hs'
      obtain ⟨row, hrow, hpending, rfl⟩ := expire_some hexp
      exact .of_claim hrow hpending (by simp)
        (applyFailure_txIntent _ _) rfl h
  | @erred w worker err hw hphase hs' =>
      subst hs'
      by_cases hk : h = worker.intent.txHash
      · cases hget : s.db.txIntent.get h with
        | none =>
            refine .same ?_ rfl
            simp [statusOf, moveTo, recordSettleError, Store.get_adjust,
              ← hk, hget]
        | some row =>
            refine .reopened ⟨w, worker, rfl, hw, hk.symm⟩ ?_ ?_ rfl
            · simp [statusOf, hget]
            · simp [statusOf, moveTo, recordSettleError, Store.get_adjust,
                ← hk, hget]
      · refine .same ?_ rfl
        simp [statusOf, moveTo, recordSettleError, Store.get_adjust, hk]

/-- After an error write the row is pending, whatever it was. -/
theorem statusOf_erred (hdid : Did net s s' a) {w : Nat} {worker : Worker}
    (ha : a = .recordError w false) (hw : s.workers.get w = some worker)
    (hrow : (statusOf s worker.intent.txHash).isSome) :
    statusOf s' worker.intent.txHash = some .pending := by
  subst ha
  cases hdid with
  | moved hother => exact absurd rfl (hother w)
  | erred hw' _ hs' =>
      rw [hw] at hw'
      injection hw' with hw'
      subst hw'
      subst hs'
      unfold statusOf at hrow
      rw [Option.isSome_map, Option.isSome_iff_exists] at hrow
      obtain ⟨row, hrow⟩ := hrow
      simp [statusOf, moveTo, recordSettleError, Store.get_adjust, hrow]

-- ========================================================= exactly once

/-- Each intent's book effect is committed at most once, and a status
that is not pending stays. -/
structure SettlesOnce (net : Network χ τ) (db : Db) (acts : List (Act τ)) :
    Prop where
  once : ∀ h, ((machine net db).run (machine net db).init acts).booked.count
    h ≤ 1
  final : ∀ c ∈ (machine net db).trace (machine net db).init acts,
    ∀ h st, statusOf c.before h = some st → st ≠ .pending →
      statusOf c.after h = some st

/-- The status is final: settled, failed or expired. -/
def Closed (s : System χ) (h : TxHash) : Prop :=
  ∃ st, statusOf s h = some st ∧ st ≠ .pending

/-- A row with an error recorded in time was pending. -/
theorem ErrsOn.pending (herrs : ErrsOn a s h) (hintime : ErrsInTime a s)
    {st : IntentStatus} (hst : statusOf s h = some st) : st = .pending := by
  obtain ⟨w, worker, rfl, hw, rfl⟩ := herrs
  unfold statusOf at hst
  rw [Option.map_eq_some_iff] at hst
  obtain ⟨row, hrow, rfl⟩ := hst
  exact hintime worker hw row hrow

/-- A step that records errors in time counts, and keeps closed, what it
should. -/
theorem StatusStep.once (hstep : StatusStep a s s' h)
    (hintime : ErrsInTime a s) :
    (s'.booked.count h = s.booked.count h ∧ (Closed s h → Closed s' h))
      ∨ (¬ Closed s h ∧ s'.booked.count h = s.booked.count h + 1
        ∧ Closed s' h) := by
  cases hstep with
  | same hstatus hcount =>
      refine .inl ⟨hcount, ?_⟩
      rintro ⟨st, hst, hne⟩
      exact ⟨st, hstatus ▸ hst, hne⟩
  | recorded hnone _ hcount =>
      refine .inl ⟨hcount, ?_⟩
      rintro ⟨st, hst, -⟩
      rw [hnone] at hst
      cases hst
  | claimed hpending hne hafter hcount =>
      refine .inr ⟨?_, hcount, _, hafter, hne⟩
      rintro ⟨st, hst, hne'⟩
      rw [hpending] at hst
      injection hst with hst
      exact hne' hst.symm
  | reopened herrs _ _ hcount =>
      refine .inl ⟨hcount, ?_⟩
      rintro ⟨st, hst, hne⟩
      exact absurd (herrs.pending hintime hst) hne

theorem StatusStep.final (hstep : StatusStep a s s' h)
    (hintime : ErrsInTime a s) {st : IntentStatus}
    (hst : statusOf s h = some st) (hne : st ≠ .pending) :
    statusOf s' h = some st := by
  cases hstep with
  | same hstatus => rw [hstatus, hst]
  | recorded hnone => rw [hnone] at hst; cases hst
  | claimed hpending =>
      rw [hpending] at hst
      injection hst with hst
      exact absurd hst.symm hne
  | reopened herrs => exact absurd (herrs.pending hintime hst) hne

/-- Settlement is exactly-once in a run exactly when each of its error
writes finds the row it is about still pending. -/
theorem settles_once_iff (net : Network χ τ) (db : Db)
    (acts : List (Act τ)) :
    SettlesOnce net db acts ↔
      ∀ c ∈ (machine net db).trace (machine net db).init acts,
        ErrsInTime c.call c.before := by
  have hdid : ∀ c ∈ (machine net db).trace (machine net db).init acts,
      Did net c.before c.after c.call :=
    fun c hc => step_did (apply_of_mem_trace hc)
  constructor
  · intro hsettles c hc
    unfold ErrsInTime
    split
    next w ha =>
      intro worker hw row hrow
      by_contra hne
      have hst : statusOf c.before worker.intent.txHash
          = some row.status := by
        rw [statusOf, hrow]
        rfl
      have hfinal := hsettles.final c hc _ _ hst hne
      -- the error write itself put the row back
      have hafter : statusOf c.after worker.intent.txHash
          = some .pending :=
        statusOf_erred (hdid c hc) ha hw (by rw [hst]; rfl)
      rw [hafter] at hfinal
      injection hfinal with hfinal
      exact hne hfinal.symm
    next => trivial
  · intro hintime
    constructor
    · intro h
      refine (once_of_trace (fun s : System χ => s.booked.count h)
        (fun s => Closed s h) rfl ?_).1
      intro c hc
      exact (statusStep (hdid c hc) h).once (hintime c hc)
    · intro c hc h st hst hne
      exact (statusStep (hdid c hc) h).final (hintime c hc) hst hne

/-- The loser's error reopens a draw its rival had settled: the books
show 200 drawn where the line drew 100. -/
theorem draw_settled_twice :
    let M := machine (network Demo.deployed Demo.funded) Demo.lineBooks
    (M.run M.init Demo.raced).db.draw.map (·.amount) = [100, 100]
      ∧ ((M.run M.init Demo.raced).chain.lending.creditLine.lines.get
          0).map (·.drawn) = some 100
      ∧ ¬ SettlesOnce (network Demo.deployed Demo.funded) Demo.lineBooks
        Demo.raced := by
  refine ⟨by decide +kernel, by decide +kernel, ?_⟩
  intro hsettles
  have honce := hsettles.once 50
  have htwice : ((machine (network Demo.deployed Demo.funded)
      Demo.lineBooks).run (machine (network Demo.deployed Demo.funded)
      Demo.lineBooks).init Demo.raced).booked = [50, 50] := by
    decide +kernel
  rw [htwice] at honce
  exact absurd honce (by decide)

end Ballast.Api
