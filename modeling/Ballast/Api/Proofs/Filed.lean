/-
What never changes about an intent, and what follows from it.

An intent's kind, row and amount are written once. So is the envelope
that went out under its hash, and how that transaction landed. A caller
may hold a row as old as it likes: these it has right (`Filed`).

What an envelope has to do with its intent is up to the routes, and each
development states the part it needs as `Good`, a relation between the
envelope and the intent's kind, row and amount that every recorded draft
meets.
-/
import Ballast.Api.Proofs.Settle

namespace Ballast.Api

open Soroban Machine

/-- Two states of one intent. -/
structure Alike (i j : TxIntent) : Prop where
  txHash : i.txHash = j.txHash
  kind : i.kind = j.kind
  refId : i.refId = j.refId
  amount : i.amount = j.amount

theorem Alike.rfl {i : TxIntent} : Alike i i := ⟨.refl _, .refl _, .refl _,
  .refl _⟩

theorem Alike.trans {i j k : TxIntent} (h : Alike i j) (h' : Alike j k) :
    Alike i k :=
  ⟨h.txHash.trans h'.txHash, h.kind.trans h'.kind, h.refId.trans h'.refId,
    h.amount.trans h'.amount⟩

theorem Alike.symm {i j : TxIntent} (h : Alike i j) : Alike j i :=
  ⟨h.txHash.symm, h.kind.symm, h.refId.symm, h.amount.symm⟩

/-- The outcome a caller has been told. -/
def Phase.outcome : Phase → Option Outcome
  | .answered o => some o
  | .ready o _ => some o
  | _ => none

section

variable {χ τ : Type} {net : Network χ τ} {db₀ : Db}
  {Good : Envelope → IntentKind → RowId → Option Int → Prop}
  {s s' : System χ} {a : Act τ}

/-- The intents on file, the envelopes behind them and the callers that
hold them agree. `db₀` is the books the run began with. -/
structure Filed (net : Network χ τ) (db₀ : Db)
    (Good : Envelope → IntentKind → RowId → Option Int → Prop)
    (s : System χ) : Prop where
  hash : ∀ h i, s.db.txIntent.get h = some i → i.txHash = h
  known : ∀ h i, s.db.txIntent.get h = some i →
    (∃ i₀, db₀.txIntent.get h = some i₀ ∧ Alike i₀ i)
      ∨ ∃ e, s.envelopes.get h = some e ∧ Good e i.kind i.refId i.amount
  handed : ∀ h e, s.envelopes.get h = some e →
    ∃ i, s.db.txIntent.get h = some i ∧ Good e i.kind i.refId i.amount
  landed : ∀ h x, s.landed.get h = some x →
    ∃ e env, s.envelopes.get h = some e ∧ Lands net env e x.before x
  done : ∀ h e i, s.envelopes.get h = some e →
    s.db.txIntent.get h = some i →
    i.status = .settled ∨ i.status = .failed → (s.landed.get h).isSome
  workers : ∀ w k, s.workers.get w = some k →
    ∃ i, s.db.txIntent.get k.intent.txHash = some i ∧ Alike i k.intent
  told : ∀ w k o, s.workers.get w = some k → k.phase.outcome = some o →
    ∃ x, s.landed.get k.intent.txHash = some x ∧ x.outcome = o

/-- Books whose intents are filed under their hashes start a run in
order. -/
theorem filed_init (hdb : ∀ h i, db₀.txIntent.get h = some i → i.txHash = h) :
    Filed net db₀ Good (machine net db₀).init := by
  refine ⟨hdb, ?_, ?_, ?_, ?_, ?_, ?_⟩
  · intro h i hi
    exact .inl ⟨i, hi, Alike.rfl⟩
  all_goals
    intros
    contradiction

/-- A caller that has been told an outcome holds the intent of the
transaction that had it. -/
theorem Filed.told_of (hf : Filed net db₀ Good s) {w : Nat} {k : Worker}
    {o : Outcome} (hk : s.workers.get w = some k)
    (ho : k.phase.outcome = some o) :
    ∃ x e env, s.landed.get k.intent.txHash = some x ∧ x.outcome = o
      ∧ s.envelopes.get k.intent.txHash = some e
      ∧ Lands net env e x.before x
      ∧ Good e k.intent.kind k.intent.refId k.intent.amount := by
  obtain ⟨x, hx, hxo⟩ := hf.told w k o hk ho
  obtain ⟨e, env, he, hlands⟩ := hf.landed _ x hx
  obtain ⟨i, hi, hgood⟩ := hf.handed _ e he
  obtain ⟨j, hj, halike⟩ := hf.workers w k hk
  rw [hi] at hj
  injection hj with hj
  subst hj
  rw [halike.kind, halike.refId, halike.amount] at hgood
  exact ⟨x, e, env, hx, hxo, he, hlands, hgood⟩

/-- Every intent is settled exactly once: errors are recorded in time, and
a transaction that is written off never lands. -/
def Orderly (a : Act τ) (s : System χ) : Prop :=
  match a with
  | .recordError w false => ∀ k ∈ s.workers.get w,
      ∀ row ∈ s.db.txIntent.get k.intent.txHash, row.status = .pending
  | .writeOff w _ _ => ∀ k ∈ s.workers.get w,
      (s.landed.get k.intent.txHash).isNone
  | .land h _ => statusOf s h ≠ some .expired
  | _ => True

instance (a : Act τ) (s : System χ) : Decidable (Orderly a s) :=
  match a with
  | .recordError w false => inferInstanceAs (Decidable
      (∀ k ∈ s.workers.get w,
        ∀ row ∈ s.db.txIntent.get k.intent.txHash, row.status = .pending))
  | .writeOff w _ _ => inferInstanceAs (Decidable
      (∀ k ∈ s.workers.get w, (s.landed.get k.intent.txHash).isNone))
  | .land h _ => inferInstanceAs (Decidable (statusOf s h ≠ some .expired))
  | .recordError _ true | .outside _ | .start .. | .commitDraft ..
  | .lapseQuote .. | .pick .. | .ask .. | .readContracts .. | .commit ..
  | .reread .. => isTrue trivial

/-- In an orderly run an envelope that lands belongs to a pending
intent. -/
theorem Filed.land_pending (hf : Filed net db₀ Good s) {h : TxHash}
    {env : Env} (hord : Orderly (.land h env : Act τ) s) {e : Envelope}
    (he : s.envelopes.get h = some e) (hnew : s.landed.get h = none)
    {i : TxIntent} (hi : s.db.txIntent.get h = some i) :
    i.status = .pending := by
  have hnot : ¬ (i.status = .settled ∨ i.status = .failed) := by
    intro hst
    have hsome := hf.done h e i he hi hst
    rw [hnew] at hsome
    cases hsome
  have hexpired : i.status ≠ .expired := by
    intro hst
    apply hord
    simp [statusOf, hi, hst]
  cases hst : i.status with
  | pending => rfl
  | settled => exact absurd (.inl hst) hnot
  | failed => exact absurd (.inr hst) hnot
  | expired => exact absurd hst hexpired

/-- Everything `Filed` speaks of is as it was. -/
theorem Filed.congr (hf : Filed net db₀ Good s)
    (hdb : s'.db.txIntent = s.db.txIntent)
    (henv : s'.envelopes = s.envelopes) (hland : s'.landed = s.landed)
    (hwork : s'.workers = s.workers) : Filed net db₀ Good s' := by
  constructor
  · rw [hdb]; exact hf.hash
  · rw [hdb, henv]; exact hf.known
  · rw [hdb, henv]; exact hf.handed
  · rw [henv, hland]; exact hf.landed
  · rw [hdb, henv, hland]; exact hf.done
  · rw [hdb, hwork]; exact hf.workers
  · rw [hland, hwork]; exact hf.told

/-- One intent changes its status. -/
theorem Filed.touch (hf : Filed net db₀ Good s) {k : TxHash}
    {p q : TxIntent} (hrow : s.db.txIntent.get k = some p)
    (halike : Alike p q)
    (hdone : q.status = .settled ∨ q.status = .failed →
      (s.landed.get k).isSome)
    (hdb : s'.db.txIntent = s.db.txIntent.set k q)
    (henv : s'.envelopes = s.envelopes) (hland : s'.landed = s.landed)
    (hwork : s'.workers = s.workers) : Filed net db₀ Good s' := by
  have hget : ∀ h i, s'.db.txIntent.get h = some i →
      ∃ j, s.db.txIntent.get h = some j ∧ Alike j i := by
    intro h i hi
    rw [hdb, Store.get_set] at hi
    split at hi
    · next hk =>
      injection hi with hi
      subst hi
      exact ⟨p, by rw [hk, hrow], halike⟩
    · exact ⟨i, hi, Alike.rfl⟩
  have hput : ∀ h i, s.db.txIntent.get h = some i →
      ∃ j, s'.db.txIntent.get h = some j ∧ Alike i j := by
    intro h i hi
    rw [hdb, Store.get_set]
    split
    · next hk =>
      rw [hk, hrow] at hi
      injection hi with hi
      subst hi
      exact ⟨q, rfl, halike⟩
    · exact ⟨i, hi, Alike.rfl⟩
  constructor
  case hash =>
    intro h i hi
    obtain ⟨j, hj, hji⟩ := hget h i hi
    rw [← hji.txHash]
    exact hf.hash h j hj
  case known =>
    intro h i hi
    obtain ⟨j, hj, hji⟩ := hget h i hi
    rcases hf.known h j hj with ⟨i₀, hi₀, h₀⟩ | ⟨e, he, hgood⟩
    · exact .inl ⟨i₀, hi₀, h₀.trans hji⟩
    · refine .inr ⟨e, henv ▸ he, ?_⟩
      rw [← hji.kind, ← hji.refId, ← hji.amount]
      exact hgood
  case handed =>
    intro h e he
    rw [henv] at he
    obtain ⟨i, hi, hgood⟩ := hf.handed h e he
    obtain ⟨j, hj, hij⟩ := hput h i hi
    refine ⟨j, hj, ?_⟩
    rw [← hij.kind, ← hij.refId, ← hij.amount]
    exact hgood
  case landed =>
    rw [henv, hland]
    exact hf.landed
  case done =>
    intro h e i he hi hst
    rw [henv] at he
    rw [hland]
    rw [hdb, Store.get_set] at hi
    split at hi
    · next hk =>
      injection hi with hi
      subst hi
      rw [hk]
      exact hdone hst
    · exact hf.done h e i he hi hst
  case workers =>
    intro w c hc
    rw [hwork] at hc
    obtain ⟨i, hi, hic⟩ := hf.workers w c hc
    obtain ⟨j, hj, hij⟩ := hput _ i hi
    exact ⟨j, hj, hij.symm.trans hic⟩
  case told =>
    rw [hland, hwork]
    exact hf.told

/-- A caller comes to hold an intent on file in a phase whose outcome is
the one that landed. -/
theorem Filed.move (hf : Filed net db₀ Good s) {w : Nat}
    {intent i : TxIntent} {p : Phase}
    (hi : s.db.txIntent.get intent.txHash = some i)
    (halike : Alike i intent)
    (hout : ∀ o, p.outcome = some o →
      ∃ x, s.landed.get intent.txHash = some x ∧ x.outcome = o) :
    Filed net db₀ Good (moveTo s w intent p) := by
  refine ⟨hf.hash, hf.known, hf.handed, hf.landed, hf.done, ?_, ?_⟩
  · intro w' k hk
    rw [moveTo, Store.get_set] at hk
    split at hk
    · injection hk with hk
      subst hk
      exact ⟨i, hi, halike⟩
    · exact hf.workers w' k hk
  · intro w' k o hk ho
    rw [moveTo, Store.get_set] at hk
    split at hk
    · injection hk with hk
      subst hk
      exact hout o ho
    · exact hf.told w' k o hk ho

/-- The same for a caller that keeps its intent and is told nothing
new. -/
theorem Filed.rest (hf : Filed net db₀ Good s) {w : Nat} {k : Worker}
    (hk : s.workers.get w = some k) {p : Phase} (hp : p.outcome = none) :
    Filed net db₀ Good (moveTo s w k.intent p) := by
  obtain ⟨i, hi, halike⟩ := hf.workers w k hk
  refine hf.move hi halike ?_
  intro o ho
  rw [hp] at ho
  cases ho

theorem Filed.moves (hf : Filed net db₀ Good s) {w : Nat}
    {intent : TxIntent} {p : Phase} (hm : Moves net s w intent p) :
    Filed net db₀ Good (moveTo s w intent p) := by
  cases hm with
  | @picked h row hrow =>
      have hhash := hf.hash h intent hrow
      refine hf.move (i := intent) (by rw [hhash]; exact hrow) Alike.rfl ?_
      intro o ho
      cases ho
  | rests hk => exact hf.rest hk rfl
  | absent hk => exact hf.rest hk rfl
  | answered hk _ hland =>
      obtain ⟨i, hi, halike⟩ := hf.workers w _ hk
      refine hf.move hi halike ?_
      intro o ho
      injection ho with ho
      exact ⟨_, hland, ho⟩
  | read hk hphase _ =>
      obtain ⟨i, hi, halike⟩ := hf.workers w _ hk
      refine hf.move hi halike ?_
      intro o ho
      exact hf.told w _ o hk (by rw [hphase]; exact ho)
  | beaten hk => exact hf.rest hk rfl
  | erring hk => exact hf.rest hk rfl

/-- A draft goes out under a hash nothing was recorded under. -/
theorem Filed.record (hf : Filed net db₀ Good s) {h : TxHash} {d : Draft}
    {row : RowId} {now : Nat} (hnew : s.db.txIntent.get h = none)
    (hgood : Good d.envelope d.kind (d.refId.getD row) d.amount)
    (hdb : s'.db.txIntent = s.db.txIntent.set h (d.asIntent h row now))
    (henv : s'.envelopes = s.envelopes.set h d.envelope)
    (hland : s'.landed = s.landed) (hwork : s'.workers = s.workers) :
    Filed net db₀ Good s' := by
  have hnot : ∀ k i, s.db.txIntent.get k = some i → k ≠ h := by
    intro k i hi hk
    rw [hk, hnew] at hi
    cases hi
  constructor
  case hash =>
    intro k i hi
    rw [hdb, Store.get_set] at hi
    split at hi
    · next hk =>
      injection hi with hi
      rw [← hi]
      exact hk.symm
    · exact hf.hash k i hi
  case known =>
    intro k i hi
    rw [hdb, Store.get_set] at hi
    rw [henv, Store.get_set]
    split at hi
    · next hk =>
      injection hi with hi
      subst hi
      exact .inr ⟨d.envelope, if_pos hk, hgood⟩
    · next hk =>
      rw [if_neg hk]
      exact hf.known k i hi
  case handed =>
    intro k e he
    rw [henv, Store.get_set] at he
    rw [hdb, Store.get_set]
    split at he
    · next hk =>
      injection he with he
      subst he
      exact ⟨d.asIntent h row now, if_pos hk, hgood⟩
    · next hk =>
      rw [if_neg hk]
      exact hf.handed k e he
  case landed =>
    intro k x hx
    rw [hland] at hx
    obtain ⟨e, env, he, hlands⟩ := hf.landed k x hx
    obtain ⟨i, hi, -⟩ := hf.handed k e he
    refine ⟨e, env, ?_, hlands⟩
    rw [henv, Store.get_set_ne _ _ (hnot k i hi), he]
  case done =>
    intro k e i he hi hst
    rw [hland]
    rw [hdb, Store.get_set] at hi
    rw [henv, Store.get_set] at he
    split at hi
    · injection hi with hi
      subst hi
      rcases hst with hst | hst <;> cases hst
    · next hk =>
      rw [if_neg hk] at he
      exact hf.done k e i he hi hst
  case workers =>
    intro w k hk
    rw [hwork] at hk
    obtain ⟨i, hi, halike⟩ := hf.workers w k hk
    refine ⟨i, ?_, halike⟩
    rw [hdb, Store.get_set_ne _ _ (hnot _ i hi), hi]
  case told =>
    rw [hland, hwork]
    exact hf.told

/-- A transaction lands. -/
theorem Filed.land (hf : Filed net db₀ Good s) {h : TxHash} {env : Env}
    {e : Envelope} {x : Landing χ} (he : s.envelopes.get h = some e)
    (hnew : s.landed.get h = none) (hlands : Lands net env e s.chain x) :
    Filed net db₀ Good { s with
      chain := x.after
      landed := s.landed.set h x } := by
  have hbefore : x.before = s.chain := by
    cases hlands <;> rfl
  have hkeep : ∀ k y, s.landed.get k = some y →
      (s.landed.set h x).get k = some y := by
    intro k y hy
    rw [Store.get_set_ne, hy]
    intro hk
    rw [hk, hnew] at hy
    cases hy
  refine ⟨hf.hash, hf.known, hf.handed, ?_, ?_, hf.workers, ?_⟩
  · intro k y hy
    rw [Store.get_set] at hy
    split at hy
    · next hk =>
      injection hy with hy
      subst hy
      exact ⟨e, env, by rw [hk]; exact he, by rw [hbefore]; exact hlands⟩
    · exact hf.landed k y hy
  · intro k e' i he' hi hst
    have hsome := hf.done k e' i he' hi hst
    rw [Option.isSome_iff_exists] at hsome
    obtain ⟨y, hy⟩ := hsome
    exact Option.isSome_iff_exists.mpr ⟨y, hkeep k y hy⟩
  · intro w k o hk ho
    obtain ⟨y, hy, hyo⟩ := hf.told w k o hk ho
    exact ⟨y, hkeep _ y hy, hyo⟩

/-- Every step keeps the files in order, as long as what it records is
`Good`. -/
theorem filed_step (hf : Filed net db₀ Good s) (hdid : Did net s s' a)
    (hgood : ∀ id h row now d, a = .commitDraft id h row now →
      s.drafts.get id = some d →
      Good d.envelope d.kind (d.refId.getD row) d.amount) :
    Filed net db₀ Good s' := by
  cases hdid with
  | outside _ hs' =>
      subst hs'
      exact hf.congr rfl rfl rfl rfl
  | started _ hs' =>
      subst hs'
      exact hf.congr rfl rfl rfl rfl
  | recorded hd hdb hs' =>
      subst hs'
      obtain ⟨db₁, -, hnew, rfl⟩ := record_ok hdb
      exact hf.record hnew (hgood _ _ _ _ _ rfl hd) rfl rfl rfl rfl
  | lapsed hdb hs' =>
      subst hs'
      obtain ⟨quotes, rfl⟩ := lapseQuote_ok hdb
      exact hf.congr rfl rfl rfl rfl
  | landed he hnew hlands hs' =>
      subst hs'
      exact hf.land he hnew hlands
  | moved _ hm hs' =>
      subst hs'
      exact hf.moves hm
  | @settled w now delivery k outcome read db p hk hphase hrun hp hs' =>
      subst hs'
      obtain ⟨row, hrow, -, happ⟩ := runWithDb_some hrun
      obtain ⟨x, hx, -⟩ := hf.told w k outcome hk (by rw [hphase]; rfl)
      have hf' : Filed net db₀ Good { s with
          db := db
          booked := s.booked ++ [k.intent.txHash] } :=
        hf.touch hrow (q := settledRow row outcome now) ⟨rfl, rfl, rfl, rfl⟩
          (fun _ => by rw [hx]; rfl) (applyOutcome_txIntent happ) rfl rfl rfl
      refine hf'.rest hk ?_
      rcases hp with rfl | ⟨err, rfl⟩ <;> rfl
  | @writtenOff w now delivery k db hk habsent hexp hs' =>
      subst hs'
      obtain ⟨row, hrow, -, rfl⟩ := expire_some hexp
      have hf' : Filed net db₀ Good { s with
          db := applyFailure { s.db with
            txIntent := s.db.txIntent.set k.intent.txHash
              { row with status := .expired, settledAt := some now } }
            k.intent
          booked := s.booked ++ [k.intent.txHash] } :=
        hf.touch hrow (q :=
          { row with status := .expired, settledAt := some now })
          ⟨rfl, rfl, rfl, rfl⟩ (by simp) (applyFailure_txIntent _ _) rfl rfl
          rfl
      exact hf'.rest hk rfl
  | @erred w k err hk hphase hs' =>
      subst hs'
      obtain ⟨row, hrow, -⟩ := hf.workers w k hk
      have hf' : Filed net db₀ Good
          { s with db := recordSettleError s.db k.intent err } :=
        hf.touch hrow (q := { row with status := .pending, error := some err })
          ⟨rfl, rfl, rfl, rfl⟩ (by simp)
          (by rw [recordSettleError, Store.adjust_some _ hrow]) rfl rfl rfl
      exact hf'.rest hk rfl

/-- One intent rewritten, in what a book keeps of it. -/
theorem alike_of_set {db : Db} {k : TxHash} {i j : TxIntent}
    (hi : db.txIntent.get k = some i) (halike : Alike i j) :
    ∀ h j', (db.txIntent.set k j).get h = some j' →
      ∃ i', db.txIntent.get h = some i' ∧ Alike i' j' := by
  intro h j' hj'
  rw [Store.get_set] at hj'
  split at hj'
  · next hk =>
    injection hj' with hj'
    subst hj'
    exact ⟨i, by rw [hk, hi], halike⟩
  · exact ⟨j', hj', Alike.rfl⟩

/-- Every intent was there before, or has just been recorded. -/
theorem intents_kept (hf : Filed net db₀ Good s) (hdid : Did net s s' a)
    (hnot : ∀ id h row now, a ≠ .commitDraft id h row now) :
    (∀ h j, s'.db.txIntent.get h = some j →
      ∃ i, s.db.txIntent.get h = some i ∧ Alike i j)
    ∧ s'.envelopes = s.envelopes := by
  have hold : ∀ h j, s.db.txIntent.get h = some j →
      ∃ i, s.db.txIntent.get h = some i ∧ Alike i j :=
    fun h j hj => ⟨j, hj, Alike.rfl⟩
  cases hdid with
  | outside _ hs' => subst hs'; exact ⟨hold, rfl⟩
  | started _ hs' => subst hs'; exact ⟨hold, rfl⟩
  | recorded => exact absurd rfl (hnot _ _ _ _)
  | lapsed hdb hs' =>
      subst hs'
      obtain ⟨quotes, rfl⟩ := lapseQuote_ok hdb
      exact ⟨hold, rfl⟩
  | landed _ _ _ hs' => subst hs'; exact ⟨hold, rfl⟩
  | moved _ _ hs' => subst hs'; exact ⟨hold, rfl⟩
  | @settled w now delivery k outcome read db p _ _ hrun _ hs' =>
      subst hs'
      obtain ⟨row, hrow, -, happ⟩ := runWithDb_some hrun
      refine ⟨?_, rfl⟩
      show ∀ h j, db.txIntent.get h = some j → _
      rw [applyOutcome_txIntent happ]
      exact alike_of_set hrow ⟨rfl, rfl, rfl, rfl⟩
  | @writtenOff w now delivery k db _ _ hexp hs' =>
      subst hs'
      obtain ⟨row, hrow, -, rfl⟩ := expire_some hexp
      refine ⟨?_, rfl⟩
      show ∀ h j, (applyFailure _ k.intent).txIntent.get h = some j → _
      rw [applyFailure_txIntent]
      exact alike_of_set hrow ⟨rfl, rfl, rfl, rfl⟩
  | @erred w k err hk _ hs' =>
      subst hs'
      obtain ⟨row, hrow, -⟩ := hf.workers w k hk
      refine ⟨?_, rfl⟩
      show ∀ h j, (s.db.txIntent.adjust _ _).get h = some j → _
      rw [Store.adjust_some _ hrow]
      exact alike_of_set hrow ⟨rfl, rfl, rfl, rfl⟩

/-- A transaction that landed successfully belongs to an intent that is
pending or settled. -/
def Ended (s : System χ) : Prop :=
  ∀ h i x ledger v, s.db.txIntent.get h = some i →
    s.landed.get h = some x → x.outcome = .success ledger v →
    i.status = .pending ∨ i.status = .settled

theorem ended_step (hf : Filed net db₀ Good s) (hended : Ended s)
    (hdid : Did net s s' a) (hord : Orderly a s) : Ended s' := by
  -- one intent is rewritten, and it is enough to look at that one
  have hset : ∀ (k : TxHash) (j : TxIntent),
      (∀ x ledger v, s.landed.get k = some x →
        x.outcome = .success ledger v →
        j.status = .pending ∨ j.status = .settled) →
      ∀ h i x ledger v, (s.db.txIntent.set k j).get h = some i →
        s.landed.get h = some x → x.outcome = .success ledger v →
        i.status = .pending ∨ i.status = .settled := by
    intro k j hj h i x ledger v hi hx hout
    rw [Store.get_set] at hi
    split at hi
    · next hk =>
      injection hi with hi
      subst hi
      rw [hk] at hx
      exact hj x ledger v hx hout
    · exact hended h i x ledger v hi hx hout
  cases hdid with
  | outside _ hs' => subst hs'; exact hended
  | started _ hs' => subst hs'; exact hended
  | @recorded id h row now d db hd hdb hs' =>
      subst hs'
      obtain ⟨db₁, -, hnew, rfl⟩ := record_ok hdb
      refine hset h (d.asIntent h row now) ?_
      intro x ledger v _ _
      exact .inl rfl
  | lapsed hdb hs' =>
      subst hs'
      obtain ⟨quotes, rfl⟩ := lapseQuote_ok hdb
      exact hended
  | @landed h env e x he hnew hlands hs' =>
      subst hs'
      intro k i y ledger v hi hy hout
      rw [Store.get_set] at hy
      split at hy
      · next hk =>
        subst hk
        exact .inl (hf.land_pending hord he hnew hi)
      · exact hended k i y ledger v hi hy hout
  | moved _ _ hs' => subst hs'; exact hended
  | @settled w now delivery k outcome read db p hk hphase hrun hp hs' =>
      subst hs'
      obtain ⟨row, hrow, -, happ⟩ := runWithDb_some hrun
      intro h i x ledger v hi
      have hi' : db.txIntent.get h = some i := hi
      rw [applyOutcome_txIntent happ] at hi'
      refine hset _ _ ?_ h i x ledger v hi'
      intro x ledger v hx hout
      -- what is settled is what landed
      obtain ⟨y, hy, hyo⟩ := hf.told w k outcome hk (by rw [hphase]; rfl)
      rw [hx] at hy
      injection hy with hy
      subst hy
      rw [← hyo, hout]
      exact .inr rfl
  | @writtenOff w now delivery k db hk habsent hexp hs' =>
      subst hs'
      obtain ⟨row, hrow, -, rfl⟩ := expire_some hexp
      intro h i x ledger v hi
      have hi' : (applyFailure _ k.intent).txIntent.get h = some i := hi
      rw [applyFailure_txIntent] at hi'
      refine hset _ _ ?_ h i x ledger v hi'
      intro x ledger v hx _
      -- an orderly write-off finds nothing landed
      have hnone := hord k hk
      rw [hx] at hnone
      cases hnone
  | @erred w k err hk hphase hs' =>
      subst hs'
      obtain ⟨row, hrow, -⟩ := hf.workers w k hk
      intro h i x ledger v hi
      have hi' : (s.db.txIntent.adjust _ _).get h = some i := hi
      rw [Store.adjust_some _ hrow] at hi'
      refine hset _ _ ?_ h i x ledger v hi'
      intro x ledger v _ _
      exact .inl rfl

end

end Ballast.Api
