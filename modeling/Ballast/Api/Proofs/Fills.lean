/-
A quote is filled once, unless two executes of it overlap.

The contract knows nothing of quotes: what keeps a quote from being
filled twice is that an execute is refused while another is pending or
the quote is no longer open. The refusal is read long before the intent
it guards is recorded. `Exclusive` says it still stands then, that an
error is written only on a row still pending, and that no sweep writes
off a transaction that succeeded.

Under it, of the intents of a quote at most one is pending or settled at
any time (`Fills.one`). A failed one never succeeds; a written-off one is
past its time bound (`Fills.expired`). So at most one transaction of the
quote succeeds, and its settlement is the only one that writes a fill.
-/
import Ballast.Api.Exits
import Ballast.Api.Proofs.Filed
import Ballast.Api.Proofs.Routes

namespace Ballast.Api

open Soroban Machine

-- ============================================================ the parts

section

variable {db db' : Db} {contracts : Contracts} {intent : TxIntent}
  {outcome : Outcome} {read : ContractState} {now : Nat}

/-- What a settlement does to the quotes and the fills: nothing, unless
it is of an execute that succeeded. -/
theorem applyOutcome_exit
    (hdb : applyOutcome db contracts intent outcome read now = .ok db') :
    (db'.exitQuote = db.exitQuote ∧ db'.exitFill = db.exitFill
        ∧ (intent.kind = .exitExecute → outcome.next = .failed))
      ∨ (intent.kind = .exitExecute ∧ outcome.next = .settled
        ∧ db'.exitQuote = db.exitQuote.adjust intent.refId (fun r =>
          { r with status := .filled })
        ∧ db'.exitFill = db.exitFill ++ [⟨intent.refId, intent.txHash⟩]) := by
  cases outcome with
  | failed ledger =>
      injection hdb with hdb
      subst hdb
      refine .inl ⟨?_, ?_, fun _ => rfl⟩
      all_goals
        unfold applyFailure
        split <;> rfl
  | success ledger v =>
      by_cases hkind : intent.kind = .exitExecute
      · refine .inr ⟨hkind, rfl, ?_⟩
        simp only [applyOutcome, applySuccess, hkind, pure_ok] at hdb
        subst hdb
        exact ⟨rfl, rfl⟩
      · refine .inl ⟨?_, ?_, fun h => absurd h hkind⟩
        all_goals
          simp only [applyOutcome] at hdb
          unfold applySuccess at hdb
          split at hdb <;> simp only [bind_ok, pure_ok] at hdb
        all_goals first
          | (subst hdb; rfl)
          | (obtain ⟨_, -, rfl⟩ := hdb; rfl)
          | (obtain ⟨_, -, _, -, rfl⟩ := hdb; rfl)
          | (exfalso; exact hkind (by assumption))

/-- A failure books nothing about quotes or fills. -/
theorem applyFailure_exit (db : Db) (intent : TxIntent) :
    (applyFailure db intent).exitQuote = db.exitQuote
      ∧ (applyFailure db intent).exitFill = db.exitFill := by
  unfold applyFailure
  constructor <;> split <;> rfl

/-- The rows written with an intent are of other tables. -/
theorem writeRow_exit {row : RowId} {write : RowWrite}
    (hdb : writeRow db row write = .ok db') :
    db'.exitQuote = db.exitQuote ∧ db'.exitFill = db.exitFill := by
  unfold writeRow at hdb
  split at hdb <;>
    simp only [bind_ok, ensure_ok, pure_ok, exists_const] at hdb
  all_goals first
    | (subst hdb; exact ⟨rfl, rfl⟩)
    | (obtain ⟨-, rfl⟩ := hdb; exact ⟨rfl, rfl⟩)

end

section

variable {χ τ : Type} {net : Network χ τ} {db₀ : Db}
  {Good : Envelope → IntentKind → RowId → Option Int → Prop}
  {s s' : System χ} {a : Act τ} {h : TxHash} {i : TxIntent}

/-- Where the intent `i` that stands under `h` after a step comes from. -/
inductive RowStep (s : System χ) (a : Act τ) (h : TxHash) :
    TxIntent → Prop
  | same {i : TxIntent} : s.db.txIntent.get h = some i → RowStep s a h i
  | recorded {id : Nat} {row : RowId} {now : Nat} {d : Draft} :
      a = .commitDraft id h row now → s.drafts.get id = some d →
      s.db.txIntent.get h = none → RowStep s a h (d.asIntent h row now)
  | settled {i : TxIntent} {outcome : Outcome} {now : Nat}
      {x : Landing χ} : s.db.txIntent.get h = some i →
      i.status = .pending → s.landed.get h = some x →
      x.outcome = outcome → RowStep s a h (settledRow i outcome now)
  | writtenOff {i : TxIntent} {w now : Nat} {delivery : Delivery}
      {k : Worker} : s.db.txIntent.get h = some i →
      i.status = .pending → a = .writeOff w delivery now →
      s.workers.get w = some k → k.intent.txHash = h →
      intentExpiryMs < now - k.intent.createdAt →
      RowStep s a h { i with status := .expired, settledAt := some now }
  | erred {i : TxIntent} {w : Nat} {k : Worker} {err : String} :
      s.db.txIntent.get h = some i → a = .recordError w false →
      s.workers.get w = some k → k.intent.txHash = h →
      RowStep s a h { i with status := .pending, error := some err }

/-- A row a step wrote under `k` was written so, and every other one is
as it was. -/
theorem RowStep.of_set {k : TxHash} {j : TxIntent}
    (hdb : s'.db.txIntent = s.db.txIntent.set k j)
    (hj : RowStep s a k j) (hi : s'.db.txIntent.get h = some i) :
    RowStep s a h i := by
  rw [hdb, Store.get_set] at hi
  split at hi
  next hk =>
    injection hi with hi
    rw [← hi, hk]
    exact hj
  next => exact .same hi

/-- What one action can do to the row of an intent: leave it, record it,
settle it, write it off, or write an error on it. -/
theorem row_step (hf : Filed net db₀ Good s) (hstep : step net a s = .ok s')
    (hi : s'.db.txIntent.get h = some i) : RowStep s a h i := by
  cases step_did hstep with
  | outside _ hs' => subst hs'; exact .same hi
  | started _ hs' => subst hs'; exact .same hi
  | recorded hd hdb hs' =>
      subst hs'
      obtain ⟨db₁, -, hnew, rfl⟩ := record_ok hdb
      exact .of_set rfl (.recorded rfl hd hnew) hi
  | lapsed hdb hs' =>
      subst hs'
      obtain ⟨quotes, rfl⟩ := lapseQuote_ok hdb
      exact .same hi
  | landed _ _ _ hs' => subst hs'; exact .same hi
  | moved _ _ hs' => subst hs'; exact .same hi
  | @settled w now delivery k outcome read db p hk hphase hrun hp hs' =>
      subst hs'
      obtain ⟨row, hrow, hpending, happ⟩ := runWithDb_some hrun
      obtain ⟨x, hx, hout⟩ := hf.told w k outcome hk (by rw [hphase]; rfl)
      exact .of_set (applyOutcome_txIntent happ)
        (.settled hrow hpending hx hout) hi
  | @writtenOff w now delivery k db hk habsent hexp hs' =>
      subst hs'
      obtain ⟨row, hrow, hpending, rfl⟩ := expire_some hexp
      have hlate : intentExpiryMs < now - k.intent.createdAt := by
        simp only [step, writeOff, bind_ok, expect_ok, ensure_ok,
          exists_const] at hstep
        obtain ⟨k', hk', -, hlate, -⟩ := hstep
        rw [hk] at hk'
        injection hk' with hk'
        rw [hk']
        exact hlate
      exact .of_set (applyFailure_txIntent _ _)
        (.writtenOff hrow hpending rfl hk rfl hlate) hi
  | @erred w k err hk hphase hs' =>
      subst hs'
      obtain ⟨row, hrow, -⟩ := hf.workers w k hk
      exact .of_set (by
        show (s.db.txIntent.adjust _ _) = _
        rw [Store.adjust_some _ hrow]) (.erred hrow rfl hk rfl) hi

/-- What landed stays landed, and a landing is of an envelope handed
out. -/
theorem landed_step (hstep : step net a s = .ok s') {x : Landing χ}
    (hx : s'.landed.get h = some x) :
    s.landed.get h = some x ∨ ∃ env e, a = .land h env
      ∧ s.landed.get h = none ∧ s.envelopes.get h = some e := by
  cases step_did hstep with
  | landed he hnew _ hs' =>
      subst hs'
      rw [Store.get_set] at hx
      split at hx
      next hk =>
        subst hk
        exact .inr ⟨_, _, rfl, hnew, he⟩
      next => exact .inl hx
  | outside _ hs' | started _ hs' | recorded _ _ hs' | lapsed _ hs'
  | moved _ _ hs' | settled _ _ _ _ hs' | writtenOff _ _ _ hs'
  | erred _ _ hs' =>
      subst hs'
      exact .inl hx

/-- A landing is never taken back. -/
theorem landed_keeps (hstep : step net a s = .ok s') {x : Landing χ}
    (hx : s.landed.get h = some x) : s'.landed.get h = some x := by
  cases step_did hstep with
  | landed _ hnew _ hs' =>
      subst hs'
      rw [Store.get_set_ne, hx]
      rintro rfl
      rw [hnew] at hx
      cases hx
  | outside _ hs' | started _ hs' | recorded _ _ hs' | lapsed _ hs'
  | moved _ _ hs' | settled _ _ _ _ hs' | writtenOff _ _ _ hs'
  | erred _ _ hs' =>
      subst hs'
      exact hx

/-- The intent is an execute of the quote `q`. -/
def Execs (q : RowId) (i : TxIntent) : Prop :=
  i.kind = .exitExecute ∧ i.refId = q

instance (q : RowId) (i : TxIntent) : Decidable (Execs q i) :=
  inferInstanceAs (Decidable (_ ∧ _))

/-- Which quote an intent executes is settled by what never changes of
it. -/
theorem Execs.alike {q : RowId} {i j : TxIntent} (h : Execs q i)
    (halike : Alike i j) : Execs q j :=
  ⟨by rw [← halike.kind, h.1], by rw [← halike.refId, h.2]⟩

/-- The fills of a quote. -/
def fillsOf (db : Db) (q : RowId) : List ExitFillRow :=
  db.exitFill.filter (·.quoteId = q)

/-- A quote keeps its terms, and once it is not open it never is again. -/
theorem quote_step (hstep : step net a s = .ok s') {q : RowId}
    {r' : ExitQuoteRow} (hr : s'.db.exitQuote.get q = some r') :
    ∃ r, s.db.exitQuote.get q = some r ∧ r'.units = r.units
      ∧ r'.usdcOut = r.usdcOut
      ∧ (r'.status = .opened → r.status = .opened) := by
  have same : s'.db.exitQuote = s.db.exitQuote →
      ∃ r, s.db.exitQuote.get q = some r ∧ r'.units = r.units
        ∧ r'.usdcOut = r.usdcOut
        ∧ (r'.status = .opened → r.status = .opened) := by
    intro heq
    rw [heq] at hr
    exact ⟨r', hr, rfl, rfl, id⟩
  cases step_did hstep with
  | outside _ hs' => subst hs'; exact same rfl
  | started _ hs' => subst hs'; exact same rfl
  | recorded hd hdb hs' =>
      subst hs'
      obtain ⟨db₁, hwrite, -, rfl⟩ := record_ok hdb
      exact same (writeRow_exit hwrite).1
  | @lapsed quote now db hdb hs' =>
      subst hs'
      simp only [lapseQuote, bind_ok, expect_ok, ensure_ok, pure_ok,
        exists_const] at hdb
      obtain ⟨r, hquote, hopen, -, rfl⟩ := hdb
      simp only [Store.get_set] at hr
      split at hr
      next hq =>
        injection hr with hr
        subst hr hq
        exact ⟨r, hquote, rfl, rfl, fun _ => hopen⟩
      next => exact ⟨r', hr, rfl, rfl, id⟩
  | landed _ _ _ hs' => subst hs'; exact same rfl
  | moved _ _ hs' => subst hs'; exact same rfl
  | @settled w now delivery k outcome read db p hk hphase hrun hp hs' =>
      subst hs'
      obtain ⟨row, hrow, -, happ⟩ := runWithDb_some hrun
      rcases applyOutcome_exit happ with ⟨hquotes, -⟩ | ⟨-, -, hquotes, -⟩
      · exact same hquotes
      · have hr' : db.exitQuote.get q = some r' := hr
        rw [hquotes, Store.get_adjust] at hr'
        split at hr'
        next hq =>
          obtain ⟨r, hget, rfl⟩ := Option.map_eq_some_iff.mp hr'
          exact ⟨r, by rw [hq]; exact hget, rfl, rfl, fun h => by cases h⟩
        next => exact ⟨r', hr', rfl, rfl, id⟩
  | @writtenOff w now delivery k db hk habsent hexp hs' =>
      subst hs'
      obtain ⟨row, hrow, -, rfl⟩ := expire_some hexp
      exact same (applyFailure_exit _ _).1
  | @erred w k err hk hphase hs' => subst hs'; exact same rfl

/-- An execute that comes to be settled leaves its quote no longer
open. -/
theorem settle_closes (hf : Filed net db₀ Good s)
    (hstep : step net a s = .ok s') {q : RowId} {i' : TxIntent}
    (hi : s.db.txIntent.get h = some i) (hpending : i.status = .pending)
    (hexecs : Execs q i) (hi' : s'.db.txIntent.get h = some i')
    (hsettled : i'.status = .settled) :
    ∀ r, s'.db.exitQuote.get q = some r → r.status ≠ .opened := by
  -- the intent was pending, so a step that leaves intents alone settles
  -- nothing
  have same : s'.db.txIntent = s.db.txIntent →
      ∀ r, s'.db.exitQuote.get q = some r → r.status ≠ .opened := by
    intro heq
    rw [heq, hi] at hi'
    injection hi' with hi'
    rw [← hi', hpending] at hsettled
    cases hsettled
  cases step_did hstep with
  | outside _ hs' => subst hs'; exact same rfl
  | started _ hs' => subst hs'; exact same rfl
  | @recorded id k row now d db hd hdb hs' =>
      subst hs'
      obtain ⟨db₁, -, hnew, rfl⟩ := record_ok hdb
      simp only [Store.get_set] at hi'
      split at hi'
      · injection hi' with hi'
        rw [← hi'] at hsettled
        cases hsettled
      · rw [hi] at hi'
        injection hi' with hi'
        rw [← hi', hpending] at hsettled
        cases hsettled
  | lapsed hdb hs' =>
      subst hs'
      obtain ⟨quotes, rfl⟩ := lapseQuote_ok hdb
      exact same rfl
  | landed _ _ _ hs' => subst hs'; exact same rfl
  | moved _ _ hs' => subst hs'; exact same rfl
  | @settled w now delivery k outcome read db p hk hphase hrun hp hs' =>
      subst hs'
      obtain ⟨row, hrow, -, happ⟩ := runWithDb_some hrun
      have hget : db.txIntent.get h = some i' := hi'
      rw [applyOutcome_txIntent happ, Store.get_set] at hget
      split at hget
      next hk' =>
        injection hget with hget
        subst hget
        obtain ⟨j, hj, halike⟩ := hf.workers w k hk
        rw [hk', hj] at hi
        injection hi with hi
        subst hi
        -- the same transaction that settles the intent writes the quote
        have hkexecs := hexecs.alike halike
        rcases applyOutcome_exit happ with ⟨-, -, hfailed⟩
          | ⟨-, -, hquotes, -⟩
        · rw [settledRow, hfailed hkexecs.1] at hsettled
          cases hsettled
        · intro r hr
          have hr' : db.exitQuote.get q = some r := hr
          rw [hquotes, hkexecs.2, Store.get_adjust, if_pos rfl] at hr'
          obtain ⟨r₀, -, rfl⟩ := Option.map_eq_some_iff.mp hr'
          nofun
      next =>
        rw [hi] at hget
        injection hget with hget
        rw [← hget, hpending] at hsettled
        cases hsettled
  | @writtenOff w now delivery k db hk habsent hexp hs' =>
      subst hs'
      obtain ⟨row, hrow, -, rfl⟩ := expire_some hexp
      have hget : (applyFailure _ k.intent).txIntent.get h = some i' := hi'
      rw [applyFailure_txIntent, Store.get_set] at hget
      split at hget
      · injection hget with hget
        rw [← hget] at hsettled
        cases hsettled
      · rw [hi] at hget
        injection hget with hget
        rw [← hget, hpending] at hsettled
        cases hsettled
  | @erred w k err hk hphase hs' =>
      subst hs'
      have hget : (s.db.txIntent.adjust _ _).get h = some i' := hi'
      rw [Store.get_adjust] at hget
      split at hget
      · obtain ⟨j, -, rfl⟩ := Option.map_eq_some_iff.mp hget
        cases hsettled
      · rw [hi] at hget
        injection hget with hget
        rw [← hget, hpending] at hsettled
        cases hsettled

/-- A fill of the quote is written by the settlement of one of its
executes, and by nothing else. -/
theorem fills_step (hf : Filed net db₀ Good s)
    (hstep : step net a s = .ok s') (q : RowId) :
    fillsOf s'.db q = fillsOf s.db q
      ∨ ∃ h i i', s.db.txIntent.get h = some i ∧ i.status = .pending
        ∧ Execs q i ∧ s'.db.txIntent.get h = some i'
        ∧ i'.status = .settled ∧ i'.kind = i.kind ∧ i'.refId = i.refId
        ∧ fillsOf s'.db q = fillsOf s.db q ++ [⟨q, h⟩] := by
  -- only a settlement of an exit that went through writes a fill
  have same : s'.db.exitFill = s.db.exitFill →
      fillsOf s'.db q = fillsOf s.db q := by
    intro heq
    rw [fillsOf, heq, fillsOf]
  cases step_did hstep with
  | outside _ hs' => subst hs'; exact .inl rfl
  | started _ hs' => subst hs'; exact .inl rfl
  | recorded hd hdb hs' =>
      subst hs'
      obtain ⟨db₁, hwrite, -, rfl⟩ := record_ok hdb
      exact .inl (same (writeRow_exit hwrite).2)
  | lapsed hdb hs' =>
      subst hs'
      obtain ⟨quotes, rfl⟩ := lapseQuote_ok hdb
      exact .inl rfl
  | landed _ _ _ hs' => subst hs'; exact .inl rfl
  | moved _ _ hs' => subst hs'; exact .inl rfl
  | @settled w now delivery k outcome read db p hk hphase hrun hp hs' =>
      subst hs'
      obtain ⟨row, hrow, hpending, happ⟩ := runWithDb_some hrun
      rcases applyOutcome_exit happ with ⟨-, hfills, -⟩
        | ⟨hkind, hnext, -, hfills⟩
      · exact .inl (same hfills)
      · by_cases hq : k.intent.refId = q
        · obtain ⟨j, hj, halike⟩ := hf.workers w k hk
          rw [hrow] at hj
          injection hj with hj
          subst hj
          refine .inr ⟨k.intent.txHash, row, settledRow row outcome now,
            hrow, hpending, ⟨?_, ?_⟩, ?_, ?_, rfl, rfl, ?_⟩
          · rw [halike.kind, hkind]
          · rw [halike.refId, hq]
          · show db.txIntent.get _ = _
            rw [applyOutcome_txIntent happ]
            exact Store.get_set_self _ _ _
          · exact hnext
          · show fillsOf db q = _
            rw [fillsOf, hfills, List.filter_append, fillsOf]
            simp [hq]
        · refine .inl ?_
          show fillsOf db q = _
          rw [fillsOf, hfills, List.filter_append, fillsOf]
          simp [hq]
  | @writtenOff w now delivery k db hk habsent hexp hs' =>
      subst hs'
      obtain ⟨row, hrow, -, rfl⟩ := expire_some hexp
      exact .inl (same (applyFailure_exit _ _).2)
  | @erred w k err hk hphase hs' => subst hs'; exact .inl rfl

/-- A caller holds the row it read, or the one it held. -/
theorem worker_step (hstep : step net a s = .ok s') {w : Nat} {k' : Worker}
    (hk' : s'.workers.get w = some k') :
    (∃ k, s.workers.get w = some k ∧ k.intent = k'.intent)
      ∨ ∃ h, s.db.txIntent.get h = some k'.intent := by
  have set : ∀ {w₀ : Nat} {k : Worker} {p : Phase},
      s.workers.get w₀ = some k →
      (s.workers.set w₀ ⟨k.intent, p⟩).get w = some k' →
      (∃ k, s.workers.get w = some k ∧ k.intent = k'.intent)
        ∨ ∃ h, s.db.txIntent.get h = some k'.intent := by
    intro w₀ k p hk hget
    rw [Store.get_set] at hget
    split at hget
    next hw =>
      injection hget with hget
      exact .inl ⟨k, by rw [hw]; exact hk, by rw [← hget]⟩
    next => exact .inl ⟨k', hget, rfl⟩
  cases step_did hstep with
  | moved _ hm hs' =>
      subst hs'
      cases hm with
      | picked hrow =>
          simp only [moveTo, Store.get_set] at hk'
          split at hk'
          · injection hk' with hk'
            exact .inr ⟨_, by rw [← hk']; exact hrow⟩
          · exact .inl ⟨k', hk', rfl⟩
      | rests hk | absent hk | answered hk | read hk | beaten hk
      | erring hk => exact set hk hk'
  | settled hk _ _ _ hs' => subst hs'; exact set hk hk'
  | writtenOff hk _ _ hs' => subst hs'; exact set hk hk'
  | erred hk _ hs' => subst hs'; exact set hk hk'
  | outside _ hs' | started _ hs' | recorded _ _ hs' | lapsed _ hs'
  | landed _ _ _ hs' =>
      subst hs'
      exact .inl ⟨k', hk', rfl⟩

end

-- ============================================================== the terms

/-- An execute's envelope asks for no less than the floor of the quote the
run began with. -/
def AtFloor (db₀ : Db) (e : Envelope) (kind : IntentKind) (ref : RowId)
    (_ : Option Int) : Prop :=
  kind = .exitExecute → ∀ q₀, db₀.exitQuote.get ref = some q₀ →
    ∃ holder asset least payTo,
      e = .exitDesk (.exit holder asset q₀.units least payTo)
        ∧ q₀.usdcOut * 9900 / 10000 ≤ least

/-- The same of what a request is about to record. -/
def DraftAtFloor (db₀ : Db) (d : Draft) : Prop :=
  ∀ row, AtFloor db₀ d.envelope d.kind (d.refId.getD row) d.amount

/-- A quote has the terms it had when the run began. -/
def Termed (db₀ : Db) (ref : RowId) (q : ExitQuoteRow) : Prop :=
  ∀ q₀, db₀.exitQuote.get ref = some q₀ →
    q.units = q₀.units ∧ q.usdcOut = q₀.usdcOut

variable {χ τ : Type} {net : Network χ τ} {db₀ : Db}

/-- An execute asks for no less than the quote's floor: the party's own
minimum is taken only where it is higher. -/
theorem draftExit_atFloor {db : Db} {party : PartyId} {quote : RowId}
    {q : ExitQuoteRow} {minUsdcOut : Option Int} {recipient : Address}
    {d : Draft} (hq : Termed db₀ quote q)
    (hd : draftExit db party quote q minUsdcOut recipient = .ok d) :
    DraftAtFloor db₀ d := by
  simp only [draftExit, bind_ok, ensure_ok, exists_const, pure_ok] at hd
  obtain ⟨-, hfloor, contract, -, account, -, rfl⟩ := hd
  intro row _ q₀ hq₀
  obtain ⟨hunits, hout⟩ := hq q₀ hq₀
  refine ⟨account, contract, _, recipient, by rw [hunits], ?_⟩
  -- the quotient is rounded toward zero, which is no lower than down
  have hround : q.usdcOut * 9900 / 10000
      ≤ (q.usdcOut * exitMinOutFloorBps).tdiv 10000 := by
    unfold exitMinOutFloorBps
    rw [Int.tdiv_eq_ediv]
    split <;> simp
  rw [← hout]
  exact le_trans hround hfloor

/-- Drafts of other kinds promise nothing. -/
theorem draftAtFloor_of_kind {d : Draft} (h : d.kind ≠ .exitExecute) :
    DraftAtFloor db₀ d :=
  fun _ hkind => absurd hkind h

/-- Exits are the only requests that name a minimum, and theirs is at the
floor. -/
theorem route_atFloor {db : Db} {req : Request} {d : Draft}
    (hterms : ∀ ref q, db.exitQuote.get ref = some q → Termed db₀ ref q)
    (hd : route db req = .ok d) : DraftAtFloor db₀ d := by
  cases req with
  | executeExit party quote minUsdcOut recipient now =>
      rw [route, routeExecuteExit_eq] at hd
      obtain ⟨q, hread, hd⟩ := bind_ok.mp hd
      simp only [readQuote, bind_ok, expect_ok, ensure_ok, exists_const,
        pure_ok] at hread
      obtain ⟨-, q', hq', -, -, -, rfl⟩ := hread
      exact draftExit_atFloor (hterms quote q' hq') hd
  | openLine | fund | withdrawUndrawn | withdrawInterest | closeLiquidation
  | pledge | release | draw | repay | propose | accept | unwind | topUp =>
      apply draftAtFloor_of_kind
      simp [route_kind hd, Request.kind]

-- ========================================================== the condition

/-- The transaction under `h` succeeded. -/
def Succeeded (s : System χ) (h : TxHash) : Prop :=
  ∃ x ∈ s.landed.get h, x.outcome.next = .settled

instance (s : System χ) (h : TxHash) : Decidable (Succeeded s h) :=
  inferInstanceAs (Decidable (∃ x ∈ s.landed.get h, _))

/-- The executes of the quote `q` do not overlap: when one is recorded
the quote is still open and no other is pending. An error is written on
one of its intents only while that is pending, and a sweep writes none
off whose transaction succeeded. -/
def Exclusive (q : RowId) (a : ExitAct τ) (s : Exits χ) : Prop :=
  match a with
  | .base (.commitDraft id _ row _) => ∀ d ∈ s.system.drafts.get id,
      d.kind = .exitExecute → d.refId.getD row = q →
        exitInFlight s.system.db q = false
          ∧ ∃ r ∈ s.system.db.exitQuote.get q, r.status = .opened
  | .base (.recordError w false) => ∀ k ∈ s.system.workers.get w,
      Execs q k.intent →
        ∀ i ∈ s.system.db.txIntent.get k.intent.txHash, i.status = .pending
  | .base (.writeOff w _ _) => ∀ k ∈ s.system.workers.get w,
      Execs q k.intent → ¬ Succeeded s.system k.intent.txHash
  | _ => True

instance (q : RowId) (a : ExitAct τ) (s : Exits χ) :
    Decidable (Exclusive q a s) := by
  unfold Exclusive
  split <;> infer_instance

-- ========================================================== the invariant

/-- The intent may have succeeded or may still. -/
def TxIntent.live (i : TxIntent) : Bool :=
  i.status = .pending ∨ i.status = .settled

/-- The terms of the quotes and of what goes out for them. -/
structure Terms (net : Network χ τ) (db₀ : Db) (s : Exits χ) : Prop where
  filed : Filed net db₀ (AtFloor db₀) s.system
  quotes : ∀ ref q, s.system.db.exitQuote.get ref = some q →
    Termed db₀ ref q
  drafts : ∀ id d, s.system.drafts.get id = some d → DraftAtFloor db₀ d
  quoted : ∀ id r q, s.requests.get id = some r → r.stage = .quoted q →
    Termed db₀ r.quote q
  cleared : ∀ id r d, s.requests.get id = some r → r.stage = .cleared d →
    DraftAtFloor db₀ d

/-- The executes of the quote `q`. -/
structure Fills (q : RowId) (s : Exits χ) : Prop where
  succeeded : ∀ h i, s.system.db.txIntent.get h = some i → Execs q i →
    Succeeded s.system h → i.live = true
  settled : ∀ h i, s.system.db.txIntent.get h = some i → Execs q i →
    i.status = .settled →
    ∀ r, s.system.db.exitQuote.get q = some r → r.status ≠ .opened
  /-- the time bound of a transaction written off has passed -/
  expired : ∀ h i, s.system.db.txIntent.get h = some i →
    i.status = .expired → Execs q i →
    i.createdAt + unsignedTxTimeoutS * 1000 < s.clock
  one : ∀ h h' i i', s.system.db.txIntent.get h = some i →
    s.system.db.txIntent.get h' = some i' → Execs q i → Execs q i' →
    i.live = true → i'.live = true → h = h'
  fills : fillsOf s.system.db q = [] ∨ ((fillsOf s.system.db q).length = 1
    ∧ ∃ h i, s.system.db.txIntent.get h = some i ∧ Execs q i
      ∧ i.status = .settled)
  workers : ∀ w k, s.system.workers.get w = some k →
    ∃ i, s.system.db.txIntent.get k.intent.txHash = some i
      ∧ i.createdAt = k.intent.createdAt

-- ============================================================ base steps

section

variable {q : RowId} {s : Exits χ} {s' : System χ} {a : Act τ}
  {h : TxHash} {i i' : TxIntent}

/-- A row stays on file, and keeps when it was made. -/
theorem row_keeps (ht : Terms net db₀ s)
    (hstep : step net a s.system = .ok s')
    (hi : s.system.db.txIntent.get h = some i) :
    ∃ i', s'.db.txIntent.get h = some i'
      ∧ RowStep s.system a h i' ∧ i'.createdAt = i.createdAt := by
  have hsome : (statusOf s.system h).isSome := by simp [statusOf, hi]
  have hsome' : (statusOf s' h).isSome := by
    cases statusStep (step_did hstep) h with
    | same hsame => rw [hsame]; exact hsome
    | recorded hnone => rw [hnone] at hsome; cases hsome
    | claimed _ _ hafter => rw [hafter]; rfl
    | reopened _ _ hafter => rw [hafter]; rfl
  rw [statusOf, Option.isSome_map, Option.isSome_iff_exists] at hsome'
  obtain ⟨i', hi'⟩ := hsome'
  have hrow := row_step ht.filed hstep hi'
  refine ⟨i', hi', hrow, ?_⟩
  cases hrow with
  | same h₀ => rw [h₀] at hi; injection hi with hi; rw [hi]
  | recorded _ _ hnone => rw [hnone] at hi; cases hi
  | settled h₀ => rw [h₀] at hi; injection hi with hi; rw [← hi]; rfl
  | writtenOff h₀ => rw [h₀] at hi; injection hi with hi; rw [← hi]
  | erred h₀ => rw [h₀] at hi; injection hi with hi; rw [← hi]

/-- The caller that writes to an execute's row holds an execute. -/
theorem Terms.holds (ht : Terms net db₀ s) {w : Nat} {k : Worker}
    (hk : s.system.workers.get w = some k) (hhash : k.intent.txHash = h)
    (hi : s.system.db.txIntent.get h = some i) (hexecs : Execs q i) :
    Execs q k.intent := by
  obtain ⟨j, hj, halike⟩ := ht.filed.workers w k hk
  rw [hhash, hi] at hj
  injection hj with hj
  rw [← hj] at halike
  exact hexecs.alike halike

/-- A live execute was live before the step, or has just been recorded. -/
theorem live_before (ht : Terms net db₀ s)
    (hexcl : Exclusive q (.base a) s) (hrow : RowStep s.system a h i')
    (hexecs : Execs q i') (hlive : i'.live = true) :
    (∃ i, s.system.db.txIntent.get h = some i ∧ Execs q i
        ∧ i.live = true)
      ∨ ∃ id row now d, a = .commitDraft id h row now
        ∧ s.system.drafts.get id = some d ∧ i' = d.asIntent h row now := by
  cases hrow with
  | same hi => exact .inl ⟨i', hi, hexecs, hlive⟩
  | recorded ha hd _ => exact .inr ⟨_, _, _, _, ha, hd, rfl⟩
  | @settled i _ _ _ hi hpending =>
      exact .inl ⟨i, hi, hexecs, by simp [TxIntent.live, hpending]⟩
  | writtenOff => cases hlive
  | @erred i w k err hi ha hk hhash =>
      have hexecs' : Execs q i := hexecs
      have hpending : i.status = .pending := by
        rw [ha] at hexcl
        exact hexcl k hk (ht.holds hk hhash hi hexecs') i
          (by rw [hhash]; exact hi)
      exact .inl ⟨i, hi, hexecs', by simp [TxIntent.live, hpending]⟩

/-- A settled execute stays so. -/
theorem settled_keeps (ht : Terms net db₀ s)
    (hexcl : Exclusive q (.base a) s)
    (hstep : step net a s.system = .ok s')
    (hi : s.system.db.txIntent.get h = some i) (hexecs : Execs q i)
    (hsettled : i.status = .settled) :
    s'.db.txIntent.get h = some i := by
  obtain ⟨i', hi', hrow, -⟩ := row_keeps ht hstep hi
  cases hrow with
  | same h₀ => rw [h₀] at hi; injection hi with hi; rw [← hi]; exact hi'
  | recorded _ _ hnone => rw [hnone] at hi; cases hi
  | settled h₀ hpending =>
      rw [h₀] at hi
      injection hi with hi
      rw [← hi, hpending] at hsettled
      cases hsettled
  | writtenOff h₀ hpending =>
      rw [h₀] at hi
      injection hi with hi
      rw [← hi, hpending] at hsettled
      cases hsettled
  | @erred i₀ w k err h₀ ha hk hhash =>
      rw [h₀] at hi
      injection hi with hi
      rw [ha] at hexcl
      have hpending := hexcl k hk (ht.holds hk hhash h₀ (hi ▸ hexecs)) i₀
        (by rw [hhash]; exact h₀)
      rw [hi, hsettled] at hpending
      cases hpending

/-- A transaction of the quote that succeeded has a row that is pending or
settled: neither a failure nor a sweep is recorded over it. -/
theorem Fills.base_succeeded (ht : Terms net db₀ s) (hf : Fills q s)
    (hexcl : Exclusive q (.base a) s)
    (htime : OnTime s.clock s.system.db a)
    (hstep : step net a s.system = .ok s')
    (hi' : s'.db.txIntent.get h = some i') (hexecs : Execs q i')
    (hsucc : Succeeded s' h) : i'.live = true := by
  obtain ⟨x, hx, hnext⟩ := hsucc
  cases row_step ht.filed hstep hi' with
  | same hi =>
      rcases landed_step hstep hx with hx | ⟨env, e, rfl, hnew, he⟩
      · exact hf.succeeded h i' hi hexecs ⟨x, hx, hnext⟩
      · cases hst : i'.status with
        | pending => simp [TxIntent.live, hst]
        | settled => simp [TxIntent.live, hst]
        | failed =>
            have hdone := ht.filed.done h e i' he hi (.inr hst)
            rw [hnew] at hdone
            cases hdone
        | expired =>
            have hpast := hf.expired h i' hi hst hexecs
            have hbound : s.clock
                ≤ i'.createdAt + unsignedTxTimeoutS * 1000 := htime i' hi
            omega
  | recorded => rfl
  | settled hi hpending hx₀ hout =>
      have hsame := landed_keeps hstep hx₀
      rw [hx] at hsame
      injection hsame with hsame
      subst hsame
      subst hout
      simp [TxIntent.live, settledRow, hnext]
  | @writtenOff i w now delivery k hi hpending ha hk hhash _ =>
      rcases landed_step hstep hx with hx | ⟨env, e, hland, -⟩
      · rw [ha] at hexcl
        refine absurd ?_ (hexcl k hk (ht.holds hk hhash hi hexecs))
        rw [hhash]
        exact ⟨x, hx, hnext⟩
      · rw [ha] at hland
        cases hland
  | erred => rfl

/-- Once an intent of the quote has settled, the quote is not open. -/
theorem Fills.base_settled (ht : Terms net db₀ s) (hf : Fills q s)
    (hstep : step net a s.system = .ok s')
    (hi' : s'.db.txIntent.get h = some i') (hexecs : Execs q i')
    (hsettled : i'.status = .settled) :
    ∀ r, s'.db.exitQuote.get q = some r → r.status ≠ .opened := by
  cases row_step ht.filed hstep hi' with
  | same hi =>
      intro r' hr' hopen
      obtain ⟨r, hr, -, -, hbefore⟩ := quote_step hstep hr'
      exact hf.settled h i' hi hexecs hsettled r hr (hbefore hopen)
  | recorded => cases hsettled
  | settled hi hpending =>
      exact settle_closes ht.filed hstep hi hpending hexecs hi' hsettled
  | writtenOff => cases hsettled
  | erred => cases hsettled

/-- What a sweep writes off is past its time bound. -/
theorem past_bound {created now clock : Nat}
    (hlate : intentExpiryMs < now - created) (hnow : now ≤ clock) :
    created + unsignedTxTimeoutS * 1000 < clock := by
  unfold intentExpiryMs at hlate
  generalize unsignedTxTimeoutS = t at *
  omega

/-- What a sweep has written off is past its time bound, so it can never
land again. -/
theorem Fills.base_expired (ht : Terms net db₀ s) (hf : Fills q s)
    (htime : OnTime s.clock s.system.db a)
    (hstep : step net a s.system = .ok s')
    (hi' : s'.db.txIntent.get h = some i') (hst : i'.status = .expired)
    (hexecs : Execs q i') :
    i'.createdAt + unsignedTxTimeoutS * 1000 < s.clock := by
  cases row_step ht.filed hstep hi' with
  | same hi => exact hf.expired h i' hi hst hexecs
  | recorded => cases hst
  | @settled i outcome now x hi hpending hx hout =>
      have hnot : outcome.next ≠ .expired := by
        cases outcome <;> simp [Outcome.next]
      exact absurd hst hnot
  | @writtenOff i w now delivery k hi hpending ha hk hhash hlate =>
      obtain ⟨j, hj, hcreated⟩ := hf.workers w k hk
      rw [hhash, hi] at hj
      have hsame : i = j := Option.some.inj hj
      have hnow : now ≤ s.clock := by
        rw [ha] at htime
        exact htime
      rw [← hcreated, ← hsame] at hlate
      exact past_bound hlate hnow
  | erred => cases hst

/-- Two intents of the quote that are pending or settled are one and the
same. -/
theorem Fills.base_one (ht : Terms net db₀ s) (hf : Fills q s)
    (hexcl : Exclusive q (.base a) s)
    (hstep : step net a s.system = .ok s') {h' : TxHash} {j' : TxIntent}
    (hi' : s'.db.txIntent.get h = some i')
    (hj' : s'.db.txIntent.get h' = some j') (hiexecs : Execs q i')
    (hjexecs : Execs q j') (hilive : i'.live = true)
    (hjlive : j'.live = true) : h = h' := by
  -- nothing is live when an execute is recorded
  have alone : ∀ {id : Nat} {k : TxHash} {row : RowId} {now : Nat}
      {d : Draft} {l : TxHash} {j : TxIntent},
      a = .commitDraft id k row now → s.system.drafts.get id = some d →
      Execs q (d.asIntent k row now) →
      s.system.db.txIntent.get l = some j → Execs q j →
      j.live = true → False := by
    intro id k row now d l j ha hd hdexecs hj hjexecs hjlive
    rw [ha] at hexcl
    obtain ⟨hnone, r, hr, hopen⟩ := hexcl d hd hdexecs.1 hdexecs.2
    have hst : j.status = .pending ∨ j.status = .settled := by
      simpa [TxIntent.live] using hjlive
    rcases hst with hst | hst
    · have hflight : exitInFlight s.system.db q = true := by
        simp only [exitInFlight, decide_eq_true_eq]
        refine ⟨l, ?_, ?_⟩
        · rw [Store.mem_keys, hj]
          rfl
        · simp [hj, hjexecs.1, hjexecs.2, hst]
      rw [hnone] at hflight
      cases hflight
    · exact hf.settled l j hj hjexecs hst r hr hopen
  rcases live_before ht hexcl (row_step ht.filed hstep hi') hiexecs hilive
    with ⟨i, hi, hie, hil⟩ | ⟨id, row, now, d, ha, hd, rfl⟩
  · rcases live_before ht hexcl (row_step ht.filed hstep hj') hjexecs
      hjlive with ⟨j, hj, hje, hjl⟩ | ⟨id, row, now, d, ha, hd, rfl⟩
    · exact hf.one h h' i j hi hj hie hje hil hjl
    · exact (alone ha hd hjexecs hi hie hil).elim
  · rcases live_before ht hexcl (row_step ht.filed hstep hj') hjexecs
      hjlive with ⟨j, hj, hje, hjl⟩ | ⟨id', row', now', d', ha', -, rfl⟩
    · exact (alone ha hd hiexecs hj hje hjl).elim
    · rw [ha] at ha'
      injection ha' with _ hh

/-- There is no fill, or exactly one with its intent settled. -/
theorem Fills.base_fills (ht : Terms net db₀ s) (hf : Fills q s)
    (hexcl : Exclusive q (.base a) s)
    (hstep : step net a s.system = .ok s') :
    fillsOf s'.db q = [] ∨ ((fillsOf s'.db q).length = 1
      ∧ ∃ h i, s'.db.txIntent.get h = some i ∧ Execs q i
        ∧ i.status = .settled) := by
  rcases fills_step ht.filed hstep q with hsame
    | ⟨h, i, i', hi, hpending, hexecs, hi', hsettled, hkind, href, hmore⟩
  · rw [hsame]
    rcases hf.fills with hnone | ⟨hone, h, i, hi, hexecs, hsettled⟩
    · exact .inl hnone
    · exact .inr ⟨hone, h, i,
        settled_keeps ht hexcl hstep hi hexecs hsettled, hexecs, hsettled⟩
  · rcases hf.fills with hnone | ⟨-, h₀, i₀, hi₀, hexecs₀, hsettled₀⟩
    · refine .inr ⟨by rw [hmore, hnone]; rfl, h, i', hi', ?_, hsettled⟩
      exact ⟨hkind.trans hexecs.1, href.trans hexecs.2⟩
    · -- the pending execute and the settled one are the same
      have hh : h = h₀ := hf.one h h₀ i i₀ hi hi₀ hexecs hexecs₀
        (by simp [TxIntent.live, hpending])
        (by simp [TxIntent.live, hsettled₀])
      rw [hh, hi₀] at hi
      injection hi with hi
      rw [hi, hpending] at hsettled₀
      cases hsettled₀

/-- A caller's copy of a row is as old as the row. -/
theorem Fills.base_workers (ht : Terms net db₀ s) (hf : Fills q s)
    (hstep : step net a s.system = .ok s') {w : Nat} {k' : Worker}
    (hk' : s'.workers.get w = some k') :
    ∃ i, s'.db.txIntent.get k'.intent.txHash = some i
      ∧ i.createdAt = k'.intent.createdAt := by
  rcases worker_step hstep hk' with ⟨k, hk, hsame⟩ | ⟨h, hrow⟩
  · obtain ⟨i, hi, hcreated⟩ := hf.workers w k hk
    rw [hsame] at hi hcreated
    obtain ⟨i', hi', -, hkeep⟩ := row_keeps ht hstep hi
    exact ⟨i', hi', hkeep.trans hcreated⟩
  · have hhash := ht.filed.hash h _ hrow
    rw [← hhash] at hrow
    obtain ⟨i', hi', -, hkeep⟩ := row_keeps ht hstep hrow
    exact ⟨i', hi', hkeep⟩

/-- Everything together, over an action of the API or the chain. -/
theorem Fills.base (ht : Terms net db₀ s) (hf : Fills q s)
    (hexcl : Exclusive q (.base a) s)
    (htime : OnTime s.clock s.system.db a)
    (hstep : step net a s.system = .ok s') :
    Fills q { s with system := s' } where
  succeeded := fun _ _ hi hexecs hsucc =>
    hf.base_succeeded ht hexcl htime hstep hi hexecs hsucc
  settled := fun _ _ hi hexecs hst =>
    hf.base_settled ht hstep hi hexecs hst
  expired := by
    intro h i hi hst hexecs
    have hpast := hf.base_expired ht htime hstep hi hst hexecs
    exact hpast
  one := fun _ _ _ _ hi hj hie hje hil hjl =>
    hf.base_one ht hexcl hstep hi hj hie hje hil hjl
  fills := hf.base_fills ht hexcl hstep
  workers := fun _ _ hk => hf.base_workers ht hstep hk

end

-- ========================================================== the requests

variable {q : RowId} {s s' : Exits χ} {x : ExitAct τ}

/-- Where a step takes an execute request. -/
inductive StageStep (s : Exits χ) (r : ExitRequest) : ExitStage → Prop
  | quoted {q : ExitQuoteRow} :
      s.system.db.exitQuote.get r.quote = some q →
      StageStep s r (.quoted q)
  | lapsing {q : ExitQuoteRow} : StageStep s r (.lapsing q)
  | cleared {q : ExitQuoteRow} {d : Draft} : r.stage = .quoted q →
      draftExit s.system.db r.party r.quote q r.minUsdcOut r.recipient
        = .ok d → StageStep s r (.cleared d)
  | over : StageStep s r .over

/-- What a committed step did. -/
inductive ExitDid (net : Network χ τ) (s s' : Exits χ) : ExitAct τ → Prop
  | ticked {now : Nat} : s.clock ≤ now → s' = { s with clock := now } →
      ExitDid net s s' (.tick now)
  | based {a : Act τ} {system : System χ} :
      OnTime s.clock s.system.db a → step net a s.system = .ok system →
      s' = { s with system := system } → ExitDid net s s' (.base a)
  | begun {y : ExitAct τ} {id : Nat} {r : ExitRequest} :
      (∀ a, y ≠ .base a) → r.stage = .begun →
      s' = { s with requests := s.requests.set id r } → ExitDid net s s' y
  | moved {y : ExitAct τ} {id : Nat} {r : ExitRequest} {stage : ExitStage} :
      (∀ a, y ≠ .base a) → s.requests.get id = some r →
      StageStep s r stage → s' = s.moveTo id r stage → ExitDid net s s' y
  | lapsed {id : Nat} {r : ExitRequest} : s.requests.get id = some r →
      s' = Exits.moveTo { s with system := { s.system with
          db := { s.system.db with
            exitQuote := s.system.db.exitQuote.adjust r.quote fun q =>
              { q with status := .expired } } } } id r .over →
      ExitDid net s s' (.lapse id)
  | built {id draft : Nat} {env : Env} {r : ExitRequest} {d : Draft} :
      s.requests.get id = some r → r.stage = .cleared d →
      s' = Exits.moveTo { s with system := { s.system with
          drafts := s.system.drafts.set draft d } } id r .over →
      ExitDid net s s' (.build id draft env)

/-- The route reads the quote and the intents that are pending on it. -/
theorem selectQuote_did {id : Nat} (h : selectQuote id s = .ok s') :
    ExitDid net s s' (.selectQuote id : ExitAct τ) := by
  simp only [selectQuote, bind_ok, expect_ok] at h
  obtain ⟨r, hr, h⟩ := h
  split at h
  · split at h
    next q hread =>
      cases h
      simp only [readQuote, bind_ok, expect_ok, ensure_ok, exists_const,
        pure_ok] at hread
      obtain ⟨-, q', hq', -, -, -, rfl⟩ := hread
      exact .moved (by simp) hr (.quoted hq') rfl
    · split at h
      · split at h
        · cases h
          exact .moved (by simp) hr .lapsing rfl
        · cases h
          exact .moved (by simp) hr .over rfl
      · cases h
        exact .moved (by simp) hr .over rfl
  · cases h

/-- Every step of an execute, by what it read and wrote. -/
theorem exitStep_did (h : exitStep net x s = .ok s') :
    ExitDid net s s' x := by
  cases x with
  | tick now =>
      simp only [exitStep, bind_ok, ensure_ok, exists_const, pure_ok] at h
      obtain ⟨hle, rfl⟩ := h
      exact .ticked hle rfl
  | base a =>
      simp only [exitStep, bind_ok, ensure_ok, exists_const, pure_ok] at h
      obtain ⟨htime, system, hstep, rfl⟩ := h
      exact .based htime hstep rfl
  | begin id party quote minUsdcOut recipient =>
      simp only [exitStep, bind_ok, ensure_ok, exists_const, pure_ok] at h
      obtain ⟨-, rfl⟩ := h
      exact .begun (by simp) rfl rfl
  | selectQuote id => exact selectQuote_did h
  | lapse id =>
      simp only [exitStep, lapse, bind_ok, expect_ok] at h
      obtain ⟨r, hr, h⟩ := h
      split at h
      · cases h
        exact .lapsed hr rfl
      · cases h
  | selectInFlight id =>
      simp only [exitStep, selectInFlight, bind_ok, expect_ok] at h
      obtain ⟨r, hr, h⟩ := h
      split at h
      next q hstage =>
        split at h
        next d hd =>
          cases h
          exact .moved (by simp) hr (.cleared hstage hd) rfl
        · cases h
          exact .moved (by simp) hr .over rfl
      · cases h
  | build id draft env =>
      simp only [exitStep, build, bind_ok, expect_ok] at h
      obtain ⟨r, hr, h⟩ := h
      split at h
      next d hstage =>
        simp only [bind_ok, pure_ok] at h
        obtain ⟨-, -, rfl⟩ := h
        exact .built hr hstage rfl
      · cases h

/-- The requests after one of them has moved. -/
theorem stage_after {id j : Nat} {r r' : ExitRequest} {stage : ExitStage}
    (h : (s.requests.set id { r with stage := stage }).get j = some r') :
    s.requests.get j = some r' ∨ r'.quote = r.quote ∧ r'.stage = stage := by
  rw [Store.get_set] at h
  split at h
  · injection h with h
    exact .inr ⟨by rw [← h], by rw [← h]⟩
  · exact .inl h

/-- What goes out for a quote keeps its terms. -/
theorem Terms.step (ht : Terms net db₀ s) (h : ExitDid net s s' x) :
    Terms net db₀ s' := by
  cases h with
  | ticked _ hs' =>
      subst hs'
      exact ⟨ht.filed, ht.quotes, ht.drafts, ht.quoted, ht.cleared⟩
  -- what the rest of the API does: a route that drafts an exit takes the
  -- terms from the row
  | @based a system htime hstep hs' =>
      subst hs'
      refine ⟨?_, ?_, ?_, ht.quoted, ht.cleared⟩
      · refine filed_step ht.filed (step_did hstep) ?_
        intro id h row now d _ hd
        exact ht.drafts id d hd row
      · intro ref r' hr' q₀ hq₀
        obtain ⟨r, hr, hunits, hout, -⟩ := quote_step hstep hr'
        obtain ⟨hunits₀, hout₀⟩ := ht.quotes ref r hr q₀ hq₀
        exact ⟨hunits.trans hunits₀, hout.trans hout₀⟩
      · intro id d hd
        cases step_did hstep with
        | @started id' req env d' hroute hs'' =>
            subst hs''
            simp only [Store.get_set] at hd
            split at hd
            · injection hd with hd
              subst hd
              exact route_atFloor ht.quotes hroute
            · exact ht.drafts id d hd
        | recorded _ _ hs'' =>
            subst hs''
            simp only [Store.get_remove] at hd
            split at hd
            · cases hd
            · exact ht.drafts id d hd
        | outside _ hs'' | lapsed _ hs'' | landed _ _ _ hs''
        | moved _ _ hs'' | settled _ _ _ _ hs'' | writtenOff _ _ _ hs''
        | erred _ _ hs'' =>
            subst hs''
            exact ht.drafts id d hd
  | @begun _ id r _ hbegun hs' =>
      subst hs'
      refine ⟨ht.filed, ht.quotes, ht.drafts, ?_, ?_⟩
      · intro j r' q hr' hstage
        simp only [Store.get_set] at hr'
        split at hr'
        · injection hr' with hr'
          rw [← hr', hbegun] at hstage
          cases hstage
        · exact ht.quoted j r' q hr' hstage
      · intro j r' d hr' hstage
        simp only [Store.get_set] at hr'
        split at hr'
        · injection hr' with hr'
          rw [← hr', hbegun] at hstage
          cases hstage
        · exact ht.cleared j r' d hr' hstage
  -- only reading the quote and clearing it bring new terms
  | @moved _ id r stage _ hr hstep hs' =>
      subst hs'
      refine ⟨ht.filed, ht.quotes, ht.drafts, ?_, ?_⟩
      · intro j r' q' hr' hstage
        rcases stage_after hr' with hold | ⟨hquote, hnew⟩
        · exact ht.quoted j r' q' hold hstage
        · rw [hstage] at hnew
          rw [hquote]
          cases hstep with
          | quoted hq =>
              injection hnew with hnew
              rw [hnew]
              exact ht.quotes _ _ hq
          | _ => cases hnew
      · intro j r' d' hr' hstage
        rcases stage_after hr' with hold | ⟨hquote, hnew⟩
        · exact ht.cleared j r' d' hold hstage
        · rw [hstage] at hnew
          cases hstep with
          | cleared hq hd =>
              injection hnew with hnew
              rw [hnew]
              exact draftExit_atFloor (ht.quoted id r _ hr hq) hd
          | _ => cases hnew
  | @lapsed id r hr hs' =>
      subst hs'
      refine ⟨ht.filed.congr rfl rfl rfl rfl, ?_, ht.drafts, ?_, ?_⟩
      · intro ref r' hr' q₀ hq₀
        simp only [Exits.moveTo, Store.get_adjust] at hr'
        split at hr'
        next href =>
          obtain ⟨r₀, hr₀, rfl⟩ := Option.map_eq_some_iff.mp hr'
          exact ht.quotes _ r₀ (href ▸ hr₀) q₀ hq₀
        next => exact ht.quotes ref r' hr' q₀ hq₀
      · intro j r' q' hr' hstage
        rcases stage_after hr' with hold | ⟨-, hnew⟩
        · exact ht.quoted j r' q' hold hstage
        · rw [hstage] at hnew
          cases hnew
      · intro j r' d' hr' hstage
        rcases stage_after hr' with hold | ⟨-, hnew⟩
        · exact ht.cleared j r' d' hold hstage
        · rw [hstage] at hnew
          cases hnew
  -- the draft that goes out is the one that was cleared
  | @built id draft env r d hr hcleared hs' =>
      subst hs'
      refine ⟨ht.filed.congr rfl rfl rfl rfl, ht.quotes, ?_, ?_, ?_⟩
      · intro j d' hd'
        simp only [Exits.moveTo, Store.get_set] at hd'
        split at hd'
        · injection hd' with hd'
          subst hd'
          exact ht.cleared id r d hr hcleared
        · exact ht.drafts j d' hd'
      · intro j r' q' hr' hstage
        rcases stage_after hr' with hold | ⟨-, hnew⟩
        · exact ht.quoted j r' q' hold hstage
        · rw [hstage] at hnew
          cases hnew
      · intro j r' d' hr' hstage
        rcases stage_after hr' with hold | ⟨-, hnew⟩
        · exact ht.cleared j r' d' hold hstage
        · rw [hstage] at hnew
          cases hnew

/-- A step that leaves intents, landings, fills and callers alone and
opens no quote. -/
theorem Fills.congr (hf : Fills q s)
    (hintents : s'.system.db.txIntent = s.system.db.txIntent)
    (hlanded : s'.system.landed = s.system.landed)
    (hfills : s'.system.db.exitFill = s.system.db.exitFill)
    (hworkers : s'.system.workers = s.system.workers)
    (hclock : s.clock ≤ s'.clock)
    (hquotes : ∀ r', s'.system.db.exitQuote.get q = some r' →
      r'.status = .opened → ∃ r, s.system.db.exitQuote.get q = some r
        ∧ r.status = .opened) : Fills q s' := by
  have hsucc : ∀ h, Succeeded s'.system h → Succeeded s.system h := by
    intro h hsucc
    unfold Succeeded at hsucc ⊢
    rw [hlanded] at hsucc
    exact hsucc
  constructor
  · rw [hintents]
    exact fun h i hi hexecs hs => hf.succeeded h i hi hexecs (hsucc h hs)
  · rw [hintents]
    intro h i hi hexecs hst r' hr' hopen
    obtain ⟨r, hr, hopen'⟩ := hquotes r' hr' hopen
    exact hf.settled h i hi hexecs hst r hr hopen'
  · rw [hintents]
    intro h i hi hst hexecs
    have hpast := hf.expired h i hi hst hexecs
    exact Nat.lt_of_lt_of_le hpast hclock
  · rw [hintents]
    exact hf.one
  · have hsame : fillsOf s'.system.db q = fillsOf s.system.db q := by
      rw [fillsOf, hfills, fillsOf]
    rw [hsame, hintents]
    exact hf.fills
  · rw [hintents, hworkers]
    exact hf.workers

/-- The invariant over the whole system, the requests in flight included. -/
theorem Fills.step (ht : Terms net db₀ s) (hf : Fills q s)
    (hexcl : Exclusive q x s) (h : ExitDid net s s' x) : Fills q s' := by
  cases h with
  | based htime hstep hs' =>
      subst hs'
      exact hf.base ht hexcl htime hstep
  | ticked hle hs' =>
      subst hs'
      exact hf.congr rfl rfl rfl rfl hle fun r hr hopen => ⟨r, hr, hopen⟩
  | begun _ _ hs' | moved _ _ _ hs' | built _ _ hs' =>
      subst hs'
      exact hf.congr rfl rfl rfl rfl (Nat.le_refl _)
        fun r hr hopen => ⟨r, hr, hopen⟩
  | @lapsed id r hr hs' =>
      subst hs'
      refine hf.congr rfl rfl rfl rfl (Nat.le_refl _) ?_
      intro r' hr' hopen
      simp only [Exits.moveTo, Store.get_adjust] at hr'
      split at hr'
      · obtain ⟨r₀, -, rfl⟩ := Option.map_eq_some_iff.mp hr'
        cases hopen
      · exact ⟨r', hr', hopen⟩

-- =============================================================== the runs

/-- No execute of the quote is on file, and no fill. -/
def Untried (db₀ : Db) (q : RowId) : Prop :=
  (∀ h i, db₀.txIntent.get h = some i → ¬ Execs q i) ∧ fillsOf db₀ q = []

/-- At the start every row is as it was filed. -/
theorem terms_init
    (hdb : ∀ h i, db₀.txIntent.get h = some i → i.txHash = h) :
    Terms net db₀ (exitMachine net db₀).init where
  filed := filed_init hdb
  quotes := by
    intro ref q hq q₀ hq₀
    have hsame : db₀.exitQuote.get ref = some q := hq
    rw [hq₀] at hsame
    injection hsame with hsame
    rw [hsame]
    exact ⟨rfl, rfl⟩
  drafts := by
    intro id d hd
    simp [exitMachine, machine] at hd
  quoted := by
    intro id r q hr
    simp [exitMachine] at hr
  cleared := by
    intro id r d hr
    simp [exitMachine] at hr

/-- A quote nobody has tried to execute has no fill and no intent. -/
theorem fills_init (huntried : Untried db₀ q) :
    Fills q (exitMachine net db₀).init where
  succeeded := fun h i hi hexecs => absurd hexecs (huntried.1 h i hi)
  settled := fun h i hi hexecs => absurd hexecs (huntried.1 h i hi)
  expired := fun h i hi _ hexecs => absurd hexecs (huntried.1 h i hi)
  one := fun h _ i _ hi _ hexecs => absurd hexecs (huntried.1 h i hi)
  fills := .inl huntried.2
  workers := by
    intro w k hk
    simp [exitMachine, machine] at hk

/-- The terms of intents and envelopes are kept in every run. -/
theorem terms_run
    (hdb : ∀ h i, db₀.txIntent.get h = some i → i.txHash = h)
    (as : List (ExitAct τ)) :
    Terms net db₀ ((exitMachine net db₀).run (exitMachine net db₀).init
      as) := by
  refine run_induction ?_ (terms_init hdb)
    (allowed_true _ _)
  intro s x s' ht _ happ
  exact ht.step (exitStep_did happ)

/-- At most one fill, over every run without an overlap. -/
theorem fills_run
    (hdb : ∀ h i, db₀.txIntent.get h = some i → i.txHash = h)
    (huntried : Untried db₀ q) {as : List (ExitAct τ)}
    (has : (exitMachine net db₀).Allowed (Exclusive q)
      (exitMachine net db₀).init as) :
    Fills q ((exitMachine net db₀).run (exitMachine net db₀).init as) := by
  have hboth := run_induction (M := exitMachine net db₀)
    (P := fun s => Terms net db₀ s ∧ Fills q s) (by
      intro s x s' hs hexcl happ
      obtain ⟨ht, hf⟩ := hs
      have hdid := exitStep_did happ
      exact ⟨ht.step hdid, hf.step ht hexcl hdid⟩)
    ⟨terms_init hdb, fills_init huntried⟩ has
  exact hboth.2

/-- An envelope built for the quote: about to be recorded, or handed
out. -/
def BuiltFor (s : Exits χ) (q : RowId) (e : Envelope) : Prop :=
  (∃ id d, s.system.drafts.get id = some d ∧ d.kind = .exitExecute
      ∧ d.refId = some q ∧ e = d.envelope)
    ∨ ∃ h i, s.system.envelopes.get h = some e
      ∧ s.system.db.txIntent.get h = some i ∧ Execs q i

/-- A quote whose executes do not overlap is filled at most once, on
chain and on the books; and whatever its executes do, each envelope built
for it asks for at least 99% of what was quoted. -/
theorem exit_filled_once (net : Network χ τ) (db₀ : Db)
    (hdb : ∀ h i, db₀.txIntent.get h = some i → i.txHash = h)
    (q : RowId) (huntried : Untried db₀ q) (as : List (ExitAct τ)) :
    ((exitMachine net db₀).Allowed (Exclusive q)
        (exitMachine net db₀).init as →
      (∀ h h' i i', ((exitMachine net db₀).run (exitMachine net db₀).init
            as).system.db.txIntent.get h = some i →
          ((exitMachine net db₀).run (exitMachine net db₀).init
            as).system.db.txIntent.get h' = some i' →
          Execs q i → Execs q i' →
          Succeeded ((exitMachine net db₀).run (exitMachine net db₀).init
            as).system h →
          Succeeded ((exitMachine net db₀).run (exitMachine net db₀).init
            as).system h' → h = h')
        ∧ (fillsOf ((exitMachine net db₀).run (exitMachine net db₀).init
            as).system.db q).length ≤ 1)
      ∧ ∀ e, BuiltFor ((exitMachine net db₀).run
          (exitMachine net db₀).init as) q e →
        ∀ q₀, db₀.exitQuote.get q = some q₀ →
          ∃ holder asset least payTo,
            e = .exitDesk (.exit holder asset q₀.units least payTo)
              ∧ q₀.usdcOut * 9900 / 10000 ≤ least := by
  have ht : Terms net db₀ ((exitMachine net db₀).run
      (exitMachine net db₀).init as) := terms_run hdb as
  constructor
  · intro has
    have hf := fills_run hdb huntried has
    constructor
    · intro h h' i i' hi hi' hexecs hexecs' hsucc hsucc'
      exact hf.one h h' i i' hi hi' hexecs hexecs'
        (hf.succeeded h i hi hexecs hsucc)
        (hf.succeeded h' i' hi' hexecs' hsucc')
    · rcases hf.fills with hnone | ⟨hone, -⟩
      · rw [hnone]
        exact Nat.zero_le 1
      · exact Nat.le_of_eq hone
  · rintro e (⟨id, d, hd, hkind, href, rfl⟩ | ⟨h, i, he, hi, hexecs⟩) q₀ hq₀
    · have hfloor := ht.drafts id d hd q hkind q₀
      rw [href] at hfloor
      exact hfloor hq₀
    · obtain ⟨j, hj, hgood⟩ := ht.filed.handed h e he
      rw [hi] at hj
      injection hj with hj
      subst hj
      exact hgood hexecs.1 q₀ (by rw [hexecs.2]; exact hq₀)

-- ================================================================== demo

namespace Demo

/-- The exit desk, configured and funded with 500. -/
def deskOpen : Chain :=
  let w := (ExitDesk.machine deployed.desk).run
    (ExitDesk.machine deployed.desk).init (ExitDesk.Demo.tradingDay.take 5)
  { Chain.empty with tokens := w.tokens, desk := w.store }

/-- Quote 4: 100 units of asset 6 for party 5, at 100. -/
def quoteBooks : Db :=
  { Db.empty with
    partyAccount := Store.empty.set 5 ExitDesk.Demo.holder
    asset := Store.empty.set 6 ExitDesk.Demo.asset
    exitQuote := Store.empty.set 4 ⟨5, 6, 100, 100, 60000, .opened⟩ }

/-- Request `id` reads the quote and the intents. -/
def looksUp (id : Nat) : List (ExitAct ChainTx) :=
  [.begin id 5 4 none ExitDesk.Demo.holder, .selectQuote id,
    .selectInFlight id]

/-- Its envelope is built and goes out under `h`. -/
def goesOut (id : Nat) (h : TxHash) : List (ExitAct ChainTx) :=
  [.build id id (env 0 2), .base (.commitDraft id h 0 0)]

/-- The transaction lands, and caller `w` settles it. -/
def filled (w : Nat) (h : TxHash) : List (ExitAct ChainTx) :=
  .base (.land h (env 0 3)) :: (settles w h).map .base

/-- One execute after the other. -/
def inTurn : List (ExitAct ChainTx) :=
  looksUp 0 ++ goesOut 0 50 ++ filled 1 50 ++ looksUp 1 ++ goesOut 1 51

/-- Both look before either is recorded; the second is built once the
first has landed and is settled, so the account's sequence number is free
again. -/
def overlapping : List (ExitAct ChainTx) :=
  looksUp 0 ++ looksUp 1 ++ goesOut 0 50 ++ filled 1 50 ++ goesOut 1 51
    ++ filled 2 51

/-- The desk's network, and the API on it. -/
def exits : Machine (Exits Chain) (ExitAct ChainTx) :=
  exitMachine (network deployed deskOpen) quoteBooks

end Demo

/-- Two executes, one after the other, of a quote of 100 units. -/
theorem exit_filled_once_demo :
    Succeeded (Demo.exits.run Demo.exits.init Demo.inTurn).system 50
      ∧ (fillsOf (Demo.exits.run Demo.exits.init Demo.inTurn).system.db
        4).length ≤ 1
      ∧ ∃ e, (Demo.exits.run Demo.exits.init
          Demo.inTurn).system.envelopes.get 50 = some e
        ∧ ∃ holder asset least payTo,
          e = .exitDesk (.exit holder asset 100 least payTo)
            ∧ (100 : Int) * 9900 / 10000 ≤ least := by
  have hnone : ∀ h : TxHash, Demo.quoteBooks.txIntent.get h = none :=
    fun _ => rfl
  have hkeyed : ∀ h i, Demo.quoteBooks.txIntent.get h = some i →
      i.txHash = h := by
    intro h i hi
    rw [hnone] at hi
    cases hi
  have huntried : Untried Demo.quoteBooks 4 := by
    refine ⟨?_, rfl⟩
    intro h i hi
    rw [hnone] at hi
    cases hi
  have hclaim := exit_filled_once
    (network Demo.deployed Demo.deskOpen) Demo.quoteBooks hkeyed 4 huntried
    Demo.inTurn
  change (Demo.exits.Allowed (Exclusive 4) Demo.exits.init Demo.inTurn →
    _ ∧ (fillsOf (Demo.exits.run Demo.exits.init Demo.inTurn).system.db
      4).length ≤ 1) ∧ _ at hclaim
  obtain ⟨hfills, hfloor⟩ := hclaim
  have hallowed : Demo.exits.Allowed (Exclusive 4) Demo.exits.init
      Demo.inTurn := by decide +kernel
  have hout : ((Demo.exits.run Demo.exits.init
      Demo.inTurn).system.envelopes.get 50).isSome := by decide +kernel
  have hintent : ((Demo.exits.run Demo.exits.init
      Demo.inTurn).system.db.txIntent.get 50).any (Execs 4 ·) := by
    decide +kernel
  obtain ⟨e, he⟩ := Option.isSome_iff_exists.mp hout
  obtain ⟨i, hi, hexecs⟩ := (Option.any_eq_true _ _).mp hintent
  have hfilled : Succeeded (Demo.exits.run Demo.exits.init
      Demo.inTurn).system 50 := by decide +kernel
  have hquote : Demo.quoteBooks.exitQuote.get 4
      = some ⟨5, 6, 100, 100, 60000, .opened⟩ := by decide +kernel
  exact ⟨hfilled, (hfills hallowed).2, e, he,
    hfloor e (.inr ⟨50, i, he, hi, of_decide_eq_true hexecs⟩) _ hquote⟩

/-- Two executes look before either is recorded: both transactions
succeed, and the quote is filled twice. -/
theorem quote_filled_twice :
    ((Demo.exits.run Demo.exits.init
        Demo.overlapping).system.db.txIntent.get 50).any (Execs 4 ·)
      ∧ ((Demo.exits.run Demo.exits.init
        Demo.overlapping).system.db.txIntent.get 51).any (Execs 4 ·)
      ∧ Succeeded (Demo.exits.run Demo.exits.init
        Demo.overlapping).system 50
      ∧ Succeeded (Demo.exits.run Demo.exits.init
        Demo.overlapping).system 51
      ∧ (fillsOf (Demo.exits.run Demo.exits.init
        Demo.overlapping).system.db 4).length = 2 :=
  ⟨by decide +kernel, by decide +kernel, by decide +kernel,
    by decide +kernel, by decide +kernel⟩

end Ballast.Api
