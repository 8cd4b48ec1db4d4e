/-
After a line is recovered: no turn finds it again, and its pledge rows
stay inactive in every run whose settlements are `Quiet` about them.

Of the API only two steps make a pledge row active, the settling
transaction and the write-off; requests insert rows as `pending` and flip
them to `pending_release`. That what is in flight inserts no other row is
`PendingDrafts`, from the start on.

# Turns

A turn of the keeper leaves the chain anywhere its transactions took it
and the books as they were, or marked, and nothing else (`Turned`).
Marking only deactivates rows, so no turn, for this line or for another,
undoes what a recovery did.
-/
import Ballast.Keeper.Proofs.Resume

namespace Ballast.Keeper.CureExpiry

open Soroban
open Api (Chain ChainTx Deployed RowId PartyId TxHash CreditLineRow PledgeRow
  TxIntent Outcome)

variable {d : Deployed} {plan : Plan} {r : RowId} {s s' : System} {a : Act}

-- ============================================================ the condition

/-- The intent a step settles, and how it says its transaction ended. -/
def settling (s : System) : Act → Option (TxIntent × Outcome)
  | .api (.commit w delivery _) =>
      if delivery = .rolledBack then none
      else (s.api.workers.get w).bind fun k =>
        match k.phase with
        | .ready outcome _ => some (k.intent, outcome)
        | _ => none
  | .api (.writeOff w delivery _) =>
      if delivery = .rolledBack then none
      else (s.api.workers.get w).bind fun k =>
        if k.phase = .absent then some (k.intent, .failed 0) else none
  | _ => none

/-- No pending intent about a pledge row of the line is settled as a pledge
that went through, or as a release that did not. -/
def Quiet (r : RowId) (a : Act) (s : System) : Prop :=
  ∀ p ∈ settling s a,
    (s.api.db.txIntent.get p.1.txHash).any (·.status = .pending) = true →
    Api.bookedStatus p.1.kind p.2 = some .active →
    ∀ row ∈ s.api.db.pledge.get p.1.refId, row.creditLineId ≠ r

-- ================================================================ the drafts

/-- A request in flight inserts a pledge row as `pending`. -/
def PendingDrafts (s : System) : Prop :=
  ∀ i dr row, s.api.drafts.get i = some dr → dr.write = .insertPledge row →
    row.status = .pending

/-- A route that inserts a pledge row inserts it as `pending`. -/
theorem drafted_pending {db : Api.Db} {dr : Api.Draft} {row : PledgeRow}
    (hdrafted : Api.Drafted db dr) (hwrite : dr.write = .insertPledge row) :
    row.status = .pending := by
  cases hdrafted <;> cases hwrite
  rfl

-- ================================================================= the turns

/-- The system with another chain. -/
def onChain (s : System) (chain : Chain) : System :=
  { s with api := { s.api with chain := chain } }

/-- What a turn leaves: the chain moved on, and the line booked or not. -/
inductive Turned (plan : Plan) (r : RowId) (s : System) : System → Prop
  | moved (chain : Chain) : Turned plan r s (onChain s chain)
  | booked (chain : Chain) (units : Int) (hashes : List TxHash) :
      Turned plan r s { s with
        api := { s.api with
          chain := chain
          db := book s.api.db r units hashes plan.now } }

/-- A turn may leave everything as it was. -/
theorem Turned.same : Turned plan r s s := .moved s.api.chain

/-- An await, whose failure leaves what there is. -/
theorem Turned.attempt {α : Type} {t : System} {x : Call α}
    {go : α → System} (ht : Turned plan r s t)
    (hgo : ∀ a, x = .ok a → Turned plan r s (go a)) :
    Turned plan r s (attempt t x go) := by
  unfold CureExpiry.attempt
  cases x with
  | ok a => exact hgo a rfl
  | error e => exact ht

/-- A submission moves the chain and nothing else. -/
theorem submit_onChain {env : Env} {e : Api.Envelope}
    (h : submit d env e s = .ok s') : ∃ chain, s' = onChain s chain := by
  simp only [submit, bind_ok, pure_ok] at h
  obtain ⟨chain, -, rfl⟩ := h
  exact ⟨chain, rfl⟩

/-- The last part of a turn books the line, or finds nothing to book. -/
theorem bookTurn_turned {units : Int} {hashes : List TxHash}
    (chain : Chain) :
    Turned plan r s (bookTurn plan r units hashes (onChain s chain)) := by
  unfold bookTurn
  split
  · exact .moved chain
  · exact .booked chain units hashes

/-- So does the part that moves the units, whether the transfer goes
through or not. -/
theorem moveTurn_turned {id : Nat} {asset account : Address} {units : Int}
    {already : Bool} {hashes : List TxHash} (chain : Chain) :
    Turned plan r s (moveTurn d plan r id asset units account already hashes
      (onChain s chain)) := by
  unfold moveTurn
  split
  · refine .attempt (.moved chain) fun s₁ hs₁ => ?_
    obtain ⟨chain', rfl⟩ := submit_onChain hs₁
    split
    · exact .moved chain'
    · exact bookTurn_turned chain'
  · exact bookTurn_turned chain

/-- And the part that liquidates first. -/
theorem seizeTurn_turned {row : CreditLineRow} {id : Nat}
    {l : CreditLine.Line} :
    Turned plan r s (seizeTurn d plan r row id l s) := by
  unfold seizeTurn
  split
  · exact .same
  · dsimp only
    split
    · exact moveTurn_turned s.api.chain
    · split
      · exact .same
      · refine .attempt .same fun s₁ hs₁ => ?_
        obtain ⟨chain, rfl⟩ := submit_onChain hs₁
        split
        · exact .moved chain
        · exact moveTurn_turned chain

/-- Whatever a turn reads and wherever it stops, it leaves the chain moved
and the line booked or not. -/
theorem cureTurn_turned : Turned plan r s (cureTurn d plan r s) := by
  unfold cureTurn
  split
  · exact .same
  · refine .attempt .same fun view _ => .attempt .same fun l _ => ?_
    split
    · exact .same
    · split
      · exact seizeTurn_turned
      · split
        · exact .same
        · split
          · refine .attempt .same fun s₁ hs₁ => ?_
            obtain ⟨chain, rfl⟩ := submit_onChain hs₁
            exact .moved chain
          · split
            · exact .same
            · exact seizeTurn_turned

/-- A turn leaves the requests in flight alone. -/
theorem Turned.drafts {t : System} (h : Turned plan r s t) :
    t.api.drafts = s.api.drafts := by
  cases h <;> rfl

-- ================================================================= the steps

/-- The pledge rows of the line are inactive. -/
def Inactive (r : RowId) (s : System) : Prop :=
  ∀ p row, s.api.db.pledge.get p = some row → isActive r row = false

/-- A booking leaves no row active that was not. -/
theorem Turned.inactive {t : System} {r' : RowId}
    (h : Turned plan r' s t) (hinactive : Inactive r s) : Inactive r t := by
  cases h with
  | moved chain => exact hinactive
  | booked chain units hashes =>
      intro p row hrow
      change (liquidatePledges s.api.db r').get p = some row at hrow
      rw [liquidatePledges, Store.get_map] at hrow
      obtain ⟨old, hold, rfl⟩ := Option.map_eq_some_iff.mp hrow
      split
      · simp [isActive]
      · exact hinactive p old hold

/-- Every step keeps the requests in flight so. -/
theorem pendingDrafts_step (hdrafts : PendingDrafts s)
    (happ : step d a s = .ok s') : PendingDrafts s' := by
  cases a with
  | api a =>
      simp only [step, bind_ok, pure_ok] at happ
      obtain ⟨api, happ, rfl⟩ := happ
      intro i dr row hdr hwrite
      cases Api.step_did happ with
      | @started i' req env dr' hroute hs' =>
          subst hs'
          change (s.api.drafts.set i' dr').get i = some dr at hdr
          rw [Store.get_set] at hdr
          split at hdr
          · cases hdr
            exact drafted_pending (Api.route_drafted hroute) hwrite
          · exact hdrafts i dr row hdr hwrite
      | @recorded i' h row' now dr' db' _ _ hs' =>
          subst hs'
          change (s.api.drafts.remove i').get i = some dr at hdr
          rw [Store.get_remove] at hdr
          split at hdr
          · cases hdr
          · exact hdrafts i dr row hdr hwrite
      | _ =>
          subst_vars
          exact hdrafts i dr row hdr hwrite
  | recompute r env now =>
      simp only [step, recompute, bind_ok, pure_ok] at happ
      obtain ⟨-, -, -, -, monitor, -, rfl⟩ := happ
      exact hdrafts
  | cure plan r =>
      cases pure_ok.mp happ
      intro i dr row hdr hwrite
      rw [cureTurn_turned.drafts] at hdr
      exact hdrafts i dr row hdr hwrite

/-- Every pledge row of the line that is written is written inactive. -/
theorem inactive_set {db : Api.Db} {p : RowId} {new : Option PledgeRow}
    (hinactive : Inactive r s)
    (hget : ∀ q, db.pledge.get q
      = if q = p then new else s.api.db.pledge.get q)
    (hnew : ∀ row, new = some row → isActive r row = false) (q : RowId)
    (row : PledgeRow) (hrow : db.pledge.get q = some row) :
    isActive r row = false := by
  rw [hget] at hrow
  split at hrow
  · exact hnew row hrow
  · exact hinactive q row hrow

/-- A settlement that does not write the line's rows active. -/
theorem inactive_bookPledge {db : Api.Db} {intent : TxIntent}
    {outcome : Outcome} (hinactive : Inactive r s)
    (hdb : db.pledge = Api.bookPledge s.api.db.pledge intent outcome)
    (hquiet : Api.bookedStatus intent.kind outcome = some .active →
      ∀ row ∈ s.api.db.pledge.get intent.refId, row.creditLineId ≠ r)
    (q : RowId) (row : PledgeRow) (hrow : db.pledge.get q = some row) :
    isActive r row = false := by
  rw [hdb, Api.bookPledge] at hrow
  split at hrow
  · next st hst =>
    rw [Store.get_adjust] at hrow
    split at hrow
    · obtain ⟨old, hold, rfl⟩ := Option.map_eq_some_iff.mp hrow
      by_cases hactive : st = .active
      · have hne := hquiet (hactive ▸ hst) old hold
        simp [isActive, hne]
      · simp [isActive, hactive]
    · exact hinactive q row hrow
  · exact hinactive q row hrow

/-- A step of the API that is quiet about the line leaves its pledge rows
inactive. -/
theorem inactive_api {a : Api.Act ChainTx} {api : Api.System Chain}
    (hinactive : Inactive r s) (hdrafts : PendingDrafts s)
    (hquiet : Quiet r (.api a) s)
    (happ : Api.step (Api.network d s.api.chain) a s.api = .ok api) (q : RowId)
    (row : PledgeRow) (hrow : api.db.pledge.get q = some row) :
    isActive r row = false := by
  cases Api.step_did happ with
  | @recorded i h row' now dr db hdr hrecord hs' =>
      subst hs'
      cases Api.record_pledge hrecord with
      | @insert new hwrite _ hpledge =>
          refine inactive_set hinactive
            (fun q => by rw [hpledge, Store.get_set]) ?_ q row hrow
          rintro row ⟨rfl⟩
          simp [isActive, hdrafts i dr new hdr hwrite]
      | @release p _ hpledge =>
          refine inactive_set hinactive
            (fun q => by rw [hpledge, Store.get_adjust]) ?_ q row hrow
          intro row hrow
          obtain ⟨old, -, rfl⟩ := Option.map_eq_some_iff.mp hrow
          simp [isActive]
      | other _ _ hpledge =>
          change db.pledge.get q = some row at hrow
          rw [hpledge] at hrow
          exact hinactive q row hrow
  | lapsed hlapse hs' =>
      subst hs'
      obtain ⟨quotes, rfl⟩ := Api.lapseQuote_ok hlapse
      exact hinactive q row hrow
  | @settled w now delivery k outcome read db p hk hphase hrun _ hs' =>
      by_cases hback : delivery = .rolledBack
      · subst hback
        have hcommit : Api.commit (Api.network d s.api.chain) w .rolledBack
            now s.api = .ok api := happ
        obtain ⟨i, p, rfl⟩ := Api.commit_rolledBack hcommit
        exact hinactive q row hrow
      subst hs'
      obtain ⟨intent, hintent, hpending, happly⟩ := Api.runWithDb_some hrun
      have hpledge := Api.applyOutcome_pledge happly
      refine inactive_bookPledge hinactive hpledge ?_ q row hrow
      refine hquiet (k.intent, outcome) ?_ (by simp [hintent, hpending])
      simp [settling, hback, hk, hphase]
  | @writtenOff w now delivery k db hk hphase hexpire hs' =>
      by_cases hback : delivery = .rolledBack
      · subst hback
        simp only [Api.step, Api.writeOff, bind_ok, expect_ok, ensure_ok,
          pure_ok] at happ
        obtain ⟨k, -, -, -, -, -, rfl⟩ := happ
        exact hinactive q row hrow
      subst hs'
      obtain ⟨intent, hintent, hpending, happly⟩ := Api.expire_outcome hexpire
      have hpledge :=
        Api.applyOutcome_pledge (happly (Api.Chain.contracts s.api.chain))
      refine inactive_bookPledge hinactive hpledge ?_ q row hrow
      refine hquiet (k.intent, .failed 0) ?_ (by simp [hintent, hpending])
      simp [settling, hback, hk, hphase]
  | _ =>
      subst_vars
      exact hinactive q row hrow

/-- So does every step. -/
theorem inactive_step (hinactive : Inactive r s) (hdrafts : PendingDrafts s)
    (hquiet : Quiet r a s) (happ : step d a s = .ok s') : Inactive r s' := by
  cases a with
  | api a =>
      simp only [step, bind_ok, pure_ok] at happ
      obtain ⟨api, happ, rfl⟩ := happ
      exact inactive_api hinactive hdrafts hquiet happ
  | recompute r' env now =>
      simp only [step, recompute, bind_ok, pure_ok] at happ
      obtain ⟨-, -, -, -, monitor, -, rfl⟩ := happ
      exact hinactive
  | cure plan r' =>
      cases pure_ok.mp happ
      exact cureTurn_turned.inactive hinactive

-- ================================================================== the runs

/-- In every run, what is in flight inserts pending rows only. -/
theorem pendingDrafts_run (d : Deployed) (start : Chain) (db : Api.Db)
    (cureWindowS : RowId → Nat) (acts : List Act) :
    PendingDrafts ((machine d start db cureWindowS).run
      (machine d start db cureWindowS).init acts) := by
  refine Machine.run_induction (P := PendingDrafts) ?_ ?_
    (Machine.allowed_true _ acts)
  · intro s a s' hdrafts _ happ
    exact pendingDrafts_step hdrafts happ
  · intro i dr row hdr
    cases hdr

/-- A turn on a recovered line does nothing. -/
theorem cureTurn_recovered {lender : PartyId} {id : Nat} {U : Int}
    (h : Recovered s r lender id U) : cureTurn d plan r s = s := by
  obtain ⟨row, hrow, hliq⟩ := h.status
  refine cureTurn_closed hrow ?_
  rw [hliq]
  exact Api.LineStatus.noConfusion

/-- In whatever state a run has brought the system, with a line that is
liquidating on chain: a fault-free turn on it ends with the line recovered
exactly when the state before is `Recoverable`; no further turn changes
anything then; and no pledge row of the line becomes active in a run that
stays `Quiet`. -/
theorem liquidation_recovers_iff (d : Deployed) (start : Chain)
    (db : Api.Db) (cureWindowS : RowId → Nat) (before : List Act)
    (plan : Plan) (r : RowId) :
    let M := machine d start db cureWindowS
    let s := M.run M.init before
    ∀ row id l record, s.api.db.creditLine.get r = some row →
      row.contractLineId = some id →
      s.api.chain.lending.creditLine.lines.get id = some l →
      l.status = .liquidating →
      s.api.chain.lending.creditLine.liquidation.get id = some record →
      0 < record.seizedUnits → FaultFree d plan s row id l.asset →
      let s' := cureTurn d plan r s
      let U := record.seizedUnits
      (Recovered s' r row.lenderId id U
          ↔ Recoverable s r row id l.asset U)
        ∧ (Recovered s' r row.lenderId id U →
          (∀ plan', cureTurn d plan' r s' = s')
            ∧ ∀ after, M.Allowed (Quiet r) s' after →
              Inactive r (M.run s' after)) := by
  intro M s row id l record hrow hid hline hliq _ _ hfree s' U
  refine ⟨recovered_iff hrow hid hline hliq hfree, ?_⟩
  intro hrecovered
  refine ⟨fun plan' => cureTurn_recovered hrecovered, ?_⟩
  intro after hquiet
  have hdrafts : PendingDrafts s' := by
    intro i dr row hdr hwrite
    rw [show s'.api.drafts = s.api.drafts from cureTurn_turned.drafts] at hdr
    exact pendingDrafts_run d start db cureWindowS before i dr row hdr hwrite
  have hboth : Inactive r (M.run s' after)
      ∧ PendingDrafts (M.run s' after) := by
    refine Machine.run_induction
      (P := fun s => Inactive r s ∧ PendingDrafts s) ?_
      ⟨hrecovered.inactive, hdrafts⟩ hquiet
    rintro s a s' ⟨hinactive, hdrafts⟩ hok happ
    exact ⟨inactive_step hinactive hdrafts hok happ,
      pendingDrafts_step hdrafts happ⟩
  exact hboth.1

-- =========================================================== three histories

namespace Demo

def keeper : Address := ⟨1⟩

/-- The lent line of the lending contracts, its 5000 units on file as row
8 of line 7. -/
def books : Api.Db :=
  { Api.Demo.lineBooks with
    asset := Store.empty.set 0 Wired.Demo.asset
    pledge := Store.empty.set 8 ⟨7, 0, 5000, .active⟩ }

def start : Chain := Api.Demo.lendingAfter Wired.Demo.lent

/-- A turn in ledger `sequence`, at a price. -/
def turn (sequence : Nat) (price : Int) (stop : Option Stop) : Plan :=
  let env := Wired.Demo.env 0 sequence price
  ⟨sequence, keeper, env, env, env, 60, 61, stop, .acknowledged⟩

/-- The price falls, the monitor notes it, one turn arms the breach, and
the next is stopped after `CreditLine.liquidate`. -/
def crashed : List Act :=
  [.recompute 7 (Wired.Demo.env 0 4 2000000) 1,
    .cure (turn 5 2000000 none) 7,
    .cure (turn 6 2000000 (some .liquidated)) 7]

/-- The price comes back before the next turn, and the monitor notes it. -/
def relieved : List Act :=
  crashed ++ [.recompute 7 (Wired.Demo.env 0 7 10000000) 2]

/-- The borrower pledges 100 more before the next turn. -/
def pledged : List Act :=
  crashed ++ [.api (.outside (.lending (.outside
      ((Ledger.empty.credit Wired.Demo.asset Wired.Demo.deployment.vault
        5000).credit Wired.Demo.asset Wired.Demo.borrower 100)))),
    .api (.outside (.lending (.vault (Wired.Demo.env 0 7 2000000)
      (.pledge Wired.Demo.borrower 0 Wired.Demo.asset 100))))]

/-- The system after a history. -/
def after (history : List Act) : System :=
  let M := machine Api.Demo.deployed start books fun _ => 0
  M.run M.init history

/-- And after a turn without a fault. -/
def resumed (history : List Act) : System :=
  cureTurn Api.Demo.deployed (turn 8 2000000 none) 7 (after history)

end Demo

/-- The keeper died between the liquidation and the transfer, and its next
turn on the line has no fault. -/
theorem liquidation_recovers_iff_crashed :
    let M := machine Api.Demo.deployed Demo.start Demo.books fun _ => 0
    let s := Demo.after Demo.crashed
    let s' := Demo.resumed Demo.crashed
    (Recovered s' 7 2 0 5000
        ↔ Recoverable s 7 ⟨2, 3, .opened, some 0, none⟩ 0 Wired.Demo.asset
          5000)
      ∧ (Recovered s' 7 2 0 5000 →
        (∀ plan', cureTurn Api.Demo.deployed plan' 7 s' = s')
          ∧ ∀ after, M.Allowed (Quiet 7) s' after →
            Inactive 7 (M.run s' after)) := by
  intro M s s'
  obtain ⟨l, hline, hl⟩ := (Option.any_eq_true _ _).mp
    (show (s.api.chain.lending.creditLine.lines.get 0).any (fun l =>
      l.status = .liquidating ∧ l.asset = Wired.Demo.asset) = true by
        decide +kernel)
  obtain ⟨record, hrecord, hunits⟩ := (Option.any_eq_true _ _).mp
    (show (s.api.chain.lending.creditLine.liquidation.get 0).any (fun x =>
      x.seizedUnits = 5000) = true by decide +kernel)
  obtain ⟨hliq, hasset⟩ := of_decide_eq_true hl
  replace hunits := of_decide_eq_true hunits
  have hfree : FaultFree Api.Demo.deployed (Demo.turn 8 2000000 none) s
      ⟨2, 3, .opened, some 0, none⟩ 0 Wired.Demo.asset :=
    { stop := rfl
      delivery := by decide
      reads := by decide +kernel
      sends := by
        have hsend : ∀ account ∈ s.api.db.partyAccount.get 2,
            (submit Api.Demo.deployed (Demo.turn 8 2000000 none).vaultEnv
              (.pledgeVault (.liquidate Demo.keeper 0 Wired.Demo.asset
                (held s 0 Wired.Demo.asset) account)) s).isOk = true := by
          decide +kernel
        exact fun account haccount _ => hsend account haccount }
  have h := liquidation_recovers_iff Api.Demo.deployed Demo.start Demo.books
    (fun _ => 0) Demo.crashed (Demo.turn 8 2000000 none) 7
    ⟨2, 3, .opened, some 0, none⟩ 0 l record (by decide +kernel) rfl hline
    hliq hrecord (by rw [hunits]; decide) (by rw [hasset]; exact hfree)
  simp only [hunits, hasset] at h
  exact h

/-- Every step of the history was taken, the line is liquidating with a
record of 5000 units, and the next turn on it has no fault. -/
def Crashed (history : List Act) : Prop :=
  let M := machine Api.Demo.deployed Demo.start Demo.books fun _ => 0
  let s := Demo.after history
  let turn := Demo.turn 8 2000000 none
  (M.trace M.init history).length = history.length
    ∧ (s.api.chain.lending.creditLine.lines.get 0).any (fun l =>
      l.status = .liquidating) = true
    ∧ (s.api.chain.lending.creditLine.liquidation.get 0).any (fun x =>
      x.seizedUnits = 5000) = true
    ∧ (readLtv Api.Demo.deployed turn.readEnv 0 s).isOk = true
    ∧ (submit Api.Demo.deployed turn.vaultEnv (.pledgeVault (.liquidate
      Demo.keeper 0 Wired.Demo.asset (held s 0 Wired.Demo.asset)
      Wired.Demo.lender)) s).isOk = true

instance (history : List Act) : Decidable (Crashed history) :=
  inferInstanceAs (Decidable (_ ∧ _))

/-- In the first the turn does not find the line, and it stays open in the
books; in the second it sends the lender 5100 units. -/
theorem crash_not_recovered :
    Crashed Demo.relieved ∧ ¬ Recovered (Demo.resumed Demo.relieved) 7 2 0 5000
      ∧ Crashed Demo.pledged
      ∧ ¬ Recovered (Demo.resumed Demo.pledged) 7 2 0 5000 := by
  refine ⟨by decide +kernel, ?_, by decide +kernel, ?_⟩
  · intro h
    obtain ⟨row, hrow, hliq⟩ := h.status
    have hopen : ((Demo.resumed Demo.relieved).api.db.creditLine.get 7).any
        (·.status = .opened) = true := by decide +kernel
    rw [hrow] at hopen
    simp [hliq] at hopen
  · intro h
    obtain ⟨account, haccount, hmoved⟩ := h.moved
    have hlender : (Demo.resumed Demo.pledged).api.db.partyAccount.get 2
        = some Wired.Demo.lender := by decide +kernel
    have hsent : movedTo (Demo.resumed Demo.pledged).api.chain 0
        Wired.Demo.lender = 5100 := by decide +kernel
    rw [hlender] at haccount
    cases haccount
    rw [hsent] at hmoved
    exact absurd hmoved (by decide)

end Ballast.Keeper.CureExpiry
