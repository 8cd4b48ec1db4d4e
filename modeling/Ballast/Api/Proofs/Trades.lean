/-
Repo trades: what a transaction makes of one on the chain, and what a
settlement makes of its row.

On the chain a trade follows the life of its status and its units only
grow, by top-ups (`TradeMove`). A row is written by the settlements of
intents about it alone, each kind its own columns (`bookTrade`); the
trade table is a column of contract ids (`tradeColumn`).

Most of what is here is about one table or the other and nothing in
between. The two meet in the proposal: its landing mints the id, its
settlement writes the id to the row, and from then on both sides can be
asked about one trade.
-/
import Ballast.Api.Proofs.Minted
import Ballast.RepoDvp.Proofs.Escrow

namespace Ballast.Api

open Soroban Machine

-- ============================================================== the chain

/-- The trade a transaction adds collateral to. -/
def ChainTx.topsUp : ChainTx → Option Nat
  | .repo (.call _ (.topUp _ id _)) => some id
  | _ => none

/-- What a transaction makes of trade `id`. -/
structure TradeMove (tx : ChainTx) (id : Nat) (t t' : RepoDvp.RepoTrade) :
    Prop where
  follows : RepoDvp.Follows (some t.status) (some t'.status)
  grows : t.units ≤ t'.units
  kept : tx.topsUp ≠ some id → t'.units = t.units
  accepts : ∀ env b, tx = .repo (.call env (.acceptAndSettle b id)) →
    t.status = .proposed ∧ t'.status = .settled
  unwinds : ∀ env b, tx = .repo (.call env (.unwind b id)) →
    t'.status = .unwound

section

variable {d : Deployed} {start c c' : Chain} {tx : ChainTx} {id : Nat}
  {t : RepoDvp.RepoTrade}

/-- A transaction that is not about the trade leaves it as it is. -/
theorem TradeMove.stay
    (hnot : ∀ env e, tx = .repo (.call env e) → e.trade ≠ some id) :
    TradeMove tx id t t := by
  refine ⟨.stay, le_rfl, fun _ => rfl, ?_, ?_⟩
  · intro env b htx
    exact absurd rfl (hnot env _ htx)
  · intro env b htx
    exact absurd rfl (hnot env _ htx)

/-- One leg of the trade. -/
theorem TradeMove.leg {env env' : Env} {usdc : Option Address}
    {t' : RepoDvp.RepoTrade} {e : RepoDvp.Entry}
    {ps : List Payment} (hleg : RepoDvp.Leg env usdc t e t' ps)
    (hid : e.trade = some id) :
    TradeMove (.repo (.call env' e)) id t t' := by
  refine ⟨hleg.follows, ?_, ?_, ?_, ?_⟩
  · cases hleg with
    | margin _ hm => exact hm.units.ge
    | toppedUp _ hextra hm =>
        rw [hm.units]
        show t.units ≤ t.units + _
        omega
    | _ => exact le_rfl
  · intro hnot
    cases hleg with
    | margin _ hm => exact hm.units
    | toppedUp _ _ _ => exact absurd hid hnot
    | _ => rfl
  · intro env b htx
    injection htx with htx
    injection htx with _ htx
    subst htx
    cases hleg with
    | settled hst _ => exact ⟨hst, rfl⟩
    | defaulted he => rcases he with ⟨_, _, he⟩ | ⟨_, _, he⟩ <;> cases he
  · intro env b htx
    injection htx with htx
    injection htx with _ htx
    subst htx
    cases hleg with
    | unwound => rfl
    | defaulted he => rcases he with ⟨_, _, he⟩ | ⟨_, _, he⟩ <;> cases he

/-- What one transaction makes of the trades. -/
theorem trade_move (hok : RepoDvp.TradesOk d.repo c.repo)
    (ht : c.repo.trades.get id = some t)
    (happ : (chainMachine d start).apply tx c = .ok c') :
    ∃ t', c'.repo.trades.get id = some t' ∧ TradeMove tx id t t' := by
  cases tx with
  | lending tx =>
      obtain ⟨w, -, rfl⟩ := map_ok.mp happ
      exact ⟨t, ht, .stay (by simp)⟩
  | desk tx =>
      obtain ⟨w, -, rfl⟩ := map_ok.mp happ
      exact ⟨t, ht, .stay (by simp)⟩
  | repo tx =>
      obtain ⟨w, hw, rfl⟩ := map_ok.mp happ
      cases tx with
      | outside tokens =>
          injection hw with hw
          subst hw
          exact ⟨t, ht, .stay (by simp)⟩
      | call env e =>
          cases RepoDvp.call_settlement (w := ⟨c.tokens, c.repo⟩) hok hw with
          | setup _ hnone htrades _ =>
              refine ⟨t, ?_, .stay ?_⟩
              · show w.store.trades.get id = _
                rw [htrades, ht]
              · intro env' e' htx
                injection htx with htx
                injection htx with _ htx
                rw [← htx, hnone]
                exact (Option.some_ne_none id).symm
          | @proposed k t' hnone hfresh _ _ htrades _ =>
              refine ⟨t, ?_, .stay ?_⟩
              · show w.store.trades.get id = _
                rw [htrades, Store.get_set_ne, ht]
                intro hk
                rw [← hk, ht] at hfresh
                cases hfresh
              · intro env' e' htx
                injection htx with htx
                injection htx with _ htx
                rw [← htx, hnone]
                exact (Option.some_ne_none id).symm
          | @leg k u u' ps hid hu hleg htrades _ =>
              by_cases hk : k = id
              · subst hk
                have htu : u = t := Option.some.inj (hu.symm.trans ht)
                subst htu
                refine ⟨u', ?_, .leg hleg hid⟩
                show w.store.trades.get k = _
                rw [htrades, Store.get_set_self]
              · refine ⟨t, ?_, .stay ?_⟩
                · show w.store.trades.get id = _
                  rw [htrades, Store.get_set_ne _ _ (Ne.symm hk), ht]
                · intro env' e' htx
                  injection htx with htx
                  injection htx with _ htx
                  rw [← htx, hid]
                  intro hc
                  exact hk (Option.some.inj hc)

/-- The trades stay well formed and their ids only go up. -/
theorem tradesOk_chain (hok : RepoDvp.TradesOk d.repo c.repo)
    (happ : (chainMachine d start).apply tx c = .ok c') :
    RepoDvp.TradesOk d.repo c'.repo ∧ c.repo.nextId ≤ c'.repo.nextId := by
  cases tx with
  | lending tx =>
      obtain ⟨w, -, rfl⟩ := map_ok.mp happ
      exact ⟨hok, le_rfl⟩
  | desk tx =>
      obtain ⟨w, -, rfl⟩ := map_ok.mp happ
      exact ⟨hok, le_rfl⟩
  | repo tx =>
      obtain ⟨w, hw, rfl⟩ := map_ok.mp happ
      refine ⟨RepoDvp.tradesOk_step (w := ⟨c.tokens, c.repo⟩) hok hw, ?_⟩
      cases tx with
      | outside tokens =>
          injection hw with hw
          subst hw
          exact le_rfl
      | call env e =>
          show c.repo.nextId ≤ w.store.nextId
          have heffect :
              RepoDvp.Effect (env.at d.repo) ⟨c.tokens, c.repo⟩ w e :=
            RepoDvp.call_effect hok.keyed hw
          cases heffect with
          | setup _ _ _ _ hnext _ => exact hnext
          | propose _ _ _ _ _ _ _ hnext _ => exact hnext ▸ Nat.le_succ _
          | cancel _ _ _ hrep _ => exact hrep.nextId.ge
          | settle _ _ _ _ _ _ _ _ _ hrep _ => exact hrep.nextId.ge
          | unwind _ _ _ _ _ _ _ hrep _ => exact hrep.nextId.ge
          | margin _ _ _ _ hrep _ => exact hrep.nextId.ge
          | topUp _ _ _ _ _ _ hrep _ => exact hrep.nextId.ge
          | defaultClose _ _ _ _ _ _ hrep _ => exact hrep.nextId.ge
          | defaultAtMaturity _ _ _ _ _ _ hrep _ => exact hrep.nextId.ge

end

-- =============================================================== the rows

section

variable {db db' : Db} {contracts : Contracts} {intent : TxIntent}
  {outcome : Outcome} {read : ContractState} {now : Nat}

/-- The contract trade a row is about. -/
def contractTrade (db : Db) (r : RowId) : Option Nat :=
  (db.repoTrade.get r).bind (·.contractTradeId)

/-- What a settlement writes to the row it is about; a top-up writes the
units that were read. -/
def bookTrade (intent : TxIntent) (outcome : Outcome) (units : Int)
    (row : RepoTradeRow) : RepoTradeRow :=
  match intent.kind, outcome with
  | .repoPropose, .success _ v => { row with contractTradeId := some v.toNat }
  | .repoPropose, .failed _ => { row with status := .failed }
  | .repoAccept, .success ledger _ =>
      { row with
        status := .settled
        leg1Tx := some intent.txHash
        startLedger := ledger }
  | .repoUnwind, .success _ _ =>
      { row with status := .unwound, leg2Tx := some intent.txHash }
  | .repoTopUp, .success _ _ => { row with units := units }
  | _, _ => row

/-- The read a top-up is booked from. -/
def BooksUnits (db : Db) (contracts : Contracts) (intent : TxIntent)
    (outcome : Outcome) (read : ContractState) (units : Int) : Prop :=
  intent.kind = .repoTopUp → outcome.next = .settled →
    ∃ t, orRead read.trade (do
        let trade ← contractTradeOf db intent.refId
        contracts.trade trade) = .ok t
      ∧ units = t.units

theorem get_adjust_map {f : RepoTradeRow → RepoTradeRow} {k r : RowId} :
    (db.repoTrade.adjust k f).get r
      = (db.repoTrade.get r).map fun row =>
        if r = k then f row else row := by
  rw [Store.get_adjust]
  by_cases hr : r = k
  · simp [hr]
  · simp [hr]

theorem get_map_same {k r : RowId} :
    db.repoTrade.get r = (db.repoTrade.get r).map fun row =>
      if r = k then row else row := by
  simp

/-- The trade table after a settlement. -/
theorem applyOutcome_repoTrade
    (hdb : applyOutcome db contracts intent outcome read now = .ok db') :
    ∃ units, BooksUnits db contracts intent outcome read units
      ∧ ∀ r, db'.repoTrade.get r
        = (db.repoTrade.get r).map fun row =>
          if r = intent.refId then bookTrade intent outcome units row
          else row := by
  cases outcome with
  | failed ledger =>
      injection hdb with hdb
      subst hdb
      refine ⟨0, ?_, ?_⟩
      · intro _ hnext
        cases hnext
      · intro r
        unfold applyFailure bookTrade
        cases hkind : intent.kind
        case repoPropose => exact get_adjust_map
        all_goals exact get_map_same
  | success ledger v =>
      have hdb' : applySuccess db contracts intent ledger v read now
          = .ok db' := hdb
      unfold applySuccess at hdb'
      unfold BooksUnits bookTrade
      split at hdb' <;> rename_i hkind <;> rw [hkind] <;>
        simp only [bind_ok, pure_ok] at hdb'
      case h_13 =>
        obtain ⟨t, ht, rfl⟩ := hdb'
        exact ⟨t.units, fun _ _ => ⟨t, ht, rfl⟩, fun r => get_adjust_map⟩
      case h_10 | h_11 | h_12 =>
        subst hdb'
        exact ⟨0, fun hc => IntentKind.noConfusion hc,
          fun r => get_adjust_map⟩
      all_goals
        refine ⟨0, fun hc => IntentKind.noConfusion hc, ?_⟩
        first
          | (subst hdb'; exact fun r => get_map_same)
          | (obtain ⟨_, -, rfl⟩ := hdb'; exact fun r => get_map_same)
          | (obtain ⟨_, -, _, -, rfl⟩ := hdb'; exact fun r => get_map_same)

/-- A settlement leaves a row's contract trade alone, unless it is of the
row's proposal, which writes what the transaction returned. -/
theorem applyOutcome_contractTrade
    (hdb : applyOutcome db contracts intent outcome read now = .ok db')
    (r : RowId) :
    contractTrade db' r = contractTrade db r
      ∨ intent.kind = .repoPropose ∧ intent.refId = r
        ∧ ∃ ledger v, outcome = .success ledger v
          ∧ contractTrade db' r = some v.toNat := by
  obtain ⟨units, -, hget⟩ := applyOutcome_repoTrade hdb
  unfold contractTrade
  rw [hget]
  cases hrow : db.repoTrade.get r with
  | none => exact .inl rfl
  | some row =>
      by_cases hr : r = intent.refId
      · simp only [Option.map_some, Option.bind_some, if_pos hr]
        unfold bookTrade
        split
        · next ledger v hkind =>
          exact .inr ⟨hkind, hr.symm, ledger, v, rfl, rfl⟩
        all_goals exact .inl rfl
      · exact .inl (by simp [hr])

/-- What a request in flight does to the trade table. -/
structure ProposesRow (dr : Draft) : Prop where
  proposes : dr.kind = .repoPropose →
    dr.refId = none ∧ ∃ row, dr.write = .insertTrade row
  blank : ∀ row, dr.write = .insertTrade row → row.contractTradeId = none

theorem Drafted.proposesRow {dr : Draft} (hd : Drafted db dr) :
    ProposesRow dr := by
  cases hd with
  | propose => exact ⟨fun _ => ⟨rfl, _, rfl⟩, by simp⟩
  | lender he =>
      rcases he with ⟨rfl, -⟩ | ⟨rfl, -⟩ | ⟨rfl, -⟩ <;>
        exact ⟨by simp, by simp⟩
  | _ => exact ⟨by simp, by simp⟩

/-- A request leaves the rows that are there as they are. -/
theorem record_repoTrade {h : TxHash} {dr : Draft} {id r : RowId}
    (hdb : record db h dr id now = .ok db') :
    db'.repoTrade.get r = db.repoTrade.get r
      ∨ r = id ∧ db.repoTrade.get r = none
        ∧ ∃ row, dr.write = .insertTrade row
          ∧ db'.repoTrade.get r = some row := by
  obtain ⟨db₁, hwrite, -, rfl⟩ := record_ok hdb
  unfold writeRow at hwrite
  split at hwrite <;>
    simp only [bind_ok, ensure_ok, pure_ok, exists_const] at hwrite
  case h_5 row hins =>
    obtain ⟨hnone, rfl⟩ := hwrite
    show (db.repoTrade.set id row).get r = _ ∨ _
    by_cases hr : r = id
    · subst hr
      exact .inr ⟨rfl, hnone, row, hins, Store.get_set_self _ _ _⟩
    · exact .inl (Store.get_set_ne _ _ hr)
  all_goals first
    | (subst hwrite; exact .inl rfl)
    | (obtain ⟨-, rfl⟩ := hwrite; exact .inl rfl)

/-- The trade table's contract ids. -/
def tradeColumn (d : Deployed) : IdColumn where
  read := contractTrade
  opener := .repoPropose
  mints e := ∃ lender borrower asset units cash rate kind maturity hash,
    e = .repoDvp (.propose lender borrower asset units cash rate kind
      maturity hash)
  next c := c.repo.nextId
  wellFormed c := RepoDvp.TradesOk d.repo c.repo
  fits := ProposesRow

theorem tradeMinting (d : Deployed) (start : Chain) :
    Minting d start (tradeColumn d) := by
  constructor
  case congr =>
    intro db db' _ htrade r
    show contractTrade db' r = contractTrade db r
    rw [contractTrade, htrade, contractTrade]
  case booked =>
    intro db db' contracts intent outcome read now hdb r
    exact applyOutcome_contractTrade hdb r
  case drafted =>
    intro db dr hd
    exact hd.proposesRow
  case recorded =>
    intro db db' h dr row now hfits hdb
    constructor
    · intro r
      show contractTrade db' r = contractTrade db r
      unfold contractTrade
      rcases record_repoTrade (r := r) hdb with hsame | ⟨-, hnone, t, hins, ht⟩
      · rw [hsame]
      · rw [ht, hnone]
        exact hfits.blank t hins
    · intro hkind
      obtain ⟨href, t, hins⟩ := hfits.proposes hkind
      refine ⟨href, ?_⟩
      obtain ⟨db₁, hwrite, -, -⟩ := record_ok hdb
      rw [hins] at hwrite
      simp only [writeRow, bind_ok, ensure_ok, exists_const] at hwrite
      show contractTrade db row = none
      rw [contractTrade, hwrite.1]
      rfl
  case grows =>
    intro c c' tx hok happ
    exact tradesOk_chain hok happ
  case returns =>
    intro env e c x ledger v he hlands hout
    obtain ⟨_, _, _, _, _, _, _, _, _, rfl⟩ := he
    cases hlands with
    | success =>
        injection hout with _ hv
        exact hv.symm
    | failed => cases hout

end

end Ballast.Api
