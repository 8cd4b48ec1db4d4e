/-
A line the credit line has liquidated, and the keeper's next turn on it:
exactly when it finishes what the turn that stopped had begun.

The turn resumes by three readings: the latest margin event, the vault's
balance and the pledge rows. `Resumable` says what they must show, in the
state before the turn; a fault-free turn ends with the line recovered
(`Recovered`) if and only if they do. After that no turn finds the line
again, and no pledge row of it becomes active unless a settlement books a
pledge that went through or a release that did not (`Quiet`).
-/
import Ballast.Api.Proofs.Pledges
import Ballast.Keeper.CureExpiry

namespace Ballast.Keeper.CureExpiry

open Soroban
open Api (Chain ChainTx Deployed RowId PartyId TxHash CreditLineRow PledgeRow
  LiquidationRow)

variable {d : Deployed} {plan : Plan} {r : RowId} {row : CreditLineRow}
  {id : Nat} {asset : Address} {s s' : System} {U : Int}

-- ============================================================== the two ends

/-- What one event says the vault sent from the line to an account. -/
def sentTo (id : Nat) (account : Address) : PledgeVault.Event → Int
  | .liquidated line _ units recipient =>
      if line = id ∧ recipient = account then units else 0
  | _ => 0

/-- The units `PledgeVault::liquidate` has moved from the line to an
account. -/
def movedTo (c : Chain) (id : Nat) (account : Address) : Int :=
  (c.lending.vault.events.map (sentTo id account)).sum

/-- What the vault holds of the line. -/
def held (s : System) (id : Nat) (asset : Address) : Int :=
  PledgeVault.positionUnits s.api.chain.lending.vault id asset

/-- The liquidation of `U` units is complete, in the vault and in the
books. -/
structure Recovered (s : System) (r : RowId) (lender : PartyId) (id : Nat)
    (U : Int) : Prop where
  moved : ∃ account, s.api.db.partyAccount.get lender = some account
    ∧ movedTo s.api.chain id account = U
  booked : ∃ b, s.api.db.liquidation.get r = some b ∧ b.units = U
  inactive : ∀ p row, s.api.db.pledge.get p = some row →
    isActive r row = false
  status : ∃ row, s.api.db.creditLine.get r = some row
    ∧ row.status = .liquidating

/-- What a turn on a liquidating line would book, where nothing is booked
yet. -/
def toBook (s : System) (r : RowId) (id : Nat) (asset : Address) : Int :=
  totalUnits s.api.db r (held s id asset) true

/-- The line is found by its latest event, the lender has an account, the
vault has sent or still holds all of it, and what is booked, or would be,
is all of it. -/
structure Resumable (s : System) (r : RowId) (row : CreditLineRow)
    (id : Nat) (asset : Address) (U : Int) : Prop where
  event : (recentEvents s r).head?.any (unhealthy ·.toState) = true
  account : ∃ account, s.api.db.partyAccount.get row.lenderId = some account
    ∧ movedTo s.api.chain id account + max (held s id asset) 0 = U
  units : toBook s r id asset ≠ 0
  booked : (∃ b, s.api.db.liquidation.get r = some b ∧ b.units = U)
    ∨ s.api.db.liquidation.get r = none ∧ toBook s r id asset = U

/-- A turn that was to book finds this, or one before it had booked. -/
def Recoverable (s : System) (r : RowId) (row : CreditLineRow) (id : Nat)
    (asset : Address) (U : Int) : Prop :=
  row.status = .opened ∧ Resumable s r row id asset U
    ∨ row.status = .liquidating ∧ Recovered s r row.lenderId id U

/-- Nothing goes wrong in the turn: it is not stopped, the contract answers,
the vault's transaction goes through when there is something to send, and
the booking is committed. -/
structure FaultFree (d : Deployed) (plan : Plan) (s : System)
    (row : CreditLineRow) (id : Nat) (asset : Address) : Prop where
  stop : plan.stop = none
  delivery : plan.delivery ≠ .rolledBack
  reads : (readLtv d plan.readEnv id s).isOk = true
  sends : ∀ account, s.api.db.partyAccount.get row.lenderId = some account →
    0 < held s id asset →
    (submit d plan.vaultEnv (.pledgeVault
      (.liquidate plan.keeper id asset (held s id asset) account)) s).isOk
      = true

-- =============================================================== the effects

/-- The vault's transaction is one event more, and no book. -/
theorem submit_liquidate {env : Env} {keeper account : Address} {units : Int}
    (h : submit d env
      (.pledgeVault (.liquidate keeper id asset units account)) s = .ok s') :
    ∃ chain, s' = { s with api := { s.api with chain := chain } }
      ∧ movedTo chain id account
        = movedTo s.api.chain id account + units := by
  simp only [submit, bind_ok, pure_ok] at h
  obtain ⟨chain, happ, rfl⟩ := h
  refine ⟨chain, rfl, ?_⟩
  simp only [Api.chainMachine, Api.Envelope.invoke, Wired.machine,
    map_ok] at happ
  obtain ⟨w, hcall, rfl⟩ := happ
  simp only [Wired.callVault, map_ok] at hcall
  obtain ⟨scene, hcall, rfl⟩ := hcall
  simp only [PledgeVault.call, PledgeVault.liquidate, bind_ok,
    pure_ok] at hcall
  obtain ⟨-, -, -, -, -, -, tokens, -, left, -, config, -, peers, -, rfl⟩ :=
    hcall
  show (List.map _ (_ ++ [_])).sum = _
  rw [List.map_append, List.sum_append]
  simp [movedTo, sentTo, PledgeVault.writePosition]

theorem book_units {db : Api.Db} {units : Int} {hashes : List TxHash}
    {now : Nat} : (∃ b, (book db r units hashes now).liquidation.get r
        = some b ∧ b.units = U)
      ↔ (∃ b, db.liquidation.get r = some b ∧ b.units = U)
        ∨ db.liquidation.get r = none ∧ units = U := by
  have hset : (book db r units hashes now).liquidation.get r
      = some (bookLiquidation (db.liquidation.get r) units hashes now) :=
    Store.get_set_self _ _ _
  rw [hset]
  cases hrow : db.liquidation.get r with
  | none => simp [bookLiquidation]
  | some b =>
      have hunits : (bookLiquidation (some b) units hashes now).units
          = b.units := by
        unfold bookLiquidation
        split
        · cases ‹some b = none›
        · next heq =>
          cases heq
          split <;> rfl
      simp [hunits]

theorem book_inactive {db : Api.Db} {units : Int} {hashes : List TxHash}
    {now : Nat} (p : RowId) (prow : PledgeRow)
    (h : (book db r units hashes now).pledge.get p = some prow) :
    isActive r prow = false := by
  change (liquidatePledges db r).get p = some prow at h
  rw [liquidatePledges, Store.get_map] at h
  obtain ⟨old, -, rfl⟩ := Option.map_eq_some_iff.mp h
  split
  · simp [isActive]
  · next hactive => exact Bool.eq_false_iff.mpr hactive

theorem book_status {db : Api.Db} {units : Int} {hashes : List TxHash}
    {now : Nat} (hrow : db.creditLine.get r = some row) :
    ∃ row, (book db r units hashes now).creditLine.get r = some row
      ∧ row.status = .liquidating := by
  refine ⟨{ row with status := .liquidating }, ?_, rfl⟩
  refine (Store.get_adjust _ _ _ _).trans ((if_pos rfl).trans ?_)
  rw [hrow]
  rfl

-- ================================================================== the turn

/-- What a fault-free turn does to a liquidating line it finds. -/
theorem cureTurn_found {l : CreditLine.Line} {account : Address}
    (hrow : s.api.db.creditLine.get r = some row)
    (hid : row.contractLineId = some id)
    (hline : s.api.chain.lending.creditLine.lines.get id = some l)
    (hliq : l.status = .liquidating)
    (hfree : FaultFree d plan s row id l.asset)
    (hopen : row.status = .opened)
    (hevent : (recentEvents s r).head?.any (unhealthy ·.toState) = true)
    (haccount : s.api.db.partyAccount.get row.lenderId = some account) :
    ∃ chain hashes, movedTo chain id account
        = movedTo s.api.chain id account + max (held s id l.asset) 0
      ∧ cureTurn d plan r s
        = bookTurn plan r (toBook s r id l.asset) hashes
          { s with api := { s.api with chain := chain } } := by
  have hselected : selected s r = some (row, id) := by
    simp only [selected, hrow, hopen, hevent, hid, and_self, if_true,
      Option.map_some]
  obtain ⟨view, hview⟩ := exists_of_isOk hfree.reads
  have hread : CreditLine.readLine s.api.chain.lending.creditLine id = .ok l :=
    expect_ok.mpr hline
  have hturn : cureTurn d plan r s
      = moveTurn d plan r id l.asset (held s id l.asset) account true [] s := by
    simp only [cureTurn, hselected, attempt, hview, hread, hfree.stop, hliq,
      seizeTurn, haccount, if_true, held]
    simp
  rw [hturn, moveTurn]
  by_cases hpos : 0 < held s id l.asset
  · obtain ⟨s₁, hs₁⟩ := exists_of_isOk (hfree.sends account haccount hpos)
    obtain ⟨chain, rfl, hmoved⟩ := submit_liquidate hs₁
    refine ⟨chain, [plan.vaultHash], ?_, ?_⟩
    · rw [hmoved, max_eq_left hpos.le]
    · rw [if_pos hpos, hs₁]
      simp only [attempt, hfree.stop, toBook, List.nil_append]
      rfl
  · refine ⟨s.api.chain, [], ?_, ?_⟩
    · rw [max_eq_right (not_lt.mp hpos), add_zero]
    · rw [if_neg hpos]
      rfl

/-- A turn that does not find the line, or no account for its lender,
leaves everything as it is. -/
theorem cureTurn_lost {l : CreditLine.Line}
    (hrow : s.api.db.creditLine.get r = some row)
    (hid : row.contractLineId = some id)
    (hline : s.api.chain.lending.creditLine.lines.get id = some l)
    (hliq : l.status = .liquidating)
    (hlost : row.status ≠ .opened
      ∨ (recentEvents s r).head?.any (unhealthy ·.toState) ≠ true
      ∨ s.api.db.partyAccount.get row.lenderId = none) :
    cureTurn d plan r s = s := by
  by_cases hfound : row.status = .opened
      ∧ (recentEvents s r).head?.any (unhealthy ·.toState) = true
  · have haccount : s.api.db.partyAccount.get row.lenderId = none := by
      rcases hlost with h | h | h
      · exact absurd hfound.1 h
      · exact absurd hfound.2 h
      · exact h
    have hread : CreditLine.readLine s.api.chain.lending.creditLine id
        = .ok l := expect_ok.mpr hline
    simp only [cureTurn, selected, hrow, hfound, hid, and_self, if_true,
      Option.map_some, attempt, hread, hliq, seizeTurn, haccount]
    split
    · split <;> rfl
    · rfl
  · simp only [cureTurn, selected, hrow, hfound, if_false]

/-- The turn of a line that is not open. -/
theorem cureTurn_closed (hrow : s.api.db.creditLine.get r = some row)
    (hstatus : row.status ≠ .opened) : cureTurn d plan r s = s := by
  simp only [cureTurn, selected, hrow, hstatus, false_and, if_false]

-- ============================================================== exactly when

/-- A line still open in the books is not recovered. -/
theorem not_recovered (hrow : s.api.db.creditLine.get r = some row)
    (hstatus : row.status ≠ .liquidating) {lender : PartyId} :
    ¬ Recovered s r lender id U := by
  intro h
  obtain ⟨row', hrow', hliq⟩ := h.status
  rw [hrow] at hrow'
  cases hrow'
  exact hstatus hliq

/-- The booking at the end of a turn that moved what was left. -/
theorem recovered_book {chain : Chain} {hashes : List TxHash}
    {account : Address} {units : Int}
    (hrow : s.api.db.creditLine.get r = some row)
    (hopen : row.status = .opened) (hdelivery : plan.delivery ≠ .rolledBack)
    (haccount : s.api.db.partyAccount.get row.lenderId = some account) :
    Recovered (bookTurn plan r units hashes
        { s with api := { s.api with chain := chain } }) r row.lenderId id U
      ↔ movedTo chain id account = U ∧ units ≠ 0
        ∧ ((∃ b, s.api.db.liquidation.get r = some b ∧ b.units = U)
          ∨ s.api.db.liquidation.get r = none ∧ units = U) := by
  unfold bookTurn
  by_cases hzero : units = 0
  · rw [if_pos (.inl hzero)]
    constructor
    · intro h
      obtain ⟨row', hrow', hliq⟩ := h.status
      change s.api.db.creditLine.get r = some row' at hrow'
      rw [hrow] at hrow'
      cases hrow'
      rw [hopen] at hliq
      cases hliq
    · rintro ⟨-, hne, -⟩
      exact absurd hzero hne
  · rw [if_neg (not_or.mpr ⟨hzero, hdelivery⟩)]
    constructor
    · rintro ⟨⟨account', haccount', hmoved⟩, hbooked, -, -⟩
      change s.api.db.partyAccount.get row.lenderId = some account'
        at haccount'
      rw [haccount] at haccount'
      cases haccount'
      exact ⟨hmoved, hzero, book_units.mp hbooked⟩
    · rintro ⟨hmoved, -, hbooked⟩
      exact ⟨⟨account, haccount, hmoved⟩, book_units.mpr hbooked,
        book_inactive, book_status hrow⟩

/-- A fault-free turn on a liquidating line finishes it exactly when its
readings are right. -/
theorem recovered_iff {l : CreditLine.Line}
    (hrow : s.api.db.creditLine.get r = some row)
    (hid : row.contractLineId = some id)
    (hline : s.api.chain.lending.creditLine.lines.get id = some l)
    (hliq : l.status = .liquidating)
    (hfree : FaultFree d plan s row id l.asset) :
    Recovered (cureTurn d plan r s) r row.lenderId id U
      ↔ Recoverable s r row id l.asset U := by
  by_cases hopen : row.status = .opened
  · have hnot : row.status ≠ .liquidating := by
      rw [hopen]
      exact Api.LineStatus.noConfusion
    have hlost : ∀ hresumable : ¬ Resumable s r row id l.asset U,
        cureTurn d plan r s = s →
        (Recovered (cureTurn d plan r s) r row.lenderId id U
          ↔ Recoverable s r row id l.asset U) := by
      intro hresumable hturn
      rw [hturn]
      constructor
      · intro h
        exact absurd h (not_recovered hrow hnot)
      · rintro (⟨-, h⟩ | ⟨h, -⟩)
        · exact absurd h hresumable
        · exact absurd h hnot
    by_cases hevent :
        (recentEvents s r).head?.any (unhealthy ·.toState) = true
    · cases haccount : s.api.db.partyAccount.get row.lenderId with
      | none =>
          apply hlost
          · intro h
            obtain ⟨account, haccount', -⟩ := h.account
            rw [haccount] at haccount'
            cases haccount'
          · exact cureTurn_lost hrow hid hline hliq (.inr (.inr haccount))
      | some account =>
          obtain ⟨chain, hashes, hmoved, hturn⟩ := cureTurn_found hrow hid
            hline hliq hfree hopen hevent haccount
          rw [hturn, recovered_book hrow hopen hfree.delivery haccount,
            hmoved]
          constructor
          · rintro ⟨hU, hunits, hbooked⟩
            exact .inl ⟨hopen, hevent, ⟨account, haccount, hU⟩, hunits,
              hbooked⟩
          · rintro (⟨-, h⟩ | ⟨h, -⟩)
            · obtain ⟨account', haccount', hU⟩ := h.account
              rw [haccount] at haccount'
              cases haccount'
              exact ⟨hU, h.units, h.booked⟩
            · exact absurd h hnot
    · apply hlost
      · intro h
        exact hevent h.event
      · exact cureTurn_lost hrow hid hline hliq (.inr (.inl hevent))
  · rw [cureTurn_closed hrow hopen]
    constructor
    · intro h
      by_cases hstatus : row.status = .liquidating
      · exact .inr ⟨hstatus, h⟩
      · exact absurd h (not_recovered hrow hstatus)
    · rintro (⟨h, -⟩ | ⟨-, h⟩)
      · exact absurd h hopen
      · exact h

end Ballast.Keeper.CureExpiry
