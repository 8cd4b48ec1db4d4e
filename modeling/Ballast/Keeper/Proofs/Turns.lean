/-
What a step of the cut cure-expiry turns can do, said once for every
invariant of them.

# Overview

  - `Goes`: how an await leads a turn on, with what was read in the state
    that answered it. Everything a later await relies on is in the turn
    itself, so this is all that the reads come to.
  - `Did`: what any step does. Only the monitor's step touches the monitor,
    only the API's, a landing and a booking touch the books and the chain.
  - `land_freezes`: of the keeper's transactions only its own `liquidate`
    on a line can set that line to liquidating.
-/
import Ballast.CreditLine.Proofs.Steps
import Ballast.Keeper.CureTurns
import Ballast.Keeper.Proofs.Aftermath
import Ballast.Wired.Proofs.Mirror

namespace Ballast.Keeper.CureTurns

open Soroban
open Api (Chain ChainTx Deployed RowId TxHash CreditLineRow)
open CureExpiry (unhealthy recentEvents breachStart totalUnits book held
  submit)

variable {d : Deployed} {keeper : Address} {s s' : System} {a : Act}

/-- The line of the credit line contract. -/
def lineAt (s : CureExpiry.System) (id : Nat) : Option CreditLine.Line :=
  s.api.chain.lending.creditLine.lines.get id

-- ================================================================== a turn

/-- How an await leads the turn `w` on, in the state `s` that answers
it. -/
inductive Goes (d : Deployed) (s : System) (w : Nat) :
    Act → Turn → Turn → Prop
  | events {row : RowId} {line : CreditLineRow} {windowS id : Nat}
      (hid : line.contractLineId = some id)
      (hbad : (recentEvents s.around row).head?.any (unhealthy ·.toState)
        = true) :
      Goes d s w (.selectEvents w) (.selected row line windowS) (.reading
        ⟨row, line, windowS, id, recentEvents s.around row⟩ none none)
  | ltv {sub : Subject} {l : Option CreditLine.Line} {env : Env}
      {view : CreditLine.LtvView}
      (hview : CureExpiry.readLtv d env sub.contractLine s.around
        = .ok view) :
      Goes d s w (.readLtv w env) (.reading sub none l)
        (.reading sub (some view) l)
  | line {sub : Subject} {view : Option CreditLine.LtvView}
      {l : CreditLine.Line}
      (hl : lineAt s.around sub.contractLine = some l) :
      Goes d s w (.readLine w) (.reading sub view none)
        (.reading sub view (some l))
  | resumed {sub : Subject} {view : CreditLine.LtvView}
      {l : CreditLine.Line} {now : Nat} (hliq : l.status = .liquidating) :
      Goes d s w (.conclude w now) (.reading sub (some view) (some l))
        (.due sub l true)
  | arming {sub : Subject} {view : CreditLine.LtvView}
      {l : CreditLine.Line} {now : Nat} :
      Goes d s w (.conclude w now) (.reading sub (some view) (some l))
        (.sending (.poke sub))
  | due {sub : Subject} {view : CreditLine.LtvView} {l : CreditLine.Line}
      {now : Nat} (hnot : l.status ≠ .liquidating)
      (hstate : view.state = .liquidation) (hprice : view.priceStatus = .ok)
      (harmed : l.breachLedger ≠ none)
      (hnow : breachStart sub.events + sub.cureWindowS * 1000 ≤ now) :
      Goes d s w (.conclude w now) (.reading sub (some view) (some l))
        (.due sub l false)
  | account {sub : Subject} {l : CreditLine.Line} {already : Bool}
      {account : Address} :
      Goes d s w (.selectAccount w) (.due sub l already)
        (.accounted sub l already account)
  | found {sub : Subject} {l : CreditLine.Line} {units : Int}
      {account : Address} :
      Goes d s w (.positionUnits w) (.accounted sub l true account)
        (moving sub l units account true [])
  | agreed {sub : Subject} {l : CreditLine.Line} {account : Address}
      (hheld : held s.around sub.contractLine l.asset = l.pledgedUnits) :
      Goes d s w (.positionUnits w) (.accounted sub l false account)
        (.sending (.liquidate sub l
          (held s.around sub.contractLine l.asset) account))
  | seized {sub : Subject} {l : CreditLine.Line} {units : Int}
      {account : Address} {h : TxHash} :
      Goes d s w (.confirm w) (.polling (.liquidate sub l units account) h)
        (moving sub l units account false [h])
  | moved {sub : Subject} {l : CreditLine.Line} {units : Int}
      {account : Address} {already : Bool} {hashes : List TxHash}
      {h : TxHash} :
      Goes d s w (.confirm w)
        (.polling (.move sub l units account already hashes) h)
        (.counting sub units already (hashes ++ [h]))
  | counted {sub : Subject} {units total : Int} {already : Bool}
      {hashes : List TxHash} :
      Goes d s w (.selectPledges w) (.counting sub units already hashes)
        (.booking sub total hashes)

-- ================================================================== a step

/-- What a committed step did. -/
inductive Did (d : Deployed) (keeper : Address) (s : System) :
    Act → System → Prop
  | api {a : Api.Act ChainTx} {around : CureExpiry.System}
      (h : CureExpiry.step d (.api a) s.around = .ok around) :
      Did d keeper s (.api a) { s with around := around }
  | recomputed {row : RowId} {env : Env} {now : Nat}
      {around : CureExpiry.System}
      (h : CureExpiry.step d (.recompute row env now) s.around
        = .ok around) :
      Did d keeper s (.recompute row env now) { s with around := around }
  | selected {w : Nat} {row : RowId} {line : CreditLineRow}
      (hrow : s.around.api.db.creditLine.get row = some line)
      (hopen : line.status = .opened) :
      Did d keeper s (.select w row)
        (moveTo s w (.selected row line (s.around.cureWindowS row)))
  | goes {a : Act} {w : Nat} {t t' : Turn}
      (ht : s.turns.get w = some t) (h : Goes d s w a t t') :
      Did d keeper s a (moveTo s w t')
  | ended {a : Act} {w : Nat} : Did d keeper s a (leave s w)
  | sent {w : Nat} {h : TxHash} {env : Env} {tx : Submission}
      (ht : s.turns.get w = some (.sending tx)) :
      Did d keeper s (.send w h env)
        (moveTo { s with sent := s.sent.set h tx } w (.polling tx h))
  | landed {h : TxHash} {env : Env} {tx : Submission}
      {around : CureExpiry.System} (htx : s.sent.get h = some tx)
      (hsubmit : submit d env (tx.envelope keeper) s.around = .ok around) :
      Did d keeper s (.land h env)
        { s with around := around, landed := s.landed.set h true }
  | failed {h : TxHash} {env : Env} :
      Did d keeper s (.land h env)
        { s with landed := s.landed.set h false }
  | booked {w now : Nat} {delivery : Delivery} {db : Api.Db} :
      Did d keeper s (.commit w now delivery)
        (leave { s with
          around := { s.around with
            api := { s.around.api with db := db } } } w)

/-- An await of a turn either throws and ends it, or leads it on. -/
theorem Did.answered {a : Act} {α : Type} {w : Nat} {t : Turn} {x : Call α}
    {next : α → Turn} (ht : s.turns.get w = some t)
    (h : ∀ y, x = .ok y → Goes d s w a t (next y)) :
    Did d keeper s a (answered s w x next) := by
  unfold CureTurns.answered
  cases x with
  | ok y => exact .goes ht (h y rfl)
  | error e => exact .ended

/-- A landing that succeeds, and one that leaves the chain as it was. -/
theorem land_ok {h : TxHash} {env : Env}
    (hland : land d keeper h env s = .ok s') :
    (∃ tx around, s.sent.get h = some tx
      ∧ submit d env (tx.envelope keeper) s.around = .ok around
      ∧ s' = { s with around := around, landed := s.landed.set h true })
    ∨ s' = { s with landed := s.landed.set h false } := by
  simp only [land, bind_ok, expect_ok, ensure_ok, exists_const] at hland
  obtain ⟨tx, htx, -, hland⟩ := hland
  split at hland <;> cases pure_ok.mp hland
  next around hsubmit => exact Or.inl ⟨tx, around, htx, hsubmit, rfl⟩
  · exact Or.inr rfl

theorem did_of_step (h : step d keeper a s = .ok s') :
    Did d keeper s a s' := by
  cases a with
  | api a =>
      simp only [step, bind_ok, pure_ok] at h
      obtain ⟨around, h, rfl⟩ := h
      exact .api h
  | recompute row env now =>
      simp only [step, bind_ok, pure_ok] at h
      obtain ⟨around, h, rfl⟩ := h
      exact .recomputed h
  | select w row =>
      simp only [step, select, bind_ok, ensure_ok, expect_ok, pure_ok,
        exists_const] at h
      obtain ⟨-, line, hrow, hopen, rfl⟩ := h
      exact .selected hrow hopen
  | selectEvents w =>
      simp only [step, selectEvents, turnAt, bind_ok, expect_ok] at h
      obtain ⟨t, ht, h⟩ := h
      split at h
      next row line windowS =>
        split at h
        · cases pure_ok.mp h
          exact .ended
        next id hid =>
          split at h <;> cases pure_ok.mp h
          next hbad => exact .goes ht (.events hid hbad)
          · exact .ended
      · cases h
  | readLtv w env =>
      simp only [step, readLtv, turnAt, bind_ok, expect_ok] at h
      obtain ⟨t, ht, h⟩ := h
      split at h
      · cases pure_ok.mp h
        exact .answered ht fun view hview => .ltv hview
      · cases h
  | readLine w =>
      simp only [step, readLine, turnAt, bind_ok, expect_ok] at h
      obtain ⟨t, ht, h⟩ := h
      split at h
      · cases pure_ok.mp h
        exact .answered ht fun l hl => .line (expect_ok.mp hl)
      · cases h
  | conclude w now =>
      simp only [step, conclude, turnAt, bind_ok, expect_ok] at h
      obtain ⟨t, ht, h⟩ := h
      split at h
      next sub view l =>
        split at h
        next hliq =>
          cases pure_ok.mp h
          exact .goes ht (.resumed hliq)
        next hnot =>
        split at h
        · cases pure_ok.mp h
          exact .ended
        next hconfirmed =>
        rw [not_or, not_not, not_not] at hconfirmed
        split at h
        · cases pure_ok.mp h
          exact .goes ht .arming
        next harmed =>
        split at h <;> cases pure_ok.mp h
        · exact .ended
        next hnow =>
          exact .goes ht (.due hnot hconfirmed.1 hconfirmed.2 harmed
            (not_lt.mp hnow))
      · cases h
  | selectAccount w =>
      simp only [step, selectAccount, turnAt, bind_ok, expect_ok] at h
      obtain ⟨t, ht, h⟩ := h
      split at h
      · split at h <;> cases pure_ok.mp h
        · exact .ended
        · exact .goes ht .account
      · cases h
  | positionUnits w =>
      simp only [step, positionUnits, turnAt, bind_ok, expect_ok] at h
      obtain ⟨t, ht, h⟩ := h
      split at h
      next sub l already account =>
        split at h
        next halready =>
          subst halready
          cases pure_ok.mp h
          exact .goes ht .found
        next halready =>
        have hfalse : already = false := Bool.not_eq_true _ ▸ halready
        subst hfalse
        split at h <;> cases pure_ok.mp h
        · exact .ended
        next hheld => exact .goes ht (.agreed (not_not.mp hheld))
      · cases h
  | send w h' env =>
      simp only [step, send, turnAt, bind_ok, expect_ok] at h
      obtain ⟨t, ht, h⟩ := h
      split at h
      · simp only [bind_ok, ensure_ok, exists_const] at h
        obtain ⟨-, h⟩ := h
        split at h <;> cases pure_ok.mp h
        · exact .sent ht
        · exact .ended
      · cases h
  | land h' env =>
      rcases land_ok h with ⟨tx, around, htx, hsubmit, rfl⟩ | rfl
      · exact .landed htx hsubmit
      · exact .failed
  | confirm w =>
      simp only [step, confirm, turnAt, bind_ok, expect_ok] at h
      obtain ⟨t, ht, h⟩ := h
      split at h
      · simp only [bind_ok, ensure_ok, exists_const] at h
        obtain ⟨-, h⟩ := h
        split at h <;> cases pure_ok.mp h
        · exact .ended
        · exact .goes ht .seized
        · exact .goes ht .moved
      · cases h
  | selectPledges w =>
      simp only [step, selectPledges, turnAt, bind_ok, expect_ok] at h
      obtain ⟨t, ht, h⟩ := h
      split at h
      · split at h <;> cases pure_ok.mp h
        · exact .ended
        · exact .goes ht .counted
      · cases h
  | commit w now delivery =>
      simp only [step, commit, turnAt, bind_ok, expect_ok] at h
      obtain ⟨t, ht, h⟩ := h
      split at h
      · split at h <;> cases pure_ok.mp h
        · exact .ended
        · exact .booked
        · exact .booked
      · cases h
  | stop w =>
      cases pure_ok.mp h
      exact .ended

-- ============================================================== the landing

/-- What a submission's landing does to a line: only the keeper's own
`liquidate` on it sets it to liquidating, and not unless its LTV is at
liquidation level, at a good price, in the ledger it lands in. -/
theorem land_freezes {env : Env} {tx : Submission}
    {t t' : CureExpiry.System} {id : Nat} {l l' : CreditLine.Line}
    (h : submit d env (tx.envelope keeper) t = .ok t')
    (hl : lineAt t id = some l) (hnot : l.status ≠ .liquidating)
    (hl' : lineAt t' id = some l') (hliq : l'.status = .liquidating) :
    ∃ sub onChain units account,
      tx = .liquidate sub onChain units account ∧ sub.contractLine = id
        ∧ ∃ view, CureExpiry.readLtv d env id t = .ok view
          ∧ view.state = .liquidation ∧ view.priceStatus = .ok := by
  simp only [submit, bind_ok, pure_ok] at h
  obtain ⟨chain, happ, rfl⟩ := h
  -- A call into the credit line other than `liquidate` on the line.
  have hother : ∀ e : CreditLine.Entry,
      (∀ k r, e ≠ .liquidate k id r) →
      (Api.chainMachine d t.api.chain).apply
        (Api.Envelope.invoke env (.creditLine e)) t.api.chain = .ok chain →
      False := by
    intro e he happ
    simp only [Api.chainMachine, Api.Envelope.invoke, Wired.machine,
      map_ok] at happ
    obtain ⟨w, hcall, rfl⟩ := happ
    obtain ⟨hcall, -⟩ := Wired.callLine_ok hcall
    obtain ⟨l₀, hl₀, hliq₀, -⟩ :=
      CreditLine.call_was_liquidating hcall he hl' hliq
    cases hl₀.symm.trans hl
    exact hnot hliq₀
  cases tx with
  | poke sub =>
      refine (hother _ ?_ happ).elim
      intro k r he
      cases he
  | liquidate sub onChain units account =>
      by_cases hid : sub.contractLine = id
      · refine ⟨sub, onChain, units, account, rfl, hid, ?_⟩
        subst hid
        simp only [Submission.envelope, Api.chainMachine,
          Api.Envelope.invoke, Wired.machine, map_ok] at happ
        obtain ⟨w, hcall, rfl⟩ := happ
        obtain ⟨hcall, -⟩ := Wired.callLine_ok hcall
        simp only [CreditLine.call, CreditLine.onStore, map_ok] at hcall
        obtain ⟨store, hcall, -⟩ := hcall
        obtain ⟨l₀, breach, view, price, hl₀, -, -, -, hview, hok, hliq₀,
          -⟩ := CreditLine.liquidate_ok hcall
        refine ⟨view, ?_, hliq₀, hok⟩
        simp only [CureExpiry.readLtv, CreditLine.ltv, CreditLine.readLine,
          CreditLine.computeLtv, bind_ok, expect_ok, pure_ok]
        exact ⟨l₀, hl₀, (view, price), hview, rfl⟩
      · refine (hother _ ?_ happ).elim
        intro k r he
        injection he with _ he _
        exact hid he
  | move sub onChain units account already hashes =>
      simp only [Submission.envelope, Api.chainMachine, Api.Envelope.invoke,
        Wired.machine, map_ok] at happ
      obtain ⟨w, hcall, rfl⟩ := happ
      cases Wired.callVault_ok hcall with
      | setup _ _ hsame =>
          have hline : lineAt t id = some l' := by
            rw [← hl']
            exact congrArg (fun c => c.lines.get id) hsame.symm
          cases hline.symm.trans hl
          exact absurd hliq hnot
      | @position k l₀ p' hl₀ _ _ _ hwritten =>
          -- The vault writes one line's figure and no status.
          have hline : lineAt { t with api := { t.api with chain :=
              { t.api.chain with tokens := w.tokens, lending := w.store } } }
              id = (CreditLine.writeLine t.api.chain.lending.creditLine k
                { l₀ with pledgedUnits := p'.units }).lines.get id :=
            congrArg (fun c => c.lines.get id) hwritten
          rw [hline] at hl'
          by_cases hk : id = k
          · subst hk
            rw [CreditLine.eq_of_writeLine hl'] at hliq
            cases hl₀.symm.trans hl
            exact absurd hliq hnot
          · rw [CreditLine.writeLine, Store.get_set_ne _ _ hk] at hl'
            cases hl'.symm.trans hl
            exact absurd hliq hnot

end Ballast.Keeper.CureTurns
