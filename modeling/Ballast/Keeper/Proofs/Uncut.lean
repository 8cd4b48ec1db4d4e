/-
A turn nobody interrupts: what `CureExpiry.cureTurn` does in one step, the
keeper's job does await by await when nothing else happens in between
(`ends_cureTurn`).

So the two models of the job agree. What is shown of a turn without a
fault, as in `liquidation_recovers_iff`, is shown of a run of the cut
model, where the interleavings are; and where a plan stops its turn, the
cut turn stands at an await it never leaves.

The proofs follow the definitions of the turn, from its end: where a turn
stands at a stage, the rest of its steps ends in what the rest of
`cureTurn` computes (`Ends`).
-/
import Ballast.Keeper.Proofs.Turns

namespace Ballast.Keeper.CureTurns

open Soroban
open Api (Chain ChainTx Deployed RowId TxHash CreditLineRow)
open CureExpiry (Plan unhealthy recentEvents breachStart totalUnits submit
  attempt bookTurn moveTurn seizeTurn cureTurn selected)

variable {d : Deployed} {plan : Plan} {s s' : System} {w : Nat}
  {sub : Subject} {A : CureExpiry.System}

/-- A step of the keeper's job, and nobody else's. -/
def Act.ofJob : Act → Bool
  | .api _ | .recompute .. => false
  | _ => true

/-- Some steps of the job alone lead from `s` to `A`. -/
def Ends (d : Deployed) (keeper : Address) (s : System)
    (A : CureExpiry.System) : Prop :=
  ∀ start db cureWindowS, ∃ as, (∀ a ∈ as, Act.ofJob a = true)
    ∧ ((machine d keeper start db cureWindowS).run s as).around = A

theorem Ends.here {keeper : Address} (h : s.around = A) :
    Ends d keeper s A :=
  fun _ _ _ => ⟨[], fun _ ha => (List.not_mem_nil ha).elim, h⟩

theorem Ends.step {keeper : Address} {a : Act} (ha : a.ofJob = true)
    (hstep : step d keeper a s = .ok s') (h : Ends d keeper s' A) :
    Ends d keeper s A := by
  intro start db cureWindowS
  obtain ⟨as, has, hend⟩ := h start db cureWindowS
  refine ⟨a :: as, List.forall_mem_cons.mpr ⟨ha, has⟩, ?_⟩
  rw [Machine.run_cons, Machine.exec_of_ok hstep]
  exact hend

/-- An await that throws ends the turn where it is. -/
theorem Ends.attempt {keeper : Address} {α : Type} {x : Call α}
    {go : α → CureExpiry.System} (hA : s.around = A)
    (hgo : ∀ a, x = .ok a → Ends d keeper s (go a)) :
    Ends d keeper s (attempt A x go) := by
  unfold CureExpiry.attempt
  cases x with
  | ok a => exact hgo a rfl
  | error e => exact .here hA

@[simp] theorem turns_moveTo_self (s : System) (w : Nat) (t : Turn) :
    (moveTo s w t).turns.get w = some t :=
  Store.get_set_self _ _ _

@[simp] theorem around_moveTo (s : System) (w : Nat) (t : Turn) :
    (moveTo s w t).around = s.around := rfl

@[simp] theorem around_leave (s : System) (w : Nat) :
    (leave s w).around = s.around := rfl

/-- The hash is nobody's yet. -/
def Fresh (s : System) (h : TxHash) : Prop :=
  s.sent.get h = none ∧ s.landed.get h = none

-- ================================================================== the end

/-- The books after the booking transaction. -/
def booked (plan : Plan) (row : RowId) (units : Int)
    (txHashes : List TxHash) (A : CureExpiry.System) : CureExpiry.System :=
  { A with
    api := { A.api with
      db := CureExpiry.book A.api.db row units txHashes plan.now } }

/-- From the count of the pledges on. -/
theorem ends_bookTurn {held : Int} {already : Bool}
    {txHashes : List TxHash}
    (ht : s.turns.get w = some (.counting sub held already txHashes)) :
    Ends d plan.keeper s (bookTurn plan sub.row
      (totalUnits s.around.api.db sub.row held already) txHashes
      s.around) := by
  unfold bookTurn
  split
  · exact .here rfl
  next hbooks =>
    rw [not_or] at hbooks
    let units := totalUnits s.around.api.db sub.row held already
    have hcount : step d plan.keeper (.selectPledges w) s
        = .ok (moveTo s w (.booking sub units txHashes)) := by
      simp [CureTurns.step, selectPledges, turnAt, ht, hbooks.1, units]
    have hcommit : step d plan.keeper (.commit w plan.now plan.delivery)
        (moveTo s w (.booking sub units txHashes))
        = .ok (leave { moveTo s w (.booking sub units txHashes) with
            around := booked plan sub.row units txHashes s.around } w) := by
      cases hdelivery : plan.delivery with
      | rolledBack => exact absurd hdelivery hbooks.2
      | acknowledged | lost =>
          simp [CureTurns.step, commit, turnAt, booked]
    exact .step rfl hcount (.step rfl hcommit (.here rfl))

-- ========================================================== the transactions

/-- A transaction that is about to be sent: it fails, and the turn ends
where it is, or it lands and the turn goes on from there. -/
theorem ends_submit {t : Submission} {h : TxHash} {env : Env}
    {go : CureExpiry.System → CureExpiry.System}
    (ht : s.turns.get w = some (.sending t)) (hfresh : Fresh s h)
    (hgo : ∀ s', submit d env (t.envelope plan.keeper) s.around
        = .ok s'.around →
      s'.turns.get w = some (.polling t h) → s'.landed.get h = some true →
      (∀ k, k ≠ h → Fresh s k → Fresh s' k) →
      Ends d plan.keeper s' (go s'.around)) :
    Ends d plan.keeper s (attempt s.around
      (submit d env (t.envelope plan.keeper) s.around) go) := by
  unfold attempt
  cases hsubmit : submit d env (t.envelope plan.keeper) s.around with
  | error e => exact .here rfl
  | ok around =>
      let sent := moveTo { s with sent := s.sent.set h t } w (.polling t h)
      have hsend : step d plan.keeper (.send w h env) s = .ok sent := by
        simp [CureTurns.step, send, turnAt, ht, hfresh.1, hsubmit, sent,
          -bind_pure_comp]
      have hland : step d plan.keeper (.land h env) sent
          = .ok { sent with
              around := around, landed := s.landed.set h true } := by
        simp [CureTurns.step, land, sent, moveTo, hfresh.2, hsubmit]
      refine .step rfl hsend (.step rfl hland (hgo _ hsubmit ?_ ?_ ?_))
      · exact turns_moveTo_self _ _ _
      · exact Store.get_set_self _ _ _
      · intro k hk hfree
        exact ⟨(Store.get_set_ne _ _ hk).trans hfree.1,
          (Store.get_set_ne _ _ hk).trans hfree.2⟩

/-- From the vault's transfer on. -/
theorem ends_moveTurn {onChain : CreditLine.Line} {held : Int}
    {account : Address} {already : Bool} {txHashes : List TxHash}
    (hstop : plan.stop = none)
    (ht : s.turns.get w
      = some (moving sub onChain held account already txHashes))
    (hfresh : Fresh s plan.vaultHash) :
    Ends d plan.keeper s (moveTurn d plan sub.row sub.contractLine
      onChain.asset held account already txHashes s.around) := by
  unfold moving at ht
  unfold moveTurn
  split
  next hheld =>
    rw [if_pos hheld] at ht
    refine ends_submit (t := .move sub onChain held account already
      txHashes) ht hfresh ?_
    intro s' _ ht' hlanded _
    rw [hstop, if_neg (by simp)]
    have hconfirm : step d plan.keeper (.confirm w) s'
        = .ok (moveTo s' w (.counting sub held already
          (txHashes ++ [plan.vaultHash]))) := by
      simp [CureTurns.step, confirm, turnAt, ht', hlanded,
        -bind_pure_comp]
    exact .step rfl hconfirm
      (ends_bookTurn (turns_moveTo_self s' w _))
  next hheld =>
    rw [if_neg hheld] at ht
    exact ends_bookTurn ht

/-- From the lender's account on. -/
theorem ends_seizeTurn {onChain : CreditLine.Line} {already : Bool}
    (halready : already = true ↔ onChain.status = .liquidating)
    (hstop : plan.stop = none)
    (ht : s.turns.get w = some (.due sub onChain already))
    (hline : Fresh s plan.lineHash) (hvault : Fresh s plan.vaultHash)
    (hne : plan.vaultHash ≠ plan.lineHash) :
    Ends d plan.keeper s (seizeTurn d plan sub.row sub.line
      sub.contractLine onChain s.around) := by
  unfold seizeTurn
  split
  · exact .here rfl
  next account haccount =>
    let held := PledgeVault.positionUnits
      s.around.api.chain.lending.vault sub.contractLine onChain.asset
    have hselect : step d plan.keeper (.selectAccount w) s
        = .ok (moveTo s w (.accounted sub onChain already account)) := by
      simp [CureTurns.step, selectAccount, turnAt, ht, haccount]
    refine .step rfl hselect ?_
    dsimp only
    split
    next hliq =>
      -- an earlier turn has liquidated it: on from the vault
      have htrue := halready.mpr hliq
      subst htrue
      have hunits : step d plan.keeper (.positionUnits w)
          (moveTo s w (.accounted sub onChain true account))
          = .ok (moveTo (moveTo s w (.accounted sub onChain true account)) w
            (moving sub onChain held account true [])) := by
        simp [CureTurns.step, positionUnits, turnAt, held]
      exact .step rfl hunits
        (ends_moveTurn hstop (turns_moveTo_self _ _ _) hvault)
    next hliq =>
      have hfalse : already = false :=
        Bool.eq_false_iff.mpr fun h => hliq (halready.mp h)
      subst hfalse
      split
      · exact .here rfl
      next hheld =>
        have hunits : step d plan.keeper (.positionUnits w)
            (moveTo s w (.accounted sub onChain false account))
            = .ok (moveTo (moveTo s w (.accounted sub onChain false
              account)) w (.sending (.liquidate sub onChain held
                account))) := by
          simp only [not_not] at hheld
          simp [CureTurns.step, positionUnits, turnAt, held, hheld]
        refine .step rfl hunits (ends_submit
          (t := .liquidate sub onChain held account)
          (turns_moveTo_self _ _ _) hline ?_)
        intro s' _ ht' hlanded hkeep
        rw [hstop, if_neg (by simp)]
        have hconfirm : step d plan.keeper (.confirm w) s'
            = .ok (moveTo s' w (moving sub onChain held account false
              [plan.lineHash])) := by
          simp [CureTurns.step, confirm, turnAt, ht', hlanded,
            -bind_pure_comp]
        exact .step rfl hconfirm (ends_moveTurn hstop
          (turns_moveTo_self _ _ _) (hkeep _ hne hvault))

-- ================================================================== the turn

/-- The line a turn finds is on file, open, on chain, and its latest event
is unhealthy. -/
theorem selected_some {A : CureExpiry.System} {r : RowId}
    {row : CreditLineRow} {id : Nat} (h : selected A r = some (row, id)) :
    A.api.db.creditLine.get r = some row ∧ row.status = .opened
      ∧ row.contractLineId = some id
      ∧ (recentEvents A r).head?.any (unhealthy ·.toState) = true := by
  unfold selected at h
  split at h
  · cases h
  next row' hrow =>
    split at h
    next hfound =>
      obtain ⟨id', hid, heq⟩ := Option.map_eq_some_iff.mp h
      cases heq
      exact ⟨hrow, hfound.1, hid, hfound.2⟩
    · cases h

/-- The turn has read all that `cureTurn` reads before it concludes. -/
theorem ends_conclude {view : CreditLine.LtvView}
    {onChain : CreditLine.Line} (hstop : plan.stop = none)
    (ht : s.turns.get w = some (.reading sub (some view) (some onChain)))
    (hline : Fresh s plan.lineHash) (hvault : Fresh s plan.vaultHash)
    (hne : plan.vaultHash ≠ plan.lineHash) :
    Ends d plan.keeper s
      (if onChain.status = .liquidating then
        seizeTurn d plan sub.row sub.line sub.contractLine onChain s.around
      else if view.state ≠ .liquidation ∨ view.priceStatus ≠ .ok then
        s.around
      else if onChain.breachLedger = none then
        attempt s.around (submit d plan.lineEnv
          (.creditLine (.poke sub.contractLine)) s.around) fun A => A
      else if plan.now
          < breachStart sub.events + sub.cureWindowS * 1000 then s.around
      else seizeTurn d plan sub.row sub.line sub.contractLine onChain
        s.around) := by
  split
  next hliq =>
    have hconclude : step d plan.keeper (.conclude w plan.now) s
        = .ok (moveTo s w (.due sub onChain true)) := by
      simp [CureTurns.step, conclude, turnAt, ht, hliq]
    exact .step rfl hconclude (ends_seizeTurn (by simp [hliq]) hstop
      (turns_moveTo_self _ _ _) hline hvault hne)
  next hliq =>
  split
  · exact .here rfl
  next hconfirmed =>
  split
  next harmed =>
    have hconclude : step d plan.keeper (.conclude w plan.now) s
        = .ok (moveTo s w (.sending (.poke sub))) := by
      simp [CureTurns.step, conclude, turnAt, ht, hliq, hconfirmed, harmed]
    exact .step rfl hconclude (ends_submit (t := .poke sub)
      (turns_moveTo_self _ _ _) hline fun s' _ _ _ _ => .here rfl)
  next harmed =>
  split
  · exact .here rfl
  next hnow =>
    have hconclude : step d plan.keeper (.conclude w plan.now) s
        = .ok (moveTo s w (.due sub onChain false)) := by
      simp [CureTurns.step, conclude, turnAt, ht, hliq, hconfirmed, harmed,
        hnow]
    exact .step rfl hconclude (ends_seizeTurn (by simp [hliq]) hstop
      (turns_moveTo_self _ _ _) hline hvault hne)

/-- A turn that nothing interrupts or stops does what `cureTurn` does:
some steps of the job alone lead where it leads. -/
theorem ends_cureTurn {r : RowId} (hstop : plan.stop = none)
    (hw : s.turns.get w = none) (hline : Fresh s plan.lineHash)
    (hvault : Fresh s plan.vaultHash)
    (hne : plan.vaultHash ≠ plan.lineHash) :
    Ends d plan.keeper s (cureTurn d plan r s.around) := by
  unfold cureTurn
  split
  · exact .here rfl
  next row id hselected =>
    obtain ⟨hrow, hopen, hid, hbad⟩ := selected_some hselected
    let sub : Subject :=
      ⟨r, row, s.around.cureWindowS r, id, recentEvents s.around r⟩
    have hselect : step d plan.keeper (.select w r) s
        = .ok (moveTo s w (.selected r row (s.around.cureWindowS r))) := by
      simp [CureTurns.step, select, hw, hrow, hopen, -bind_pure_comp]
    have hevents : step d plan.keeper (.selectEvents w)
        (moveTo s w (.selected r row (s.around.cureWindowS r)))
        = .ok (moveTo (moveTo s w (.selected r row
          (s.around.cureWindowS r))) w (.reading sub none none)) := by
      simp [CureTurns.step, selectEvents, turnAt, hid, hbad, sub]
    refine .step rfl hselect (.step rfl hevents ?_)
    generalize hs₁ : moveTo (moveTo s w (.selected r row
      (s.around.cureWindowS r))) w (.reading sub none none) = s₁
    have ht₁ : s₁.turns.get w = some (.reading sub none none) := by
      rw [← hs₁]
      exact turns_moveTo_self _ _ _
    have haround : s₁.around = s.around := by
      rw [← hs₁]
      rfl
    have hline₁ : Fresh s₁ plan.lineHash := hs₁ ▸ hline
    have hvault₁ : Fresh s₁ plan.vaultHash := hs₁ ▸ hvault
    refine .attempt haround fun view hview => ?_
    refine .attempt haround fun onChain hread => ?_
    rw [hstop, if_neg (by simp)]
    have hltv : step d plan.keeper (.readLtv w plan.readEnv) s₁
        = .ok (moveTo s₁ w (.reading sub (some view) none)) := by
      simp [CureTurns.step, readLtv, turnAt, ht₁, answered, haround, hview,
        sub]
    have hread₁ : step d plan.keeper (.readLine w)
        (moveTo s₁ w (.reading sub (some view) none))
        = .ok (moveTo (moveTo s₁ w (.reading sub (some view) none)) w
          (.reading sub (some view) (some onChain))) := by
      simp [CureTurns.step, readLine, turnAt, answered, haround, hread, sub]
    have hrest := ends_conclude (d := d) hstop
      (turns_moveTo_self (moveTo s₁ w (.reading sub (some view) none)) w
        (.reading sub (some view) (some onChain))) hline₁ hvault₁ hne
    rw [around_moveTo, around_moveTo, haround] at hrest
    exact .step rfl hltv (.step rfl hread₁ hrest)

end Ballast.Keeper.CureTurns
