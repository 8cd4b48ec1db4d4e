/-
What a line has drawn, and what on the chain changes it: a draw adds its
amount, a repayment takes off the principal it retires, and a close
clears it. Everything else leaves it alone, whichever contract it
enters.

The figure is the contract's, read through the line's id, and the id was
minted once. So what can change it is one of three entry points of the
credit line, under that id, from inside our own transactions or from
outside (`DebtStep`); the vault reaches the line only to report units. A
landing of ours is such a step too, and the last lemmas say which.
-/
import Ballast.Api.Chain
import Ballast.Api.Proofs.Steps
import Ballast.Wired.Proofs.Mirror

namespace Ballast.Api

open Soroban Machine

variable {d : Deployed} {start c c' : Chain} {line : Nat} {tx : ChainTx}

/-- What the contract shows the line as having drawn. -/
def drawnOf (c : Chain) (line : Nat) : Int :=
  ((c.lending.creditLine.lines.get line).map (·.drawn)).getD 0

/-- The line is on the contract, under an id that is never minted
again. -/
structure LineUp (c : Chain) (line : Nat) : Prop where
  fresh : CreditLine.FreshIds c.lending.creditLine
  line : ∃ l, c.lending.creditLine.lines.get line = some l ∧ 0 ≤ l.drawn
    ∧ 0 ≤ l.accruedInterest

/-- The line whose drawn figure an entry point changes. -/
def debtLine : CreditLine.Entry → Option Nat
  | .draw _ id _ _ => some id
  | .repay _ id _ => some id
  | .closeLiquidated _ id => some id
  | _ => none

def Envelope.debtLine : Envelope → Option Nat
  | .creditLine e => Api.debtLine e
  | _ => none

def ChainTx.debtLine : ChainTx → Option Nat
  | .lending (.creditLine _ e) => Api.debtLine e
  | _ => none

theorem debtLine_invoke (env : Env) (e : Envelope) :
    (e.invoke env).debtLine = e.debtLine := by
  cases e <;> rfl

/-- What a repayment closing in `env` finds owed on the line. -/
def owedAt (env : Env) (c : Chain) (line : Nat) : Call Int := do
  let l ← CreditLine.readLine c.lending.creditLine line
  let delta ← CreditLine.interestDelta l env.timestamp
  return l.accruedInterest + delta + l.drawn

/-- What happens on the chain to what a line has drawn. -/
inductive DebtStep (d : Deployed) (line : Nat) (c c' : Chain) :
    ChainTx → Prop
  | other {tx : ChainTx} : tx.debtLine ≠ some line →
      drawnOf c' line = drawnOf c line → DebtStep d line c c' tx
  | draw {env : Env} {borrower recipient : Address} {amount : Int} :
      0 < amount → drawnOf c' line = drawnOf c line + amount →
      DebtStep d line c c'
        (.lending (.creditLine env (.draw borrower line amount recipient)))
  | repay {env : Env} {payer : Address}
      {amount applied owed principal : Int} {w' : World CreditLine.State} :
      CreditLine.repay (d.lending.enter env d.lending.creditLine) payer line
        amount ⟨c.tokens, c.lending.creditLine⟩ = .ok (applied, w') →
      owedAt env c line = .ok owed → applied = min amount owed →
      0 ≤ principal → principal ≤ amount →
      drawnOf c' line = drawnOf c line - principal →
      DebtStep d line c c'
        (.lending (.creditLine env (.repay payer line amount)))

theorem drawnOf_line {l : CreditLine.Line}
    (hl : c.lending.creditLine.lines.get line = some l) :
    drawnOf c line = l.drawn := by
  simp [drawnOf, hl]

/-- A step of a stored line that is none of the three leaves its debt. -/
theorem debt_kept {env : Env} {s : CreditLine.State} {e : CreditLine.Entry}
    {l l' : CreditLine.Line} (hstep : CreditLine.LineStep env s line e l l')
    (hmoves : debtLine e ≠ some line) :
    l'.drawn = l.drawn ∧ l'.accruedInterest = l.accruedInterest := by
  cases hstep with
  | draw => exact absurd rfl hmoves
  | repay => exact absurd rfl hmoves
  | closeLiquidated => exact absurd rfl hmoves
  | _ => exact ⟨rfl, rfl⟩

theorem debt_callLine {env : Env} {e : CreditLine.Entry}
    {w : World Wired.State} (hup : LineUp c line)
    (hclose : ∀ a, e ≠ .closeLiquidated a line)
    (hcall : Wired.callLine d.lending env e ⟨c.tokens, c.lending⟩ = .ok w)
    (hc' : c' = { c with tokens := w.tokens, lending := w.store }) :
    DebtStep d line c c' (.lending (.creditLine env e)) ∧ LineUp c' line := by
  subst hc'
  obtain ⟨hcall, -⟩ := Wired.callLine_ok hcall
  have hfresh : CreditLine.FreshIds w.store.creditLine :=
    CreditLine.FreshIds.call hup.fresh hcall
  obtain ⟨l, hl, hdrawn, haccrued⟩ := hup.line
  have hbefore : drawnOf c line = l.drawn := drawnOf_line hl
  have hupTo : ∀ l', w.store.creditLine.lines.get line = some l' →
      0 ≤ l'.drawn → 0 ≤ l'.accruedInterest →
      LineUp { c with tokens := w.tokens, lending := w.store } line :=
    fun l' hl' hd ha => ⟨hfresh, l', hl', hd, ha⟩
  by_cases hmoves : debtLine e = some line
  · cases e with
    | draw borrower id amount recipient =>
        have hid : id = line := Option.some.inj hmoves
        subst hid
        obtain ⟨l₁, config, guarded, delta, cv, bps, -, hamount, hl₁, -, -,
          hdelta, -, -, -, -, -, -, -, -, hw⟩ := CreditLine.draw_ok hcall
        have hline : l = l₁ := Option.some.inj (hl.symm.trans hl₁)
        subst hline
        -- interest only grows, so what is booked stays non-negative
        have hnonneg := CreditLine.interestDelta_nonneg hdelta hdrawn
        injection hw with _ hstore
        have hafter : w.store.creditLine.lines.get id = some
            { l with
              accruedInterest := l.accruedInterest + delta
              lastAccrualTs := (d.lending.enter env
                d.lending.creditLine).timestamp
              drawn := l.drawn + amount
              marginState := .healthy } := by
          rw [hstore]
          exact Store.get_set_self _ _ _
        refine ⟨.draw hamount ?_, hupTo _ hafter ?_ ?_⟩
        · rw [hbefore, drawnOf_line hafter]
        · show 0 ≤ l.drawn + amount
          omega
        · show 0 ≤ l.accruedInterest + delta
          omega
    | repay payer id amount =>
        have hid : id = line := Option.some.inj hmoves
        subst hid
        obtain ⟨⟨applied, w₁⟩, hrepay, hw₁⟩ := map_ok.mp hcall
        obtain ⟨l₁, config, delta, payInterest, -, hamount, hl₁, -, hdelta,
          howed, happlied, hinterest, hle, -, hw⟩ :=
          CreditLine.repay_ok hrepay
        have hline : l = l₁ := Option.some.inj (hl.symm.trans hl₁)
        subst hline
        have hnonneg := CreditLine.interestDelta_nonneg hdelta hdrawn
        have hstore : w.store.creditLine = w₁.store :=
          (congrArg World.store hw₁).symm
        have hafter : w.store.creditLine.lines.get id = some
            { l with
              accruedInterest := l.accruedInterest + delta - payInterest
              lastAccrualTs := (d.lending.enter env
                d.lending.creditLine).timestamp
              drawn := l.drawn - (applied - payInterest) } := by
          rw [hstore, hw]
          exact Store.get_set_self _ _ _
        -- the principal part is what is left of the payment after the
        -- interest
        have howedAt : owedAt env c id
            = .ok (l.accruedInterest + delta + l.drawn) := by
          have hdelta' : CreditLine.interestDelta l env.timestamp
              = .ok delta := hdelta
          simp only [owedAt, CreditLine.readLine, hl, bind_ok, expect_ok,
            pure_ok]
          exact ⟨l, rfl, delta, hdelta', rfl⟩
        have hprincipal : drawnOf { c with
            tokens := w.tokens
            lending := w.store } id
            = drawnOf c id - (applied - payInterest) := by
          rw [hbefore]
          exact drawnOf_line (c :=
            { c with tokens := w.tokens, lending := w.store }) hafter
        refine ⟨.repay hrepay howedAt happlied ?_ ?_ hprincipal,
          hupTo _ hafter ?_ ?_⟩
        · omega
        · omega
        · show 0 ≤ l.drawn - (applied - payInterest)
          omega
        · show 0 ≤ l.accruedInterest + delta - payInterest
          omega
    | closeLiquidated a id =>
        have hid : id = line := Option.some.inj hmoves
        exact absurd (by rw [hid]) (hclose a)
    | _ => cases hmoves
  · cases CreditLine.call_line hcall line with
    | same hsame =>
        have hafter : w.store.creditLine.lines.get line = some l :=
          hsame.trans hl
        refine ⟨.other hmoves ?_, hupTo l hafter hdrawn haccrued⟩
        rw [hbefore, drawnOf_line hafter]
    -- a new line is minted under an id that was free
    | opened _ hid _ =>
        have hnone := hup.fresh line (by rw [hid])
        rw [hnone] at hl
        cases hl
    | step hl₁ hafter hstep =>
        have hline := Option.some.inj (hl.symm.trans hl₁)
        subst hline
        obtain ⟨hsameD, hsameA⟩ := debt_kept hstep hmoves
        refine ⟨.other hmoves ?_, hupTo _ hafter (by omega) (by omega)⟩
        rw [hbefore, drawnOf_line hafter, hsameD]

theorem debt_callVault {env : Env} {e : PledgeVault.Entry}
    {w : World Wired.State} (hup : LineUp c line)
    (hcall : Wired.callVault d.lending env e ⟨c.tokens, c.lending⟩ = .ok w)
    (hc' : c' = { c with tokens := w.tokens, lending := w.store }) :
    drawnOf c' line = drawnOf c line ∧ LineUp c' line := by
  subst hc'
  obtain ⟨l, hl, hdrawn, haccrued⟩ := hup.line
  rw [drawnOf_line hl]
  cases Wired.callVault_ok hcall with
  | setup _ _ hsame =>
      have hafter : w.store.creditLine.lines.get line = some l := by
        rw [hsame]
        exact hl
      have hfresh : CreditLine.FreshIds w.store.creditLine := by
        rw [hsame]
        exact hup.fresh
      exact ⟨drawnOf_line hafter, hfresh, l, hafter, hdrawn, haccrued⟩
  | @position k l₁ p' hl₁ _ _ _ hwrite =>
      have hfresh : CreditLine.FreshIds w.store.creditLine := by
        rw [hwrite]
        exact hup.fresh.writeLine hl₁
      by_cases hk : line = k
      · subst hk
        have hline : l = l₁ := Option.some.inj (hl.symm.trans hl₁)
        subst hline
        have hafter : w.store.creditLine.lines.get line
            = some { l with pledgedUnits := p'.units } := by
          rw [hwrite]
          exact Store.get_set_self _ _ _
        have hsame := drawnOf_line (c :=
          { c with tokens := w.tokens, lending := w.store }) hafter
        exact ⟨hsame, hfresh, _, hafter, hdrawn, haccrued⟩
      · have hafter : w.store.creditLine.lines.get line = some l := by
          rw [hwrite]
          exact (Store.get_set_ne _ _ hk).trans hl
        exact ⟨drawnOf_line hafter, hfresh, l, hafter, hdrawn, haccrued⟩

/-- Whatever happens on the chain, short of closing the line out, is a
`DebtStep` of it. -/
theorem debt_step (hup : LineUp c line)
    (happ : (chainMachine d start).apply tx c = .ok c')
    (hclose : ∀ env a,
      tx ≠ .lending (.creditLine env (.closeLiquidated a line))) :
    DebtStep d line c c' tx ∧ LineUp c' line := by
  cases tx with
  | lending tx =>
      obtain ⟨w, hw, hc'⟩ := map_ok.mp happ
      cases tx with
      | creditLine env e =>
          refine debt_callLine hup ?_ hw hc'.symm
          intro a ha
          exact hclose env a (by rw [ha])
      | vault env e =>
          obtain ⟨hsame, hup'⟩ := debt_callVault hup hw hc'.symm
          exact ⟨.other (by simp [ChainTx.debtLine]) hsame, hup'⟩
      | outside tokens =>
          injection hw with hw
          subst hw
          subst hc'
          exact ⟨.other (by simp [ChainTx.debtLine]) rfl, hup.fresh, hup.line⟩
  | repo tx =>
      obtain ⟨w, -, hc'⟩ := map_ok.mp happ
      subst hc'
      exact ⟨.other (by simp [ChainTx.debtLine]) rfl, hup.fresh, hup.line⟩
  | desk tx =>
      obtain ⟨w, -, hc'⟩ := map_ok.mp happ
      subst hc'
      exact ⟨.other (by simp [ChainTx.debtLine]) rfl, hup.fresh, hup.line⟩

-- ============================================================== landings

variable {env : Env} {e : Envelope} {x : Landing Chain}

/-- A line that is up stays up when a transaction of ours lands that does
not close it. -/
theorem Lands.up (h : Lands (network d start) env e c x)
    (hup : LineUp c line)
    (hclose : ∀ a, e ≠ .creditLine (.closeLiquidated a line)) :
    LineUp x.after line := by
  cases h with
  | failed => exact hup
  | success happ =>
      refine (debt_step hup happ ?_).2
      intro env' a heq
      cases e with
      | creditLine e =>
          injection heq with heq
          injection heq with _ heq
          exact hclose a (by rw [heq])
      | _ => cases heq

/-- What does not touch the line's debt leaves it. -/
theorem Lands.other (h : Lands (network d start) env e c x)
    (hup : LineUp c line) (he : e.debtLine ≠ some line) :
    drawnOf x.after line = drawnOf c line := by
  cases h with
  | failed => rfl
  | success happ =>
      have happ' : (chainMachine d start).apply (e.invoke env) c
          = .ok _ := happ
      have htx : (e.invoke env).debtLine ≠ some line := by
        rw [debtLine_invoke]
        exact he
      have hclose : ∀ env' a, e.invoke env
          ≠ .lending (.creditLine env' (.closeLiquidated a line)) := by
        intro env' a heq
        rw [heq] at htx
        exact htx rfl
      generalize e.invoke env = tx at happ' htx hclose
      cases (debt_step hup happ' hclose).1 with
      | other _ hsame => exact hsame
      | draw => exact absurd rfl htx
      | repay => exact absurd rfl htx

/-- A draw that lands either fails or adds its amount. -/
theorem Lands.draw {borrower recipient : Address} {amount : Int}
    (h : Lands (network d start) env
      (.creditLine (.draw borrower line amount recipient)) c x)
    (hup : LineUp c line) :
    (∃ ledger v, x.outcome = .success ledger v
        ∧ drawnOf x.after line = drawnOf c line + amount)
      ∨ ∃ ledger, x.outcome = .failed ledger ∧ x.after = c := by
  cases h with
  | failed => exact .inr ⟨_, rfl, rfl⟩
  | @success c' happ =>
      have happ' : (chainMachine d start).apply (.lending (.creditLine env
          (.draw borrower line amount recipient))) c = .ok c' := happ
      cases (debt_step hup happ' (by simp)).1 with
      | other hne => exact absurd rfl hne
      | draw _ hdrawn => exact .inl ⟨_, _, rfl, hdrawn⟩

/-- A repayment that lands either fails or applies what was owed, up to
its amount, and takes the principal part off. -/
theorem Lands.repay {payer : Address} {amount : Int}
    (h : Lands (network d start) env
      (.creditLine (.repay payer line amount)) c x)
    (hup : LineUp c line) :
    (∃ ledger owed principal, x.outcome = .success ledger (min amount owed)
        ∧ owedAt env c line = .ok owed ∧ 0 ≤ principal
        ∧ principal ≤ amount
        ∧ drawnOf x.after line = drawnOf c line - principal)
      ∨ ∃ ledger, x.outcome = .failed ledger ∧ x.after = c := by
  cases h with
  | failed => exact .inr ⟨_, rfl, rfl⟩
  | @success c' happ =>
      have happ' : (chainMachine d start).apply (.lending (.creditLine env
          (.repay payer line amount))) c = .ok c' := happ
      cases (debt_step hup happ' (by simp)).1 with
      | other hne => exact absurd rfl hne
      | repay hrepay howed happlied hnonneg hle hdrawn =>
          refine .inl ⟨env.sequence, _, _, ?_, howed, hnonneg, hle, hdrawn⟩
          show Outcome.success _ (Envelope.returns d env c
            (.creditLine (.repay payer line amount))) = _
          rw [Envelope.returns, hrepay, ← happlied]

end Ballast.Api
