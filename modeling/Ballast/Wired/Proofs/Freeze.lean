/-
Frozen collateral, and who can still move it.

# The law

`CreditLine.liquidate` freezes the units the outcome is measured
against; handing them over is the keeper's, in `PledgeVault.liquidate`,
some transactions later. Until the lender closes the line the position
should shrink by that route only, so that what was seized and what is
still there make up the frozen figure.

# Where it fails

`release` asks the credit line for its debt and its LTV and never for
its status. Once the debt is repaid, or the price is back, the borrower
takes the frozen units out (`released_while_frozen`).

# When it holds

Exactly when no release commits on the frozen line
(`frozen_collateral_iff`).
-/
import Ballast.Wired.Proofs.Mirror

namespace Ballast.Wired

open Soroban

-- ============================================================== the law

/-- The observer: units `PledgeVault.liquidate` has moved out of
`line`'s position since it was last frozen. -/
def recordSeized (line : Nat) (n : Int) (tx : Tx)
    (_w _w' : World State) : Int :=
  match tx with
  | .creditLine _ (.liquidate _ id _) => if id = line then 0 else n
  | .vault _ (.liquidate _ id _ units _) =>
      if id = line then n + units else n
  | _ => n

/-- Units seized from `line` since the freeze, at the end of a run. -/
def seized (d : Deployment) (line : Nat) (txs : List Tx) : Int :=
  (machine d).recorded 0 (recordSeized line) txs

/-- What was seized of a frozen line and what the vault still holds for
it make up the frozen units. -/
def Available (line : Nat) (s : State) (n : Int) : Prop :=
  ∀ l, s.creditLine.lines.get line = some l → l.status = .liquidating →
    ∃ r, s.creditLine.liquidation.get line = some r
      ∧ r.seizedUnits ≤ n + held s line l.asset

/-- If `tx` takes units out of a frozen line's position, it is a
seizure. -/
def SeizureOnly (d : Deployment) (line : Nat) (tx : Tx)
    (w : World State) : Prop :=
  ∀ w' l, (machine d).apply tx w = .ok w' →
    w.store.creditLine.lines.get line = some l →
    l.status = .liquidating →
    held w'.store line l.asset < held w.store line l.asset →
    ∃ env keeper units recipient,
      tx = .vault env (.liquidate keeper line l.asset units recipient)

/-- No release commits on `line` while it is frozen. -/
def NoReleaseWhileFrozen (d : Deployment) (line : Nat) (tx : Tx)
    (w : World State) : Prop :=
  ∀ env borrower asset units w',
    tx = .vault env (.release borrower line asset units) →
    (machine d).apply tx w = .ok w' →
    ∀ l, w.store.creditLine.lines.get line = some l →
      l.status ≠ .liquidating

variable {d : Deployment} {env : Env} {w w' : World State} {s s' : State}
  {line : Nat} {n : Int}

-- ============================================================= one step

/-- Only the line's own freeze or seizure touches the count. -/
theorem recordSeized_line {e : CreditLine.Entry}
    (h : ∀ k r, e ≠ .liquidate k line r) :
    recordSeized line n (.creditLine env e) w w' = n := by
  cases e with
  | liquidate k id r =>
      have hid : id ≠ line := fun heq => h k r (by rw [heq])
      simp [recordSeized, hid]
  | _ => rfl

theorem recordSeized_vault {e : PledgeVault.Entry}
    (h : e.target.map Prod.fst ≠ some line) :
    recordSeized line n (.vault env e) w w' = n := by
  cases e with
  | liquidate k id a u r =>
      have hid : id ≠ line := by
        intro heq
        apply h
        rw [heq]
        rfl
      simp [recordSeized, hid]
  | _ => rfl

/-- A call entering `CreditLine` freezes exactly what the vault holds,
and takes nothing out of a frozen position. -/
theorem available_callLine {e : CreditLine.Entry} {closed : Bool}
    (hm : Mirror d line w.store closed) (ha : Available line w.store n)
    (h : callLine d env e w = .ok w') :
    Available line w'.store
      (recordSeized line n (.creditLine env e) w w') := by
  obtain ⟨hcall, hvault⟩ := callLine_ok h
  have hheld : ∀ a, held w'.store line a = held w.store line a :=
    fun a => held_congr (by rw [hvault])
  intro l' hl' hst
  by_cases hfreeze : ∃ k r, e = .liquidate k line r
  · obtain ⟨k, r, rfl⟩ := hfreeze
    obtain ⟨l, breach, view, price, hl, -, -, hopen, -, -, -, hs⟩ :=
      CreditLine.liquidate_ok (CreditLine.onStore_ok.mp hcall).1
    have hs' : w'.store.creditLine = _ := hs
    rw [hs'] at hl'
    have hzero : recordSeized line n
        (.creditLine env (.liquidate k line r)) w w' = 0 := by
      simp [recordSeized]
    rw [hs', hzero, CreditLine.eq_of_writeLine hl', hheld]
    refine ⟨_, Store.get_set_self _ _ _, ?_⟩
    show l.pledgedUnits ≤ 0 + held w.store line l.asset
    cases hclosed : closed with
    | false =>
        rw [hm.synced l hl hclosed]
        omega
    | true =>
        have hcleared := (hm.cleared l hl hclosed).1
        rw [hopen] at hcleared
        cases hcleared
  · have hno : ∀ k r, e ≠ .liquidate k line r :=
      fun k r he => hfreeze ⟨k, r, he⟩
    rw [recordSeized_line hno]
    obtain ⟨l, hl, hlst, hasset⟩ :=
      CreditLine.call_was_liquidating hcall hno hl' hst
    obtain ⟨r, hr, hle⟩ := ha l hl hlst
    refine ⟨r, ?_, by rw [hasset, hheld]; exact hle⟩
    have hrecord : w'.store.creditLine.liquidation.get line
        = w.store.creditLine.liquidation.get line := by
      refine CreditLine.call_keeps_record hcall hno ?_
      intro a he
      subst he
      obtain ⟨x, _, _, _, -, -, -, -, -, -, -, -, heq⟩ :=
        CreditLine.closeLiquidated_ok hcall
      injection heq with _ heq
      rw [heq] at hl'
      rw [CreditLine.eq_of_writeLine hl'] at hst
      cases hst
    rw [hrecord, hr]

/-- A vault call keeps the sum, unless it releases. -/
theorem available_callVault {e : PledgeVault.Entry}
    (ha : Available line w.store n)
    (hok : NoReleaseWhileFrozen d line (.vault env e) w)
    (h : callVault d env e w = .ok w') :
    Available line w'.store (recordSeized line n (.vault env e) w w') := by
  cases callVault_ok h with
  | setup htarget hpos hline =>
      rw [recordSeized_vault (by rw [htarget]; exact fun hc => by cases hc)]
      unfold Available
      rw [hline]
      intro l hl hst
      rw [held_congr hpos]
      exact ha l hl hst
  | @position k l p' hl hunits hstep hpos hline =>
      intro l' hl' hst
      rw [hline] at hl' ⊢
      rw [held_set hpos]
      by_cases hk : line = k
      · subst hk
        rw [CreditLine.eq_of_writeLine hl'] at hst ⊢
        obtain ⟨r, hr, hle⟩ := ha l hl hst
        refine ⟨r, hr, ?_⟩
        have hheld : held w.store line l.asset
          = (PledgeVault.readPosition w.store.vault line l.asset).units := rfl
        rw [hheld] at hle
        rw [if_pos ⟨rfl, rfl⟩]
        cases hstep with
        | pledge hpositive =>
            show r.seizedUnits ≤ n + _
            split
            · show _ ≤ n + (_ + _)
              omega
            · exact hle
        | release => exact absurd hst (hok env _ _ _ w' rfl h l hl)
        | recordLien hpositive =>
            show r.seizedUnits ≤ n + (_ + _)
            omega
        | @liquidate keeper recipient units =>
            have hcount : recordSeized line n (.vault env (.liquidate keeper
                line l.asset units recipient)) w w' = n + units := by
              simp [recordSeized]
            rw [hcount]
            show r.seizedUnits ≤ n + units + (_ - units)
            omega
      · have hcount : recordSeized line n (.vault env e) w w' = n := by
          apply recordSeized_vault
          rw [hstep.target]
          intro hc
          injection hc with hc
          exact hk hc.symm
        rw [hcount, if_neg fun hc => hk hc.1]
        have hsame : w.store.creditLine.lines.get line = some l' := by
          rw [← hl']
          exact (Store.get_set_ne _ _ hk).symm
        exact ha l' hsame hst

theorem available_step {tx : Tx} {closed : Bool}
    (hm : Mirror d line w.store closed) (ha : Available line w.store n)
    (hok : NoReleaseWhileFrozen d line tx w)
    (happ : (machine d).apply tx w = .ok w') :
    Available line w'.store (recordSeized line n tx w w') := by
  cases tx with
  | creditLine env e => exact available_callLine hm ha happ
  | vault env e => exact available_callVault ha hok happ
  | outside tokens =>
      injection happ with happ
      subst happ
      exact ha

/-- Without a release, only a seizure takes units out. -/
theorem seizureOnly_of_noRelease {tx : Tx}
    (hok : NoReleaseWhileFrozen d line tx w) : SeizureOnly d line tx w := by
  intro w' l happ hl hst hlt
  cases tx with
  | creditLine env e =>
      obtain ⟨-, hvault⟩ := callLine_ok happ
      have hheld : held w'.store line l.asset = held w.store line l.asset :=
        held_congr (by rw [hvault])
      omega
  | vault env e =>
      cases callVault_ok happ with
      | setup _ hpos _ =>
          rw [held_congr hpos] at hlt
          omega
      | @position k x p' hx _ hstep hpos _ =>
          rw [held_set hpos] at hlt
          by_cases hk : line = k ∧ l.asset = x.asset
          · obtain ⟨hk, hasset⟩ := hk
            subst hk
            rw [if_pos ⟨rfl, hasset⟩] at hlt
            have hheld : held w.store line l.asset = (PledgeVault.readPosition
                w.store.vault line x.asset).units := by
              rw [hasset]
              rfl
            rw [hheld] at hlt
            cases hstep with
            | pledge hpositive =>
                split at hlt
                · have hlt' : _ + _ < _ := hlt
                  omega
                · exact absurd hlt (lt_irrefl _)
            | release => exact absurd hst (hok env _ _ _ w' rfl happ l hl)
            | recordLien hpositive =>
                have hlt' : _ + _ < _ := hlt
                omega
            | @liquidate keeper recipient units =>
                exact ⟨env, keeper, units, recipient, by rw [hasset]⟩
          · rw [if_neg hk] at hlt
            exact absurd hlt (lt_irrefl _)
  | outside tokens =>
      injection happ with happ
      subst happ
      exact absurd hlt (lt_irrefl _)

/-- A release on a frozen line takes units out and is no seizure. -/
theorem noRelease_of_seizureOnly {tx : Tx}
    (h : SeizureOnly d line tx w) : NoReleaseWhileFrozen d line tx w := by
  intro env borrower asset units w' htx happ l hl hst
  subst htx
  cases callVault_ok happ with
  | setup htarget _ _ => cases htarget
  | @position k x p' hx _ hstep hpos _ =>
      have htarget := hstep.target
      injection htarget with htarget
      injection htarget with hk hasset
      subst hk
      rw [hl] at hx
      injection hx with hx
      subst hx
      have hlt : held w'.store line l.asset < held w.store line l.asset := by
        rw [held_set hpos, if_pos ⟨rfl, rfl⟩]
        cases hstep with
        | release hpositive _ =>
            show _ - units < (PledgeVault.readPosition w.store.vault line
              l.asset).units
            omega
      obtain ⟨_, _, _, _, htx⟩ := h w' l happ hl hst hlt
      cases htx

-- ============================================================= all runs

theorem available_run {txs : List Tx}
    (h : (machine d).Allowed (KeepsWiring d) (machine d).init txs)
    (hok : (machine d).Allowed (NoReleaseWhileFrozen d line)
      (machine d).init txs) :
    Available line ((machine d).run (machine d).init txs).store
      (seized d line txs) := by
  have hboth : (∃ closed, Mirror d line
        ((machine d).run (machine d).init txs).store closed)
      ∧ Available line ((machine d).run (machine d).init txs).store
        (seized d line txs) := by
    refine Machine.recorded_induction (M := machine d)
      (P := fun w n => (∃ closed, Mirror d line w.store closed)
        ∧ Available line w.store n) ⟨⟨false, ?_⟩, ?_⟩ ?_ (h.and hok)
    · have hnil : (machine d).Allowed (KeepsWiring d) (machine d).init [] :=
        trivial
      exact mirror_run hnil line
    · intro l hl
      cases hl
    · intro w n tx w' hw hstep happ
      obtain ⟨⟨closed, hm⟩, ha⟩ := hw
      exact ⟨⟨_, mirror_step hm hstep.1 happ⟩,
        available_step hm ha hstep.2 happ⟩
  exact hboth.2

/-- The law over whole wired runs, with the exact condition: units
leave a frozen line's position only by seizure, and seized plus
remaining units always cover the frozen figure, if and only if no
release of the run commits on the frozen line. -/
theorem frozen_collateral_iff (d : Deployment) (line : Nat)
    (txs : List Tx)
    (h : (machine d).Allowed (KeepsWiring d) (machine d).init txs) :
    ((∀ pre tx post, txs = pre ++ tx :: post →
        SeizureOnly d line tx ((machine d).run (machine d).init pre))
      ∧ ∀ pre post, txs = pre ++ post →
        Available line ((machine d).run (machine d).init pre).store
          (seized d line pre))
    ↔ (machine d).Allowed (NoReleaseWhileFrozen d line)
        (machine d).init txs := by
  constructor
  · intro hlaw
    refine Machine.allowed_of_prefix ?_
    intro pre tx post htxs
    exact noRelease_of_seizureOnly (hlaw.1 pre tx post htxs)
  · intro hok
    constructor
    · intro pre tx post htxs
      subst htxs
      obtain ⟨-, htail⟩ := Machine.Allowed.append.mp hok
      exact seizureOnly_of_noRelease htail.1
    · intro pre post htxs
      subst htxs
      exact available_run (Machine.Allowed.append.mp h).1
        (Machine.Allowed.append.mp hok).1

/-- Freeze at 0.20, price back at 1.00, keeper seizes 2000 of the 5000
units: the 3000 left make up the rest. -/
theorem frozen_collateral_iff_demo :
    let txs := Demo.frozen ++ [.vault (Demo.env 0 7 10000000)
      (.liquidate ⟨1⟩ 0 Demo.asset 2000 Demo.lender)]
    let w := (machine Demo.deployment).run (machine Demo.deployment).init txs
    seized Demo.deployment 0 txs = 2000
      ∧ held w.store 0 Demo.asset = 3000
      ∧ Available 0 w.store (seized Demo.deployment 0 txs) := by
  intro txs w
  refine ⟨by decide +kernel, by decide +kernel, ?_⟩
  have hwired : (machine Demo.deployment).Allowed
      (KeepsWiring Demo.deployment) (machine Demo.deployment).init txs := by
    simp [txs, Demo.frozen, Demo.lent, Machine.Allowed, KeepsWiring]
  refine ((frozen_collateral_iff Demo.deployment 0 txs hwired).mpr ?_).2
    txs [] (by simp)
  refine Machine.allowed_of_prefix ?_
  intro pre tx post htxs env borrower asset units w' htx
  have hmem : tx ∈ txs := by
    rw [htxs]
    simp
  subst htx
  simp [txs, Demo.frozen, Demo.lent] at hmem

/-- The law fails as stated: with the price back at 1.00 the borrower
releases 3000 of the 5000 units frozen in ledger 6, leaving 2000 for a
record that still says 5000. -/
theorem released_while_frozen :
    let tx : Tx := .vault (Demo.env 0 7 10000000)
      (.release Demo.borrower 0 Demo.asset 3000)
    let w := (machine Demo.deployment).run (machine Demo.deployment).init
      (Demo.frozen ++ [tx])
    (w.store.creditLine.lines.get 0).map CreditLine.Line.status
        = some .liquidating
      ∧ (w.store.creditLine.liquidation.get 0).map
          CreditLine.LiquidationRecord.seizedUnits = some 5000
      ∧ seized Demo.deployment 0 (Demo.frozen ++ [tx]) = 0
      ∧ held w.store 0 Demo.asset = 2000
      ∧ ¬ SeizureOnly Demo.deployment 0 tx
          ((machine Demo.deployment).run (machine Demo.deployment).init
            Demo.frozen)
      ∧ ¬ Available 0 w.store
          (seized Demo.deployment 0 (Demo.frozen ++ [tx])) := by
  intro tx w
  have hline : (w.store.creditLine.lines.get 0).map
      (fun l => (l.status, l.asset)) = some (.liquidating, Demo.asset) := by
    decide +kernel
  have hrecord : (w.store.creditLine.liquidation.get 0).map
      CreditLine.LiquidationRecord.seizedUnits = some 5000 := by
    decide +kernel
  have hcount : seized Demo.deployment 0 (Demo.frozen ++ [tx]) = 0 := by
    decide +kernel
  have hheld : held w.store 0 Demo.asset = 2000 := by decide +kernel
  refine ⟨by decide +kernel, hrecord, hcount, hheld, ?_, ?_⟩
  · intro honly
    have happ : (machine Demo.deployment).apply tx
        ((machine Demo.deployment).run (machine Demo.deployment).init
          Demo.frozen) = .ok w := Machine.apply_of_isOk (by decide +kernel)
    have hbefore : (((machine Demo.deployment).run
        (machine Demo.deployment).init
        Demo.frozen).store.creditLine.lines.get 0).map
        (fun l => (l.status, l.asset)) = some (.liquidating, Demo.asset) := by
      decide +kernel
    obtain ⟨l, hl, hfields⟩ := Option.map_eq_some_iff.mp hbefore
    injection hfields with hst hasset
    have hlt : held w.store 0 l.asset < held ((machine
        Demo.deployment).run (machine Demo.deployment).init
        Demo.frozen).store 0 l.asset := by
      rw [hasset]
      decide +kernel
    obtain ⟨_, _, _, _, htx⟩ := honly w l happ hl hst hlt
    injection htx with _ hentry
    cases hentry
  · intro havail
    obtain ⟨l, hl, hfields⟩ := Option.map_eq_some_iff.mp hline
    injection hfields with hst hasset
    obtain ⟨r, hr, hle⟩ := havail l hl hst
    rw [hr] at hrecord
    injection hrecord with hrecord
    rw [hcount, hasset, hheld, hrecord] at hle
    omega

end Ballast.Wired
