/-
The line's collateral figure mirrors the vault's position.

`CreditLine.pledgedUnits` and `PledgeVault`'s position are two copies
of one number. `Mirror` is what keeps them together along a run: equal
after every vault operation, and apart only after a close, which zeroes
the line's copy and leaves the position for the keeper to hand over.
`closedSince` records which of the two came last.

The change law (`pledgedUnits_changes`) says who may touch the line's
copy at all. Both rest on one fact about authorization: nobody outside
can present the vault's (`not_grants_vault`), so `sync_from_vault` runs
only inside a vault operation, which has just written the figure it
reports.
-/
import Ballast.Wired.Basic
import Ballast.CreditLine.Proofs.Steps
import Ballast.PledgeVault.Proofs.Steps

namespace Ballast.Wired

open Soroban

variable {d : Deployment} {env : Env} {w w' : World State} {s s' : State}
  {line : Nat}

-- ================================================= what a transaction does

/-- Nobody outside speaks for the vault. -/
theorem not_grants_vault (self : Address) :
    ¬ (d.enter env self).Grants d.vault := by
  intro h
  have hauth := h.2
  simp [Deployment.enter] at hauth

theorem callLine_ok {e : CreditLine.Entry}
    (h : callLine d env e w = .ok w') :
    CreditLine.call (d.enter env d.creditLine) e
        ⟨w.tokens, w.store.creditLine⟩
        = .ok ⟨w'.tokens, w'.store.creditLine⟩
      ∧ w'.store.vault = w.store.vault := by
  unfold callLine at h
  obtain ⟨w₁, hcall, hw'⟩ := map_ok.mp h
  rw [← hw']
  exact ⟨hcall, rfl⟩

/-- What a committed vault call does to both contracts: no position and
no line, or one position of a line in its own asset, with the line's
figure set to the position's units. -/
inductive VaultMove (e : PledgeVault.Entry) (s s' : State) : Prop
  | setup : e.target = none → s'.vault.positions = s.vault.positions →
      s'.creditLine = s.creditLine → VaultMove e s s'
  | position {line : Nat} {l : CreditLine.Line}
      {p' : PledgeVault.Position} :
      s.creditLine.lines.get line = some l → 0 ≤ p'.units →
      PledgeVault.PositionStep line l.asset
        (PledgeVault.readPosition s.vault line l.asset) e p' →
      s'.vault.positions = s.vault.positions.set (line, l.asset) p' →
      s'.creditLine = CreditLine.writeLine s.creditLine line
        { l with pledgedUnits := p'.units } → VaultMove e s s'

theorem callVault_ok {e : PledgeVault.Entry}
    (h : callVault d env e w = .ok w') : VaultMove e w.store w'.store := by
  unfold callVault at h
  obtain ⟨w₁, hcall, hw'⟩ := map_ok.mp h
  rw [← hw']
  cases PledgeVault.call_effect hcall with
  | setup htarget hpos hpeers => exact .setup htarget hpos hpeers
  | position _ hstep hpos _ hsync =>
      simp only [Deployment.lineInterface, Deployment.reach, bind_ok,
        ensure_ok, exists_const] at hsync
      obtain ⟨l, -, -, hunits, hl, hasset, hpeers⟩ :=
        CreditLine.syncFromVault_ok hsync.2
      subst hasset
      exact .position hl hunits hstep hpos hpeers

/-- The vault holds for (`line`, `a`) what was last written there. -/
theorem held_set {k : Nat} {a asset : Address}
    {p' : PledgeVault.Position}
    (h : s'.vault.positions = s.vault.positions.set (k, asset) p') :
    held s' line a
      = if line = k ∧ a = asset then p'.units else held s line a := by
  unfold held PledgeVault.positionUnits
  rw [PledgeVault.readPosition_set h]
  split <;> rfl

theorem held_congr {a : Address}
    (h : s'.vault.positions = s.vault.positions) :
    held s' line a = held s line a := by
  unfold held PledgeVault.positionUnits PledgeVault.readPosition
  rw [h]

-- ======================================================= who may change it

/-- `CreditLine` trusts no vault but this one. -/
def TrustsVault (d : Deployment) (s : State) : Prop :=
  ∀ v, s.creditLine.vault = some v → v = d.vault

/-- What a committed call entering `CreditLine` does, in a wired run, to
the line's figure: nothing unless it closes the line. -/
inductive LineMove (e : CreditLine.Entry) (line : Nat) (s s' : State) :
    Prop
  | absent : s.creditLine.lines.get line = none →
      s'.creditLine.lines.get line = none →
      (∀ a, e ≠ .closeLiquidated a line) → LineMove e line s s'
  | opened {l' : CreditLine.Line} : s.creditLine.lines.get line = none →
      s'.creditLine.lines.get line = some l' → l'.pledgedUnits = 0 →
      (∀ a, e ≠ .closeLiquidated a line) → LineMove e line s s'
  | kept {l l' : CreditLine.Line} :
      s.creditLine.lines.get line = some l →
      s'.creditLine.lines.get line = some l' → l'.asset = l.asset →
      l'.pledgedUnits = l.pledgedUnits →
      (l.status = .closed → l'.status = .closed) →
      (∀ a, e ≠ .closeLiquidated a line) → LineMove e line s s'
  | closed {l l' : CreditLine.Line} {a : Address} :
      e = .closeLiquidated a line →
      s.creditLine.lines.get line = some l →
      s'.creditLine.lines.get line = some l' → l'.asset = l.asset →
      l'.pledgedUnits = 0 → l'.status = .closed → LineMove e line s s'

theorem callLine_move {e : CreditLine.Entry}
    (htrust : TrustsVault d w.store)
    (hok : KeepsWiring d (.creditLine env e) w)
    (hfresh : CreditLine.FreshIds w.store.creditLine)
    (h : callLine d env e w = .ok w') (line : Nat) :
    LineMove e line w.store w'.store := by
  obtain ⟨hcall, -⟩ := callLine_ok h
  by_cases hclose : ∃ a, e = .closeLiquidated a line
  · obtain ⟨a, rfl⟩ := hclose
    obtain ⟨l, record, recovered, tokens, -, hl, -, -, -, -, -, -, heq⟩ :=
      CreditLine.closeLiquidated_ok hcall
    injection heq with _ heq
    have hl' : w'.store.creditLine.lines.get line
        = some (CreditLine.closedLine l (l.funded - l.drawn)) := by
      rw [heq]
      exact Store.get_set_self _ _ _
    exact .closed rfl hl hl' rfl rfl rfl
  have hno : ∀ a, e ≠ .closeLiquidated a line :=
    fun a he => hclose ⟨a, he⟩
  cases CreditLine.call_line hcall line with
  | same hsame =>
      have hsame' : w'.store.creditLine.lines.get line
          = w.store.creditLine.lines.get line := hsame
      cases hl : w.store.creditLine.lines.get line with
      | none => exact .absent hl (hsame'.trans hl) hno
      | some l => exact .kept hl (hsame'.trans hl) rfl rfl id hno
  | opened _ hnew hl' => exact .opened (hfresh line hnew.ge) hl' rfl hno
  | step hl hl' hstep =>
      cases hstep with
      | syncFromVault hauth hvault =>
          rw [htrust _ hvault] at hauth
          exact absurd hauth (not_grants_vault _)
      | syncCollateral => exact hok.elim
      | liquidate _ _ hopen =>
          refine .kept hl hl' rfl rfl ?_ hno
          intro hclosed
          rw [hopen] at hclosed
          cases hclosed
      | closeLiquidated => exact absurd rfl (hno _)
      | _ => exact .kept hl hl' rfl rfl id hno

-- ============================================================ the mirror

/-- The observer: has `line` been closed since its last vault
operation? -/
def recordClosed (line : Nat) (closed : Bool) (tx : Tx)
    (_w _w' : World State) : Bool :=
  match tx with
  | .creditLine _ (.closeLiquidated _ id) =>
      if id = line then true else closed
  | .vault _ e =>
      if e.target.map Prod.fst = some line then false else closed
  | _ => closed

/-- `line` was closed after the last vault operation on it. -/
def closedSince (d : Deployment) (line : Nat) (txs : List Tx) : Bool :=
  (machine d).recorded false (recordClosed line) txs

/-- The line's figure is the position's, unless a close zeroed it. -/
structure Mirror (d : Deployment) (line : Nat) (s : State)
    (closed : Bool) : Prop where
  trusts : TrustsVault d s
  fresh : CreditLine.FreshIds s.creditLine
  held_nonneg : ∀ a, 0 ≤ held s line a
  unopened : s.creditLine.lines.get line = none →
    closed = false ∧ ∀ a, held s line a = 0
  synced : ∀ l, s.creditLine.lines.get line = some l → closed = false →
    l.pledgedUnits = held s line l.asset
  cleared : ∀ l, s.creditLine.lines.get line = some l → closed = true →
    l.status = .closed ∧ l.pledgedUnits = 0

variable {closed : Bool}

theorem TrustsVault.callLine {e : CreditLine.Entry}
    (hs : TrustsVault d w.store)
    (hok : KeepsWiring d (.creditLine env e) w)
    (h : callLine d env e w = .ok w') : TrustsVault d w'.store := by
  intro v hv
  obtain ⟨hcall, -⟩ := callLine_ok h
  rcases (CreditLine.call_store hcall).vault with hsame | ⟨admin, x, he, hx⟩
  · exact hs v (hsame ▸ hv)
  · subst he
    have hxv : some x = some v := hx.symm.trans hv
    injection hxv with hxv
    rw [← hxv]
    exact hok

/-- Only a close of `line` sets the flag. -/
theorem recordClosed_line {e : CreditLine.Entry}
    (h : ∀ a, e ≠ .closeLiquidated a line) :
    recordClosed line closed (.creditLine env e) w w' = closed := by
  cases e with
  | closeLiquidated a id =>
      have hid : id ≠ line := fun heq => h a (by rw [heq])
      simp [recordClosed, hid]
  | _ => rfl

/-- The mirror of a stored line, by the figures it is stored with. -/
theorem Mirror.of_line {l : CreditLine.Line} (htrusts : TrustsVault d s)
    (hfresh : CreditLine.FreshIds s.creditLine)
    (hnonneg : ∀ a, 0 ≤ held s line a)
    (hl : s.creditLine.lines.get line = some l)
    (hsynced : closed = false → l.pledgedUnits = held s line l.asset)
    (hcleared : closed = true → l.status = .closed ∧ l.pledgedUnits = 0) :
    Mirror d line s closed := by
  refine ⟨htrusts, hfresh, hnonneg, ?_, ?_, ?_⟩
  · intro hx
    rw [hl] at hx
    cases hx
  · intro x hx hfalse
    rw [hl] at hx
    injection hx with hx
    rw [← hx]
    exact hsynced hfalse
  · intro x hx htrue
    rw [hl] at hx
    injection hx with hx
    rw [← hx]
    exact hcleared htrue

/-- What leaves the line and its positions alone keeps the mirror. -/
theorem Mirror.of_same (hm : Mirror d line s closed)
    (htrusts : TrustsVault d s')
    (hfresh : CreditLine.FreshIds s'.creditLine)
    (hline : s'.creditLine.lines.get line = s.creditLine.lines.get line)
    (hheld : ∀ a, held s' line a = held s line a) :
    Mirror d line s' closed := by
  refine ⟨htrusts, hfresh, ?_, ?_, ?_, ?_⟩
  · intro a
    rw [hheld]
    exact hm.held_nonneg a
  · rw [hline]
    intro hl
    obtain ⟨hfalse, hzero⟩ := hm.unopened hl
    exact ⟨hfalse, fun a => by rw [hheld, hzero]⟩
  · rw [hline]
    intro l hl hfalse
    rw [hheld]
    exact hm.synced l hl hfalse
  · rw [hline]
    exact hm.cleared

theorem mirror_callLine {e : CreditLine.Entry}
    (hm : Mirror d line w.store closed)
    (hok : KeepsWiring d (.creditLine env e) w)
    (h : callLine d env e w = .ok w') :
    Mirror d line w'.store
      (recordClosed line closed (.creditLine env e) w w') := by
  obtain ⟨hcall, hvault⟩ := callLine_ok h
  have hheld : ∀ a, held w'.store line a = held w.store line a :=
    fun a => held_congr (by rw [hvault])
  have htrusts := hm.trusts.callLine hok h
  have hfresh := hm.fresh.call hcall
  have hnonneg : ∀ a, 0 ≤ held w'.store line a := by
    intro a
    rw [hheld]
    exact hm.held_nonneg a
  cases callLine_move hm.trusts hok hm.fresh h line with
  | absent hl hl' hno =>
      rw [recordClosed_line hno]
      exact hm.of_same htrusts hfresh (hl'.trans hl.symm) hheld
  | opened hl hl' hpledged hno =>
      obtain ⟨hflag, hzero⟩ := hm.unopened hl
      rw [recordClosed_line hno]
      refine .of_line htrusts hfresh hnonneg hl' ?_ ?_
      · intro _
        rw [hpledged, hheld, hzero]
      · intro hclosed
        rw [hflag] at hclosed
        cases hclosed
  | kept hl hl' hasset hpledged hstays hno =>
      rw [recordClosed_line hno]
      refine .of_line htrusts hfresh hnonneg hl' ?_ ?_
      · intro hflag
        rw [hpledged, hasset, hheld]
        exact hm.synced _ hl hflag
      · intro hflag
        obtain ⟨hst, hzero⟩ := hm.cleared _ hl hflag
        rw [hpledged]
        exact ⟨hstays hst, hzero⟩
  | closed he hl hl' hasset hpledged hst =>
      have hflag : recordClosed line closed (.creditLine env e) w w'
          = true := by
        rw [he]
        simp [recordClosed]
      rw [hflag]
      refine .of_line htrusts hfresh hnonneg hl' ?_ ?_
      · intro hfalse
        cases hfalse
      · intro _
        exact ⟨hst, hpledged⟩

theorem mirror_callVault {e : PledgeVault.Entry}
    (hm : Mirror d line w.store closed)
    (h : callVault d env e w = .ok w') :
    Mirror d line w'.store (recordClosed line closed (.vault env e) w w') := by
  cases callVault_ok h with
  | setup htarget hpos hline =>
      have hflag : recordClosed line closed (.vault env e) w w'
          = closed := by
        simp [recordClosed, htarget]
      rw [hflag]
      refine hm.of_same ?_ ?_ (by rw [hline]) fun a => held_congr hpos
      · unfold TrustsVault
        rw [hline]
        exact hm.trusts
      · rw [hline]
        exact hm.fresh
  | @position k l p' hl hunits hstep hpos hline =>
      have hheld : ∀ a, held w'.store line a
          = if line = k ∧ a = l.asset then p'.units
            else held w.store line a := fun a => held_set hpos
      have htrusts : TrustsVault d w'.store := by
        unfold TrustsVault
        rw [hline]
        exact hm.trusts
      have hfresh : CreditLine.FreshIds w'.store.creditLine := by
        rw [hline]
        exact hm.fresh.writeLine hl
      by_cases hk : line = k
      · -- the operation is on this line: the report makes them equal
        subst hk
        have hflag : recordClosed line closed (.vault env e) w w'
            = false := by
          simp [recordClosed, hstep.target]
        have hl' : w'.store.creditLine.lines.get line
            = some { l with pledgedUnits := p'.units } := by
          rw [hline]
          exact Store.get_set_self _ _ _
        rw [hflag]
        refine .of_line htrusts hfresh ?_ hl' ?_ ?_
        · intro a
          rw [hheld]
          split
          · exact hunits
          · exact hm.held_nonneg a
        · intro _
          rw [hheld, if_pos ⟨rfl, rfl⟩]
        · intro hfalse
          cases hfalse
      -- another line's operation: nothing this line reads has moved
      · have hflag : recordClosed line closed (.vault env e) w w'
            = closed := by
          have hne : k ≠ line := fun heq => hk heq.symm
          simp [recordClosed, hstep.target, hne]
        rw [hflag]
        refine hm.of_same htrusts hfresh ?_ ?_
        · rw [hline]
          exact Store.get_set_ne _ _ hk
        · intro a
          rw [hheld, if_neg fun hc => hk hc.1]

theorem mirror_step {tx : Tx} (hm : Mirror d line w.store closed)
    (hok : KeepsWiring d tx w)
    (happ : (machine d).apply tx w = .ok w') :
    Mirror d line w'.store (recordClosed line closed tx w w') := by
  cases tx with
  | creditLine env e => exact mirror_callLine hm hok happ
  | vault env e => exact mirror_callVault hm happ
  | outside tokens =>
      injection happ with happ
      subst happ
      exact hm

theorem mirror_run {txs : List Tx}
    (h : (machine d).Allowed (KeepsWiring d) (machine d).init txs)
    (line : Nat) :
    Mirror d line ((machine d).run (machine d).init txs).store
      (closedSince d line txs) := by
  refine Machine.recorded_induction (M := machine d)
    (P := fun w closed => Mirror d line w.store closed) ?_ ?_ h
  · refine ⟨?_, ?_, ?_, ?_, ?_, ?_⟩
    · intro v hv
      cases hv
    · exact fun _ _ => rfl
    · exact fun _ => le_rfl
    · exact fun _ => ⟨rfl, fun _ => rfl⟩
    · intro l hl
      cases hl
    · intro l hl
      cases hl
  · intro w closed tx w' hm hok happ
    exact mirror_step hm hok happ

-- ========================================================== the change law

/-- A line's figure changes only in a vault operation on that line and
its own asset, or when its lender closes it. -/
theorem pledgedUnits_changes {tx : Tx} {l l' : CreditLine.Line}
    (hm : Mirror d line w.store closed) (hok : KeepsWiring d tx w)
    (happ : (machine d).apply tx w = .ok w')
    (hl : w.store.creditLine.lines.get line = some l)
    (hl' : w'.store.creditLine.lines.get line = some l')
    (hne : l'.pledgedUnits ≠ l.pledgedUnits) :
    (∃ env e, tx = .vault env e ∧ e.target = some (line, l.asset))
      ∨ ∃ env a, tx = .creditLine env (.closeLiquidated a line) := by
  cases tx with
  | creditLine env e =>
      cases callLine_move hm.trusts hok hm.fresh happ line with
      | absent hx =>
          rw [hl] at hx
          cases hx
      | opened hx =>
          rw [hl] at hx
          cases hx
      | kept hx hx' _ hsame =>
          rw [hl] at hx
          rw [hl'] at hx'
          injection hx with hx
          injection hx' with hx'
          rw [← hx, ← hx'] at hsame
          exact absurd hsame hne
      | closed he => exact .inr ⟨env, _, by rw [he]⟩
  | vault env e =>
      cases callVault_ok happ with
      | setup _ _ hline =>
          rw [hline, hl] at hl'
          injection hl' with hl'
          rw [hl'] at hne
          exact absurd rfl hne
      | @position k x p' hx _ hstep _ hline =>
          by_cases hk : line = k
          · subst hk
            rw [hl] at hx
            injection hx with hx
            subst hx
            exact .inl ⟨env, e, rfl, hstep.target⟩
          · rw [hline, show (CreditLine.writeLine w.store.creditLine k
              { x with pledgedUnits := p'.units }).lines.get line = _ from
                Store.get_set_ne _ _ hk, hl] at hl'
            injection hl' with hl'
            rw [hl'] at hne
            exact absurd rfl hne
  | outside tokens =>
      injection happ with happ
      subst happ
      rw [hl] at hl'
      injection hl' with hl'
      rw [hl'] at hne
      exact absurd rfl hne

/-- Collateral counted is collateral held: in every state of a wired
run a line counts at most what the vault holds for it, exactly that
unless it was closed after its last vault operation, and its figure
changes only in such an operation or a close. -/
theorem pledged_units_held (d : Deployment) (txs : List Tx)
    (h : (machine d).Allowed (KeepsWiring d) (machine d).init txs)
    (line : Nat) (l : CreditLine.Line)
    (hl : ((machine d).run (machine d).init txs).store.creditLine.lines.get
      line = some l) :
    let w := (machine d).run (machine d).init txs
    l.pledgedUnits ≤ held w.store line l.asset
    ∧ (closedSince d line txs = false →
        l.pledgedUnits = held w.store line l.asset)
    ∧ ∀ tx w' l', KeepsWiring d tx w → (machine d).apply tx w = .ok w' →
        w'.store.creditLine.lines.get line = some l' →
        l'.pledgedUnits ≠ l.pledgedUnits →
        (∃ env e, tx = .vault env e ∧ e.target = some (line, l.asset))
        ∨ ∃ env a, tx = .creditLine env (.closeLiquidated a line) := by
  intro w
  have hm : Mirror d line w.store (closedSince d line txs) :=
    mirror_run h line
  refine ⟨?_, hm.synced l hl, ?_⟩
  · cases hclosed : closedSince d line txs with
    | false => exact (hm.synced l hl hclosed).le
    | true =>
        rw [(hm.cleared l hl hclosed).2]
        exact hm.held_nonneg _
  · intro tx w' l' hok happ hl' hne
    exact pledgedUnits_changes hm hok happ hl hl' hne

theorem Demo.lent_wired : (machine Demo.deployment).Allowed
    (KeepsWiring Demo.deployment) (machine Demo.deployment).init
    Demo.lent := by
  simp [Demo.lent, Machine.Allowed, KeepsWiring]

/-- After the demo lends, line 0 counts the 5000 units the vault holds. -/
theorem pledged_units_held_demo :
    let w := (machine Demo.deployment).run (machine Demo.deployment).init
      Demo.lent
    ∃ l, w.store.creditLine.lines.get 0 = some l
      ∧ l.pledgedUnits = held w.store 0 l.asset
      ∧ held w.store 0 Demo.asset = 5000 := by
  intro w
  have hsome : (w.store.creditLine.lines.get 0).isSome = true := by
    decide +kernel
  obtain ⟨l, hl⟩ := Option.isSome_iff_exists.mp hsome
  obtain ⟨-, heq, -⟩ := pledged_units_held Demo.deployment Demo.lent
    Demo.lent_wired 0 l hl
  exact ⟨l, hl, heq (by decide +kernel), by decide +kernel⟩

end Ballast.Wired
