/-
When the sync job keeps the lines in step with the vault, and when it
puts them out of step.

A vault operation reports its position to the line in its own transaction
(`Wired.VaultMove`), and no other transaction moves a figure but a close.
So a line that is in step is put out of it by one thing only, a
transaction of this job that lands with a figure the vault no longer
holds, and every run keeps all its lines in step exactly when no such
landing is in it (`in_step_iff`).

# What a transaction does to a line

Transactions come in three kinds here. A call of the credit line moves
no unit in the vault and changes the figure of a line only by a report
the vault sends, or by closing the line. A call of the vault moves units
and reports them in the same transaction. And a transaction of this job
writes a figure that was read some time before. The first two keep a
line in step by themselves (`InStep.callLine`, `InStep.callVault`); the
third does if the figure is still the vault's when it lands.
-/
import Ballast.Keeper.SyncCollateral
import Ballast.Wired.Proofs.Mirror

namespace Ballast.Keeper.SyncCollateral

open Soroban
open Wired (Deployment TrustsVault held)

variable {d : Deployment} {keeper : Address} {line : Nat}
  {w w' : World Wired.State} {s s' : System} {a : Act}

/-- The line's figure is what the vault holds, unless it is closed. -/
def InStep (line : Nat) (s : Wired.State) : Prop :=
  ∀ l, s.creditLine.lines.get line = some l → l.status ≠ .closed →
    l.pledgedUnits = held s line l.asset

/-- A transaction of the job that goes through finds what it read. -/
def Undisturbed (d : Deployment) (keeper : Address) (a : Act)
    (s : System) : Prop :=
  match a with
  | .land w env => ∀ contractLine units l,
      s.turns.get w = some (.submitted contractLine units) →
      ((Wired.machine d).apply (syncTx keeper env contractLine units)
        s.world).isOk = true →
      s.world.store.creditLine.lines.get contractLine = some l →
      l.status ≠ .closed →
      held s.world.store contractLine l.asset = units
  | _ => True

/-- What keeps the reports honest: one vault, and nothing under an id no
line has yet. -/
structure Standing (d : Deployment) (s : Wired.State) : Prop where
  trusts : TrustsVault d s
  fresh : CreditLine.FreshIds s.creditLine
  unopened : ∀ line, s.creditLine.lines.get line = none →
    ∀ a, held s line a = 0

-- ========================================================= a transaction

/-- The credit line moves nothing in the vault. -/
theorem held_callLine {env : Env} {e : CreditLine.Entry}
    (h : Wired.callLine d env e w = .ok w') (a : Address) :
    held w'.store line a = held w.store line a :=
  Wired.held_congr (by rw [(Wired.callLine_ok h).2])

/-- A call of the credit line keeps the wiring in force, and opens lines
under fresh ids only. -/
theorem Standing.callLine {env : Env} {e : CreditLine.Entry}
    (h : Standing d w.store) (hok : Wired.KeepsWiring d (.creditLine env e) w)
    (hcall : Wired.callLine d env e w = .ok w') : Standing d w'.store := by
  refine ⟨h.trusts.callLine hok hcall,
    h.fresh.call (Wired.callLine_ok hcall).1, ?_⟩
  intro k hk a
  rw [held_callLine hcall]
  cases Wired.callLine_move h.trusts hok h.fresh hcall k with
  | absent hnone => exact h.unopened k hnone a
  | opened hnone hl' =>
      rw [hk] at hl'
      cases hl'
  | kept hl hl' =>
      rw [hk] at hl'
      cases hl'
  | closed he hl hl' =>
      rw [hk] at hl'
      cases hl'

/-- And it leaves a line in step: its figure changes by nothing but a
report. -/
theorem InStep.callLine {env : Env} {e : CreditLine.Entry}
    (h : InStep line w.store) (hs : Standing d w.store)
    (hok : Wired.KeepsWiring d (.creditLine env e) w)
    (hcall : Wired.callLine d env e w = .ok w') : InStep line w'.store := by
  intro l' hl' hstatus
  rw [held_callLine hcall]
  cases Wired.callLine_move hs.trusts hok hs.fresh hcall line with
  | absent hnone hnone' =>
      rw [hl'] at hnone'
      cases hnone'
  | opened hnone hl₁ hzero =>
      rw [hl'] at hl₁
      injection hl₁ with hl₁
      rw [hl₁, hzero, hs.unopened line hnone]
  | kept hl hl₁ hasset hunits hstays =>
      rw [hl'] at hl₁
      injection hl₁ with hl₁
      rw [hl₁, hunits, hasset]
      refine h _ hl fun hclosed => hstatus ?_
      rw [hl₁]
      exact hstays hclosed
  | closed he hl hl₁ hasset hunits hclosed =>
      rw [hl'] at hl₁
      injection hl₁ with hl₁
      exact absurd (hl₁ ▸ hclosed) hstatus

/-- The vault pledges on lines that exist. -/
theorem Standing.callVault {env : Env} {e : PledgeVault.Entry}
    (h : Standing d w.store)
    (hcall : Wired.callVault d env e w = .ok w') : Standing d w'.store := by
  cases Wired.callVault_ok hcall with
  | setup htarget hpos hline =>
      refine ⟨?_, hline ▸ h.fresh, ?_⟩
      · unfold TrustsVault
        rw [hline]
        exact h.trusts
      · intro k hk a
        rw [Wired.held_congr hpos]
        exact h.unopened k (hline ▸ hk) a
  | @position k l p' hl hunits hstep hpos hline =>
      refine ⟨?_, ?_, ?_⟩
      · unfold TrustsVault
        rw [hline]
        exact h.trusts
      · rw [hline]
        exact h.fresh.writeLine hl
      · intro i hi a
        rw [hline] at hi
        have hne : i ≠ k := by
          rintro rfl
          rw [CreditLine.writeLine, Store.get_set_self] at hi
          cases hi
        rw [CreditLine.writeLine, Store.get_set_ne _ _ hne] at hi
        rw [Wired.held_set hpos, if_neg fun hc => hne hc.1]
        exact h.unopened i hi a

/-- What it moves it reports, so the line stays in step. -/
theorem InStep.callVault {env : Env} {e : PledgeVault.Entry}
    (h : InStep line w.store)
    (hcall : Wired.callVault d env e w = .ok w') : InStep line w'.store := by
  intro l' hl' hstatus
  cases Wired.callVault_ok hcall with
  | setup htarget hpos hline =>
      rw [Wired.held_congr hpos]
      exact h l' (hline ▸ hl') hstatus
  | @position k l p' hl hunits hstep hpos hline =>
      rw [hline, CreditLine.writeLine] at hl'
      by_cases hk : line = k
      · subst hk
        rw [Store.get_set_self] at hl'
        injection hl' with hl'
        rw [← hl', Wired.held_set hpos, if_pos ⟨rfl, rfl⟩]
      · rw [Store.get_set_ne _ _ hk] at hl'
        rw [Wired.held_set hpos, if_neg fun hc => hk hc.1]
        exact h l' hl' hstatus

/-- Any transaction of the deployment keeps what stands. -/
theorem Standing.tx {tx : Wired.Tx} (h : Standing d w.store)
    (hok : Wired.KeepsWiring d tx w)
    (happ : (Wired.machine d).apply tx w = .ok w') :
    Standing d w'.store := by
  cases tx with
  | creditLine env e => exact h.callLine hok happ
  | vault env e => exact h.callVault happ
  | outside tokens =>
      injection happ with happ
      subst happ
      exact h

/-- And keeps a line in step. -/
theorem InStep.tx {tx : Wired.Tx} (h : InStep line w.store)
    (hs : Standing d w.store) (hok : Wired.KeepsWiring d tx w)
    (happ : (Wired.machine d).apply tx w = .ok w') :
    InStep line w'.store := by
  cases tx with
  | creditLine env e => exact h.callLine hs hok happ
  | vault env e => exact h.callVault happ
  | outside tokens =>
      injection happ with happ
      subst happ
      exact h

-- ============================================================= a landing

/-- The job's transaction writes one figure. -/
theorem syncTx_ok {env : Env} {k : Nat} {units : Int}
    (h : (Wired.machine d).apply (syncTx keeper env k units) w = .ok w') :
    ∃ l, w.store.creditLine.lines.get k = some l
      ∧ w'.store.creditLine = CreditLine.writeLine w.store.creditLine k
        { l with pledgedUnits := units }
      ∧ ∀ i a, held w'.store i a = held w.store i a := by
  obtain ⟨hsync, -⟩ := CreditLine.onStore_ok.mp (Wired.callLine_ok h).1
  obtain ⟨l, -, hl, hs⟩ := CreditLine.syncCollateral_ok hsync
  exact ⟨l, hl, hs, fun _ a => held_callLine h a⟩

/-- A report of the job changes a figure and no more. -/
theorem Standing.syncTx {env : Env} {k : Nat} {units : Int}
    (h : Standing d w.store)
    (happ : (Wired.machine d).apply (syncTx keeper env k units) w = .ok w') :
    Standing d w'.store := by
  obtain ⟨l, hl, hline, hheld⟩ := syncTx_ok happ
  refine ⟨?_, ?_, ?_⟩
  · unfold TrustsVault
    rw [hline]
    exact h.trusts
  · rw [hline]
    exact h.fresh.writeLine hl
  · intro i hi a
    rw [hheld]
    apply h.unopened i
    rw [hline, CreditLine.writeLine] at hi
    by_cases hik : i = k
    · subst hik
      rw [Store.get_set_self] at hi
      cases hi
    · rwa [Store.get_set_ne _ _ hik] at hi

/-- The line of the landing is in step after it when the figure is what
the vault holds. -/
theorem inStep_landed {env : Env} {k : Nat} {units : Int}
    (happ : (Wired.machine d).apply (syncTx keeper env k units) w = .ok w')
    (hfound : ∀ l, w.store.creditLine.lines.get k = some l →
      l.status ≠ .closed → held w.store k l.asset = units) :
    InStep k w'.store := by
  obtain ⟨l, hl, hline, hheld⟩ := syncTx_ok happ
  intro l' hl' hstatus
  rw [hline, CreditLine.writeLine, Store.get_set_self] at hl'
  injection hl' with hl'
  subst hl'
  rw [hheld]
  exact (hfound l hl hstatus).symm

/-- It changes the figure of its own line only. -/
theorem InStep.syncTx {env : Env} {k : Nat} {units : Int}
    (h : InStep line w.store)
    (happ : (Wired.machine d).apply (syncTx keeper env k units) w = .ok w')
    (hne : line ≠ k) : InStep line w'.store := by
  obtain ⟨l, hl, hline, hheld⟩ := syncTx_ok happ
  intro l' hl' hstatus
  rw [hline, CreditLine.writeLine, Store.get_set_ne _ _ hne] at hl'
  rw [hheld]
  exact h l' hl' hstatus

-- ================================================================= the runs

/-- What a committed action does to the contracts. -/
inductive Moved (d : Deployment) (keeper : Address) (s : System) :
    Act → System → Prop where
  | still {a : Act} {s' : System} (h : s'.world = s.world) :
      Moved d keeper s a s'
  | tx {tx : Wired.Tx} {s' : System}
      (h : (Wired.machine d).apply tx s.world = .ok s'.world) :
      Moved d keeper s (.tx tx) s'
  | landed {w k : Nat} {env : Env} {units : Int} {s' : System}
      (hw : s.turns.get w = some (.submitted k units))
      (h : (Wired.machine d).apply (syncTx keeper env k units) s.world
        = .ok s'.world) : Moved d keeper s (.land w env) s'

/-- A step moves the chain by a transaction of somebody else, by a landing
of the job's, or not at all. -/
theorem moved_of_step (h : step d keeper a s = .ok s') :
    Moved d keeper s a s' := by
  cases a with
  | tx tx =>
      simp only [step, bind_ok, pure_ok] at h
      obtain ⟨world, happ, rfl⟩ := h
      exact .tx happ
  | rows creditLine =>
      cases h
      exact .still rfl
  | select w r =>
      simp only [step, select, bind_ok, pure_ok] at h
      obtain ⟨-, -, row, -, -, -, k, -, rfl⟩ := h
      exact .still rfl
  | readLine w =>
      obtain ⟨turn, -, h⟩ := bind_ok.mp h
      split at h
      · obtain ⟨l, -, h⟩ := bind_ok.mp h
        cases h
        exact .still rfl
      · cases h
  | readPosition w =>
      obtain ⟨turn, -, h⟩ := bind_ok.mp h
      split at h
      · dsimp only at h
        split at h <;> cases h <;> exact .still rfl
      · cases h
  | land w env =>
      obtain ⟨turn, hw, h⟩ := bind_ok.mp h
      replace hw := expect_ok.mp hw
      split at h
      next k units =>
        cases h
        rcases (Wired.machine d).exec_cases s.world
          (syncTx keeper env k units) with happ | hsame
        · exact .landed hw happ
        · exact .still hsame
      · cases h
  | stop w =>
      cases h
      exact .still rfl

/-- What stands is kept by every step. -/
theorem Moved.standing (h : Moved d keeper s a s')
    (hok : KeepsWiring d a s) (hs : Standing d s.world.store) :
    Standing d s'.world.store := by
  cases h with
  | still h => exact h ▸ hs
  | tx h => exact hs.tx hok h
  | landed _ h => exact hs.syncTx h

/-- A line stays in step through a step that does not land a stale
figure. -/
theorem Moved.inStep (h : Moved d keeper s a s') (hok : KeepsWiring d a s)
    (hfound : Undisturbed d keeper a s) (hs : Standing d s.world.store)
    (hin : InStep line s.world.store) : InStep line s'.world.store := by
  cases h with
  | still h => exact h ▸ hin
  | tx h => exact hin.tx hs hok h
  | @landed w k env units _ hw h =>
      by_cases hk : line = k
      · subst hk
        refine inStep_landed h fun l hl hstatus => ?_
        exact hfound line units l hw (isOk_iff.mpr ⟨_, h⟩) hl hstatus
      · exact hin.syncTx h hk

variable {start : World Wired.State}

/-- A landing of what is submitted, by the contracts. -/
theorem exec_land {w k : Nat} {env : Env} {units : Int}
    {world : World Wired.State}
    (hw : s.turns.get w = some (.submitted k units))
    (happ : (Wired.machine d).apply (syncTx keeper env k units) s.world
      = .ok world) :
    (machine d keeper start).exec s (.land w env)
      = { s with world := world, turns := s.turns.remove w } := by
  have hland : (machine d keeper start).apply (.land w env) s
      = .ok { s with
        world := (Wired.machine d).exec s.world (syncTx keeper env k units)
        turns := s.turns.remove w } := by
    simp only [machine, step, land, turnAt, hw]
    rfl
  rw [Machine.exec_of_ok hland, Machine.exec_of_ok happ]

/-- What stands, stands in every state of a run that keeps the wiring. -/
theorem standing_run {as : List Act} (hstart : Standing d start.store)
    (has : (machine d keeper start).Allowed (KeepsWiring d)
      (machine d keeper start).init as) :
    Standing d ((machine d keeper start).run
      (machine d keeper start).init as).world.store :=
  Machine.run_induction (P := fun t => Standing d t.world.store)
    (fun _ _ _ ht hok happ => (moved_of_step happ).standing hok ht)
    hstart has

/-- A line once in step stays in step as long as no transaction of the job
lands on another position than it read. -/
theorem stays_in_step {s : System} {as : List Act}
    (hs : Standing d s.world.store) (hin : InStep line s.world.store)
    (has : (machine d keeper start).Allowed (KeepsWiring d) s as)
    (hfound : (machine d keeper start).Allowed (Undisturbed d keeper) s as) :
    InStep line ((machine d keeper start).run s as).world.store := by
  have hboth := Machine.run_induction
    (P := fun t => Standing d t.world.store ∧ InStep line t.world.store)
    (fun t x t' ht hok happ => ?_) ⟨hs, hin⟩ (has.and hfound)
  · exact hboth.2
  · have hmoved := moved_of_step happ
    exact ⟨hmoved.standing hok.1 ht.1,
      hmoved.inStep hok.1 hok.2 ht.1 ht.2⟩

/-- It does at the start. -/
theorem standing_init (d : Deployment) :
    Standing d (Wired.machine d).init.store :=
  ⟨fun _ hv => (nomatch hv), fun _ _ => rfl, fun _ _ _ => rfl⟩

/-- In a deployment that was wired from the start, the job leaves every
line in step at every moment exactly when none of its transactions lands
on another position than it read. -/
theorem in_step_iff (d : Deployment) (keeper : Address) (as : List Act)
    (has : (machine d keeper (Wired.machine d).init).Allowed (KeepsWiring d)
      (machine d keeper (Wired.machine d).init).init as) :
    let M := machine d keeper (Wired.machine d).init
    (∀ pre, pre <+: as → ∀ line, InStep line (M.run M.init pre).world.store)
      ↔ M.Allowed (Undisturbed d keeper) M.init as := by
  intro M
  constructor
  · intro hin
    apply Machine.allowed_of_prefix
    rintro pre a post rfl
    cases a with
    | land w env =>
        intro k units l hw hok hl hstatus
        obtain ⟨world, happ⟩ := exists_of_isOk hok
        have hafter := hin (pre ++ [.land w env]) ⟨post, by simp⟩ k
        rw [Machine.run_snoc, exec_land hw happ] at hafter
        obtain ⟨l₀, hl₀, hline, hheld⟩ := syncTx_ok happ
        have hsame : l₀ = l := Option.some.inj (hl₀.symm.trans hl)
        subst hsame
        have hl' : world.store.creditLine.lines.get k
            = some { l₀ with pledgedUnits := units } := by
          rw [hline]
          exact Store.get_set_self _ _ _
        have hunits := hafter _ hl' hstatus
        rw [hheld] at hunits
        exact hunits.symm
    | _ => trivial
  · intro hfound pre hpre line
    obtain ⟨post, rfl⟩ := hpre
    refine stays_in_step (standing_init d) (fun l hl => nomatch hl)
      (Machine.Allowed.append.mp has).1
      (Machine.Allowed.append.mp hfound).1

/-- A pledge between the reads of a turn, and its release before the
landing: the job puts a line out of step that was never out of step. -/
theorem in_step_iff_torn :
    let M := machine Wired.Demo.deployment Demo.operator
      (Wired.machine Wired.Demo.deployment).init
    ¬ M.Allowed (Undisturbed Wired.Demo.deployment Demo.operator) M.init
      Demo.torn := by
  intro M hfound
  have hwired : M.Allowed (KeepsWiring Wired.Demo.deployment) M.init
      Demo.torn := by
    have hall : ∀ a ∈ Demo.torn, ∀ s,
        KeepsWiring Wired.Demo.deployment a s := by
      simp [Demo.torn, Wired.Demo.lent, KeepsWiring, Wired.KeepsWiring]
    apply Machine.allowed_of_prefix
    intro pre a post hsplit
    exact hall a (by rw [hsplit]; simp) _
  have hin := (in_step_iff Wired.Demo.deployment Demo.operator Demo.torn
    hwired).mpr hfound Demo.torn (List.prefix_refl _) 0
  have hout : ((M.run M.init Demo.torn).world.store.creditLine.lines.get
      0).any (fun l => l.status ≠ .closed ∧ l.pledgedUnits
        ≠ held (M.run M.init Demo.torn).world.store 0 l.asset) = true := by
    decide +kernel
  generalize M.run M.init Demo.torn = s at hin hout
  obtain ⟨l, hl, hne⟩ := (Option.any_eq_true _ _).mp hout
  obtain ⟨hstatus, hne⟩ := of_decide_eq_true hne
  exact hne (hin l hl hstatus)

/-- Once a transaction of the job goes through, on the position it read,
the line is in step, and from then on: as long as the wiring stays and
every later transaction of the job finds what it read. -/
theorem drift_repaired (d : Deployment) (keeper : Address)
    (start : World Wired.State) (hstart : Standing d start.store)
    {as bs : List Act} {w k : Nat} {units : Int} {env : Env}
    (has : (machine d keeper start).Allowed (KeepsWiring d)
      (machine d keeper start).init (as ++ .land w env :: bs))
    (hw : ((machine d keeper start).run (machine d keeper start).init
      as).turns.get w = some (.submitted k units))
    (hok : ((Wired.machine d).apply (syncTx keeper env k units)
      ((machine d keeper start).run (machine d keeper start).init
        as).world).isOk = true)
    (hfound : (machine d keeper start).Allowed (Undisturbed d keeper)
      ((machine d keeper start).run (machine d keeper start).init as)
      (.land w env :: bs)) :
    InStep k ((machine d keeper start).run (machine d keeper start).init
      (as ++ .land w env :: bs)).world.store := by
  obtain ⟨hpre, -, hpost⟩ := Machine.Allowed.append.mp has
  have hs := standing_run hstart hpre
  obtain ⟨world, happ⟩ := exists_of_isOk hok
  obtain ⟨hland, hlater⟩ := hfound
  rw [exec_land hw happ] at hpost hlater
  rw [Machine.run_append, Machine.run_cons, exec_land hw happ]
  refine stays_in_step (hs.syncTx happ) ?_ hpost hlater
  exact inStep_landed happ fun l hl hstatus =>
    hland k units l hw hok hl hstatus

/-- The chain of the demonstration is wired, and one of its lines out of
step. -/
theorem Demo.drifted_standing :
    Standing Wired.Demo.deployment Demo.drifted.store := by
  have hlent : Standing Wired.Demo.deployment
      ((Wired.machine Wired.Demo.deployment).run
        (Wired.machine Wired.Demo.deployment).init Wired.Demo.lent).store :=
    ⟨(Wired.mirror_run Wired.Demo.lent_wired 0).trusts,
      (Wired.mirror_run Wired.Demo.lent_wired 0).fresh,
      fun line hl => ((Wired.mirror_run Wired.Demo.lent_wired line).unopened
        hl).2⟩
  unfold Demo.drifted
  rw [Machine.run_snoc]
  rcases (Wired.machine Wired.Demo.deployment).exec_cases
      ((Wired.machine Wired.Demo.deployment).run
        (Wired.machine Wired.Demo.deployment).init Wired.Demo.lent)
      (syncTx Demo.operator (Wired.Demo.env 0 6 10000000) 0 4999)
    with happ | hsame
  · exact hlent.syncTx happ
  · rw [hsame]
    exact hlent

/-- One turn of the job, undisturbed, brings the line back in step. -/
theorem drift_repaired_demo :
    let M := machine Wired.Demo.deployment Demo.operator Demo.drifted
    InStep 0 (M.run M.init (Demo.turn
      ++ [.land 0 (Wired.Demo.env 0 9 10000000)])).world.store := by
  intro M
  have hw : (M.run M.init Demo.turn).turns.get 0
      = some (.submitted 0 5000) := by decide +kernel
  have hheld : held (M.run M.init Demo.turn).world.store 0 Wired.Demo.asset
      = 5000 := by decide +kernel
  have hasset : ((M.run M.init Demo.turn).world.store.creditLine.lines.get
      0).map (·.asset) = some Wired.Demo.asset := by decide +kernel
  refine @drift_repaired Wired.Demo.deployment Demo.operator Demo.drifted
    Demo.drifted_standing Demo.turn [] 0 0 5000 _ ?_ hw
    (by decide +kernel) ⟨?_, trivial⟩
  · simp [Demo.turn, Machine.Allowed, KeepsWiring]
  · intro k units l hw' _ hl _
    rw [hw] at hw'
    injection hw' with hw'
    injection hw' with hk hunits
    subst hk hunits
    rw [hl] at hasset
    have hasset' : l.asset = Wired.Demo.asset := Option.some.inj hasset
    rw [hasset']
    exact hheld

end Ballast.Keeper.SyncCollateral
