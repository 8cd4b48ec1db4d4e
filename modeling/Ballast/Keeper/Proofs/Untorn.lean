/-
A healthy deployment needs nothing of the sync job.

Where the lines are in step, a turn finds a difference only if the figure
of its line moved between its two reads. So in a run in which none does,
no transaction of the job is ever submitted for a line that is not
closed, and all lines stay in step.

This is the other side of the job's contract. That it repairs a
difference is shown elsewhere; here it is shown to find none where there
is none, so it costs a healthy deployment reads and nothing more. A
closed line is the exception: its own figure is zeroed and its position
is not, so the job may well submit for it.
-/
import Ballast.Keeper.Proofs.InStep

namespace Ballast.Keeper.SyncCollateral

open Soroban
open Wired (Deployment held)

variable {d : Deployment} {keeper : Address} {start : World Wired.State}
  {s s' : System} {a : Act}

/-- The line a turn has read, and not yet its position. -/
def Turn.between : Turn → Option Nat
  | .sized contractLine _ _ => some contractLine
  | _ => none

def figure (s : System) (line : Nat) : Option Int :=
  (s.world.store.creditLine.lines.get line).map (·.pledgedUnits)

/-- No figure moves between the two reads of a turn on its line. -/
def Calm (d : Deployment) (keeper : Address) (start : World Wired.State)
    (a : Act) (s : System) : Prop :=
  ∀ w ∈ s.turns.keys, ∀ k ∈ (s.turns.get w).bind Turn.between,
    figure ((machine d keeper start).exec s a) k = figure s k

instance : Decidable (Calm d keeper start a s) :=
  inferInstanceAs (Decidable (∀ w ∈ s.turns.keys,
    ∀ k ∈ (s.turns.get w).bind Turn.between,
      figure ((machine d keeper start).exec s a) k = figure s k))

/-- What the turns have read is so, and none has found a difference but on
a closed line. -/
structure Idle (d : Deployment) (s : System) : Prop where
  standing : Standing d s.world.store
  inStep : ∀ line, InStep line s.world.store
  sized : ∀ w k asset units, s.turns.get w = some (.sized k asset units) →
    ∃ l, s.world.store.creditLine.lines.get k = some l ∧ l.asset = asset
      ∧ l.pledgedUnits = units
  submitted : ∀ w k units, s.turns.get w = some (.submitted k units) →
    ∃ l, s.world.store.creditLine.lines.get k = some l
      ∧ l.status = .closed

/-- A turn after an action: as it was, or a read further. -/
inductive Turned (s s' : System) (w : Nat) : Turn → Prop where
  | same {turn : Turn} (h : s.turns.get w = some turn) : Turned s s' w turn
  | selected (k : Nat) : Turned s s' w (.selected k)
  | sized {k : Nat} {l : CreditLine.Line} (hworld : s'.world = s.world)
      (hl : s.world.store.creditLine.lines.get k = some l) :
      Turned s s' w (.sized k l.asset l.pledgedUnits)
  | submitted {k : Nat} {asset : Address} {units : Int}
      (hworld : s'.world = s.world)
      (h : s.turns.get w = some (.sized k asset units))
      (hne : units ≠ held s.world.store k asset) :
      Turned s s' w (.submitted k (held s.world.store k asset))

theorem turned_set {w v : Nat} {turn new : Turn}
    (hw : (s.turns.set v new).get w = some turn)
    (hnew : w = v → Turned s s' w new) : Turned s s' w turn := by
  rw [Store.get_set] at hw
  split at hw
  next heq =>
    injection hw with hw
    exact hw ▸ hnew heq
  · exact .same hw

theorem turned_remove {w v : Nat} {turn : Turn}
    (hw : (s.turns.remove v).get w = some turn) : Turned s s' w turn := by
  rw [Store.get_remove] at hw
  split at hw
  · cases hw
  · exact .same hw

theorem turned_of_step {w : Nat} {turn : Turn}
    (h : step d keeper a s = .ok s') (hw : s'.turns.get w = some turn) :
    Turned s s' w turn := by
  cases a with
  | tx tx =>
      simp only [step, bind_ok, pure_ok] at h
      obtain ⟨world, -, rfl⟩ := h
      exact .same hw
  | rows creditLine =>
      cases h
      exact .same hw
  | select v r =>
      simp only [step, select, bind_ok, pure_ok] at h
      obtain ⟨-, -, row, -, -, -, k, -, rfl⟩ := h
      exact turned_set hw fun _ => .selected k
  | readLine v =>
      obtain ⟨turn₀, -, h⟩ := bind_ok.mp h
      split at h
      next k =>
        obtain ⟨l, hl, h⟩ := bind_ok.mp h
        cases h
        exact turned_set hw fun _ => .sized rfl (expect_ok.mp hl)
      · cases h
  | readPosition v =>
      obtain ⟨turn₀, hv, h⟩ := bind_ok.mp h
      replace hv := expect_ok.mp hv
      split at h
      next k asset units =>
        dsimp only at h
        split at h
        · cases h
          exact turned_remove hw
        next hne =>
          cases h
          exact turned_set hw fun heq => .submitted rfl (heq ▸ hv) hne
      · cases h
  | land v env =>
      obtain ⟨turn₀, -, h⟩ := bind_ok.mp h
      split at h
      · cases h
        exact turned_remove hw
      · cases h
  | stop v =>
      cases h
      exact turned_remove hw

/-- A line stays on its asset, and closed. -/
theorem Moved.line (h : Moved d keeper s a s') (hok : KeepsWiring d a s)
    (hs : Standing d s.world.store) {k : Nat} {l : CreditLine.Line}
    (hl : s.world.store.creditLine.lines.get k = some l) :
    ∃ l', s'.world.store.creditLine.lines.get k = some l'
      ∧ l'.asset = l.asset ∧ (l.status = .closed → l'.status = .closed) := by
  have hwrite : ∀ {i : Nat} {l₀ : CreditLine.Line} {units : Int},
      s.world.store.creditLine.lines.get i = some l₀ →
      s'.world.store.creditLine = CreditLine.writeLine
        s.world.store.creditLine i { l₀ with pledgedUnits := units } →
      ∃ l', s'.world.store.creditLine.lines.get k = some l'
        ∧ l'.asset = l.asset
        ∧ (l.status = .closed → l'.status = .closed) := by
    intro i l₀ units hl₀ hline
    rw [hline, CreditLine.writeLine]
    by_cases hk : k = i
    · subst hk
      have hsame : l₀ = l := Option.some.inj (hl₀.symm.trans hl)
      subst hsame
      exact ⟨_, Store.get_set_self _ _ _, rfl, id⟩
    · exact ⟨l, (Store.get_set_ne _ _ hk).trans hl, rfl, id⟩
  cases h with
  | still h => exact ⟨l, h ▸ hl, rfl, id⟩
  | @tx tx _ h =>
      cases tx with
      | creditLine env e =>
          cases Wired.callLine_move hs.trusts hok hs.fresh h k with
          | absent hnone =>
              rw [hl] at hnone
              cases hnone
          | opened hnone =>
              rw [hl] at hnone
              cases hnone
          | kept hl₀ hl' hasset hunits hstays =>
              rw [hl] at hl₀
              injection hl₀ with hl₀
              exact ⟨_, hl', hl₀ ▸ hasset, hl₀ ▸ hstays⟩
          | closed he hl₀ hl' hasset hunits hclosed =>
              rw [hl] at hl₀
              injection hl₀ with hl₀
              exact ⟨_, hl', hl₀ ▸ hasset, fun _ => hclosed⟩
      | vault env e =>
          cases Wired.callVault_ok h with
          | setup htarget hpos hline => exact ⟨l, hline ▸ hl, rfl, id⟩
          | position hl₀ hunits hstep hpos hline => exact hwrite hl₀ hline
      | outside tokens =>
          injection h with h
          exact ⟨l, h ▸ hl, rfl, id⟩
  | landed _ h =>
      obtain ⟨l₀, hl₀, hline, -⟩ := syncTx_ok h
      exact hwrite hl₀ hline

theorem Idle.step (h : Idle d s) (hok : KeepsWiring d a s)
    (hcalm : Calm d keeper start a s)
    (hstep : (machine d keeper start).apply a s = .ok s') : Idle d s' := by
  have hmoved := moved_of_step hstep
  have hfound : Undisturbed d keeper a s := by
    cases a with
    | land w env =>
        intro k units l hw _ hl hstatus
        obtain ⟨l₀, hl₀, hclosed⟩ := h.submitted w k units hw
        rw [hl] at hl₀
        injection hl₀ with hl₀
        exact absurd (hl₀ ▸ hclosed) hstatus
    | _ => trivial
  refine ⟨hmoved.standing hok h.standing,
    fun line => hmoved.inStep hok hfound h.standing (h.inStep line), ?_, ?_⟩
  · intro w k asset units hw
    cases turned_of_step hstep hw with
    | same hw =>
        obtain ⟨l, hl, rfl, rfl⟩ := h.sized w k asset units hw
        obtain ⟨l', hl', hasset, -⟩ := hmoved.line hok h.standing hl
        refine ⟨l', hl', hasset, ?_⟩
        have hkey : w ∈ s.turns.keys := by
          rw [s.turns.mem_keys, hw]
          rfl
        have hsame := hcalm w hkey k (by rw [hw]; rfl)
        rw [Machine.exec_of_ok hstep, figure, figure, hl, hl'] at hsame
        exact Option.some.inj hsame
    | sized hworld hl => exact ⟨_, hworld ▸ hl, rfl, rfl⟩
  · intro w k units hw
    cases turned_of_step hstep hw with
    | same hw =>
        obtain ⟨l, hl, hclosed⟩ := h.submitted w k units hw
        obtain ⟨l', hl', -, hstays⟩ := hmoved.line hok h.standing hl
        exact ⟨l', hl', hstays hclosed⟩
    | submitted hworld hsized hne =>
        obtain ⟨l, hl, rfl, rfl⟩ := h.sized w k _ _ hsized
        refine ⟨l, hworld ▸ hl, ?_⟩
        by_contra hstatus
        exact hne (h.inStep k l hl hstatus)

/-- In a deployment that was wired from the start, and whose lines' figures
do not move between the two reads of a turn, the job submits nothing for
any line that is not closed, and every line is in step. -/
theorem submits_only_torn (d : Deployment) (keeper : Address)
    (as : List Act) :
    let M := machine d keeper (Wired.machine d).init
    let s := M.run M.init as
    M.Allowed (KeepsWiring d) M.init as →
    M.Allowed (Calm d keeper (Wired.machine d).init) M.init as →
    (∀ line, InStep line s.world.store)
      ∧ ∀ w k units, s.turns.get w = some (.submitted k units) →
        ∃ l, s.world.store.creditLine.lines.get k = some l
          ∧ l.status = .closed := by
  intro M s hwired hcalm
  have hidle : Idle d s := by
    refine Machine.run_induction (P := Idle d)
      (fun t x t' ht hok happ => ht.step hok.1 hok.2 happ) ?_
      (hwired.and hcalm)
    exact ⟨standing_init d, fun _ _ hl => (nomatch hl),
      fun _ _ _ _ hw => (nomatch hw), fun _ _ _ hw => (nomatch hw)⟩
  exact ⟨hidle.inStep, hidle.submitted⟩

theorem Demo.healthy_wired :
    (machine Wired.Demo.deployment Demo.operator
      (Wired.machine Wired.Demo.deployment).init).Allowed
      (KeepsWiring Wired.Demo.deployment)
      (machine Wired.Demo.deployment Demo.operator
        (Wired.machine Wired.Demo.deployment).init).init Demo.healthy := by
  have hall : ∀ a ∈ Demo.healthy, ∀ s,
      KeepsWiring Wired.Demo.deployment a s := by
    simp [Demo.healthy, Demo.turn, Wired.Demo.lent, KeepsWiring,
      Wired.KeepsWiring]
  apply Machine.allowed_of_prefix
  intro pre a post hsplit
  exact hall a (by rw [hsplit]; simp) _

theorem submits_only_torn_demo :
    InStep 0 ((machine Wired.Demo.deployment Demo.operator
        (Wired.machine Wired.Demo.deployment).init).run
      (machine Wired.Demo.deployment Demo.operator
        (Wired.machine Wired.Demo.deployment).init).init
      Demo.healthy).world.store := by
  have h := submits_only_torn Wired.Demo.deployment Demo.operator
    Demo.healthy Demo.healthy_wired (by decide +kernel)
  exact h.1 0

end Ballast.Keeper.SyncCollateral
