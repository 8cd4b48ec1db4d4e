/-
What holds of every contract built on `ballast-common`: how long a pause
lasts, and what the timelocked queues and the roles keep over a run.

Each contract has shown on its own that its calls are steps of the
shared machines (`Pausing`, `Governed`); here the laws of those machines
are stated of the contracts.

What is particular to a contract is only how its entry points map to
acts of the machine, and that mapping is in the contract's own modules.
So a contract that is added needs a proof that its calls are such steps,
and no new argument about time or about roles.
-/
import Ballast.ExitDesk.Proofs.Pause
import Ballast.PriceGuard.Proofs.Queues
import Ballast.Registry.Proofs.Pause
import Ballast.RepoDvp.Proofs.Pause

namespace Ballast

open Soroban Machine

-- ============================================================== pauses

/-- In each contract that can be paused, a pause holds for 48 hours
exactly when no unpause that was waiting before it is executed in that
time and lets the scope run. -/
theorem pause_notice (self : Address) (scope : PauseScope) :
    (∀ txs l₁ c l₂ pauser, Chronological Registry.Tx.time txs →
      (Registry.machine self).trace (Registry.machine self).init txs
        = l₁ ++ c :: l₂ → c.call.entry = .pause pauser scope →
      ((Registry.pausing self).HoldsNotice c l₂ scope ↔
        ∀ d ∈ l₂, d.call.time < c.call.time + 172800 →
          ¬ (Registry.pausing self).Lifts c.before scope d))
    ∧ (∀ txs l₁ c l₂ env pauser, Chronological Prod.fst txs →
      ((ExitDesk.machine self).clocked ExitDesk.Tx.at).trace
        (ExitDesk.machine self).init txs = l₁ ++ c :: l₂ →
      c.call.2 = .call env (.pause pauser scope) →
      ((ExitDesk.pausing self).HoldsNotice c l₂ scope ↔
        ∀ d ∈ l₂, d.call.1 < c.call.1 + 172800 →
          ¬ (ExitDesk.pausing self).Lifts c.before scope d))
    ∧ (∀ txs l₁ c l₂ env pauser, Chronological Prod.fst txs →
      ((RepoDvp.machine self).clocked RepoDvp.Tx.at).trace
        (RepoDvp.machine self).init txs = l₁ ++ c :: l₂ →
      c.call.2 = .call env (.pause pauser scope) →
      ((RepoDvp.pausing self).HoldsNotice c l₂ scope ↔
        ∀ d ∈ l₂, d.call.1 < c.call.1 + 172800 →
          ¬ (RepoDvp.pausing self).Lifts c.before scope d)) := by
  refine ⟨?_, ?_, ?_⟩
  · intro txs l₁ c l₂ pauser hchron hsplit hentry
    have hact : (Registry.pausing self).act c.call = .pause scope := by
      show Registry.pauseAct c.call.entry = _
      rw [hentry]
      rfl
    exact (Registry.pausing self).pause_holds_iff hchron hsplit hact
  · intro txs l₁ c l₂ env pauser hchron hsplit hcall
    have hact : (ExitDesk.pausing self).act c.call = .pause scope := by
      show c.call.2.pauseAct = _
      rw [hcall]
      rfl
    exact (ExitDesk.pausing self).pause_holds_iff hchron hsplit hact
  · intro txs l₁ c l₂ env pauser hchron hsplit hcall
    have hact : (RepoDvp.pausing self).act c.call = .pause scope := by
      show c.call.2.pauseAct = _
      rw [hcall]
      rfl
    exact (RepoDvp.pausing self).pause_holds_iff hchron hsplit hact

/-- In none of them does every pause hold: an unpause queued two days
ahead is executed one second after the pause. -/
theorem pause_lifted_at_once :
    (¬ ∀ (self : Address) txs l₁ c l₂ pauser scope,
      Chronological Registry.Tx.time txs →
      (Registry.machine self).trace (Registry.machine self).init txs
        = l₁ ++ c :: l₂ → c.call.entry = .pause pauser scope →
      (Registry.pausing self).HoldsNotice c l₂ scope)
    ∧ (¬ ∀ (self : Address) txs l₁ c l₂ env pauser scope,
      Chronological Prod.fst txs →
      ((ExitDesk.machine self).clocked ExitDesk.Tx.at).trace
        (ExitDesk.machine self).init txs = l₁ ++ c :: l₂ →
      c.call.2 = .call env (.pause pauser scope) →
      (ExitDesk.pausing self).HoldsNotice c l₂ scope)
    ∧ (¬ ∀ (self : Address) txs l₁ c l₂ env pauser scope,
      Chronological Prod.fst txs →
      ((RepoDvp.machine self).clocked RepoDvp.Tx.at).trace
        (RepoDvp.machine self).init txs = l₁ ++ c :: l₂ →
      c.call.2 = .call env (.pause pauser scope) →
      (RepoDvp.pausing self).HoldsNotice c l₂ scope) := by
  refine ⟨?_, ?_, ?_⟩
  · intro hclaim
    -- in each contract: two days after an unpause was queued, a pause is
    -- set and lifted by it
    obtain ⟨l₁, c, l₂, hsplit, hcall, hnot⟩ :=
      (Registry.pausing Registry.Demo.self).not_holdsNotice
        (Registry.machine Registry.Demo.self).init
        Registry.Demo.beforePause Registry.Demo.pauseExits
        Registry.Demo.unpauseExits .exits (by decide) (by decide)
        (by decide) (by decide)
    have hchron : Chronological Registry.Tx.time
        (Registry.Demo.beforePause
          ++ [Registry.Demo.pauseExits, Registry.Demo.unpauseExits]) := by
      unfold Chronological
      decide
    exact hnot (hclaim _ _ _ _ _ ⟨1⟩ _ hchron hsplit (by rw [hcall]; rfl))
  · intro hclaim
    obtain ⟨l₁, c, l₂, hsplit, hcall, hnot⟩ :=
      (ExitDesk.pausing ExitDesk.Demo.self).not_holdsNotice
        (ExitDesk.machine ExitDesk.Demo.self).init
        ExitDesk.Demo.beforePause ExitDesk.Demo.pauseExits
        ExitDesk.Demo.unpauseExits .exits (by decide) (by decide)
        (by decide) (by decide)
    have hchron : Chronological Prod.fst (ExitDesk.Demo.beforePause
        ++ [ExitDesk.Demo.pauseExits, ExitDesk.Demo.unpauseExits]) := by
      unfold Chronological
      decide
    exact hnot (hclaim _ _ _ _ _ ExitDesk.Demo.env ⟨1⟩ _ hchron hsplit
      (by rw [hcall]; rfl))
  · intro hclaim
    obtain ⟨l₁, c, l₂, hsplit, hcall, hnot⟩ :=
      (RepoDvp.pausing RepoDvp.Demo.self).not_holdsNotice
        (RepoDvp.machine RepoDvp.Demo.self).init
        RepoDvp.Demo.beforePause RepoDvp.Demo.pauseRepos
        RepoDvp.Demo.unpauseRepos .repos (by decide) (by decide)
        (by decide) (by decide)
    have hchron : Chronological Prod.fst (RepoDvp.Demo.beforePause
        ++ [RepoDvp.Demo.pauseRepos, RepoDvp.Demo.unpauseRepos]) := by
      unfold Chronological
      decide
    exact hnot (hclaim _ _ _ _ _ (RepoDvp.Demo.env 0 0) ⟨1⟩ _ hchron hsplit
      (by rw [hcall]; rfl))

-- ============================================================= integrity

/-- Timelock exactly-once and role integrity, for every run of the two
contracts that keep both queues and roles. -/
theorem governance_integrity (self : Address) :
    (∀ txs, (Registry.governed self).Integrity txs)
      ∧ ∀ txs, (PriceGuard.governed self).Integrity txs :=
  ⟨(Registry.governed self).integrity, (PriceGuard.governed self).integrity⟩

end Ballast
