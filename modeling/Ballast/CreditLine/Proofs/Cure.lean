/-
The cure window: how long a borrower has between the first unhealthy
poke and a liquidation.

# The promise

A line carries its cure period (`cureS`) and the time its trouble began
(`unhealthySince`). A liquidation is meant to come no earlier than the
one after the other, with the line unhealthy all the while
(`AfterCure`).

# What the code keeps

The clock itself is kept: whenever a breach is flagged it runs, it was
started by a poke at the time it says, and no poke since found the line
well (`Clocked`). But `liquidate` reads neither field. So the promise is
kept exactly by those runs whose liquidations happen to wait
(`cure_window_iff`); nothing makes the keeper do so
(`liquidated_inside_cure`).
-/
import Ballast.CreditLine.Proofs.Steps

namespace Ballast.CreditLine

open Soroban Machine

-- ========================================================== the promise

/-- A committed poke of `line` at time `t` found it in `m`. -/
def PokeFinds (self : Address) (line t : Nat) (m : MarginState)
    (c : Committed (World State) Tx) : Prop :=
  ∃ env l view, c.call = .call env (.poke line) ∧ env.timestamp = t
    ∧ c.before.store.lines.get line = some l
    ∧ computeLtv (env.at self) c.before.store l = .ok view
    ∧ view.state = m

/-- In the trace a poke at `u` found `line` in a margin call or worse,
and no poke since found it better. -/
def UnhealthyFrom (self : Address) (line u : Nat)
    (tr : List (Committed (World State) Tx)) : Prop :=
  ∃ l₁ p l₂ m, tr = l₁ ++ p :: l₂ ∧ PokeFinds self line u m p
    ∧ m.isUnhealthy = true
    ∧ ∀ d ∈ l₂, ∀ t m', PokeFinds self line t m' d → m'.isUnhealthy = true

/-- If `c` liquidates `line`, the line's clock had run for the cure
period, and the line was unhealthy in every poke since it started. -/
def AfterCure (self : Address) (line : Nat)
    (tr : List (Committed (World State) Tx))
    (c : Committed (World State) Tx) : Prop :=
  ∀ env keeper route, c.call = .call env (.liquidate keeper line route) →
    ∃ l u, c.before.store.lines.get line = some l
      ∧ l.unhealthySince = some u ∧ u + l.cureS ≤ env.timestamp
      ∧ UnhealthyFrom self line u tr

/-- If `c` liquidates `line` while its clock runs, it comes no earlier
than the end of the cure period. -/
def Waits (line : Nat) (c : Committed (World State) Tx) : Prop :=
  ∀ env keeper route, c.call = .call env (.liquidate keeper line route) →
    ∀ l u, c.before.store.lines.get line = some l →
      l.unhealthySince = some u → u + l.cureS ≤ env.timestamp

-- ============================================================ the clock

/-- A flagged breach has a running clock, and a running clock its poke. -/
structure Clocked (addr : Address) (line : Nat) (s : State)
    (tr : List (Committed (World State) Tx)) : Prop where
  flagged : ∀ l, s.lines.get line = some l → l.breachLedger.isSome →
    l.unhealthySince.isSome
  started : ∀ l u, s.lines.get line = some l →
    l.unhealthySince = some u → UnhealthyFrom addr line u tr

variable {self : Address} {line : Nat} {w w' : World State}
  {tr : List (Committed (World State) Tx)} {env : Env} {e : Entry}
  {c : Committed (World State) Tx}

/-- One more call that, if it pokes the line, finds it unhealthy. -/
theorem UnhealthyFrom.snoc {u : Nat} (h : UnhealthyFrom self line u tr)
    (hc : ∀ t m, PokeFinds self line t m c → m.isUnhealthy = true) :
    UnhealthyFrom self line u (tr ++ [c]) := by
  obtain ⟨l₁, p, l₂, m, htr, hp, hm, hlater⟩ := h
  refine ⟨l₁, p, l₂ ++ [c], m, by rw [htr]; simp, hp, hm, ?_⟩
  intro d hd
  rcases List.mem_append.mp hd with hd | hd
  · exact hlater d hd
  · rw [List.mem_singleton.mp hd]
    exact hc

/-- A call that leaves flag and clock alone, or clears them. -/
theorem Clocked.keep (h : Clocked self line w.store tr)
    (hc : ∀ t m, ¬ PokeFinds self line t m c)
    (hkeep : ∀ l', w'.store.lines.get line = some l' →
      (l'.breachLedger = none ∧ l'.unhealthySince = none)
      ∨ ∃ l, w.store.lines.get line = some l
        ∧ l'.breachLedger = l.breachLedger
        ∧ l'.unhealthySince = l.unhealthySince) :
    Clocked self line w'.store (tr ++ [c]) := by
  constructor
  · intro l' hl' hflag
    rcases hkeep l' hl' with ⟨hb, -⟩ | ⟨l, hl, hb, hu⟩
    · rw [hb] at hflag
      cases hflag
    · rw [hu]
      exact h.flagged l hl (hb ▸ hflag)
  · intro l' u hl' hu'
    rcases hkeep l' hl' with ⟨-, hu⟩ | ⟨l, hl, -, hu⟩
    · rw [hu] at hu'
      cases hu'
    · refine (h.started l u hl (hu ▸ hu')).snoc ?_
      intro t m hp
      exact absurd hp (hc t m)

/-- A poke starts the clock, lets it run, or stops it. -/
theorem Clocked.poke {l : Line} {view : LtvView}
    (h : Clocked self line w.store tr)
    (hl : w.store.lines.get line = some l)
    (hview : computeLtv (env.at self) w.store l = .ok view)
    (hl' : w'.store.lines.get line
      = some (pokeLine (env.at self) l view)) :
    Clocked self line w'.store
      (tr ++ [⟨.call env (.poke line), w, w'⟩]) := by
  have hfinds : ∀ t m, PokeFinds self line t m
      ⟨.call env (.poke line), w, w'⟩ → m = view.state := by
    intro t m hp
    obtain ⟨env', l₁, view₁, hcall, -, hl₁, hview₁, rfl⟩ := hp
    injection hcall with henv _
    subst henv
    rw [hl] at hl₁
    injection hl₁ with hl₁
    subst hl₁
    rw [hview] at hview₁
    injection hview₁ with hview₁
    rw [hview₁]
  constructor
  · intro x hx hflag
    rw [hl'] at hx
    injection hx with hx
    subst hx
    simp only [pokeLine] at hflag ⊢
    split at hflag
    case isFalse => cases hflag
    case isTrue hbreach =>
      -- a breach is a liquidation, so the clock has been started
      have hun : view.state.isUnhealthy = true := by
        rw [hbreach.1]
        rfl
      rw [if_pos hun]
      split
      case isTrue => rfl
      case isFalse hsome =>
        rw [Bool.not_eq_true, Option.isNone_eq_false_iff] at hsome
        exact hsome
  · intro x u hx hu
    rw [hl'] at hx
    injection hx with hx
    subst hx
    simp only [pokeLine] at hu
    split at hu
    case isFalse => cases hu
    case isTrue hun =>
      split at hu
      case isTrue =>
        injection hu with hu
        refine ⟨tr, ⟨.call env (.poke line), w, w'⟩, [], view.state, rfl,
          ⟨env, l, view, rfl, hu, hl, hview, rfl⟩, hun, by simp⟩
      case isFalse =>
        refine (h.started l u hl hu).snoc ?_
        intro t m hp
        rw [hfinds t m hp]
        exact hun

theorem clocked_step {tx : Tx} (h : Clocked self line w.store tr)
    (happ : (machine self).apply tx w = .ok w') :
    Clocked self line w'.store (tr ++ [⟨tx, w, w'⟩]) := by
  have hnone : (∀ env, tx ≠ .call env (.poke line)) →
      ∀ t m, ¬ PokeFinds self line t m ⟨tx, w, w'⟩ := by
    intro htx t m hp
    obtain ⟨env, _, _, hcall, -⟩ := hp
    exact htx env hcall
  cases tx with
  | outside tokens =>
      injection happ with happ
      subst happ
      refine h.keep (hnone (by simp)) ?_
      intro l hl
      exact .inr ⟨l, hl, rfl, rfl⟩
  | call env e =>
      have hcall : call (env.at self) e w = .ok w' := happ
      by_cases hp : e = .poke line
      · subst hp
        obtain ⟨l, view, hl, hview, hl'⟩ := call_poke hcall
        exact h.poke hl hview hl'
      · refine h.keep (hnone ?_) (call_keeps_flags hcall hp)
        intro env' heq
        injection heq with _ he
        exact hp he

-- ============================================================= all runs

theorem clocked_run (self : Address) (line : Nat) (txs : List Tx) :
    Clocked self line ((machine self).run (machine self).init txs).store
      ((machine self).trace (machine self).init txs) := by
  refine trace_induction (M := machine self)
    (P := fun w tr => Clocked self line w.store tr) ⟨?_, ?_⟩ ?_
    (allowed_true _ txs)
  · intro l hl
    cases hl
  · intro l u hl
    cases hl
  · intro w tr tx w' h _ happ
    exact clocked_step h happ

/-- Liquidations come after the cure window, over a whole run, exactly
when each of them comes no earlier than its line's clock plus its cure
period. -/
theorem cure_window_iff (self : Address) (line : Nat) (txs : List Tx) :
    (∀ l₁ c l₂, (machine self).trace (machine self).init txs
        = l₁ ++ c :: l₂ → AfterCure self line l₁ c) ↔
      ∀ c ∈ (machine self).trace (machine self).init txs, Waits line c := by
  constructor
  · intro h c hc env keeper route hcall l u hl hu
    obtain ⟨l₁, l₂, hsplit⟩ := List.append_of_mem hc
    obtain ⟨l', u', hl', hu', htime, -⟩ :=
      h l₁ c l₂ hsplit env keeper route hcall
    rw [hl] at hl'
    injection hl' with hl'
    subst hl'
    rw [hu] at hu'
    injection hu' with hu'
    subst hu'
    exact htime
  · intro h l₁ c l₂ hsplit env keeper route hcall
    obtain ⟨pre, post, -, hbefore, happ, hl₁, -⟩ := trace_split hsplit
    have hclock := clocked_run self line pre
    rw [← hbefore, hl₁] at hclock
    rw [hcall] at happ
    have hliq : call (env.at self) (.liquidate keeper line route) c.before
        = .ok c.after := happ
    obtain ⟨l, breach, view, price, hl, hbreach, -⟩ :=
      liquidate_ok (onStore_ok.mp hliq).1
    obtain ⟨u, hu⟩ := Option.isSome_iff_exists.mp
      (hclock.flagged l hl (by rw [hbreach]; rfl))
    refine ⟨l, u, hl, hu, ?_, hclock.started l u hl hu⟩
    exact h c (by rw [hsplit]; simp) env keeper route hcall l u hl hu

/-- 500 drawn against 5000 units at 1.00 with an hour to cure; the price
crashes to 0.10 and a poke in ledger 5 starts the clock. -/
def Demo.crashed : List Tx := Demo.setup ++
  [.call (Demo.env 0 1 10000000) (.fund Demo.lender 0 1000),
   .call (Demo.env 0 1 10000000) (.syncCollateral ⟨1⟩ 0 5000),
   .call (Demo.env 0 1 10000000) (.draw Demo.borrower 0 500 Demo.borrower),
   .call (Demo.env 0 5 1000000) (.poke 0)]

/-- The keeper liquidates in the next ledger, with none of the hour
gone. -/
theorem liquidated_inside_cure :
    ¬ ∀ (self : Address) (line : Nat) (txs : List Tx) l₁ c l₂,
      (machine self).trace (machine self).init txs = l₁ ++ c :: l₂ →
      AfterCure self line l₁ c := by
  intro hclaim
  have hsplit := trace_snoc (machine Demo.self) (machine Demo.self).init
    Demo.crashed
    (a := .call (Demo.env 0 6 1000000) (.liquidate ⟨1⟩ 0 .transfer))
    (by decide +kernel)
  obtain ⟨l, u, hl, hu, htime, -⟩ :=
    hclaim _ 0 _ _ _ [] hsplit _ _ _ rfl
  have hline : (((machine Demo.self).run (machine Demo.self).init
      Demo.crashed).store.lines.get 0).map
        (fun l => (l.unhealthySince, l.cureS)) = some (some 0, 3600) := by
    decide +kernel
  obtain ⟨l', hl', hfields⟩ := Option.map_eq_some_iff.mp hline
  rw [hl'] at hl
  injection hl with hl
  subst hl
  injection hfields with hsince hcure
  rw [hcure] at htime
  exact absurd htime (by simp [Demo.env])

end Ballast.CreditLine
