/-
The two-read law of liquidation, and the one entry point that breaks
it.

# The law

`poke` and the health check of `draw` are the two places the contract
judges a line. The breach flag (`breachLedger`) is meant to say that
the latest of those judgements was `Liquidation` at an `Ok` price, and
the cure clock (`unhealthySince`) that it was `MarginCall` or worse;
`liquidate` then confirms, in a later ledger, a breach nothing has
contradicted since. `FlagsMatch` is that statement over the recorded
evaluations, with its consequence for `liquidate`.

# Where it fails

`draw` proves the line healthy and writes `marginState`, but leaves the
flag and the clock armed. After a recovery and a draw, one read of a
fresh breach is enough to liquidate (`flags_stale_after_draw`).

# When it holds

Exactly when no draw lands on an armed line: `flags_match_iff`. One
direction is the invariant `Armed` (the flag's ledger is that of a poke
every later evaluation agreed with); the other reads the violation off
the state right after such a draw.
-/
import Ballast.CreditLine.Proofs.Steps

namespace Ballast.CreditLine

open Soroban

-- ========================================================= evaluations

inductive EvalKind where
  | poke
  | draw
  deriving DecidableEq, Repr

/-- One on-chain health evaluation of a line: which entry point made
it, in which ledger, the state it found and the price status it
found it at. -/
structure Evaluation where
  kind : EvalKind
  ledger : Nat
  found : MarginState
  price : Option PriceStatus
  deriving DecidableEq, Repr

/-- The guard's answer for the line's asset, as `draw` reads it. -/
def guardStatus (env : Env) (s : State) (l : Line) : Option PriceStatus :=
  match s.assetConfig.get l.asset with
  | none => none
  | some config =>
      match env.guardedPrice config.priceGuard l.asset with
      | .ok guarded => some guarded.status
      | .error _ => none

/-- The evaluation of `line` a committed call made, if it made one.
`poke` evaluates the stored line; `draw` evaluates the line it is about
to write and stores the state found. -/
def evaluation (env : Env) (line : Nat) (e : Entry) (s s' : State) :
    Option Evaluation :=
  match e with
  | .poke id =>
      if id = line then
        match s.lines.get line with
        | none => none
        | some l =>
            match computeLtv env s l with
            | .ok view =>
                some ⟨.poke, env.sequence, view.state, some view.priceStatus⟩
            | .error _ => none
      else none
  | .draw _ id _ _ =>
      if id = line then
        (s'.lines.get line).map fun l =>
          ⟨.draw, env.sequence, l.marginState, guardStatus env s l⟩
      else none
  | _ => none

/-- The observer: evaluations of `line` in the order they were made. -/
def recordEval (addr : Address) (line : Nat) (evals : List Evaluation)
    (tx : Tx) (w w' : World State) : List Evaluation :=
  match tx with
  | .call env e =>
      evals ++ (evaluation (env.at addr) line e w.store w'.store).toList
  | .outside _ => evals

/-- The evaluations of `line` along the run `txs`. -/
def evaluations (addr : Address) (line : Nat) (txs : List Tx) :
    List Evaluation :=
  (machine addr).recorded [] (recordEval addr line) txs

-- ============================================================= the law

/-- The breach flag and the cure clock of `line` say what the latest
evaluation found, and a liquidation that would go through now is the
second read of one unbroken breach. -/
structure FlagsMatch (addr : Address) (line : Nat) (w : World State)
    (evals : List Evaluation) : Prop where
  breach : ∀ l, w.store.lines.get line = some l →
    l.breachLedger.isSome →
    ∃ e, evals.getLast? = some e ∧ e.found = .liquidation
      ∧ e.price = some .ok
  clock : ∀ l, w.store.lines.get line = some l →
    l.unhealthySince.isSome →
    ∃ e, evals.getLast? = some e ∧ e.found.isUnhealthy = true
  liquidation : ∀ (env : Env) keeper route s',
    liquidate (env.at addr) keeper line route w.store = .ok s' →
    ∃ pre e post, evals = pre ++ e :: post ∧ e.kind = .poke
      ∧ e.ledger < env.sequence ∧ e.found = .liquidation
      ∧ e.price = some .ok ∧ ∀ e' ∈ post, e'.found = .liquidation

/-- Every draw that commits on `line` finds neither the breach flag nor
the cure clock armed. -/
def DrawsUnarmed (addr : Address) (line : Nat) (tx : Tx)
    (w : World State) : Prop :=
  ∀ env borrower amount recipient w', tx = .call env
      (.draw borrower line amount recipient) →
    (machine addr).apply tx w = .ok w' →
    ∀ l, w.store.lines.get line = some l →
      l.breachLedger = none ∧ l.unhealthySince = none

-- ======================================================== the invariant

/-- An armed breach flag names the ledger of a poke that found the
breach at an `Ok` price, and every evaluation since found it too; an
armed cure clock is backed by the latest evaluation. -/
structure Armed (line : Nat) (s : State) (evals : List Evaluation) :
    Prop where
  breach : ∀ l n, s.lines.get line = some l → l.breachLedger = some n →
    ∃ pre e post, evals = pre ++ e :: post ∧ e.kind = .poke
      ∧ e.ledger = n ∧ e.found = .liquidation ∧ e.price = some .ok
      ∧ ∀ e' ∈ post, e'.found = .liquidation ∧ e'.price = some .ok
  clock : ∀ l, s.lines.get line = some l → l.unhealthySince.isSome →
    ∃ e, evals.getLast? = some e ∧ e.found.isUnhealthy = true

variable {addr : Address} {env : Env} {line : Nat} {w w' : World State}
  {s s' : State} {evals : List Evaluation}

theorem Armed.flagsMatch (h : Armed line w.store evals) :
    FlagsMatch addr line w evals := by
  refine ⟨?_, h.clock, ?_⟩
  · intro l hl hsome
    obtain ⟨n, hn⟩ := Option.isSome_iff_exists.mp hsome
    obtain ⟨pre, e, post, rfl, -, -, hfound, hprice, hpost⟩ :=
      h.breach l n hl hn
    cases hlast : post.getLast? with
    | none =>
        refine ⟨e, ?_, hfound, hprice⟩
        rw [List.getLast?_append, List.getLast?_cons, hlast]
        rfl
    | some e' =>
        have hmem := List.mem_of_getLast? hlast
        refine ⟨e', ?_, (hpost e' hmem).1, (hpost e' hmem).2⟩
        rw [List.getLast?_append, List.getLast?_cons, hlast]
        rfl
  · intro env keeper route s' hliq
    obtain ⟨l, n, view, price, hl, hn, hseq, -⟩ := liquidate_ok hliq
    obtain ⟨pre, e, post, hevals, hkind, hledger, hfound, hprice, hpost⟩ :=
      h.breach l n hl hn
    refine ⟨pre, e, post, hevals, hkind, ?_, hfound, hprice,
      fun e' he' => (hpost e' he').1⟩
    rw [hledger]
    exact hseq

/-- Calls that evaluate nothing and keep the flags keep the
invariant. -/
theorem Armed.keep (h : Armed line s evals)
    (hkeep : ∀ l', s'.lines.get line = some l' →
      (l'.breachLedger = none ∧ l'.unhealthySince = none)
      ∨ ∃ l, s.lines.get line = some l
        ∧ l'.breachLedger = l.breachLedger
        ∧ l'.unhealthySince = l.unhealthySince) :
    Armed line s' evals := by
  constructor
  · intro l' n hl' hn
    rcases hkeep l' hl' with ⟨hb, -⟩ | ⟨l, hl, hb, -⟩
    · rw [hb] at hn
      cases hn
    · exact h.breach l n hl (hb ▸ hn)
  · intro l' hl' hsome
    rcases hkeep l' hl' with ⟨-, hu⟩ | ⟨l, hl, -, hu⟩
    · rw [hu] at hsome
      cases hsome
    · exact h.clock l hl (hu ▸ hsome)

/-- A poke re-arms or clears the flags to match what it found. -/
theorem Armed.poke {l : Line} {view : LtvView} (h : Armed line s evals)
    (hl : s.lines.get line = some l)
    (hs' : s'.lines.get line = some (pokeLine env l view)) :
    Armed line s' (evals ++ [⟨.poke, env.sequence, view.state,
      some view.priceStatus⟩]) := by
  constructor
  · intro l' n hl' hn
    rw [hs'] at hl'
    injection hl' with hl'
    subst hl'
    simp only [pokeLine] at hn
    split at hn
    case isFalse => cases hn
    case isTrue hbreach =>
      have hprice : some view.priceStatus = some PriceStatus.ok := by
        rw [hbreach.2]
      split at hn
      case isTrue =>
        -- the flag was down: this poke is the one it now names
        injection hn with hn
        exact ⟨evals, _, [], rfl, rfl, hn, hbreach.1, hprice, by simp⟩
      case isFalse =>
        -- the flag was up: this poke agrees with everything since
        obtain ⟨pre, e, post, rfl, hkind, hledger, hfound, hok, hpost⟩ :=
          h.breach l n hl hn
        refine ⟨pre, e, post ++ [⟨.poke, env.sequence, view.state,
          some view.priceStatus⟩], by simp, hkind, hledger, hfound, hok, ?_⟩
        intro e' he'
        rcases List.mem_append.mp he' with hold | hnew
        · exact hpost e' hold
        · rw [List.mem_singleton.mp hnew]
          exact ⟨hbreach.1, hprice⟩
  · intro l' hl' hsome
    rw [hs'] at hl'
    injection hl' with hl'
    subst hl'
    simp only [pokeLine] at hsome
    split at hsome
    case isFalse => cases hsome
    case isTrue hun =>
      exact ⟨⟨.poke, env.sequence, view.state, some view.priceStatus⟩,
        by simp, hun⟩

-- ============================================================ one step

/-- Only a poke or a draw of `line` evaluates it. -/
theorem evaluation_none {e : Entry} (hp : e ≠ .poke line)
    (hd : ∀ b x r, e ≠ .draw b line x r) :
    evaluation env line e s s' = none := by
  cases e with
  | poke id =>
      have hid : id ≠ line := fun h => hp (by rw [h])
      simp [evaluation, hid]
  | draw b id x r =>
      have hid : id ≠ line := fun h => hd b x r (by rw [h])
      simp [evaluation, hid]
  | _ => rfl

/-- A committed poke records what it found. -/
theorem poke_records (h : call env (.poke line) w = .ok w') :
    ∃ l view, w.store.lines.get line = some l
      ∧ w'.store.lines.get line = some (pokeLine env l view)
      ∧ evaluation env line (.poke line) w.store w'.store
          = some ⟨.poke, env.sequence, view.state,
              some view.priceStatus⟩ := by
  obtain ⟨l, view, hl, hview, hl'⟩ := call_poke h
  exact ⟨l, view, hl, hl', by simp [evaluation, hl, hview]⟩

/-- A committed draw records `Healthy` and leaves both flags as they
were. -/
theorem draw_records {borrower recipient : Address} {amount : Int}
    (h : call env (.draw borrower line amount recipient) w = .ok w') :
    ∃ l l' e, w.store.lines.get line = some l
      ∧ w'.store.lines.get line = some l'
      ∧ l'.breachLedger = l.breachLedger
      ∧ l'.unhealthySince = l.unhealthySince
      ∧ evaluation env line (.draw borrower line amount recipient) w.store
          w'.store = some e
      ∧ e.found = .healthy := by
  obtain ⟨l, config, guarded, delta, cv, bps, -, -, hl, -, -, -, -, -, -, -,
    -, -, -, -, rfl⟩ := draw_ok h
  refine ⟨l, _, ⟨.draw, env.sequence, .healthy, guardStatus env w.store
    { l with
      accruedInterest := l.accruedInterest + delta
      lastAccrualTs := env.timestamp
      drawn := l.drawn + amount
      marginState := .healthy }⟩, hl, Store.get_set_self _ _ _, rfl, rfl,
    ?_, rfl⟩
  simp [evaluation, writeLine]

theorem armed_step {tx : Tx} (h : Armed line w.store evals)
    (hok : DrawsUnarmed addr line tx w)
    (happ : (machine addr).apply tx w = .ok w') :
    Armed line w'.store (recordEval addr line evals tx w w') := by
  cases tx with
  | outside tokens =>
      injection happ with happ
      subst happ
      exact h
  | call env e =>
      have hcall : call (env.at addr) e w = .ok w' := happ
      by_cases hp : e = .poke line
      · subst hp
        obtain ⟨l, view, hl, hl', hrec⟩ := poke_records hcall
        simp only [recordEval, hrec, Option.toList_some]
        exact h.poke hl hl'
      · by_cases hd : ∃ b x r, e = .draw b line x r
        · obtain ⟨b, x, r, rfl⟩ := hd
          obtain ⟨l, l', ev, hl, hl', hb, hu, hrec, -⟩ :=
            draw_records hcall
          obtain ⟨hb₀, hu₀⟩ := hok env b x r w' rfl happ l hl
          constructor
          · intro y n hy hn
            rw [hl'] at hy
            injection hy with hy
            rw [← hy, hb, hb₀] at hn
            cases hn
          · intro y hy hsome
            rw [hl'] at hy
            injection hy with hy
            rw [← hy, hu, hu₀] at hsome
            cases hsome
        · have hd' : ∀ b x r, e ≠ .draw b line x r :=
            fun b x r he => hd ⟨b, x, r, he⟩
          simp only [recordEval, evaluation_none hp hd', Option.toList_none,
            List.append_nil]
          exact h.keep (call_keeps_flags hcall hp)

-- ============================================================ all runs

theorem armed_run {txs : List Tx}
    (h : (machine addr).Allowed (DrawsUnarmed addr line)
      (machine addr).init txs) :
    Armed line ((machine addr).run (machine addr).init txs).store
      (evaluations addr line txs) := by
  refine Machine.recorded_induction (M := machine addr)
    (P := fun w evals => Armed line w.store evals) ⟨?_, ?_⟩ ?_ h
  · intro l n hl
    cases hl
  · intro l hl
    cases hl
  · intro w evals tx w' harm hok happ
    exact armed_step harm hok happ

theorem evaluations_snoc (txs : List Tx) (tx : Tx) {w' : World State}
    (h : (machine addr).apply tx
      ((machine addr).run (machine addr).init txs) = .ok w') :
    evaluations addr line (txs ++ [tx])
      = recordEval addr line (evaluations addr line txs) tx
          ((machine addr).run (machine addr).init txs) w' := by
  exact Machine.recorded_snoc h

/-- The law over whole runs, with the exact condition: the flags of a
line match its latest evaluation in every state a run reaches, and a
liquidation is always the second read of one unbroken breach, if and
only if no draw of the run committed while they were armed. -/
theorem flags_match_iff (addr : Address) (line : Nat) (txs : List Tx) :
    (∀ pre post, txs = pre ++ post →
      FlagsMatch addr line ((machine addr).run (machine addr).init pre)
        (evaluations addr line pre))
    ↔ (machine addr).Allowed (DrawsUnarmed addr line)
        (machine addr).init txs := by
  constructor
  · intro h
    refine Machine.allowed_of_prefix ?_
    intro pre tx post htxs env b x r w' htx happ l hl
    subst htxs htx
    obtain ⟨l₀, l', ev, hl₀, hl', hb, hu, hrec, hfound⟩ :=
      draw_records (show call (env.at addr) (.draw b line x r) _ = .ok w'
        from happ)
    rw [hl] at hl₀
    injection hl₀ with hl₀
    subst hl₀
    have hmatch := h (pre ++ [.call env (.draw b line x r)]) post (by simp)
    rw [Machine.run_snoc, Machine.exec_of_ok happ,
      evaluations_snoc pre _ happ] at hmatch
    simp only [recordEval, hrec, Option.toList_some] at hmatch
    constructor
    · by_contra hne
      have hsome : l'.breachLedger.isSome := by
        rw [hb]
        exact Option.isSome_iff_ne_none.mpr hne
      obtain ⟨e, hlast, hliq, -⟩ := hmatch.breach l' hl' hsome
      rw [List.getLast?_concat] at hlast
      injection hlast with hlast
      rw [← hlast, hfound] at hliq
      cases hliq
    · by_contra hne
      have hsome : l'.unhealthySince.isSome := by
        rw [hu]
        exact Option.isSome_iff_ne_none.mpr hne
      obtain ⟨e, hlast, hun⟩ := hmatch.clock l' hl' hsome
      rw [List.getLast?_concat] at hlast
      injection hlast with hlast
      rw [← hlast, hfound] at hun
      cases hun
  · intro h pre post htxs
    subst htxs
    exact (armed_run (Machine.Allowed.append.mp h).1).flagsMatch

/-- 500 drawn against 5000 units at 1.00; the price crashes to 0.10 and
a poke in ledger 5 flags the breach; the price recovers and the
borrower draws one more in ledger 6. -/
def Demo.drawOnArmedLine : List Tx := Demo.setup ++
  [.call (Demo.env 0 1 10000000) (.fund Demo.lender 0 1000),
   .call (Demo.env 0 1 10000000) (.syncCollateral ⟨1⟩ 0 5000),
   .call (Demo.env 0 1 10000000) (.draw Demo.borrower 0 500 Demo.borrower),
   .call (Demo.env 0 5 1000000) (.poke 0),
   .call (Demo.env 0 6 10000000) (.draw Demo.borrower 0 1 Demo.borrower)]

/-- The law fails as stated: after `drawOnArmedLine` the latest
evaluation found the line healthy, its breach flag still names ledger
5, and a second crash lets the keeper liquidate in ledger 7 on its
first read. -/
theorem flags_stale_after_draw :
    let w := (machine Demo.self).run (machine Demo.self).init
      Demo.drawOnArmedLine
    (evaluations Demo.self 0 Demo.drawOnArmedLine).map
        (fun e => (e.kind, e.ledger, e.found))
      = [(.draw, 1, .healthy), (.poke, 5, .liquidation),
          (.draw, 6, .healthy)]
    ∧ (w.store.lines.get 0).map Line.breachLedger = some (some 5)
    ∧ (liquidate (Demo.env 0 7 1000000) ⟨1⟩ 0 .transfer w.store).isOk
    ∧ ¬ FlagsMatch Demo.self 0 w
        (evaluations Demo.self 0 Demo.drawOnArmedLine) := by
  intro w
  have hevals : evaluations Demo.self 0 Demo.drawOnArmedLine
      = [⟨.draw, 1, .healthy, some .ok⟩, ⟨.poke, 5, .liquidation, some .ok⟩,
          ⟨.draw, 6, .healthy, some .ok⟩] := by decide +kernel
  have hline : (w.store.lines.get 0).map Line.breachLedger
      = some (some 5) := by decide +kernel
  refine ⟨by rw [hevals]; rfl, hline, by decide +kernel, ?_⟩
  intro hmatch
  obtain ⟨l, hl, hb⟩ := Option.map_eq_some_iff.mp hline
  obtain ⟨e, hlast, hfound, -⟩ := hmatch.breach l hl (by rw [hb]; rfl)
  rw [hevals] at hlast
  injection hlast with hlast
  rw [← hlast] at hfound
  cases hfound

end Ballast.CreditLine
