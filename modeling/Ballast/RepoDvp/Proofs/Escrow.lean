/-
The escrow: what is in it, and how it gets in and out.

The collateral of all trades in one token is one balance. Three
statements make it safe to pool:

- the balance covers the units of the settled trades (`escrow_covers`);
- a call on a trade makes exactly the payments of its leg (`Leg`), and
  the leg says what became of the trade, so cash moves in
  `acceptAndSettle` and `unwind` only, and collateral leaves only when
  the trade ends (`call_settlement`);
- per trade, what entered is its units and what left is either nothing
  or, once, all of them (`flow_of_trade`).

All three read one fact off each leg: the contract's balance moves by
what the trade holds after, less what it held before (`Leg.net_self`).
-/
import Ballast.RepoDvp.Proofs.Trades

namespace Ballast.RepoDvp

open Soroban

variable {addr : Address} {env : Env} {w w' : World State} {s s' : State}
  {e : Entry} {t t' : RepoTrade}

-- ============================================================= the legs

/-- Units the escrow holds for a trade. -/
def heldUnits (t : RepoTrade) : Int :=
  if t.status = .settled then t.units else 0

/-- Units of settled trades in `asset`. -/
def escrowed (s : State) (asset : Address) : Int :=
  tradeTotal s (whenSettled (·.asset = asset) (·.units))

/-- One call on a trade: what it makes of `t`, and the payments it
makes. -/
inductive Leg (env : Env) (usdc : Option Address) (t : RepoTrade) :
    Entry → RepoTrade → List Payment → Prop
  | cancelled {caller : Address} {id : Nat} : t.status = .proposed →
      Leg env usdc t (.cancelProposal caller id)
        { t with status := .cancelled } []
  | settled {cash : Address} {id : Nat} : t.status = .proposed →
      usdc = some cash →
      Leg env usdc t (.acceptAndSettle t.cashBorrower id)
        (settledTrade env t)
        [⟨t.asset, t.cashBorrower, env.self, t.units⟩,
         ⟨cash, t.cashLender, t.cashBorrower, t.cashAmount⟩]
  | margin {keeper : Address} {id : Nat} {t' : RepoTrade} :
      t.status = .settled → MarginOnly t t' →
      Leg env usdc t (.callMargin keeper id) t' []
  | toppedUp {id : Nat} {extra : Int} {t' : RepoTrade} :
      t.status = .settled → 0 < extra →
      MarginOnly { t with units := t.units + extra } t' →
      Leg env usdc t (.topUp t.cashBorrower id extra) t'
        [⟨t.asset, t.cashBorrower, env.self, extra⟩]
  | unwound {caller cash : Address} {id start : Nat} {due : Int} :
      t.status = .settled → usdc = some cash → t.settledAt = some start →
      totalDue t start = .ok due →
      Leg env usdc t (.unwind caller id) { t with status := .unwound }
        [⟨cash, t.cashBorrower, t.cashLender, due⟩,
         ⟨t.asset, env.self, t.cashBorrower, t.units⟩]
  | defaulted {e : Entry} {lenderUnits borrowerUnits : Int} :
      ((∃ keeper id, e = .defaultClose keeper id)
        ∨ ∃ caller id, e = .defaultAtMaturity caller id) →
      t.status = .settled → 0 ≤ lenderUnits → 0 ≤ borrowerUnits →
      lenderUnits + borrowerUnits = t.units →
      Leg env usdc t e { t with status := .defaulted }
        [⟨t.asset, env.self, t.cashLender, lenderUnits⟩,
         ⟨t.asset, env.self, t.cashBorrower, borrowerUnits⟩]

/-- The trade an entry point is called on. -/
def Entry.trade : Entry → Option Nat
  | .cancelProposal _ id => some id
  | .acceptAndSettle _ id => some id
  | .unwind _ id => some id
  | .callMargin _ id => some id
  | .topUp _ id _ => some id
  | .defaultClose _ id => some id
  | .defaultAtMaturity _ id => some id
  | _ => none

/-- A setup call is about no trade. -/
theorem Entry.trade_of_isSetup (h : e.isSetup = true) : e.trade = none := by
  cases e <;> first | rfl | cases h

/-- What a committed call does to trades and balances: nothing, a new
proposal that moves no money, or one leg of one trade. -/
inductive Settlement (env : Env) (w w' : World State) (e : Entry) : Prop
  | setup : e.isSetup = true → e.trade = none →
      w'.store.trades = w.store.trades →
      w'.tokens.balance = w.tokens.balance → Settlement env w w' e
  | proposed {id : Nat} {t : RepoTrade} : e.trade = none →
      w.store.trades.get id = none → t.status = .proposed →
      t.proposedAt = env.timestamp →
      w'.store.trades = w.store.trades.set id t →
      w'.tokens.balance = w.tokens.balance → Settlement env w w' e
  | leg {id : Nat} {t t' : RepoTrade} {ps : List Payment} :
      e.trade = some id → w.store.trades.get id = some t →
      Leg env w.store.usdc t e t' ps →
      w'.store.trades = w.store.trades.set id t' →
      w'.tokens.balance = (w.tokens.pay ps).balance → Settlement env w w' e

/-- Each call about a trade makes the payments of its leg, and the leg
says what the trade became. -/
theorem effect_settlement (hs : TradesOk env.self w.store)
    (h : Effect env w w' e) : Settlement env w w' e := by
  cases h with
  | setup he htokens htrades _ _ _ =>
      exact .setup he (Entry.trade_of_isSetup he) htrades (by rw [htokens])
  | propose _ _ _ _ htokens htrades _ _ _ =>
      exact .proposed rfl (hs.fresh _ (le_refl _)) rfl rfl htrades
        (by rw [htokens]; rfl)
  | cancel ht hst htokens hrep _ =>
      refine .leg rfl ht (.cancelled hst) hrep.trades ?_
      rcases htokens with ⟨-, htokens⟩ | ⟨_, _, -, -, htokens⟩
      · rw [htokens]
        rfl
      · rw [htokens]
        rfl
  | settle _ ht hst husdc _ _ _ _ htokens hrep _ =>
      refine .leg rfl ht (.settled hst husdc) hrep.trades ?_
      rw [htokens]
      rfl
  | unwind ht hst husdc hstart hdue hpay htokens hrep _ =>
      refine .leg rfl ht (.unwound hst husdc hstart hdue) hrep.trades ?_
      rw [htokens]
      rcases (payDue_ok hpay).2 with ⟨-, hpaid⟩ | ⟨-, hpaid⟩
      · rw [hpaid]
        rfl
      · rw [hpaid]
        rfl
  | margin ht hst hmargin htokens hrep _ =>
      refine .leg rfl ht (.margin hst hmargin) hrep.trades ?_
      rw [htokens]
      rfl
  | topUp _ hextra ht hst hmargin htokens hrep _ =>
      refine .leg rfl ht (.toppedUp hst hextra hmargin) hrep.trades ?_
      rw [htokens]
      rfl
  | @defaultClose keeper id t share ht hst hpos hle _ hbal hrep _ =>
      have hrest : 0 ≤ t.units - share := by omega
      have hsum : share + (t.units - share) = t.units := by omega
      refine .leg rfl ht (.defaulted (.inl ⟨keeper, id, rfl⟩) hst hpos hrest
        hsum) hrep.trades ?_
      funext a x
      rw [hbal]
      rfl
  | @defaultAtMaturity caller id t share ht hst hpos hle _ hbal hrep _ =>
      have hrest : 0 ≤ t.units - share := by omega
      have hsum : share + (t.units - share) = t.units := by omega
      refine .leg rfl ht (.defaulted (.inr ⟨caller, id, rfl⟩) hst hpos hrest
        hsum) hrep.trades ?_
      funext a x
      rw [hbal]
      rfl

-- ======================================================= the statuses

/-- The life of a trade; `none` is a trade not yet proposed. -/
inductive Follows : Option RepoStatus → Option RepoStatus → Prop
  | stay {st : Option RepoStatus} : Follows st st
  | propose : Follows none (some .proposed)
  | cancel : Follows (some .proposed) (some .cancelled)
  | settle : Follows (some .proposed) (some .settled)
  | unwind : Follows (some .settled) (some .unwound)
  | default : Follows (some .settled) (some .defaulted)

/-- The states no call leaves. -/
def RepoStatus.IsFinal (st : RepoStatus) : Prop :=
  st = .cancelled ∨ st = .unwound ∨ st = .defaulted

/-- The status stored under `id`. -/
def statusOf (s : State) (id : Nat) : Option RepoStatus :=
  (s.trades.get id).map (·.status)

/-- A leg takes the status of its trade one step on. -/
theorem Leg.follows {usdc : Option Address} {ps : List Payment}
    (h : Leg env usdc t e t' ps) :
    Follows (some t.status) (some t'.status) := by
  cases h with
  | cancelled hst =>
      rw [hst]
      exact .cancel
  | settled hst =>
      rw [hst]
      exact .settle
  | margin _ hmargin =>
      rw [hmargin.status]
      exact .stay
  | toppedUp _ _ hmargin =>
      rw [hmargin.status]
      exact .stay
  | unwound hst =>
      rw [hst]
      exact .unwind
  | defaulted _ hst =>
      rw [hst]
      exact .default

/-- Writing a trade changes its own status. -/
theorem statusOf_set {id k : Nat} (h : s'.trades = s.trades.set id t) :
    statusOf s' k = if k = id then some t.status else statusOf s k := by
  unfold statusOf
  rw [h, Store.get_set]
  split <;> rfl

/-- A call takes each trade's status one step on, or leaves it. -/
theorem Settlement.follows (h : Settlement env w w' e) (k : Nat) :
    Follows (statusOf w.store k) (statusOf w'.store k) := by
  cases h with
  | setup _ _ htrades =>
      unfold statusOf
      rw [htrades]
      exact .stay
  | @proposed id t _ hnone hst _ htrades =>
      rw [statusOf_set htrades]
      split
      · next hk =>
        rw [statusOf, hk, hnone, hst]
        exact .propose
      · exact .stay
  | @leg id t t' ps _ ht hleg htrades =>
      rw [statusOf_set htrades]
      split
      · next hk =>
        rw [statusOf, hk, ht]
        exact hleg.follows
      · exact .stay

/-- A final status is never left. -/
theorem Follows.final {st st' : Option RepoStatus} {x : RepoStatus}
    (h : Follows st st') (hst : st = some x) (hx : x.IsFinal) :
    st' = some x := by
  cases h with
  | stay => exact hst
  | propose => cases hst
  | cancel =>
      injection hst with hst
      subst hst
      rcases hx with hx | hx | hx <;> cases hx
  | settle =>
      injection hst with hst
      subst hst
      rcases hx with hx | hx | hx <;> cases hx
  | unwind =>
      injection hst with hst
      subst hst
      rcases hx with hx | hx | hx <;> cases hx
  | default =>
      injection hst with hst
      subst hst
      rcases hx with hx | hx | hx <;> cases hx

-- ===================================================== what one leg nets

/-- A settled trade has its units in escrow. -/
theorem heldUnits_settled (h : t.status = .settled) :
    heldUnits t = t.units := by
  unfold heldUnits
  rw [if_pos h]

/-- Any other has none. -/
theorem heldUnits_open (h : t.status ≠ .settled) : heldUnits t = 0 := by
  unfold heldUnits
  rw [if_neg h]

/-- The weight of the escrow bound is what the trade holds, in its own
token. -/
theorem whenSettled_units (a : Address) :
    whenSettled (·.asset = a) (·.units) t
      = if a = t.asset then heldUnits t else 0 := by
  unfold whenSettled heldUnits
  by_cases ha : a = t.asset
  · subst ha
    simp
  · rw [if_neg fun hc => ha hc.2.symm, if_neg ha]

/-- A leg never renames a trade's token. -/
theorem Leg.asset {usdc : Option Address} {ps : List Payment}
    (h : Leg env usdc t e t' ps) : t'.asset = t.asset := by
  cases h with
  | margin _ hmargin => exact hmargin.asset
  | toppedUp _ _ hmargin => exact hmargin.asset
  | _ => rfl

/-- What a leg pays the contract is what the trade holds after it, less
what it held before. Cash legs pass the contract by: neither party of a
live trade is the contract. -/
theorem Leg.net_self {usdc : Option Address} {ps : List Payment}
    (ht : TradeOk env.self t) (ht' : TradeOk env.self t')
    (h : Leg env usdc t e t' ps) (a : Address) :
    (ps.map fun p => p.net a env.self).sum
      = if a = t.asset then heldUnits t' - heldUnits t else 0 := by
  have hlender := ht.lender_ne.symm
  cases h with
  | cancelled hst =>
      rw [heldUnits_open (t := t) (by rw [hst]; decide),
        heldUnits_open (t := { t with status := .cancelled })
          (by decide : RepoStatus.cancelled ≠ .settled)]
      simp
  | settled hst =>
      have hborrower := (ht'.borrower_ne rfl).symm
      have hborrower' : env.self ≠ t.cashBorrower := hborrower
      rw [heldUnits_open (t := t) (by rw [hst]; decide),
        heldUnits_settled (t := settledTrade env t) rfl]
      simp [Payment.net, hlender, hborrower', settledTrade]
  | margin hst hmargin =>
      rw [heldUnits_settled hst, heldUnits_settled (t := t')
        (by rw [hmargin.status, hst]), hmargin.units]
      simp
  | @toppedUp _ extra _ hst _ hmargin =>
      have hborrower := (ht.borrower_ne hst).symm
      rw [heldUnits_settled hst, heldUnits_settled (t := t')
        (by rw [hmargin.status]; exact hst), hmargin.units]
      have hdiff : t.units + extra - t.units = extra := by omega
      simp [Payment.net, hborrower, hdiff]
  | unwound hst =>
      have hborrower := (ht.borrower_ne hst).symm
      rw [heldUnits_settled hst,
        heldUnits_open (t := { t with status := .unwound })
          (by decide : RepoStatus.unwound ≠ .settled)]
      simp only [Payment.net, List.map_cons, List.map_nil, List.sum_cons,
        List.sum_nil, hlender, hborrower, and_false, and_true, if_false]
      split <;> omega
  | defaulted _ hst _ _ hsum =>
      have hborrower := (ht.borrower_ne hst).symm
      rw [heldUnits_settled hst,
        heldUnits_open (t := { t with status := .defaulted })
          (by decide : RepoStatus.defaulted ≠ .settled)]
      simp only [Payment.net, List.map_cons, List.map_nil, List.sum_cons,
        List.sum_nil, hlender, hborrower, and_false, and_true, if_false]
      split <;> omega

-- =========================================================== the bound

/-- The balance covers the settled trades, token by token. -/
def EscrowCovered (addr : Address) (w : World State) : Prop :=
  ∀ a, escrowed w.store a ≤ w.tokens.balance a addr

/-- Nobody but the contract debits its balance. -/
def NoOutsideDebit (addr : Address) : Tx → World State → Prop
  | .call _ _, _ => True
  | .outside tokens, w => ∀ a, w.tokens.balance a addr ≤ tokens.balance a addr

/-- A call moves the contract's balance by exactly what the settled
trades then hold more, or less. -/
theorem Settlement.balance_self (hs : TradesOk env.self w.store)
    (hs' : TradesOk env.self w'.store) (h : Settlement env w w' e)
    (a : Address) :
    w'.tokens.balance a env.self - escrowed w'.store a
      = w.tokens.balance a env.self - escrowed w.store a := by
  cases h with
  | setup _ _ htrades hbal =>
      unfold escrowed
      rw [hbal, tradeTotal_congr _ htrades]
  | @proposed id t _ hnone hst _ htrades hbal =>
      unfold escrowed
      rw [hbal, tradeTotal_insert _ hnone htrades,
        whenSettled_open (by rw [hst]; decide)]
      omega
  | @leg id t t' ps _ ht hleg htrades hbal =>
      have hok := hs.trade id t ht
      have hok' : TradeOk env.self t' := by
        apply hs'.trade id t'
        rw [htrades, Store.get_set_self]
      have htotal : escrowed w'.store a = escrowed w.store a
          - whenSettled (·.asset = a) (·.units) t
          + whenSettled (·.asset = a) (·.units) t' := by
        unfold escrowed tradeTotal
        rw [htrades, Store.total_set, Store.part_some _ ht]
      rw [htotal, hbal, Ledger.balance_pay, hleg.net_self hok hok' a,
        whenSettled_units, whenSettled_units, hleg.asset]
      split <;> omega

-- ============================================================ the flows

/-- Units a trade's calls brought into escrow, and took out. -/
structure Flow where
  entered : Int
  left : Int
  deriving DecidableEq, Repr

/-- One more change of the balance. -/
def Flow.add (f : Flow) (d : Int) : Flow :=
  ⟨f.entered + max d 0, f.left + max (-d) 0⟩

/-- What has to have flowed for a trade in its present state. -/
def Flow.of : Option RepoTrade → Flow
  | none => ⟨0, 0⟩
  | some t =>
      match t.status with
      | .proposed => ⟨0, 0⟩
      | .cancelled => ⟨0, 0⟩
      | .settled => ⟨t.units, 0⟩
      | .unwound => ⟨t.units, t.units⟩
      | .defaulted => ⟨t.units, t.units⟩

/-- The change a call made to the contract's balance of trade `id`'s
token. -/
def escrowChange (addr : Address) (id : Nat) (w w' : World State) : Int :=
  match w'.store.trades.get id with
  | some t => w'.tokens.balance t.asset addr - w.tokens.balance t.asset addr
  | none => 0

/-- The observer: adds up what the calls on trade `id` change. -/
def recordFlow (addr : Address) (id : Nat) (f : Flow) (tx : Tx)
    (w w' : World State) : Flow :=
  match tx with
  | .call _ e =>
      if e.trade = some id then f.add (escrowChange addr id w w') else f
  | .outside _ => f

/-- The flows of trade `id` along a run. -/
def flow (addr : Address) (id : Nat) (txs : List Tx) : Flow :=
  (machine addr).recorded ⟨0, 0⟩ (recordFlow addr id) txs

/-- Each leg adds its own flow: the units on the way in, and all of them
on the way out. -/
theorem Leg.flow {usdc : Option Address} {ps : List Payment}
    (ht : 0 < t.units) (h : Leg env usdc t e t' ps) :
    (Flow.of (some t)).add (heldUnits t' - heldUnits t)
      = Flow.of (some t') := by
  cases h with
  | cancelled hst => simp [Flow.of, Flow.add, heldUnits, hst]
  | settled hst =>
      have hmax : max t.units 0 = t.units := by omega
      have hneg : max (-t.units) 0 = 0 := by omega
      simp [Flow.of, Flow.add, heldUnits, settledTrade, hst, hmax, hneg]
  | margin hst hmargin =>
      simp [Flow.of, Flow.add, heldUnits, hmargin.status, hmargin.units, hst]
  | @toppedUp _ extra _ hst hextra hmargin =>
      have hdiff : t.units + extra - t.units = extra := by omega
      have hmax : max extra 0 = extra := by omega
      have hneg : max (-extra) 0 = 0 := by omega
      simp [Flow.of, Flow.add, heldUnits, hmargin.status, hmargin.units, hst,
        hdiff, hmax, hneg]
  | unwound hst =>
      have hmax : max t.units 0 = t.units := by omega
      have hneg : max (-t.units) 0 = 0 := by omega
      simp [Flow.of, Flow.add, heldUnits, hst, hmax, hneg]
  | defaulted _ hst =>
      have hmax : max t.units 0 = t.units := by omega
      have hneg : max (-t.units) 0 = 0 := by omega
      simp [Flow.of, Flow.add, heldUnits, hst, hmax, hneg]

/-- Recording a call keeps a trade's flow in step with its status. -/
theorem recordFlow_settlement {id : Nat} {f : Flow}
    (hs : TradesOk (env.at addr).self w.store)
    (hs' : TradesOk (env.at addr).self w'.store)
    (hf : f = Flow.of (w.store.trades.get id))
    (h : Settlement (env.at addr) w w' e) :
    recordFlow addr id f (.call env e) w w'
      = Flow.of (w'.store.trades.get id) := by
  show (if e.trade = some id then f.add (escrowChange addr id w w') else f)
    = _
  cases h with
  | setup _ htrade htrades _ =>
      rw [htrade, if_neg nofun, htrades, hf]
  | @proposed k t htrade hnone hst _ htrades _ =>
      rw [htrade, if_neg nofun, htrades, Store.get_set, hf]
      split
      · next hk => simp [hk, hnone, Flow.of, hst]
      · rfl
  | @leg k t t' ps htrade ht hleg htrades hbal =>
      have hok := hs.trade k t ht
      have hget : w'.store.trades.get k = some t' := by
        rw [htrades, Store.get_set_self]
      rw [htrade]
      by_cases hk : k = id
      · subst hk
        have hnet := hleg.net_self hok (hs'.trade k t' hget) t'.asset
        have hchange : escrowChange addr k w w'
            = heldUnits t' - heldUnits t := by
          have hpaid : w'.tokens.balance t'.asset addr
              = w.tokens.balance t'.asset addr
                + (ps.map fun p => p.net t'.asset addr).sum := by
            rw [hbal, Ledger.balance_pay]
          rw [if_pos hleg.asset] at hnet
          have hself : (env.at addr).self = addr := rfl
          rw [hself] at hnet
          simp only [escrowChange, hget]
          omega
        rw [if_pos rfl, hchange, hget, hf, ht]
        exact hleg.flow hok.units_pos
      · rw [if_neg fun hc => hk (Option.some.inj hc), htrades,
          Store.get_set_ne _ _ (Ne.symm hk), hf]

-- ================================================================= runs

/-- A transaction of the contract is a call with its payments. -/
theorem call_settlement (hs : TradesOk addr w.store)
    (h : (machine addr).apply (.call env e) w = .ok w') :
    Settlement (env.at addr) w w' e := by
  have hs' : TradesOk (env.at addr).self w.store := hs
  exact effect_settlement hs' (call_effect hs.keyed h)

/-- Every transaction keeps the escrow covered. -/
theorem escrowCovered_step {tx : Tx} (hs : TradesOk addr w.store)
    (hcover : EscrowCovered addr w) (hok : NoOutsideDebit addr tx w)
    (happ : (machine addr).apply tx w = .ok w') : EscrowCovered addr w' := by
  intro a
  have ha := hcover a
  cases tx with
  | call env e =>
      have hs' := tradesOk_step hs happ
      have hmove := (call_settlement hs happ).balance_self hs hs' a
      have hself : (env.at addr).self = addr := rfl
      rw [hself] at hmove
      omega
  | outside tokens =>
      injection happ with happ
      subst happ
      exact ha.trans (hok a)

/-- The balance covers the units of all settled trades, over every run in
which nobody debits the contract from outside. -/
theorem escrow_covers {txs : List Tx}
    (h : (machine addr).Allowed (NoOutsideDebit addr) (machine addr).init
      txs) :
    EscrowCovered addr ((machine addr).run (machine addr).init txs) := by
  refine Machine.run_induction_prefix (P := EscrowCovered addr)
    (fun _ => le_refl 0) ?_ h
  intro pre tx post w' _ hcover hok happ
  exact escrowCovered_step (tradesOk_run addr pre) hcover hok happ

/-- The flows of a trade are what its state says. -/
theorem flow_of_trade (addr : Address) (id : Nat) (txs : List Tx) :
    flow addr id txs = Flow.of
      (((machine addr).run (machine addr).init txs).store.trades.get id) := by
  suffices hboth : TradesOk addr
      ((machine addr).run (machine addr).init txs).store
      ∧ flow addr id txs = Flow.of
        (((machine addr).run (machine addr).init txs).store.trades.get id) from
    hboth.2
  refine Machine.recorded_induction
    (P := fun (w : World State) f => TradesOk addr w.store
      ∧ f = Flow.of (w.store.trades.get id))
    ⟨tradesOk_init addr, rfl⟩ ?_ (Machine.allowed_true _ txs)
  intro w f tx w' hw _ happ
  obtain ⟨hs, hf⟩ := hw
  have hs' := tradesOk_step hs happ
  refine ⟨hs', ?_⟩
  cases tx with
  | call env e =>
      exact recordFlow_settlement hs hs' hf (call_settlement hs happ)
  | outside tokens =>
      injection happ with happ
      subst happ
      exact hf

/-- A final status is final. -/
theorem final_forever {id : Nat} {st : RepoStatus} (hst : st.IsFinal)
    (pre post : List Tx)
    (h : statusOf ((machine addr).run (machine addr).init pre).store id
      = some st) :
    statusOf ((machine addr).run (machine addr).init (pre ++ post)).store id
      = some st := by
  rw [Machine.run_append]
  refine Machine.run_induction_prefix (P := fun w : World State =>
    statusOf w.store id = some st) h ?_ (Machine.allowed_true _ post)
  intro mid tx rest w' _ hfinal _ happ
  cases tx with
  | call env e =>
      rw [← Machine.run_append] at happ hfinal
      have hset := call_settlement (tradesOk_run addr (pre ++ mid)) happ
      exact (hset.follows id).final hfinal hst
  | outside tokens =>
      injection happ with happ
      subst happ
      exact hfinal

/-- Escrow conservation over whole runs: the balance covers the settled
trades; every call settles as its leg says and moves each trade along
its life, final states staying final; and for every trade the units
that entered escrow, and those that left it, are what its state says. -/
theorem escrow_conserved (addr : Address) (txs : List Tx)
    (h : (machine addr).Allowed (NoOutsideDebit addr) (machine addr).init
      txs) :
    let w := (machine addr).run (machine addr).init txs
    EscrowCovered addr w
    ∧ (∀ env e w', (machine addr).apply (.call env e) w = .ok w' →
        Settlement (env.at addr) w w' e
        ∧ ∀ id, Follows (statusOf w.store id) (statusOf w'.store id))
    ∧ (∀ pre post id st, txs = pre ++ post → st.IsFinal →
        statusOf ((machine addr).run (machine addr).init pre).store id
          = some st → statusOf w.store id = some st)
    ∧ ∀ id, flow addr id txs = Flow.of (w.store.trades.get id) := by
  intro w
  refine ⟨escrow_covers h, ?_, ?_, ?_⟩
  · intro env e w' happ
    have hset := call_settlement (tradesOk_run addr txs) happ
    exact ⟨hset, hset.follows⟩
  · intro pre post id st htxs hst hpre
    have hfinal := final_forever hst pre post hpre
    rw [← htxs] at hfinal
    exact hfinal
  · exact fun id => flow_of_trade addr id txs

/-- Two trades in one token, the second topped up by 50: the contract
holds 450, and the first has brought its 200 in. -/
theorem escrow_conserved_demo :
    let txs := Demo.setup ++ Demo.repo Demo.lender Demo.borrower 0 ++
      Demo.repo Demo.lender Demo.dealer 1 ++
      [.call (Demo.env 20 4) (.topUp Demo.dealer 1 50)]
    let w := (machine Demo.self).run (machine Demo.self).init txs
    w.tokens.balance Demo.asset Demo.self = 450
      ∧ escrowed w.store Demo.asset ≤ 450
      ∧ flow Demo.self 0 txs = ⟨200, 0⟩ := by
  intro txs w
  have hb : w.tokens.balance Demo.asset Demo.self = 450 := by decide +kernel
  have hallowed : (machine Demo.self).Allowed (NoOutsideDebit Demo.self)
      (machine Demo.self).init txs := by
    refine ⟨trivial, trivial, trivial, ?_, trivial, trivial, trivial,
      trivial, trivial, trivial⟩
    intro a
    show (0 : Int) ≤ _
    simp [Ledger.credit, Ledger.empty, Demo.self, Demo.lender,
      Demo.borrower, Demo.dealer]
  obtain ⟨hcover, -, -, hflow⟩ := escrow_conserved Demo.self txs hallowed
  refine ⟨hb, ?_, ?_⟩
  · rw [← hb]
    exact hcover Demo.asset
  · rw [hflow 0]
    decide +kernel

end Ballast.RepoDvp
