/-
What every stored trade satisfies, and sums over the trades.

`TradesOk` holds in every state of every run, whatever the tokens do.
The claims about dues, escrow and allowances all sum a weight over the
stored trades (`tradeTotal`); a call replaces one trade, so each sum
moves by one difference (`tradeTotal_replace`).

# The three ways a storage changes

Of the trades, a call adds one under the counter, replaces one under its
id, or leaves them all. `TradesOk.insert` and `TradesOk.replace` are the
first two, and a new trade is in order by the guards of `propose`. Since
what is well-formed about a trade is about its terms, a margin call or a
top-up has nothing to show (`TradeOk.marginOnly`).

# The weights

The later modules each have a weight of their own: what a borrower owes,
what is in escrow, what may be collected. A weight that counts settled
trades only is `whenSettled`, and the laws of such sums are here once
for all of them.
-/
import Ballast.RepoDvp.Proofs.Steps

namespace Ballast.RepoDvp

open Soroban

variable {addr : Address} {env : Env} {w w' : World State} {s s' : State}

-- ========================================================= well-formed

/-- What every stored trade satisfies: something is at stake on both
legs, the contract is on neither side of a live trade, and a settled
trade knows when it settled and what it may come to owe. -/
structure TradeOk (addr : Address) (t : RepoTrade) : Prop where
  units_pos : 0 < t.units
  cash_pos : 0 < t.cashAmount
  lender_ne : t.cashLender ≠ addr
  borrower_ne : t.status = .settled → t.cashBorrower ≠ addr
  start : t.status = .settled → ∃ n, t.settledAt = some n
  due : t.status = .settled → totalDue t t.proposedAt = .ok (ceiling t)

structure TradesOk (addr : Address) (s : State) : Prop where
  keyed : Keyed s
  fresh : ∀ id, s.nextId ≤ id → s.trades.get id = none
  trade : ∀ id t, s.trades.get id = some t → TradeOk addr t

/-- Leg-2 figures read neither the status nor the margin fields. -/
theorem dueFrom_congr {t t' : RepoTrade} (hcash : t'.cashAmount = t.cashAmount)
    (hrate : t'.rateBps = t.rateBps) (hmat : t'.maturityAt = t.maturityAt)
    (n : Nat) : dueFrom t' n = dueFrom t n := by
  unfold dueFrom
  rw [hcash, hrate, hmat]

/-- A margin call changes no due. -/
theorem MarginOnly.dueFrom {t t' : RepoTrade} (h : MarginOnly t t')
    (n : Nat) : dueFrom t' n = dueFrom t n :=
  dueFrom_congr h.cashAmount h.rateBps h.maturityAt n

/-- Nor the most that can become due. -/
theorem MarginOnly.ceiling {t t' : RepoTrade} (h : MarginOnly t t') :
    ceiling t' = ceiling t := by
  unfold RepoDvp.ceiling
  rw [h.proposedAt, h.dueFrom]

/-- Nor whether the due can be computed. -/
theorem MarginOnly.totalDue {t t' : RepoTrade} (h : MarginOnly t t')
    (n : Nat) : totalDue t' n = totalDue t n := by
  unfold RepoDvp.totalDue
  rw [h.cashAmount, h.rateBps, h.maturityAt]

/-- A trade stays in order through a margin call. -/
theorem TradeOk.marginOnly {t t' : RepoTrade} (ht : TradeOk addr t)
    (h : MarginOnly t t') : TradeOk addr t' := by
  constructor
  · rw [h.units]
    exact ht.units_pos
  · rw [h.cashAmount]
    exact ht.cash_pos
  · rw [h.cashLender]
    exact ht.lender_ne
  · rw [h.status, h.cashBorrower]
    exact ht.borrower_ne
  · rw [h.status, h.settledAt]
    exact ht.start
  · rw [h.status, h.proposedAt, h.totalDue, h.ceiling]
    exact ht.due

/-- A ceiling is positive: principal is. -/
theorem TradeOk.ceiling_pos {t : RepoTrade} (h : TradeOk addr t) :
    0 < ceiling t := by
  have hcash := h.cash_pos
  have hle : t.cashAmount ≤ ceiling t := cashAmount_le_dueFrom hcash.le
  omega

/-- A closed trade owes its shape to the one that was open. -/
theorem TradeOk.close {t : RepoTrade} {status : RepoStatus}
    (h : TradeOk addr t) (hne : status ≠ .settled) :
    TradeOk addr { t with status := status } :=
  ⟨h.units_pos, h.cash_pos, h.lender_ne, fun hst => absurd hst hne,
    fun hst => absurd hst hne, fun hst => absurd hst hne⟩

/-- One trade replaced by another that is in order, under the same id. -/
theorem TradesOk.replace {id : Nat} {t t' : RepoTrade}
    (hs : TradesOk addr s) (ht : s.trades.get id = some t)
    (h : Replaces s s' id t') (hid : t'.id = t.id)
    (ht' : TradeOk addr t') : TradesOk addr s' := by
  have hget : ∀ k, s'.trades.get k
      = if k = id then some t' else s.trades.get k := by
    intro k
    rw [h.trades, Store.get_set]
  constructor
  · intro k x hx
    rw [hget] at hx
    split at hx
    · next hk =>
      injection hx with hx
      rw [← hx, hid, hk]
      exact hs.keyed id t ht
    · exact hs.keyed k x hx
  · intro k hk
    rw [h.nextId] at hk
    have hnone := hs.fresh k hk
    rw [hget, if_neg, hnone]
    intro heq
    rw [heq, ht] at hnone
    cases hnone
  · intro k x hx
    rw [hget] at hx
    split at hx
    · injection hx with hx
      rw [← hx]
      exact ht'
    · exact hs.trade k x hx

/-- One trade added under the counter. -/
theorem TradesOk.insert {t' : RepoTrade} (hs : TradesOk addr s)
    (h : s'.trades = s.trades.set s.nextId t') (hid : t'.id = s.nextId)
    (hnext : s'.nextId = s.nextId + 1) (ht' : TradeOk addr t') :
    TradesOk addr s' := by
  have hget : ∀ k, s'.trades.get k
      = if k = s.nextId then some t' else s.trades.get k := by
    intro k
    rw [h, Store.get_set]
  constructor
  · intro k x hx
    rw [hget] at hx
    split at hx
    · next hk =>
      injection hx with hx
      rw [← hx, hid, hk]
    · exact hs.keyed k x hx
  · intro k hk
    rw [hnext] at hk
    rw [hget, if_neg (by omega)]
    exact hs.fresh k (by omega)
  · intro k x hx
    rw [hget] at hx
    split at hx
    · injection hx with hx
      rw [← hx]
      exact ht'
    · exact hs.trade k x hx

/-- Every call keeps the trades in order. -/
theorem TradesOk.effect {e : Entry} (hs : TradesOk env.self w.store)
    (h : Effect env w w' e) : TradesOk env.self w'.store := by
  cases h with
  | setup _ _ htrades _ hnext _ =>
      refine ⟨?_, ?_, ?_⟩
      · intro id t ht
        rw [htrades] at ht
        exact hs.keyed id t ht
      · intro id hid
        rw [htrades]
        exact hs.fresh id (by omega)
      · intro id t ht
        rw [htrades] at ht
        exact hs.trade id t ht
  | propose hauth hunits hcash _ _ htrades _ hnext _ =>
      refine hs.insert htrades rfl hnext ⟨hunits, hcash, hauth.1, ?_, ?_, ?_⟩
      · intro hst
        cases hst
      · intro hst
        cases hst
      · intro hst
        cases hst
  | cancel ht _ _ hrep _ =>
      exact hs.replace ht hrep rfl
        ((hs.trade _ _ ht).close (fun hst => by cases hst))
  | settle hauth ht _ _ hdue _ _ _ _ hrep _ =>
      have hok := hs.trade _ _ ht
      exact hs.replace ht hrep rfl ⟨hok.units_pos, hok.cash_pos,
        hok.lender_ne, fun _ => hauth.1, fun _ => ⟨_, rfl⟩, fun _ => hdue⟩
  | unwind ht _ _ _ _ _ _ hrep _ =>
      exact hs.replace ht hrep rfl
        ((hs.trade _ _ ht).close (fun hst => by cases hst))
  | margin ht _ hmargin _ hrep _ =>
      exact hs.replace ht hrep hmargin.id
        ((hs.trade _ _ ht).marginOnly hmargin)
  | topUp _ hextra ht _ hmargin _ hrep _ =>
      have hok := hs.trade _ _ ht
      refine hs.replace ht hrep hmargin.id (TradeOk.marginOnly ?_ hmargin)
      refine ⟨?_, hok.cash_pos, hok.lender_ne, hok.borrower_ne, hok.start,
        hok.due⟩
      have hpos := hok.units_pos
      show 0 < _ + _
      omega
  | defaultClose ht _ _ _ _ _ hrep _ =>
      exact hs.replace ht hrep rfl
        ((hs.trade _ _ ht).close (fun hst => by cases hst))
  | defaultAtMaturity ht _ _ _ _ _ hrep _ =>
      exact hs.replace ht hrep rfl
        ((hs.trade _ _ ht).close (fun hst => by cases hst))

/-- So does every transaction, token activity elsewhere included. -/
theorem tradesOk_step {tx : Tx} (hs : TradesOk addr w.store)
    (happ : (machine addr).apply tx w = .ok w') : TradesOk addr w'.store := by
  cases tx with
  | call env e =>
      have hs' : TradesOk (env.at addr).self w.store := hs
      exact hs'.effect (call_effect hs.keyed happ)
  | outside tokens =>
      injection happ with happ
      subst happ
      exact hs

/-- There are no trades at the start. -/
theorem tradesOk_init (addr : Address) :
    TradesOk addr (machine addr).init.store := by
  refine ⟨?_, fun _ _ => rfl, ?_⟩
  · intro id t ht
    cases ht
  · intro id t ht
    cases ht

/-- In every state of every run. -/
theorem tradesOk_run (addr : Address) (txs : List Tx) :
    TradesOk addr ((machine addr).run (machine addr).init txs).store := by
  refine Machine.run_induction (P := fun w : World State =>
    TradesOk addr w.store) ?_ (tradesOk_init addr)
    (Machine.allowed_true _ txs)
  intro w tx w' hw _ happ
  exact tradesOk_step hw happ

/-- A trade of a trace found the trades in order. -/
theorem tradesOk_of_mem {txs : List Tx} {c : Machine.Committed (World State) Tx}
    (hc : c ∈ (machine addr).trace (machine addr).init txs) :
    TradesOk addr c.before.store := by
  obtain ⟨l₁, l₂, hsplit⟩ := List.append_of_mem hc
  obtain ⟨pre, post, -, hbefore, -, -, -⟩ := Machine.trace_split hsplit
  rw [hbefore]
  exact tradesOk_run addr pre

/-- A trade once stored stays stored. -/
theorem trade_stays {tx : Tx} {id : Nat} {t : RepoTrade}
    (hs : TradesOk addr w.store)
    (happ : (machine addr).apply tx w = .ok w')
    (ht : w.store.trades.get id = some t) :
    ∃ t', w'.store.trades.get id = some t' := by
  have hset : ∀ {k : Nat} {x : RepoTrade},
      w'.store.trades = w.store.trades.set k x →
      ∃ t', w'.store.trades.get id = some t' := by
    intro k x hw'
    rw [hw', Store.get_set]
    split
    · exact ⟨x, rfl⟩
    · exact ⟨t, ht⟩
  cases tx with
  | outside tokens =>
      injection happ with happ
      subst happ
      exact ⟨t, ht⟩
  | call env e =>
      cases call_effect hs.keyed happ with
      | setup _ _ htrades _ _ _ => exact ⟨t, by rw [htrades]; exact ht⟩
      | propose _ _ _ _ _ htrades _ _ _ => exact hset htrades
      | cancel _ _ _ hrep _ => exact hset hrep.trades
      | settle _ _ _ _ _ _ _ _ _ hrep _ => exact hset hrep.trades
      | unwind _ _ _ _ _ _ _ hrep _ => exact hset hrep.trades
      | margin _ _ _ _ hrep _ => exact hset hrep.trades
      | topUp _ _ _ _ _ _ hrep _ => exact hset hrep.trades
      | defaultClose _ _ _ _ _ _ hrep _ => exact hset hrep.trades
      | defaultAtMaturity _ _ _ _ _ _ hrep _ => exact hset hrep.trades

-- ================================================================= sums

/-- A weight, summed over the stored trades. -/
def tradeTotal (s : State) (f : RepoTrade → Int) : Int :=
  s.trades.total fun _ t => f t

/-- A weight that counts settled trades only. -/
def whenSettled (p : RepoTrade → Prop) [DecidablePred p]
    (f : RepoTrade → Int) (t : RepoTrade) : Int :=
  if t.status = .settled ∧ p t then f t else 0

/-- A trade that is not settled weighs nothing. -/
theorem whenSettled_open {p : RepoTrade → Prop} [DecidablePred p]
    {f : RepoTrade → Int} {t : RepoTrade} (h : t.status ≠ .settled) :
    whenSettled p f t = 0 := by
  unfold whenSettled
  rw [if_neg fun hc => h hc.1]

/-- A settled one weighs what the weight says, if it is counted. -/
theorem whenSettled_settled {p : RepoTrade → Prop} [DecidablePred p]
    {f : RepoTrade → Int} {t : RepoTrade} (h : t.status = .settled) :
    whenSettled p f t = if p t then f t else 0 := by
  unfold whenSettled
  by_cases hp : p t
  · rw [if_pos ⟨h, hp⟩, if_pos hp]
  · rw [if_neg fun hc => hp hc.2, if_neg hp]

/-- The sum is over the trades and nothing else. -/
theorem tradeTotal_congr (f : RepoTrade → Int)
    (h : s'.trades = s.trades) : tradeTotal s' f = tradeTotal s f := by
  unfold tradeTotal
  rw [h]

/-- Replacing a trade moves the sum by the difference of the two. -/
theorem tradeTotal_replace (f : RepoTrade → Int) {id : Nat}
    {t t' : RepoTrade} (ht : s.trades.get id = some t)
    (h : Replaces s s' id t') :
    tradeTotal s' f = tradeTotal s f - f t + f t' := by
  unfold tradeTotal
  rw [h.trades, Store.total_set, Store.part_some _ ht]

/-- Adding one moves it by the new trade's weight. -/
theorem tradeTotal_insert (f : RepoTrade → Int) {id : Nat}
    {t' : RepoTrade} (hnone : s.trades.get id = none)
    (h : s'.trades = s.trades.set id t') :
    tradeTotal s' f = tradeTotal s f + f t' := by
  unfold tradeTotal
  rw [h, Store.total_set, Store.part_none _ hnone]
  omega

section Settled

variable {p : RepoTrade → Prop} [DecidablePred p] {f : RepoTrade → Int}

/-- A trade that closes leaves a sum over settled trades. -/
theorem tradeTotal_close {id : Nat} {t : RepoTrade} {st : RepoStatus}
    (ht : s.trades.get id = some t) (hset : t.status = .settled)
    (hst : st ≠ .settled)
    (h : Replaces s s' id { t with status := st }) :
    tradeTotal s' (whenSettled p f)
      = tradeTotal s (whenSettled p f) - (if p t then f t else 0) := by
  rw [tradeTotal_replace _ ht h, whenSettled_settled hset,
    whenSettled_open (t := { t with status := st }) hst]
  omega

/-- A trade that settles joins it. -/
theorem tradeTotal_settle {id : Nat} {t : RepoTrade}
    (ht : s.trades.get id = some t) (hprop : t.status = .proposed)
    (h : Replaces s s' id (settledTrade env t)) :
    tradeTotal s' (whenSettled p f) = tradeTotal s (whenSettled p f)
      + (if p (settledTrade env t) then f (settledTrade env t) else 0) := by
  rw [tradeTotal_replace _ ht h, whenSettled_open (by rw [hprop]; decide),
    whenSettled_settled (t := settledTrade env t) rfl]
  omega

/-- A trade that stays settled stays counted as it was. -/
theorem tradeTotal_keep {id : Nat} {t t' : RepoTrade}
    (ht : s.trades.get id = some t) (h : Replaces s s' id t')
    (hstatus : t'.status = t.status) (hp : p t' ↔ p t)
    (hf : f t' = f t) :
    tradeTotal s' (whenSettled p f) = tradeTotal s (whenSettled p f) := by
  have hsame : whenSettled p f t' = whenSettled p f t := by
    unfold whenSettled
    simp only [hstatus, hp, hf]
  rw [tradeTotal_replace _ ht h, hsame]
  omega

/-- A trade that is not settled on either side of a call is not
counted. -/
theorem tradeTotal_open {id : Nat} {t t' : RepoTrade}
    (ht : s.trades.get id = some t) (h : Replaces s s' id t')
    (hst : t.status ≠ .settled) (hst' : t'.status ≠ .settled) :
    tradeTotal s' (whenSettled p f) = tradeTotal s (whenSettled p f) := by
  rw [tradeTotal_replace _ ht h, whenSettled_open hst,
    whenSettled_open hst']
  omega

/-- Nor is a fresh proposal. -/
theorem tradeTotal_propose {id : Nat} {t' : RepoTrade}
    (hnone : s.trades.get id = none)
    (h : s'.trades = s.trades.set id t') (hst' : t'.status ≠ .settled) :
    tradeTotal s' (whenSettled p f) = tradeTotal s (whenSettled p f) := by
  rw [tradeTotal_insert _ hnone h, whenSettled_open hst']
  omega

end Settled

/-- A trade weighs no more than the sum of weights that are not negative. -/
theorem le_tradeTotal {f : RepoTrade → Int} {id : Nat} {t : RepoTrade}
    (h : ∀ id t, s.trades.get id = some t → 0 ≤ f t)
    (ht : s.trades.get id = some t) : f t ≤ tradeTotal s f :=
  Store.part_le_total (f := fun _ t => f t) (fun id t ht => h id t ht) ht

end Ballast.RepoDvp
