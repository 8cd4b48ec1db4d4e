/-
What a committed `RepoDvp` call did: one inversion lemma per trade
entry point, then the summary everything downstream reads (`Effect`).

Eleven entry points are setup and touch neither trades, dues nor
tokens. The other eight create one trade or replace one, and each
constructor of `Effect` says which trade, what became of it, what the
borrower's due sum became, and which balances and allowances moved.

# The due sum

A borrower's dues are one number over all his settled trades, kept
beside the date up to which the allowance for them is granted. It goes
up by the ceiling of a trade when the trade settles and down by the same
when it ends, cut at zero. Storage keeps no zero sum, so every lemma
about it goes through `readBorrowerDue`, which reads a missing entry as
zero; `readBorrowerDue_write` is the one that the others come from.

# What becomes of a margin call

`call_margin`, `top_up` and the defaults share `MarginOnly`: such a call
changes the flag, the deadline and the amount called, and leaves the
terms of the trade as they are. What is owed, to whom and against what,
is then the same before and after by one rewriting.
-/
import Ballast.RepoDvp.Basic

namespace Ballast.RepoDvp

open Soroban

variable {env : Env} {w w' : World State} {s s' : State}

-- ================================================================= dues

/-- The interest formula itself, without the overflow checks. -/
def interestOver (cashAmount : Int) (rateBps seconds : Nat) : Int :=
  ((cashAmount * rateBps * seconds).tdiv secondsPerYear).tdiv bpsDenominator

/-- What `totalDue` computes for a term that starts at `start`. -/
def dueFrom (t : RepoTrade) (start : Nat) : Int :=
  t.cashAmount + interestOver t.cashAmount t.rateBps (t.maturityAt - start)

/-- The figure a trade is counted at in `borrowerDue`. -/
def ceiling (t : RepoTrade) : Int := dueFrom t t.proposedAt

/-- A due sum comes out exactly when neither product nor sum overflows,
and is then the formula. -/
theorem totalDue_ok {t : RepoTrade} {n : Nat} {x : Int} :
    totalDue t n = .ok x ↔
      I128.Fits (t.cashAmount * t.rateBps)
      ∧ I128.Fits (t.cashAmount * t.rateBps * (t.maturityAt - n : Nat))
      ∧ I128.Fits (dueFrom t n) ∧ dueFrom t n = x := by
  simp only [totalDue, accrueInterest, bind_ok, I128.checked_ok, pure_ok]
  constructor
  · intro h
    obtain ⟨interest, ⟨_, ⟨hrate, rfl⟩, _, ⟨hterm, rfl⟩, rfl⟩, hfits, hx⟩ := h
    exact ⟨hrate, hterm, hfits, hx⟩
  · intro h
    obtain ⟨hrate, hterm, hfits, hx⟩ := h
    exact ⟨_, ⟨_, ⟨hrate, rfl⟩, _, ⟨hterm, rfl⟩, rfl⟩, hfits, hx⟩

/-- Interest grows with the term. -/
theorem interestOver_mono {cash : Int} (rate : Nat) {m n : Nat}
    (hcash : 0 ≤ cash) (h : m ≤ n) :
    interestOver cash rate m ≤ interestOver cash rate n := by
  have hrate : 0 ≤ cash * rate := by positivity
  apply tdiv_tdiv_mono _ _ (by decide) (by decide)
  · positivity
  · exact mul_le_mul_of_nonneg_left (by exact_mod_cast h) hrate

/-- A later start owes no more. -/
theorem dueFrom_anti {t : RepoTrade} {m n : Nat} (hcash : 0 ≤ t.cashAmount)
    (h : m ≤ n) : dueFrom t n ≤ dueFrom t m := by
  have hmono := interestOver_mono t.rateBps hcash
    (show t.maturityAt - n ≤ t.maturityAt - m by omega)
  unfold dueFrom
  omega

/-- It is never negative. -/
theorem interestOver_nonneg {cash : Int} (rate n : Nat) (hcash : 0 ≤ cash) :
    0 ≤ interestOver cash rate n := by
  have hmono := interestOver_mono rate hcash (Nat.zero_le n)
  have hzero : interestOver cash rate 0 = 0 := by simp [interestOver]
  omega

/-- Whatever the term, at least the principal is owed. -/
theorem cashAmount_le_dueFrom {t : RepoTrade} {n : Nat}
    (hcash : 0 ≤ t.cashAmount) : t.cashAmount ≤ dueFrom t n := by
  have hinterest := interestOver_nonneg t.rateBps (t.maturityAt - n) hcash
  unfold dueFrom
  omega

/-- One borrower's sum is written, cut at zero; the others read as they
did. -/
theorem readBorrowerDue_write (b : Address) (due : Int) (n : Nat)
    (b' : Address) :
    readBorrowerDue (writeBorrowerDue s b due n) b'
      = if b' = b then max due 0 else readBorrowerDue s b' := by
  unfold readBorrowerDue writeBorrowerDue
  split
  case isTrue hpos =>
    show ((s.borrowerDue.set b due).get b').getD 0 = _
    rw [Store.get_set]
    split
    · show due = max due 0
      omega
    · rfl
  case isFalse hpos =>
    show ((s.borrowerDue.remove b).get b').getD 0 = _
    rw [Store.get_remove]
    split
    · show 0 = max due 0
      omega
    · rfl

/-- The sum is kept apart from the trades. -/
@[simp] theorem trades_writeBorrowerDue (b : Address) (due : Int)
    (n : Nat) : (writeBorrowerDue s b due n).trades = s.trades := by
  unfold writeBorrowerDue
  split <;> rfl

/-- It draws no id. -/
@[simp] theorem nextId_writeBorrowerDue (b : Address) (due : Int)
    (n : Nat) : (writeBorrowerDue s b due n).nextId = s.nextId := by
  unfold writeBorrowerDue
  split <;> rfl

/-- It changes no configuration. -/
@[simp] theorem assetConfig_writeBorrowerDue (b : Address) (due : Int)
    (n : Nat) : (writeBorrowerDue s b due n).assetConfig = s.assetConfig := by
  unfold writeBorrowerDue
  split <;> rfl

/-- It changes no currency. -/
@[simp] theorem usdc_writeBorrowerDue (b : Address) (due : Int)
    (n : Nat) : (writeBorrowerDue s b due n).usdc = s.usdc := by
  unfold writeBorrowerDue
  split <;> rfl

/-- A trade that ends takes its ceiling out of the sum, to zero at most,
and leaves the date. -/
theorem releaseBorrowerDue_ok {t : RepoTrade}
    (h : releaseBorrowerDue s t = .ok s') :
    s' = writeBorrowerDue s t.cashBorrower
      (max (readBorrowerDue s t.cashBorrower - ceiling t) 0)
      (readBorrowerDueExpiry s t.cashBorrower) := by
  simp only [releaseBorrowerDue, bind_ok, totalDue_ok, I128.sub_ok,
    pure_ok] at h
  obtain ⟨_, ⟨-, -, -, rfl⟩, _, ⟨-, rfl⟩, rfl⟩ := h
  rfl

-- ================================================================ leg 1

/-- A proposal is stored under the next id and approves the lender's cash;
nothing moves yet. -/
theorem propose_ok {lender borrower asset : Address} {units cash : Int}
    {rate maturity id : Nat} {kind : RepoKind} {hash : BytesN 32}
    (h : propose env lender borrower asset units cash rate kind maturity hash
      w = .ok (id, w')) :
    ∃ usdc, env.Grants lender ∧ 0 < units ∧ 0 < cash
      ∧ env.timestamp < maturity ∧ w.store.usdc = some usdc
      ∧ w' = ⟨w.tokens.setAllowance usdc lender env.self
            ⟨cash, allowanceExpiry env (maturity - env.timestamp) 0⟩,
          writeTrade { w.store with
              nextId := w.store.nextId + 1
              latestProposal := w.store.latestProposal.set lender
                w.store.nextId }
            (newTrade env w.store.nextId lender borrower asset units cash
              rate kind maturity hash)⟩ := by
  simp only [propose, readAssetConfig, readUsdc, requireAssetEnabled,
    bind_ok, ensure_ok, expect_ok, HostEnv.requireAuth_ok, Ledger.approve_ok,
    nextId_ok, pure_ok, exists_const, Prod.mk.injEq] at h
  obtain ⟨hauth, -, hunits, hcash, hmaturity, -, -, usdc, husdc, tokens,
    ⟨-, -, -, -, rfl⟩, p, ⟨-, rfl⟩, -, rfl⟩ := h
  exact ⟨usdc, hauth, hunits, hcash, hmaturity, husdc, rfl⟩

/-- The reset happens exactly on the lender's own cancel of its latest
proposal. -/
theorem resetAllowance_ok {caller : Address} {id : Nat} {t : RepoTrade}
    {tokens : Ledger}
    (h : resetAllowance env caller id t w = .ok tokens) :
    (¬ (caller = t.cashLender
        ∧ w.store.latestProposal.get t.cashLender = some id)
      ∧ tokens = w.tokens)
    ∨ ∃ usdc, caller = t.cashLender
        ∧ w.store.latestProposal.get t.cashLender = some id
        ∧ w.store.usdc = some usdc
        ∧ tokens = w.tokens.setAllowance usdc t.cashLender env.self
            ⟨0, allowanceExpiry env 0 0⟩ := by
  unfold resetAllowance at h
  split at h
  case isTrue hreset =>
    simp only [readUsdc, bind_ok, expect_ok, Ledger.approve_ok] at h
    obtain ⟨usdc, husdc, -, -, -, -, rfl⟩ := h
    exact .inr ⟨usdc, hreset.1, hreset.2, husdc, rfl⟩
  case isFalse hkeep =>
    simp only [pure_ok] at h
    exact .inl ⟨hkeep, h.symm⟩

/-- A cancel ends a proposal. It takes the lender's approval back only
where his last proposal is the one that is cancelled. -/
theorem cancelProposal_ok {caller : Address} {id : Nat}
    (h : cancelProposal env caller id w = .ok w') :
    ∃ t tokens, env.Grants caller ∧ w.store.trades.get id = some t
      ∧ t.status = .proposed
      ∧ resetAllowance env caller id t w = .ok tokens
      ∧ w' = ⟨tokens, publish (writeTrade w.store
          { t with status := .cancelled }) (.cancel id caller)⟩ := by
  simp only [cancelProposal, readTrade, bind_ok, ensure_ok, expect_ok,
    HostEnv.requireAuth_ok, pure_ok, exists_const] at h
  obtain ⟨hauth, t, ht, hstatus, -, tokens, htokens, rfl⟩ := h
  exact ⟨t, tokens, hauth, ht, hstatus, htokens, rfl⟩

/-- The expiry `accept_and_settle` approves the borrower's dues until:
this trade's own, or a later one an earlier trade was granted. -/
def settleExpiry (env : Env) (t : RepoTrade) (s : State) : Nat :=
  max (allowanceExpiry env (t.maturityAt - env.timestamp)
    unwindAllowanceGraceLedgers) (readBorrowerDueExpiry s t.cashBorrower)

/-- A settlement moves both legs at once, adds the ceiling to what the
borrower owes, and approves that sum. -/
theorem acceptAndSettle_ok {borrower : Address} {id : Nat}
    (h : acceptAndSettle env borrower id w = .ok w') :
    ∃ t usdc tokens₁ tokens₂,
      env.Grants borrower ∧ w.store.trades.get id = some t
      ∧ t.status = .proposed ∧ t.cashBorrower = borrower
      ∧ w.store.usdc = some usdc
      ∧ totalDue t t.proposedAt = .ok (ceiling t)
      ∧ I128.Fits (readBorrowerDue w.store borrower + ceiling t)
      ∧ tokens₁ = w.tokens.move t.asset borrower env.self t.units
      ∧ tokens₁.transferFrom env.toHostEnv usdc env.self t.cashLender
          borrower t.cashAmount = .ok tokens₂
      ∧ 0 ≤ readBorrowerDue w.store borrower + ceiling t
      ∧ w' = ⟨tokens₂.setAllowance usdc borrower env.self
            ⟨readBorrowerDue w.store borrower + ceiling t,
              settleExpiry env t w.store⟩,
          publish (writeTrade (writeBorrowerDue w.store borrower
              (readBorrowerDue w.store borrower + ceiling t)
              (settleExpiry env t w.store))
            (settledTrade env t)) (.settle id t.units)⟩ := by
  simp only [acceptAndSettle, readTrade, readUsdc, readAssetConfig,
    requireAssetEnabled, bind_ok, ensure_ok, expect_ok,
    HostEnv.requireAuth_ok, requireNotPaused_ok, Ledger.transfer_ok,
    Ledger.approve_ok, I128.checked_ok, pure_ok, exists_const] at h
  obtain ⟨hauth, -, t, ht, -, hstatus, hborrower, -, -, -, tokens₁,
    ⟨-, -, -, htokens₁⟩, usdc, husdc, tokens₂, htokens₂, c, hc, _,
    ⟨hfits, rfl⟩, _, ⟨-, hpos, -, -, rfl⟩, rfl⟩ := h
  have hceil : c = ceiling t := (totalDue_ok.mp hc).2.2.2.symm
  subst hceil
  refine ⟨t, usdc, tokens₁, tokens₂, hauth, ht, hstatus, hborrower, husdc,
    hc, hfits, htokens₁.symm, htokens₂, hpos, ?_⟩
  unfold settleExpiry
  rw [hborrower]

-- ================================================================ leg 2

/-- An unwind pays what is due for the days that have passed and gives the
collateral back. -/
theorem unwind_ok {caller : Address} {id : Nat}
    (h : unwind env caller id w = .ok w') :
    ∃ t usdc start tokens, env.Grants caller
      ∧ w.store.trades.get id = some t ∧ t.status = .settled
      ∧ w.store.usdc = some usdc ∧ t.settledAt = some start
      ∧ totalDue t start = .ok (dueFrom t start)
      ∧ payDue env caller usdc t (dueFrom t start) w.tokens = .ok tokens
      ∧ w' = ⟨tokens.move t.asset env.self t.cashBorrower t.units,
          publish (writeBorrowerDue
            (writeTrade w.store { t with status := .unwound })
            t.cashBorrower
            (max (readBorrowerDue w.store t.cashBorrower - ceiling t) 0)
            (readBorrowerDueExpiry w.store t.cashBorrower))
          (.unwind id (dueFrom t start))⟩ := by
  simp only [unwind, readTrade, readUsdc, bind_ok, ensure_ok, expect_ok,
    HostEnv.requireAuth_ok, Ledger.transfer_ok, pure_ok, exists_const] at h
  obtain ⟨hauth, t, ht, hstatus, -, -, -, start, hstart, due, hdue, usdc,
    husdc, tokens, htokens, _, ⟨-, -, -, rfl⟩, s', hs', rfl⟩ := h
  have hfrom : due = dueFrom t start := (totalDue_ok.mp hdue).2.2.2.symm
  subst hfrom
  refine ⟨t, usdc, start, tokens, hauth, ht, hstatus, husdc, hstart, hdue,
    htokens, ?_⟩
  rw [releaseBorrowerDue_ok hs']
  rfl

/-- Either way the cash leg moves the due from borrower to lender. -/
theorem payDue_ok {caller usdc : Address} {t : RepoTrade} {due : Int}
    {tokens tokens' : Ledger}
    (h : payDue env caller usdc t due tokens = .ok tokens') :
    0 ≤ due ∧ ((caller = t.cashBorrower
        ∧ tokens' = tokens.move usdc t.cashBorrower t.cashLender due)
      ∨ caller ≠ t.cashBorrower
        ∧ tokens' = (tokens.setAllowance usdc t.cashBorrower env.self
            { tokens.allowance usdc t.cashBorrower env.self with
              amount := (tokens.allowance usdc t.cashBorrower
                env.self).amount - due }).move usdc t.cashBorrower
            t.cashLender due) := by
  unfold payDue at h
  split at h
  case isTrue hown =>
    obtain ⟨-, hpos, -, htokens⟩ := Ledger.transfer_ok.mp h
    exact ⟨hpos, .inl ⟨hown, htokens.symm⟩⟩
  case isFalse hother =>
    obtain ⟨-, hpos, -, -, htokens⟩ := Ledger.transferFrom_ok.mp h
    exact ⟨hpos, .inr ⟨hother, htokens.symm⟩⟩

-- =============================================================== margin

/-- An evaluation at a usable price: what is owed so far, what covers
it, and the band the two put the trade in. -/
theorem evaluateMargin_ok {t : RepoTrade} {config : RepoAssetConfig}
    {m : Margin} (h : evaluateMargin env t config = .ok (some m)) :
    ∃ guarded bps, env.guardedPrice config.priceGuard t.asset = .ok guarded
      ∧ guarded.isUsableForNewRisk = true ∧ m.price = guarded.value
      ∧ collateralValue t.units m.price config.haircutBps
          = .ok m.collateralValue
      ∧ m.exposure = t.cashAmount + interestOver t.cashAmount t.rateBps
          (env.timestamp - t.settledAt.getD env.timestamp)
      ∧ ltvBps m.exposure m.collateralValue = .ok bps
      ∧ m.state = classify bps config.thresholds := by
  simp only [evaluateMargin, accrueInterest, bind_ok] at h
  obtain ⟨guarded, hguarded, h⟩ := h
  split at h
  case isFalse => simp at h
  case isTrue husable =>
    simp only [bind_ok, I128.checked_ok, pure_ok, Option.some.injEq] at h
    obtain ⟨cv, hcv, accrued, ⟨_, ⟨-, rfl⟩, _, ⟨-, rfl⟩, haccrued⟩, exposure,
      ⟨-, rfl⟩, bps, hbps, rfl⟩ := h
    subst haccrued
    exact ⟨guarded, bps, hguarded, husable, rfl, hcv, rfl, hbps, rfl⟩

/-- Something is always owed on a trade with cash in it. -/
theorem exposure_pos {t : RepoTrade} {config : RepoAssetConfig} {m : Margin}
    (hcash : 0 < t.cashAmount)
    (h : evaluateMargin env t config = .ok (some m)) : 0 < m.exposure := by
  obtain ⟨-, -, -, -, -, -, hexposure, -⟩ := evaluateMargin_ok h
  have hinterest := interestOver_nonneg t.rateBps
    (env.timestamp - t.settledAt.getD env.timestamp) hcash.le
  omega

/-- `t'` differs from `t` in its margin call at most. -/
structure MarginOnly (t t' : RepoTrade) : Prop where
  id : t'.id = t.id
  cashLender : t'.cashLender = t.cashLender
  cashBorrower : t'.cashBorrower = t.cashBorrower
  asset : t'.asset = t.asset
  units : t'.units = t.units
  cashAmount : t'.cashAmount = t.cashAmount
  rateBps : t'.rateBps = t.rateBps
  maturityAt : t'.maturityAt = t.maturityAt
  proposedAt : t'.proposedAt = t.proposedAt
  status : t'.status = t.status
  settledAt : t'.settledAt = t.settledAt

/-- A trade that is left as it is keeps its terms. -/
theorem MarginOnly.refl (t : RepoTrade) : MarginOnly t t :=
  ⟨rfl, rfl, rfl, rfl, rfl, rfl, rfl, rfl, rfl, rfl, rfl⟩

/-- Clearing a call keeps them. -/
theorem marginOnly_clear (t : RepoTrade) :
    MarginOnly t (clearMarginCall t) :=
  ⟨rfl, rfl, rfl, rfl, rfl, rfl, rfl, rfl, rfl, rfl, rfl⟩

/-- So does opening or refreshing one. -/
theorem calledTrade_ok {t t' : RepoTrade} {amount : Int}
    (h : calledTrade env s t amount = .ok t') : MarginOnly t t' := by
  unfold calledTrade at h
  split at h
  case isTrue =>
    simp only [pure_ok] at h
    rw [← h]
    exact ⟨rfl, rfl, rfl, rfl, rfl, rfl, rfl, rfl, rfl, rfl, rfl⟩
  case isFalse =>
    simp only [bind_ok, pure_ok] at h
    obtain ⟨_, -, rfl⟩ := h
    exact ⟨rfl, rfl, rfl, rfl, rfl, rfl, rfl, rfl, rfl, rfl, rfl⟩

/-- It carries the amount, and its call is open. -/
theorem calledTrade_pending {t t' : RepoTrade} {amount : Int}
    (h : calledTrade env s t amount = .ok t') :
    t'.marginCallAmount = amount ∧ t'.pendingMarginCall = true := by
  unfold calledTrade at h
  split at h
  case isTrue hopen =>
    simp only [pure_ok] at h
    rw [← h]
    exact ⟨rfl, hopen⟩
  case isFalse =>
    simp only [bind_ok, pure_ok] at h
    obtain ⟨_, -, rfl⟩ := h
    exact ⟨rfl, rfl⟩

/-- What `call_margin` asks for before it is floored at zero: the value
that brings the LTV to the margin-call threshold, less what is there. -/
def callGap (m : Margin) (t : MarginThresholds) : Int :=
  (m.exposure * bpsDenominator).tdiv t.marginCallBps - m.collateralValue

/-- What `call_margin` found, and which of its three arms it took. -/
theorem callMargin_ok {keeper : Address} {id : Nat}
    (h : callMargin env keeper id s = .ok s') :
    ∃ t config m, s.trades.get id = some t ∧ t.status = .settled
      ∧ s.assetConfig.get t.asset = some config
      ∧ evaluateMargin env t config = .ok (some m)
      ∧ ((m.state.isUnhealthy = true ∧ config.thresholds.marginCallBps ≠ 0
            ∧ ∃ t', calledTrade env s t
                (max (callGap m config.thresholds) 0) = .ok t'
            ∧ s' = publish (writeTrade s t')
                (.mcall id (max (callGap m config.thresholds) 0)))
          ∨ (m.state.isUnhealthy = false ∧ t.pendingMarginCall = true
            ∧ s' = publish (writeTrade s (clearMarginCall t)) (.cured id))
          ∨ (m.state.isUnhealthy = false ∧ t.pendingMarginCall = false
            ∧ s' = s)) := by
  simp only [callMargin, readTrade, readAssetConfig, bind_ok, ensure_ok,
    expect_ok, HostEnv.requireAuth_ok, exists_const] at h
  obtain ⟨-, -, -, t, ht, hstatus, config, hconfig, _, heval, m, rfl, h⟩ := h
  refine ⟨t, config, m, ht, hstatus, hconfig, heval, ?_⟩
  split at h
  case isTrue hbad =>
    simp only [bind_ok, I128.checked_ok, I128.sub_ok, ensure_ok, pure_ok,
      exists_const] at h
    obtain ⟨_, ⟨-, rfl⟩, hbps, gap, ⟨-, rfl⟩, t', ht', rfl⟩ := h
    exact .inl ⟨hbad, hbps, t', ht', rfl⟩
  case isFalse hgood =>
    rw [Bool.not_eq_true] at hgood
    split at h
    case isTrue hopen =>
      simp only [pure_ok] at h
      exact .inr (.inl ⟨hgood, hopen, h.symm⟩)
    case isFalse hclosed =>
      simp only [pure_ok] at h
      exact .inr (.inr ⟨hgood, by simpa using hclosed, h.symm⟩)

/-- As far as the trade's terms go, `call_margin` writes the margin call
at most. -/
theorem callMargin_marginOnly {keeper : Address} {id : Nat}
    (h : callMargin env keeper id s = .ok s') :
    ∃ t, s.trades.get id = some t ∧ t.status = .settled
      ∧ (s' = s ∨ ∃ t' ev, MarginOnly t t'
          ∧ s' = publish (writeTrade s t') ev) := by
  obtain ⟨t, config, m, ht, hstatus, -, -, hcase⟩ := callMargin_ok h
  refine ⟨t, ht, hstatus, ?_⟩
  rcases hcase with ⟨-, -, t', ht', hs⟩ | ⟨-, -, hs⟩ | ⟨-, -, hs⟩
  · exact .inr ⟨t', _, calledTrade_ok ht', hs⟩
  · exact .inr ⟨clearMarginCall t, _, marginOnly_clear t, hs⟩
  · exact .inl hs

/-- A call is cured when the position evaluates healthy at a usable
price; otherwise it stays as it is. -/
theorem cureIfHealthy_ok {t t' : RepoTrade} {cured : Bool}
    (h : cureIfHealthy env s t = .ok (t', cured)) :
    (t' = t ∧ (t.pendingMarginCall = true → ∃ config evaluated,
        s.assetConfig.get t.asset = some config
        ∧ evaluateMargin env t config = .ok evaluated
        ∧ ∀ m, evaluated = some m → m.state.isUnhealthy = true))
    ∨ (t' = clearMarginCall t ∧ t.pendingMarginCall = true
      ∧ ∃ config m, s.assetConfig.get t.asset = some config
        ∧ evaluateMargin env t config = .ok (some m)
        ∧ m.state.isUnhealthy = false) := by
  unfold cureIfHealthy at h
  split at h
  case isTrue hopen =>
    simp only [readAssetConfig, bind_ok, expect_ok] at h
    obtain ⟨config, hconfig, evaluated, heval, h⟩ := h
    cases evaluated with
    | none =>
        simp only [pure_ok, Prod.mk.injEq] at h
        refine .inl ⟨h.1.symm, fun _ => ⟨config, none, hconfig, heval, ?_⟩⟩
        intro m hm
        cases hm
    | some m =>
        simp only at h
        split at h
        case isTrue hbad =>
          simp only [pure_ok, Prod.mk.injEq] at h
          refine .inl ⟨h.1.symm,
            fun _ => ⟨config, some m, hconfig, heval, ?_⟩⟩
          intro m' hm'
          injection hm' with hm'
          rw [← hm']
          exact hbad
        case isFalse hgood =>
          simp only [pure_ok, Prod.mk.injEq] at h
          exact .inr ⟨h.1.symm, hopen, config, m, hconfig, heval,
            by simpa using hgood⟩
  case isFalse hclosed =>
    simp only [pure_ok, Prod.mk.injEq] at h
    exact .inl ⟨h.1.symm, fun hopen => absurd hopen hclosed⟩

/-- So does the look at the margin after a top-up. -/
theorem cureIfHealthy_marginOnly {t t' : RepoTrade} {cured : Bool}
    (h : cureIfHealthy env s t = .ok (t', cured)) : MarginOnly t t' := by
  rcases cureIfHealthy_ok h with ⟨rfl, -⟩ | ⟨rfl, -, -⟩
  · exact .refl t'
  · exact marginOnly_clear t

/-- A top-up moves the units in, and clears the call if the trade is
healthy with them. -/
theorem topUp_ok {borrower : Address} {id : Nat} {extra : Int}
    (h : topUp env borrower id extra w = .ok w') :
    ∃ t t' cured, env.Grants borrower ∧ 0 < extra
      ∧ w.store.trades.get id = some t ∧ t.status = .settled
      ∧ t.cashBorrower = borrower
      ∧ cureIfHealthy env w.store { t with units := t.units + extra }
          = .ok (t', cured)
      ∧ w' = ⟨w.tokens.move t.asset borrower env.self extra,
          publish (writeTrade w.store t') (.topup id extra cured)⟩ := by
  simp only [topUp, readTrade, bind_ok, ensure_ok, expect_ok,
    HostEnv.requireAuth_ok, Ledger.transfer_ok, I128.checked_ok, pure_ok,
    exists_const] at h
  obtain ⟨hauth, hextra, t, ht, hstatus, hborrower, _, ⟨-, -, -, rfl⟩, _,
    ⟨-, rfl⟩, ⟨t', cured⟩, hcure, rfl⟩ := h
  exact ⟨t, t', cured, hauth, hextra, ht, hstatus, hborrower, hcure, rfl⟩

-- ============================================================= defaults

/-- Both shares are non-negative and add up to the trade's units. -/
theorem splitCollateral_ok {t : RepoTrade} {share : Int}
    {tokens tokens' : Ledger} (hshare : share ≤ t.units)
    (h : splitCollateral env t share tokens = .ok tokens') :
    0 ≤ share ∧ tokens'.allowance = tokens.allowance
      ∧ ∀ a x, tokens'.balance a x
        = ((tokens.move t.asset env.self t.cashLender share).move t.asset
            env.self t.cashBorrower (t.units - share)).balance a x := by
  simp only [splitCollateral, bind_ok, I128.sub_ok,
    Ledger.transfer_ok] at h
  obtain ⟨_, ⟨-, rfl⟩, _, ⟨-, hpos, -, rfl⟩, h⟩ := h
  refine ⟨hpos, ?_⟩
  split at h
  case isTrue =>
    obtain ⟨-, -, -, rfl⟩ := Ledger.transfer_ok.mp h
    exact ⟨rfl, fun _ _ => rfl⟩
  case isFalse hnone =>
    simp only [pure_ok] at h
    have hzero : t.units - share = 0 := by omega
    rw [← h, hzero]
    refine ⟨rfl, ?_⟩
    intro a x
    rw [Ledger.balance_move _ t.asset env.self t.cashBorrower 0]
    simp

/-- The lender's share never exceeds the units there are. -/
theorem lenderUnits_ok {msg : String} {owed price units share : Int}
    (h : lenderUnits msg owed price units = .ok share) : share ≤ units := by
  simp only [lenderUnits, bind_ok, I128.checked_ok, pure_ok] at h
  obtain ⟨_, -, _, -, rfl⟩ := h
  exact min_le_right _ _

/-- A default after the cure window, with the price it read, the share it
computed and how the units were split. -/
theorem defaultClose_ok {keeper : Address} {id : Nat}
    (h : defaultClose env keeper id w = .ok w') :
    ∃ t config m deadline share tokens, w.store.trades.get id = some t
      ∧ t.status = .settled ∧ t.pendingMarginCall = true
      ∧ t.cureDeadline = some deadline ∧ deadline ≤ env.timestamp
      ∧ w.store.assetConfig.get t.asset = some config
      ∧ evaluateMargin env t config = .ok (some m)
      ∧ m.state.isUnhealthy = true ∧ 0 < m.price
      ∧ lenderUnits "repo-dvp: overflow valuing the exposure" m.exposure
          m.price t.units = .ok share
      ∧ splitCollateral env t share w.tokens = .ok tokens
      ∧ w' = ⟨tokens, publish (writeBorrowerDue
            (writeTrade w.store { t with status := .defaulted })
            t.cashBorrower
            (max (readBorrowerDue w.store t.cashBorrower - ceiling t) 0)
            (readBorrowerDueExpiry w.store t.cashBorrower))
          (.defaulted id share (t.units - share))⟩ := by
  simp only [defaultClose, readTrade, readAssetConfig, bind_ok, ensure_ok,
    expect_ok, HostEnv.requireAuth_ok, pure_ok, exists_const] at h
  obtain ⟨-, -, -, t, ht, hstatus, hopen, deadline, hdeadline, htime, config,
    hconfig, _, heval, m, rfl, hbad, hprice, share, hshare, tokens, htokens,
    s', hs', rfl⟩ := h
  refine ⟨t, config, m, deadline, share, tokens, ht, hstatus, hopen,
    hdeadline, htime, hconfig, heval, hbad, hprice, hshare, htokens, ?_⟩
  rw [releaseBorrowerDue_ok hs']
  rfl

/-- A default after the maturity grace, with the due of that day and the
same split. -/
theorem defaultAtMaturity_ok {caller : Address} {id : Nat}
    (h : defaultAtMaturity env caller id w = .ok w') :
    ∃ t config guarded start due share tokens, env.Grants caller
      ∧ w.store.trades.get id = some t ∧ t.status = .settled
      ∧ t.settledAt = some start ∧ totalDue t start = .ok due
      ∧ w.store.assetConfig.get t.asset = some config
      ∧ env.guardedPrice config.priceGuard t.asset = .ok guarded
      ∧ guarded.isUsableForNewRisk = true ∧ 0 < guarded.value
      ∧ lenderUnits "repo-dvp: overflow valuing total due" due guarded.value
          t.units = .ok share
      ∧ splitCollateral env t share w.tokens = .ok tokens
      ∧ w' = ⟨tokens, publish (writeTrade w.store
          { t with status := .defaulted })
          (.matDef id share (t.units - share))⟩ := by
  simp only [defaultAtMaturity, readTrade, readAssetConfig, bind_ok,
    ensure_ok, expect_ok, HostEnv.requireAuth_ok, pure_ok,
    exists_const] at h
  obtain ⟨hauth, t, ht, hstatus, -, -, -, -, -, start, hstart, due, hdue,
    config, hconfig, guarded, hguarded, husable, hprice, share, hshare,
    tokens, htokens, rfl⟩ := h
  exact ⟨t, config, guarded, start, due, share, tokens, hauth, ht, hstatus,
    hstart, hdue, hconfig, hguarded, husable, hprice, hshare, htokens, rfl⟩

-- =================================================== what a call does

/-- An entry point that only writes storage leaves every token where it
is. -/
theorem onStore_ok {r : Call State} :
    onStore w r = .ok w' ↔ r = .ok w'.store ∧ w'.tokens = w.tokens := by
  simp only [onStore, map_ok]
  constructor
  · intro h
    obtain ⟨s, hs, rfl⟩ := h
    exact ⟨hs, rfl⟩
  · intro h
    exact ⟨w'.store, h.1, by rw [← h.2]⟩

/-- Every trade is stored under its own id. -/
def Keyed (s : State) : Prop :=
  ∀ id t, s.trades.get id = some t → t.id = id

/-- `s'` is `s` with trade `id` replaced, as far as trades go. -/
structure Replaces (s s' : State) (id : Nat) (t' : RepoTrade) : Prop where
  trades : s'.trades = s.trades.set id t'
  nextId : s'.nextId = s.nextId
  usdc : s'.usdc = s.usdc

/-- Nobody's due sum changed. -/
def SameDues (s s' : State) : Prop :=
  ∀ b, readBorrowerDue s' b = readBorrowerDue s b

/-- `b`'s due sum became `x`, or zero if that is negative. -/
def SetsDue (s s' : State) (b : Address) (x : Int) : Prop :=
  ∀ b', readBorrowerDue s' b'
    = if b' = b then max x 0 else readBorrowerDue s b'

/-- The lender's own cancel of its latest proposal. -/
def Resets (s : State) (caller : Address) (id : Nat) (t : RepoTrade) :
    Prop :=
  caller = t.cashLender ∧ s.latestProposal.get t.cashLender = some id

/-- The setup entry points. -/
def Entry.isSetup : Entry → Bool
  | .propose .. => false
  | .cancelProposal .. => false
  | .acceptAndSettle .. => false
  | .unwind .. => false
  | .callMargin .. => false
  | .topUp .. => false
  | .defaultClose .. => false
  | .defaultAtMaturity .. => false
  | _ => true

/-- The cash token a call configures. -/
def Entry.setsUsdc : Entry → Option Address
  | .setUsdc _ usdc => some usdc
  | _ => none

/-- What a committed call does to trades, dues and tokens. -/
inductive Effect (env : Env) (w w' : World State) : Entry → Prop
  | setup {e : Entry} : e.isSetup = true → w'.tokens = w.tokens →
      w'.store.trades = w.store.trades → SameDues w.store w'.store →
      w.store.nextId ≤ w'.store.nextId →
      w'.store.usdc = e.setsUsdc.or w.store.usdc → Effect env w w' e
  | propose {lender borrower asset usdc : Address} {units cash : Int}
      {rate maturity n : Nat} {kind : RepoKind} {hash : BytesN 32} :
      env.Grants lender → 0 < units → 0 < cash →
      w.store.usdc = some usdc →
      w'.tokens = w.tokens.setAllowance usdc lender env.self ⟨cash, n⟩ →
      w'.store.trades = w.store.trades.set w.store.nextId
        (newTrade env w.store.nextId lender borrower asset units cash rate
          kind maturity hash) →
      SameDues w.store w'.store →
      w'.store.nextId = w.store.nextId + 1 →
      w'.store.usdc = w.store.usdc →
      Effect env w w' (.propose lender borrower asset units cash rate kind
        maturity hash)
  | cancel {caller : Address} {id : Nat} {t : RepoTrade} :
      w.store.trades.get id = some t → t.status = .proposed →
      ((¬ Resets w.store caller id t ∧ w'.tokens = w.tokens)
        ∨ ∃ usdc n, Resets w.store caller id t
          ∧ w.store.usdc = some usdc
          ∧ w'.tokens = w.tokens.setAllowance usdc t.cashLender env.self
              ⟨0, n⟩) →
      Replaces w.store w'.store id { t with status := .cancelled } →
      SameDues w.store w'.store → Effect env w w' (.cancelProposal caller id)
  | settle {id : Nat} {t : RepoTrade} {usdc : Address} {n : Nat} :
      env.Grants t.cashBorrower → w.store.trades.get id = some t →
      t.status = .proposed → w.store.usdc = some usdc →
      totalDue t t.proposedAt = .ok (ceiling t) →
      0 ≤ readBorrowerDue w.store t.cashBorrower + ceiling t →
      I128.Fits (readBorrowerDue w.store t.cashBorrower + ceiling t) →
      t.cashAmount ≤ w.tokens.allowanceNow env.toHostEnv usdc t.cashLender
        env.self →
      w'.tokens = (((w.tokens.move t.asset t.cashBorrower env.self
          t.units).setAllowance usdc t.cashLender env.self
            { w.tokens.allowance usdc t.cashLender env.self with
              amount := (w.tokens.allowance usdc t.cashLender
                env.self).amount - t.cashAmount }).move usdc t.cashLender
            t.cashBorrower t.cashAmount).setAllowance usdc t.cashBorrower
          env.self
          ⟨readBorrowerDue w.store t.cashBorrower + ceiling t, n⟩ →
      Replaces w.store w'.store id (settledTrade env t) →
      SetsDue w.store w'.store t.cashBorrower
        (readBorrowerDue w.store t.cashBorrower + ceiling t) →
      Effect env w w' (.acceptAndSettle t.cashBorrower id)
  | unwind {caller usdc : Address} {id start : Nat} {t : RepoTrade}
      {tokens : Ledger} :
      w.store.trades.get id = some t → t.status = .settled →
      w.store.usdc = some usdc → t.settledAt = some start →
      totalDue t start = .ok (dueFrom t start) →
      payDue env caller usdc t (dueFrom t start) w.tokens = .ok tokens →
      w'.tokens = tokens.move t.asset env.self t.cashBorrower t.units →
      Replaces w.store w'.store id { t with status := .unwound } →
      SetsDue w.store w'.store t.cashBorrower
        (readBorrowerDue w.store t.cashBorrower - ceiling t) →
      Effect env w w' (.unwind caller id)
  | margin {keeper : Address} {id : Nat} {t t' : RepoTrade} :
      w.store.trades.get id = some t → t.status = .settled →
      MarginOnly t t' → w'.tokens = w.tokens →
      Replaces w.store w'.store id t' → SameDues w.store w'.store →
      Effect env w w' (.callMargin keeper id)
  | topUp {id : Nat} {t t' : RepoTrade} {extra : Int} :
      env.Grants t.cashBorrower → 0 < extra →
      w.store.trades.get id = some t → t.status = .settled →
      MarginOnly { t with units := t.units + extra } t' →
      w'.tokens = w.tokens.move t.asset t.cashBorrower env.self extra →
      Replaces w.store w'.store id t' → SameDues w.store w'.store →
      Effect env w w' (.topUp t.cashBorrower id extra)
  | defaultClose {keeper : Address} {id : Nat} {t : RepoTrade}
      {share : Int} :
      w.store.trades.get id = some t → t.status = .settled →
      0 ≤ share → share ≤ t.units →
      w'.tokens.allowance = w.tokens.allowance →
      (∀ a x, w'.tokens.balance a x
        = ((w.tokens.move t.asset env.self t.cashLender share).move t.asset
            env.self t.cashBorrower (t.units - share)).balance a x) →
      Replaces w.store w'.store id { t with status := .defaulted } →
      SetsDue w.store w'.store t.cashBorrower
        (readBorrowerDue w.store t.cashBorrower - ceiling t) →
      Effect env w w' (.defaultClose keeper id)
  | defaultAtMaturity {caller : Address} {id : Nat} {t : RepoTrade}
      {share : Int} :
      w.store.trades.get id = some t → t.status = .settled →
      0 ≤ share → share ≤ t.units →
      w'.tokens.allowance = w.tokens.allowance →
      (∀ a x, w'.tokens.balance a x
        = ((w.tokens.move t.asset env.self t.cashLender share).move t.asset
            env.self t.cashBorrower (t.units - share)).balance a x) →
      Replaces w.store w'.store id { t with status := .defaulted } →
      SameDues w.store w'.store →
      Effect env w w' (.defaultAtMaturity caller id)

/-- What a setup entry point leaves alone: everything but ids, the cash
token, and one configuration at most, which passed its validation. -/
structure SetupFrame (e : Entry) (w w' : World State) : Prop where
  tokens : w'.tokens = w.tokens
  trades : w'.store.trades = w.store.trades
  dues : w'.store.borrowerDue = w.store.borrowerDue
  expiries : w'.store.borrowerDueExpiry = w.store.borrowerDueExpiry
  nextId : w.store.nextId ≤ w'.store.nextId
  usdc : w'.store.usdc = e.setsUsdc.or w.store.usdc
  configs : w'.store.assetConfig = w.store.assetConfig
    ∨ ∃ asset c, c.thresholds.validate = .ok ()
      ∧ w'.store.assetConfig = w.store.assetConfig.set asset c

/-- One that touches none of these. -/
theorem SetupFrame.of_same {e : Entry} {s₀ : State}
    (hnone : e.setsUsdc = none) (htokens : w'.tokens = w.tokens)
    (hs : s₀ = w'.store) (htrades : s₀.trades = w.store.trades)
    (hdues : s₀.borrowerDue = w.store.borrowerDue)
    (hexpiries : s₀.borrowerDueExpiry = w.store.borrowerDueExpiry)
    (hnext : w.store.nextId ≤ s₀.nextId) (husdc : s₀.usdc = w.store.usdc)
    (hconfigs : s₀.assetConfig = w.store.assetConfig) :
    SetupFrame e w w' := by
  subst hs
  exact ⟨htokens, htrades, hdues, hexpiries, hnext,
    by rw [hnone, husdc]; rfl, .inl hconfigs⟩

/-- Every setup entry point is framed. -/
theorem setup_frame {e : Entry} (he : e.isSetup = true)
    (h : call env e w = .ok w') : SetupFrame e w w' := by
  cases e with
  | initContract =>
      obtain ⟨h, ht⟩ := onStore_ok.mp h
      simp only [initContract, bind_ok, ensure_ok, pure_ok,
        exists_const] at h
      exact .of_same rfl ht h.2 rfl rfl rfl le_rfl rfl rfl
  | setUsdc admin usdc =>
      obtain ⟨h, ht⟩ := onStore_ok.mp h
      simp only [setUsdc, bind_ok, pure_ok] at h
      obtain ⟨-, -, hs⟩ := h
      refine ⟨ht, ?_, ?_, ?_, ?_, ?_, .inl ?_⟩ <;> rw [← hs]
      rfl
  | setCureGrace =>
      obtain ⟨h, ht⟩ := onStore_ok.mp h
      simp only [setCureGrace, bind_ok, ensure_ok, pure_ok,
        exists_const] at h
      obtain ⟨-, -, -, hs⟩ := h
      exact .of_same rfl ht hs rfl rfl rfl le_rfl rfl rfl
  | setMaturityGrace =>
      obtain ⟨h, ht⟩ := onStore_ok.mp h
      simp only [setMaturityGrace, bind_ok, ensure_ok, pure_ok,
        exists_const] at h
      obtain ⟨-, -, -, hs⟩ := h
      exact .of_same rfl ht hs rfl rfl rfl le_rfl rfl rfl
  | pause =>
      obtain ⟨h, ht⟩ := onStore_ok.mp h
      simp only [pause, bind_ok, pure_ok] at h
      obtain ⟨-, -, -, -, hs⟩ := h
      exact .of_same rfl ht hs rfl rfl rfl le_rfl rfl rfl
  | queueUnpause admin scope =>
      obtain ⟨h, ht⟩ := onStore_ok.mp h
      obtain ⟨⟨id, s'⟩, h, hs⟩ := map_ok.mp h
      simp only [queueUnpause, bind_ok, nextId_ok, pure_ok,
        Prod.mk.injEq] at h
      obtain ⟨-, -, _, ⟨-, rfl⟩, n, -, -, rfl⟩ := h
      exact .of_same rfl ht hs rfl rfl rfl (Nat.le_succ _) rfl rfl
  | cancelUnpause =>
      obtain ⟨h, ht⟩ := onStore_ok.mp h
      simp only [cancelUnpause, bind_ok, expect_ok, pure_ok] at h
      obtain ⟨-, -, pending, -, hs⟩ := h
      exact .of_same rfl ht hs rfl rfl rfl le_rfl rfl rfl
  | executeUnpause =>
      obtain ⟨h, ht⟩ := onStore_ok.mp h
      simp only [executeUnpause, bind_ok, ensure_ok, expect_ok, pure_ok,
        exists_const] at h
      obtain ⟨pending, -, -, hs⟩ := h
      exact .of_same rfl ht hs rfl rfl rfl le_rfl rfl rfl
  | configureAsset admin asset guard haircut thresholds =>
      obtain ⟨h, ht⟩ := onStore_ok.mp h
      simp only [configureAsset, bind_ok, ensure_ok, pure_ok,
        exists_const] at h
      obtain ⟨-, -, -, _, hvalid, hs⟩ := h
      refine ⟨ht, ?_, ?_, ?_, ?_, ?_,
        .inr ⟨asset, ⟨guard, haircut, thresholds⟩, hvalid, ?_⟩⟩ <;> rw [← hs]
      rfl
  | disableAsset =>
      obtain ⟨h, ht⟩ := onStore_ok.mp h
      simp only [disableAsset, bind_ok, pure_ok] at h
      obtain ⟨-, -, -, -, hs⟩ := h
      exact .of_same rfl ht hs rfl rfl rfl le_rfl rfl rfl
  | enableAsset =>
      obtain ⟨h, ht⟩ := onStore_ok.mp h
      simp only [enableAsset, bind_ok, pure_ok] at h
      obtain ⟨-, -, -, -, hs⟩ := h
      exact .of_same rfl ht hs rfl rfl rfl le_rfl rfl rfl
  | _ => cases he

/-- The setup half of `call_effect`. -/
theorem setup_effect {e : Entry} (he : e.isSetup = true)
    (h : call env e w = .ok w') : Effect env w w' e := by
  have hframe := setup_frame he h
  refine .setup he hframe.tokens hframe.trades ?_ hframe.nextId hframe.usdc
  intro b
  unfold readBorrowerDue
  rw [hframe.dues]

/-- Writing a borrower's due changes nothing else `Effect` speaks of. -/
theorem Replaces.of_due {s₀ : State} {id : Nat} {t' : RepoTrade}
    {b : Address} {x : Int} {n : Nat} {ev : Event}
    (h : Replaces s s₀ id t') :
    Replaces s (publish (writeBorrowerDue s₀ b x n) ev) id t' := by
  refine ⟨?_, ?_, ?_⟩
  · rw [← h.trades]
    exact trades_writeBorrowerDue b x n
  · rw [← h.nextId]
    exact nextId_writeBorrowerDue b x n
  · rw [← h.usdc]
    exact usdc_writeBorrowerDue b x n

/-- Storing a trade read from `id` puts it back under `id`. -/
theorem Keyed.replaces {id : Nat} {t t' : RepoTrade} (hk : Keyed s)
    (ht : s.trades.get id = some t) (hid : t'.id = t.id) :
    Replaces s (writeTrade s t') id t' := by
  refine ⟨?_, rfl, rfl⟩
  rw [← hk id t ht, ← hid]
  rfl

/-- An event changes no trade. -/
theorem Replaces.publish {s₀ : State} {id : Nat} {t' : RepoTrade}
    {ev : Event} (h : Replaces s s₀ id t') :
    Replaces s (publish s₀ ev) id t' :=
  ⟨h.trades, h.nextId, h.usdc⟩

/-- The same when the due was written first. -/
theorem Keyed.replaces_due {id : Nat} {t t' : RepoTrade} {b : Address}
    {x : Int} {n : Nat} (hk : Keyed s) (ht : s.trades.get id = some t)
    (hid : t'.id = t.id) :
    Replaces s (writeTrade (writeBorrowerDue s b x n) t') id t' := by
  refine ⟨?_, nextId_writeBorrowerDue b x n, usdc_writeBorrowerDue b x n⟩
  rw [← hk id t ht, ← hid, ← trades_writeBorrowerDue (s := s) b x n]
  rfl

/-- The due a release leaves, read back. -/
theorem setsDue_release {b : Address} {x : Int} {n : Nat} {ev : Event}
    {t' : RepoTrade} :
    SetsDue s (publish (writeBorrowerDue (writeTrade s t') b (max x 0) n)
      ev) b x := by
  intro b'
  have hread : readBorrowerDue (publish (writeBorrowerDue (writeTrade s t')
      b (max x 0) n) ev) b' = _ :=
    readBorrowerDue_write (s := writeTrade s t') b (max x 0) n b'
  rw [hread]
  split
  · omega
  · rfl

/-- The summary: every committed call has one of the effects. -/
theorem call_effect {e : Entry} (hk : Keyed w.store)
    (h : call env e w = .ok w') : Effect env w w' e := by
  cases e with
  | propose lender borrower asset units cash rate kind maturity hash =>
      obtain ⟨⟨id, w₁⟩, h, hw'⟩ := map_ok.mp h
      obtain ⟨usdc, hauth, hunits, hcash, -, husdc, rfl⟩ := propose_ok h
      rw [← hw']
      exact .propose hauth hunits hcash husdc rfl rfl (fun _ => rfl) rfl rfl
  | cancelProposal caller id =>
      obtain ⟨t, tokens, -, ht, hstatus, hreset, rfl⟩ := cancelProposal_ok h
      refine .cancel ht hstatus ?_ (.publish (hk.replaces ht rfl))
        (fun _ => rfl)
      rcases resetAllowance_ok hreset with hkeep | ⟨usdc, h1, h2, h3, h4⟩
      · exact .inl hkeep
      · exact .inr ⟨usdc, _, ⟨h1, h2⟩, h3, h4⟩
  | acceptAndSettle borrower id =>
      obtain ⟨t, usdc, tokens₁, tokens₂, hauth, ht, hstatus,
        hborrower, husdc, hceil, hfits, htokens₁, htokens₂, hpos, rfl⟩ :=
        acceptAndSettle_ok h
      subst hborrower
      subst htokens₁
      obtain ⟨-, hcash, hallow, -, rfl⟩ := Ledger.transferFrom_ok.mp htokens₂
      refine .settle hauth ht hstatus husdc hceil hpos hfits hallow rfl
        (.publish (hk.replaces_due ht rfl)) ?_
      intro b'
      exact readBorrowerDue_write _ _ _ b'
  | unwind caller id =>
      obtain ⟨t, usdc, start, tokens, -, ht, hstatus, husdc, hstart, hdue,
        hpay, rfl⟩ := unwind_ok h
      exact .unwind ht hstatus husdc hstart hdue hpay rfl
        (.of_due (hk.replaces ht rfl)) setsDue_release
  | callMargin keeper id =>
      obtain ⟨h, htokens⟩ := onStore_ok.mp h
      obtain ⟨t, ht, hstatus, hcase⟩ := callMargin_marginOnly h
      rcases hcase with hsame | ⟨t', ev, hmargin, hs⟩
      · refine .margin ht hstatus (.refl t) htokens ⟨?_, ?_, ?_⟩ ?_
        · rw [hsame, Store.set_get ht]
        · rw [hsame]
        · rw [hsame]
        · rw [hsame]
          exact fun _ => rfl
      · refine .margin ht hstatus hmargin htokens ?_ ?_
        · rw [hs]
          exact .publish (hk.replaces ht hmargin.id)
        · rw [hs]
          exact fun _ => rfl
  | topUp borrower id extra =>
      obtain ⟨t, t', cured, hauth, hextra, ht, hstatus, hborrower, hcure,
        rfl⟩ := topUp_ok h
      have hmargin := cureIfHealthy_marginOnly hcure
      subst hborrower
      exact .topUp hauth hextra ht hstatus hmargin rfl
        (.publish (hk.replaces ht hmargin.id)) (fun _ => rfl)
  | defaultClose keeper id =>
      obtain ⟨t, _, _, _, share, tokens, ht, hstatus, -, -, -, -, -, -, -,
        hshare, hsplit, rfl⟩ := defaultClose_ok h
      have hle := lenderUnits_ok hshare
      obtain ⟨hpos, hallow, hbal⟩ := splitCollateral_ok hle hsplit
      exact .defaultClose ht hstatus hpos hle hallow hbal
        (.of_due (hk.replaces ht rfl)) setsDue_release
  | defaultAtMaturity caller id =>
      obtain ⟨t, _, _, _, _, share, tokens, -, ht, hstatus, -, -, -, -, -, -,
        hshare, hsplit, rfl⟩ := defaultAtMaturity_ok h
      have hle := lenderUnits_ok hshare
      obtain ⟨hpos, hallow, hbal⟩ := splitCollateral_ok hle hsplit
      exact .defaultAtMaturity ht hstatus hpos hle hallow hbal
        (.publish (hk.replaces ht rfl)) (fun _ => rfl)
  | _ => exact setup_effect rfl h

end Ballast.RepoDvp
