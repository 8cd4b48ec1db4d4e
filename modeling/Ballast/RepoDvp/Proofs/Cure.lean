/-
The cure window of a repo's margin call: opened once, fixed while it is
open, and consumed by a default only after it has run out.

# The history of a call

Three entry points by two parties touch a call. `callMargin` opens it,
refreshes its amount or clears it; `topUp` may clear it; `defaultClose`
consumes it. `CallMove` says what one committed call does to the call of
one trade, and `Called` is the invariant over the trace: an open call
was opened by a `callMargin` that set the deadline the trade still
carries, and every evaluation of the trade since then that had a price
found it unhealthy.

# What is and is not evaluated

A `topUp` at a price the guard does not stand behind goes through
without an evaluation and leaves the call as it is. All else that opens,
clears or consumes a call has a usable price in hand (`Finds`).
-/
import Ballast.RepoDvp.Proofs.Trades

namespace Ballast.RepoDvp

open Soroban Machine

-- ====================================================== evaluations

/-- The guard configured for the trade's asset stands behind a price. -/
def PriceOk (env : Env) (s : State) (t : RepoTrade) : Prop :=
  ∃ config guarded, s.assetConfig.get t.asset = some config
    ∧ env.guardedPrice config.priceGuard t.asset = .ok guarded
    ∧ guarded.status = .ok

/-- Evaluated at such a price, the trade is in margin state `m`. -/
def Finds (env : Env) (s : State) (t : RepoTrade) (m : MarginState) :
    Prop :=
  PriceOk env s t ∧ ∃ config margin,
    s.assetConfig.get t.asset = some config
    ∧ evaluateMargin env t config = .ok (some margin) ∧ margin.state = m

/-- The trade is found in a margin call or worse. -/
def FindsUnhealthy (env : Env) (s : State) (t : RepoTrade) : Prop :=
  ∃ m, Finds env s t m ∧ m.isUnhealthy = true

variable {self : Address} {env : Env} {w w' : World State} {s : State}
  {t t' : RepoTrade} {id : Nat} {e : Entry}
  {c : Committed (World State) Tx}
  {tr : List (Committed (World State) Tx)}

theorem evaluateMargin_some {config : RepoAssetConfig} {margin : Margin}
    (h : evaluateMargin env t config = .ok (some margin)) :
    ∃ guarded, env.guardedPrice config.priceGuard t.asset = .ok guarded
      ∧ guarded.status = .ok := by
  obtain ⟨guarded, -, hguarded, husable, -⟩ := evaluateMargin_ok h
  refine ⟨guarded, hguarded, ?_⟩
  simpa [GuardedPrice.isUsableForNewRisk] using husable

theorem evaluateMargin_none {config : RepoAssetConfig}
    {guarded : GuardedPrice}
    (h : evaluateMargin env t config = .ok none)
    (hguarded : env.guardedPrice config.priceGuard t.asset = .ok guarded) :
    guarded.status ≠ .ok := by
  simp only [evaluateMargin, bind_ok] at h
  obtain ⟨g, hg, h⟩ := h
  rw [hguarded] at hg
  injection hg with hg
  subst hg
  split at h
  case isTrue =>
    simp only [bind_ok, pure_ok, reduceCtorEq, and_false, exists_false] at h
  case isFalse hunusable =>
    simpa [GuardedPrice.isUsableForNewRisk] using hunusable

/-- An evaluation that returned a margin found its state. -/
theorem finds_of_evaluated {config : RepoAssetConfig} {margin : Margin}
    (hconfig : s.assetConfig.get t.asset = some config)
    (heval : evaluateMargin env t config = .ok (some margin)) :
    Finds env s t margin.state := by
  obtain ⟨guarded, hguarded, hok⟩ := evaluateMargin_some heval
  exact ⟨⟨config, guarded, hconfig, hguarded, hok⟩, config, margin, hconfig,
    heval, rfl⟩

-- ==================================================== one trade's call

/-- Trade `id` is stored with its margin call open, or not. -/
def Pending (w : World State) (id : Nat) (b : Bool) : Prop :=
  ∃ t, w.store.trades.get id = some t ∧ t.pendingMarginCall = b

/-- `c` opened the margin call of trade `id`. -/
def Opens (id : Nat) (c : Committed (World State) Tx) : Prop :=
  ¬ Pending c.before id true ∧ Pending c.after id true

/-- `c` cleared it. -/
def Clears (id : Nat) (c : Committed (World State) Tx) : Prop :=
  Pending c.before id true ∧ ¬ Pending c.after id true

/-- What a call does to the margin call of the trade stored under `id`
when it commits. -/
inductive CallMove (env : Env) (s : State) (id : Nat) (e : Entry)
    (t t' : RepoTrade) : Prop
  /-- left as it is; an evaluation that happened while it was open did
  not find the trade well -/
  | kept : t'.pendingMarginCall = t.pendingMarginCall →
      t'.cureDeadline = t.cureDeadline →
      (t.pendingMarginCall = true →
        (∀ keeper, e = .callMargin keeper id → FindsUnhealthy env s t)
        ∧ ∀ b extra, e = .topUp b id extra → PriceOk env s t →
          FindsUnhealthy env s { t with units := t.units + extra }) →
      CallMove env s id e t t'
  | opened {keeper : Address} : e = .callMargin keeper id →
      t.pendingMarginCall = false → FindsUnhealthy env s t →
      t'.pendingMarginCall = true →
      t'.cureDeadline = some (env.timestamp + cureGrace s) →
      CallMove env s id e t t'
  | cleared {t₀ : RepoTrade} {m : MarginState} :
      t.pendingMarginCall = true →
      ((∃ keeper, e = .callMargin keeper id ∧ t₀ = t)
        ∨ ∃ b extra, e = .topUp b id extra
          ∧ t₀ = { t with units := t.units + extra }) →
      Finds env s t₀ m → m.isUnhealthy = false →
      t'.pendingMarginCall = false → t'.cureDeadline = none →
      CallMove env s id e t t'

/-- Neither a margin evaluation of this trade nor a top-up of it. -/
theorem CallMove.of_same (hp : t'.pendingMarginCall = t.pendingMarginCall)
    (hd : t'.cureDeadline = t.cureDeadline)
    (hcall : ∀ keeper, e ≠ .callMargin keeper id)
    (htop : ∀ b extra, e ≠ .topUp b id extra) :
    CallMove env s id e t t' :=
  .kept hp hd fun _ => ⟨fun keeper he => absurd he (hcall keeper),
    fun b extra he => absurd he (htop b extra)⟩

theorem callMargin_move {keeper : Address} (hk : Keyed s) {s' : State}
    (h : callMargin env keeper id s = .ok s') :
    ∃ t t', s.trades.get id = some t ∧ s'.trades = s.trades.set id t'
      ∧ CallMove env s id (.callMargin keeper id) t t' := by
  obtain ⟨t, config, m, ht, -, hconfig, heval, hcase⟩ := callMargin_ok h
  have hfinds := finds_of_evaluated hconfig heval
  rcases hcase with ⟨hbad, -, t', ht', rfl⟩ | ⟨hgood, hopen, rfl⟩
    | ⟨hgood, hclosed, rfl⟩
  · refine ⟨t, t', ht, ?_, ?_⟩
    · exact (Replaces.publish (hk.replaces ht (calledTrade_ok ht').id)).trades
    · unfold calledTrade at ht'
      split at ht'
      case isTrue hopen =>
        simp only [pure_ok] at ht'
        subst ht'
        refine .kept rfl rfl fun _ => ⟨fun _ _ => ⟨_, hfinds, hbad⟩, ?_⟩
        intro b extra he
        cases he
      case isFalse hclosed =>
        simp only [bind_ok, U64.add_ok, pure_ok] at ht'
        obtain ⟨_, ⟨-, rfl⟩, rfl⟩ := ht'
        exact .opened rfl (by simpa using hclosed) ⟨_, hfinds, hbad⟩ rfl rfl
  · refine ⟨t, clearMarginCall t, ht, ?_, ?_⟩
    · exact (Replaces.publish
        (hk.replaces ht (marginOnly_clear t).id)).trades
    · exact .cleared hopen (.inl ⟨keeper, rfl, rfl⟩) hfinds hgood rfl rfl
  · refine ⟨t, t, ht, (Store.set_get ht).symm, .kept rfl rfl ?_⟩
    intro hopen
    rw [hclosed] at hopen
    cases hopen

theorem topUp_move {borrower : Address} {extra : Int} (hk : Keyed w.store)
    (h : topUp env borrower id extra w = .ok w') :
    ∃ t t', w.store.trades.get id = some t
      ∧ w'.store.trades = w.store.trades.set id t'
      ∧ CallMove env w.store id (.topUp borrower id extra) t t' := by
  obtain ⟨t, t', cured, -, -, ht, -, -, hcure, rfl⟩ := topUp_ok h
  refine ⟨t, t', ht, ?_, ?_⟩
  · exact (Replaces.publish (hk.replaces ht
      (cureIfHealthy_marginOnly hcure).id)).trades
  · rcases cureIfHealthy_ok hcure with ⟨rfl, heval⟩ | ⟨rfl, hopen, config, m,
      hconfig, heval, hgood⟩
    · refine .kept rfl rfl fun hopen => ⟨?_, ?_⟩
      · intro keeper he
        cases he
      · intro b x he hprice
        injection he with _ _ hx
        subst hx
        obtain ⟨config, evaluated, hconfig, heval, hbad⟩ := heval hopen
        cases evaluated with
        | some m => exact ⟨_, finds_of_evaluated hconfig heval, hbad m rfl⟩
        | none =>
            -- no evaluation, but the price was usable
            obtain ⟨config', guarded, hconfig', hguarded, hok⟩ := hprice
            have hsame : config' = config := by
              rw [show w.store.assetConfig.get t.asset = some config from
                hconfig] at hconfig'
              injection hconfig' with hconfig'
              exact hconfig'.symm
            subst hsame
            exact absurd hok (evaluateMargin_none heval hguarded)
    · exact .cleared hopen (.inr ⟨borrower, extra, rfl, rfl⟩)
        (finds_of_evaluated hconfig heval) hgood rfl rfl

/-- A trade that replaced another under its id with the call untouched. -/
theorem move_of_replaces {k : Nat} {x x' : RepoTrade}
    (hx : w.store.trades.get k = some x)
    (h : Replaces w.store w'.store k x')
    (hp : x'.pendingMarginCall = x.pendingMarginCall)
    (hd : x'.cureDeadline = x.cureDeadline)
    (hcall : ∀ keeper id, e ≠ .callMargin keeper id)
    (htop : ∀ b id extra, e ≠ .topUp b id extra)
    (ht' : w'.store.trades.get id = some t') :
    ∃ t, w.store.trades.get id = some t ∧ CallMove env w.store id e t t' := by
  rw [h.trades, Store.get_set] at ht'
  split at ht'
  case isTrue hid =>
    injection ht' with ht'
    subst hid ht'
    exact ⟨x, hx, .of_same hp hd (hcall · _) (htop · _)⟩
  case isFalse => exact ⟨t', ht', .of_same rfl rfl (hcall · _) (htop · _)⟩

/-- The same when the call of `k` itself moved. -/
theorem move_of_set {k : Nat} {x x' : RepoTrade}
    (hx : w.store.trades.get k = some x)
    (htrades : w'.store.trades = w.store.trades.set k x')
    (hmove : CallMove env w.store k e x x')
    (hcall : ∀ keeper, k ≠ id → e ≠ .callMargin keeper id)
    (htop : ∀ b extra, k ≠ id → e ≠ .topUp b id extra)
    (ht' : w'.store.trades.get id = some t') :
    ∃ t, w.store.trades.get id = some t ∧ CallMove env w.store id e t t' := by
  rw [htrades, Store.get_set] at ht'
  split at ht'
  case isTrue hid =>
    injection ht' with ht'
    subst hid ht'
    exact ⟨x, hx, hmove⟩
  case isFalse hid =>
    exact ⟨t', ht', .of_same rfl rfl (fun k => hcall k (Ne.symm hid))
      (fun b x => htop b x (Ne.symm hid))⟩

/-- Every committed call moves the margin call of each stored trade, or
stores a fresh trade without one. -/
theorem call_move (hok : TradesOk env.self w.store)
    (h : call env e w = .ok w') (ht' : w'.store.trades.get id = some t') :
    (∃ t, w.store.trades.get id = some t ∧ CallMove env w.store id e t t')
    ∨ (w.store.trades.get id = none ∧ t'.pendingMarginCall = false
      ∧ t'.cureDeadline = none) := by
  have hk := hok.keyed
  have heff := call_effect hk h
  cases heff with
  | setup hsetup _ htrades _ _ _ =>
      rw [htrades] at ht'
      refine .inl ⟨t', ht', .of_same rfl rfl ?_ ?_⟩
      · intro keeper he
        rw [he] at hsetup
        cases hsetup
      · intro b extra he
        rw [he] at hsetup
        cases hsetup
  | propose _ _ _ _ _ htrades _ _ _ =>
      rw [htrades, Store.get_set] at ht'
      split at ht'
      case isTrue hid =>
        injection ht' with ht'
        subst hid ht'
        exact .inr ⟨hok.fresh _ le_rfl, rfl, rfl⟩
      case isFalse =>
        exact .inl ⟨t', ht', .of_same rfl rfl (by simp) (by simp)⟩
  | cancel ht _ _ hrep _ =>
      exact .inl (move_of_replaces ht hrep rfl rfl (by simp) (by simp) ht')
  | settle _ ht _ _ _ _ _ _ _ hrep _ =>
      exact .inl (move_of_replaces ht hrep rfl rfl (by simp) (by simp) ht')
  | unwind ht _ _ _ _ _ _ hrep _ =>
      exact .inl (move_of_replaces ht hrep rfl rfl (by simp) (by simp) ht')
  | margin =>
      obtain ⟨x, x', hx, htrades, hmove⟩ :=
        callMargin_move hk (onStore_ok.mp h).1
      refine .inl (move_of_set hx htrades hmove ?_ (by simp) ht')
      intro keeper hne he
      injection he with _ hid
      exact hne hid
  | topUp =>
      obtain ⟨x, x', hx, htrades, hmove⟩ := topUp_move hk h
      refine .inl (move_of_set hx htrades hmove (by simp) ?_ ht')
      intro b extra hne he
      injection he with _ hid
      exact hne hid
  | defaultClose ht _ _ _ _ _ hrep _ =>
      exact .inl (move_of_replaces ht hrep rfl rfl (by simp) (by simp) ht')
  | defaultAtMaturity ht _ _ _ _ _ hrep _ =>
      exact .inl (move_of_replaces ht hrep rfl rfl (by simp) (by simp) ht')

-- ================================================ the call over a trace

/-- `o` opened the call of trade `id` with deadline `d`: a `callMargin`
that found the trade unhealthy, `d` the cure grace then in force after
it. -/
def OpensUntil (self : Address) (id d : Nat)
    (o : Committed (World State) Tx) : Prop :=
  ∃ env keeper t t', o.call = .call env (.callMargin keeper id)
    ∧ o.before.store.trades.get id = some t ∧ t.pendingMarginCall = false
    ∧ FindsUnhealthy (env.at self) o.before.store t
    ∧ o.after.store.trades.get id = some t' ∧ t'.pendingMarginCall = true
    ∧ t'.cureDeadline = some d
    ∧ d = env.timestamp + cureGrace o.before.store

/-- The call of trade `id` stays open through `c` with its deadline
where it was, and if `c` evaluated the trade it found it unhealthy. A
top-up evaluates only at a usable price. -/
def StaysCalled (self : Address) (id d : Nat)
    (c : Committed (World State) Tx) : Prop :=
  (∃ t', c.after.store.trades.get id = some t'
    ∧ t'.pendingMarginCall = true ∧ t'.cureDeadline = some d)
  ∧ (∀ env keeper, c.call = .call env (.callMargin keeper id) →
    ∃ t, c.before.store.trades.get id = some t
      ∧ FindsUnhealthy (env.at self) c.before.store t)
  ∧ ∀ env b extra, c.call = .call env (.topUp b id extra) →
    ∃ t, c.before.store.trades.get id = some t
      ∧ (PriceOk (env.at self) c.before.store t →
        FindsUnhealthy (env.at self) c.before.store
          { t with units := t.units + extra })

/-- In the trace the call of trade `id` was opened with deadline `d` and
has stayed open since. -/
def CalledUntil (self : Address) (id d : Nat)
    (tr : List (Committed (World State) Tx)) : Prop :=
  ∃ l₁ o l₂, tr = l₁ ++ o :: l₂ ∧ OpensUntil self id d o
    ∧ ∀ c ∈ l₂, StaysCalled self id d c

/-- A stored trade has a deadline exactly when its call is open, and
then the trace shows where the deadline comes from. -/
structure Called (addr : Address) (id : Nat) (s : State)
    (tr : List (Committed (World State) Tx)) : Prop where
  closed : ∀ t, s.trades.get id = some t → t.pendingMarginCall = false →
    t.cureDeadline = none
  opened : ∀ t, s.trades.get id = some t → t.pendingMarginCall = true →
    ∃ d, t.cureDeadline = some d ∧ CalledUntil addr id d tr

theorem CalledUntil.snoc {d : Nat} (h : CalledUntil self id d tr)
    (hc : StaysCalled self id d c) :
    CalledUntil self id d (tr ++ [c]) := by
  obtain ⟨l₁, o, l₂, htr, ho, hlater⟩ := h
  refine ⟨l₁, o, l₂ ++ [c], by rw [htr]; simp, ho, ?_⟩
  intro e he
  rcases List.mem_append.mp he with he | he
  · exact hlater e he
  · rw [List.mem_singleton.mp he]
    exact hc

/-- One committed call, by what it did to the call of the trade. -/
theorem Called.move (h : Called self id w.store tr)
    (ht : w.store.trades.get id = some t)
    (ht' : w'.store.trades.get id = some t')
    (hmove : CallMove (env.at self) w.store id e t t') :
    Called self id w'.store (tr ++ [⟨.call env e, w, w'⟩]) := by
  have hget : ∀ x, w'.store.trades.get id = some x → x = t' := by
    intro x hx
    rw [ht'] at hx
    injection hx with hx
    exact hx.symm
  cases hmove with
  | kept hp hd hfound =>
      constructor
      · intro x hx hclosed
        rw [hget x hx] at hclosed ⊢
        rw [hd]
        exact h.closed t ht (hp ▸ hclosed)
      · intro x hx hopen
        rw [hget x hx] at hopen ⊢
        have hopen' : t.pendingMarginCall = true := hp ▸ hopen
        obtain ⟨d, hdead, hcalled⟩ := h.opened t ht hopen'
        obtain ⟨hcall, htop⟩ := hfound hopen'
        refine ⟨d, by rw [hd, hdead], hcalled.snoc
          ⟨⟨t', ht', hopen, by rw [hd, hdead]⟩, ?_, ?_⟩⟩
        · intro env' keeper heq
          injection heq with henv he
          subst henv
          exact ⟨t, ht, hcall keeper he⟩
        · intro env' b extra heq
          injection heq with henv he
          subst henv
          exact ⟨t, ht, htop b extra he⟩
  | @opened keeper he hclosed hfinds hopen hdead =>
      constructor
      · intro x hx hx'
        rw [hget x hx, hopen] at hx'
        cases hx'
      · intro x hx _
        rw [hget x hx]
        refine ⟨_, hdead, tr, _, [], rfl, ⟨env, keeper, t, t', ?_, ht,
          hclosed, hfinds, ht', hopen, hdead, rfl⟩, by simp⟩
        rw [he]
  | cleared _ _ _ _ hclosed hdead =>
      constructor
      · intro x hx _
        rw [hget x hx]
        exact hdead
      · intro x hx hx'
        rw [hget x hx, hclosed] at hx'
        cases hx'

theorem called_step {tx : Tx} (hok : TradesOk self w.store)
    (h : Called self id w.store tr)
    (happ : (machine self).apply tx w = .ok w') :
    Called self id w'.store (tr ++ [⟨tx, w, w'⟩]) := by
  cases tx with
  | outside tokens =>
      injection happ with happ
      subst happ
      refine ⟨h.closed, ?_⟩
      intro t ht hopen
      obtain ⟨d, hdead, hcalled⟩ := h.opened t ht hopen
      refine ⟨d, hdead, hcalled.snoc ⟨⟨t, ht, hopen, hdead⟩, ?_, ?_⟩⟩
      · intro env keeper heq
        cases heq
      · intro env b extra heq
        cases heq
  | call env e =>
      have hok' : TradesOk (env.at self).self w.store := hok
      have hcall : call (env.at self) e w = .ok w' := happ
      cases hafter : w'.store.trades.get id with
      | none =>
          constructor
          · intro t ht
            rw [hafter] at ht
            cases ht
          · intro t ht
            rw [hafter] at ht
            cases ht
      | some t' =>
          rcases call_move hok' hcall hafter with ⟨t, ht, hmove⟩
            | ⟨-, hclosed, hdead⟩
          · exact h.move ht hafter hmove
          · constructor
            · intro x hx _
              rw [hafter] at hx
              injection hx with hx
              rw [← hx]
              exact hdead
            · intro x hx hopen
              rw [hafter] at hx
              injection hx with hx
              rw [← hx, hclosed] at hopen
              cases hopen

theorem called_run (self : Address) (id : Nat) (txs : List Tx) :
    Called self id ((machine self).run (machine self).init txs).store
      ((machine self).trace (machine self).init txs) := by
  refine trace_induction_prefix (M := machine self)
    (P := fun w tr => Called self id w.store tr) ⟨?_, ?_⟩ ?_
  · intro t ht
    cases ht
  · intro t ht
    cases ht
  · intro pre tx post w' _ h happ
    exact called_step (tradesOk_run self pre) h happ

-- ============================================================= all runs

/-- The cure windows of a run. -/
structure CureWindows (addr : Address) (txs : List Tx) : Prop where
  /-- a deadline is stored exactly while a call is open -/
  paired : ∀ id t, ((machine addr).run (machine addr).init
      txs).store.trades.get id = some t →
    (t.cureDeadline.isSome = true ↔ t.pendingMarginCall = true)
  /-- a call is opened by `callMargin` alone, on an unhealthy trade, with
  the grace then in force -/
  opened : ∀ c ∈ (machine addr).trace (machine addr).init txs, ∀ id,
    Opens id c → ∃ d, OpensUntil addr id d c
  /-- the deadline stays put for as long as the call stays open -/
  fixed : ∀ l₁ c l₂ l₃ id d,
    (machine addr).trace (machine addr).init txs = l₁ ++ c :: l₂ ++ l₃ →
    OpensUntil addr id d c → (∀ b ∈ l₂, Pending b.after id true) →
    ∀ b ∈ l₂, ∃ t, b.after.store.trades.get id = some t
      ∧ t.cureDeadline = some d
  /-- it is cleared by `callMargin` or `topUp`, on a trade found out of
  trouble -/
  cleared : ∀ c ∈ (machine addr).trace (machine addr).init txs, ∀ id,
    Clears id c → ∃ env e t t₀ m, c.call = .call env e
      ∧ c.before.store.trades.get id = some t
      ∧ ((∃ keeper, e = .callMargin keeper id ∧ t₀ = t)
        ∨ ∃ b extra, e = .topUp b id extra
          ∧ t₀ = { t with units := t.units + extra })
      ∧ Finds (env.at addr) c.before.store t₀ m ∧ m.isUnhealthy = false
  /-- a default comes no earlier than the deadline of the call it
  consumes, and the trade was unhealthy whenever it was evaluated since
  that call was opened, the default included -/
  defaulted : ∀ l₁ c l₂ env keeper id,
    (machine addr).trace (machine addr).init txs = l₁ ++ c :: l₂ →
    c.call = .call env (.defaultClose keeper id) →
    ∃ t d, c.before.store.trades.get id = some t
      ∧ t.cureDeadline = some d ∧ d ≤ env.timestamp
      ∧ FindsUnhealthy (env.at addr) c.before.store t
      ∧ CalledUntil addr id d l₁
  /-- no trade is defaulted without a usable price, at maturity either -/
  priced : ∀ c ∈ (machine addr).trace (machine addr).init txs,
    ∀ env e id, c.call = .call env e →
    (∃ keeper, e = .defaultClose keeper id)
      ∨ (∃ caller, e = .defaultAtMaturity caller id) →
    ∃ t, c.before.store.trades.get id = some t
      ∧ PriceOk (env.at addr) c.before.store t

/-- What a transaction does to the call of a trade it leaves stored. -/
theorem apply_move {tx : Tx} (hok : TradesOk self w.store)
    (happ : (machine self).apply tx w = .ok w')
    (ht' : w'.store.trades.get id = some t') :
    (∃ t, w.store.trades.get id = some t ∧ (t' = t
      ∨ ∃ env e, tx = .call env e
        ∧ CallMove (env.at self) w.store id e t t'))
    ∨ (w.store.trades.get id = none ∧ t'.pendingMarginCall = false) := by
  cases tx with
  | outside tokens =>
      injection happ with happ
      subst happ
      exact .inl ⟨t', ht', .inl rfl⟩
  | call env e =>
      have hok' : TradesOk (env.at self).self w.store := hok
      have hcall : call (env.at self) e w = .ok w' := happ
      rcases call_move hok' hcall ht' with ⟨t, ht, hmove⟩
        | ⟨hnone, hclosed, -⟩
      · exact .inl ⟨t, ht, .inr ⟨env, e, rfl, hmove⟩⟩
      · exact .inr ⟨hnone, hclosed⟩

theorem opens_until {tx : Tx} (hok : TradesOk self w.store)
    (happ : (machine self).apply tx w = .ok w')
    (h : Opens id ⟨tx, w, w'⟩) :
    ∃ d, OpensUntil self id d ⟨tx, w, w'⟩ := by
  obtain ⟨hbefore, t', ht', hopen⟩ := h
  rcases apply_move hok happ ht' with ⟨t, ht, rfl | ⟨env, e, rfl, hmove⟩⟩
    | ⟨-, hclosed⟩
  · exact absurd ⟨t', ht, hopen⟩ hbefore
  · cases hmove with
    | kept hp _ _ => exact absurd ⟨t, ht, by rw [← hp, hopen]⟩ hbefore
    | @opened keeper he hclosed hfinds _ hdead =>
        subst he
        exact ⟨_, env, keeper, t, t', rfl, ht, hclosed, hfinds, ht', hopen,
          hdead, rfl⟩
    | cleared _ _ _ _ hclosed _ =>
        rw [hclosed] at hopen
        cases hopen
  · rw [hclosed] at hopen
    cases hopen

/-- A call open before and after kept its deadline. -/
theorem deadline_kept {tx : Tx} {d : Nat} (hok : TradesOk self w.store)
    (happ : (machine self).apply tx w = .ok w')
    (ht : w.store.trades.get id = some t) (hopen : t.pendingMarginCall = true)
    (hdead : t.cureDeadline = some d) (h : Pending w' id true) :
    ∃ t', w'.store.trades.get id = some t' ∧ t'.pendingMarginCall = true
      ∧ t'.cureDeadline = some d := by
  obtain ⟨t', ht', hopen'⟩ := h
  refine ⟨t', ht', hopen', ?_⟩
  rcases apply_move hok happ ht' with ⟨x, hx, hcase⟩ | ⟨hnone, -⟩
  · rw [ht] at hx
    injection hx with hx
    subst hx
    rcases hcase with rfl | ⟨env, e, -, hmove⟩
    · exact hdead
    · cases hmove with
      | kept _ hd _ => rw [hd, hdead]
      | opened _ hclosed _ _ _ =>
          rw [hopen] at hclosed
          cases hclosed
      | cleared _ _ _ _ hclosed _ =>
          rw [hopen'] at hclosed
          cases hclosed
  · rw [ht] at hnone
    cases hnone

theorem clears_found {tx : Tx} (hok : TradesOk self w.store)
    (happ : (machine self).apply tx w = .ok w')
    (h : Clears id ⟨tx, w, w'⟩) :
    ∃ env e t t₀ m, tx = .call env e ∧ w.store.trades.get id = some t
      ∧ ((∃ keeper, e = .callMargin keeper id ∧ t₀ = t)
        ∨ ∃ b extra, e = .topUp b id extra
          ∧ t₀ = { t with units := t.units + extra })
      ∧ Finds (env.at self) w.store t₀ m ∧ m.isUnhealthy = false := by
  obtain ⟨⟨t, ht, hopen⟩, hafter⟩ := h
  obtain ⟨t', ht'⟩ := trade_stays hok happ ht
  rcases apply_move hok happ ht' with ⟨x, hx, hcase⟩ | ⟨hnone, -⟩
  · rw [ht] at hx
    injection hx with hx
    subst hx
    rcases hcase with rfl | ⟨env, e, rfl, hmove⟩
    · exact absurd ⟨t', ht', hopen⟩ hafter
    · cases hmove with
      | kept hp _ _ => exact absurd ⟨t', ht', by rw [hp, hopen]⟩ hafter
      | opened _ _ _ hopen' _ => exact absurd ⟨t', ht', hopen'⟩ hafter
      | @cleared t₀ m _ hentry hfinds hgood _ _ =>
          exact ⟨env, e, t, t₀, m, rfl, ht, hentry, hfinds, hgood⟩
  · rw [ht] at hnone
    cases hnone

/-- The deadline, carried along a stretch of the trace through which the
call stays open. -/
theorem deadline_fixed {txs : List Tx} {d : Nat}
    {l₁ l₂ l₃ : List (Committed (World State) Tx)}
    (hsplit : (machine self).trace (machine self).init txs
      = l₁ ++ c :: l₂ ++ l₃)
    (hc : OpensUntil self id d c)
    (hopen : ∀ b ∈ l₂, Pending b.after id true)
    {b : Committed (World State) Tx} (hb : b ∈ l₂) :
    ∃ t, b.after.store.trades.get id = some t
      ∧ t.pendingMarginCall = true ∧ t.cureDeadline = some d := by
  obtain ⟨env, keeper, t, t', -, -, -, -, ht', hopen', hdead, -⟩ := hc
  rw [List.append_assoc, List.cons_append] at hsplit
  obtain ⟨pre, post, -, -, -, -, hpost⟩ := trace_split hsplit
  refine after_of_trace (M := machine self) (P := fun w : World State =>
    ∃ t, w.store.trades.get id = some t ∧ t.pendingMarginCall = true
      ∧ t.cureDeadline = some d) ⟨t', ht', hopen', hdead⟩ hpost ?_ hb
  intro b hb hbefore
  obtain ⟨x, hx, hxopen, hxdead⟩ := hbefore
  have hmem : b ∈ (machine self).trace (machine self).init txs := by
    rw [hsplit]
    simp [hb]
  exact deadline_kept (tradesOk_of_mem hmem) (apply_of_mem_trace hmem) hx
    hxopen hxdead (hopen b hb)

/-- Every run keeps its cure windows. -/
theorem cure_windows (addr : Address) (txs : List Tx) :
    CureWindows addr txs where
  paired := by
    intro id t ht
    have hcalled := called_run addr id txs
    cases hp : t.pendingMarginCall with
    | false => simp [hcalled.closed t ht hp]
    | true =>
        obtain ⟨d, hdead, -⟩ := hcalled.opened t ht hp
        simp [hdead]
  opened := by
    intro c hc id hopens
    exact opens_until (tradesOk_of_mem hc) (apply_of_mem_trace hc) hopens
  fixed := by
    intro l₁ c l₂ l₃ id d hsplit hopens hopen b hb
    obtain ⟨t, ht, -, hdead⟩ := deadline_fixed hsplit hopens hopen hb
    exact ⟨t, ht, hdead⟩
  cleared := by
    intro c hc id hclears
    exact clears_found (tradesOk_of_mem hc) (apply_of_mem_trace hc) hclears
  defaulted := by
    intro l₁ c l₂ env keeper id hsplit hcall
    obtain ⟨pre, post, -, hbefore, happ, hl₁, -⟩ := trace_split hsplit
    have hcalled := called_run addr id pre
    rw [← hbefore, hl₁] at hcalled
    rw [hcall] at happ
    obtain ⟨t, config, m, d, _, _, ht, -, hopen, hdead, htime, hconfig,
      heval, hbad, -⟩ := defaultClose_ok happ
    obtain ⟨d', hdead', hhistory⟩ := hcalled.opened t ht hopen
    rw [hdead] at hdead'
    injection hdead' with hdead'
    subst hdead'
    exact ⟨t, d, ht, hdead, htime,
      ⟨m.state, finds_of_evaluated hconfig heval, hbad⟩, hhistory⟩
  priced := by
    intro c hc env e id hcall hdefault
    have happ := apply_of_mem_trace hc
    rw [hcall] at happ
    rcases hdefault with ⟨keeper, rfl⟩ | ⟨caller, rfl⟩
    · obtain ⟨t, config, m, _, _, _, ht, -, -, -, -, hconfig, heval, -⟩ :=
        defaultClose_ok happ
      exact ⟨t, ht, (finds_of_evaluated hconfig heval).1⟩
    · obtain ⟨t, config, guarded, _, _, _, _, -, ht, -, -, -, hconfig,
        hguarded, husable, -⟩ := defaultAtMaturity_ok happ
      refine ⟨t, ht, config, guarded, hconfig, hguarded, ?_⟩
      simpa [GuardedPrice.isUsableForNewRisk] using husable

end Ballast.RepoDvp
