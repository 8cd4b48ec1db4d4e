/-
The leg-2 allowance: one number per borrower, and what it has to cover.

# The law

A lender or keeper unwind is paid out of the allowance the borrower
granted the contract. It should cover all of the borrower's settled
trades at once, so that they can be unwound in any order.

# Where it fails

The same number serves the address as a lender. `propose` replaces it
by the proposal's cash, a cancel of the latest proposal by zero, and a
settlement of its proposal spends it (`lending_strands_unwind`).

# When it holds

Exactly when each of these leaves what the address owes as a borrower
covered (`stays_collectable_iff`). The borrower's own side never goes
wrong: `acceptAndSettle` approves at least the settled trades' dues,
since a trade settles no earlier than it was proposed, and an unwind
takes as much out of what is owed as out of the allowance.
-/
import Ballast.RepoDvp.Proofs.Dues
import Ballast.RepoDvp.Proofs.Escrow

namespace Ballast.RepoDvp

open Soroban

variable {addr b : Address} {env : Env} {w w' : World State}
  {s s' : State} {e : Entry} {t t' : RepoTrade}

-- ============================================================== the law

/-- What a settled trade owes at its unwind. -/
def owedOn (t : RepoTrade) : Int := dueFrom t (t.settledAt.getD 0)

/-- What `b`'s settled trades owe together. -/
def collectable (s : State) (b : Address) : Int :=
  tradeTotal s (whenSettled (·.cashBorrower = b) owedOn)

/-- A caller other than the borrower that `unwind` admits. -/
structure MayUnwind (addr : Address) (s : State) (t : RepoTrade) (env : Env)
    (caller : Address) : Prop where
  party : caller = t.cashLender
    ∨ ∃ r, s.roles = some r ∧ caller = r.keeper
  other : caller ≠ t.cashBorrower
  signed : (env.at addr).Grants caller
  mature : t.maturityAt ≤ env.timestamp

/-- While it has not expired, `b`'s allowance covers what its settled
trades owe, and each of these can be unwound without `b`. -/
structure StaysCollectable (addr b : Address) (w : World State) : Prop where
  covered : ∀ usdc, w.store.usdc = some usdc → ∀ env : HostEnv,
    env.sequence ≤ (w.tokens.allowance usdc b addr).liveUntil →
    collectable w.store b ≤ w.tokens.allowanceNow env usdc b addr
  unwinds : ∀ id t, w.store.trades.get id = some t →
    t.status = .settled → t.cashBorrower = b →
    ∃ usdc start, w.store.usdc = some usdc ∧ t.settledAt = some start
      ∧ totalDue t start = .ok (owedOn t)
      ∧ ∀ env caller, MayUnwind addr w.store t env caller →
        env.sequence ≤ (w.tokens.allowance usdc b addr).liveUntil →
        owedOn t ≤ w.tokens.balance usdc b →
        t.units ≤ w.tokens.balance t.asset addr →
        ∃ w', (machine addr).apply (.call env (.unwind caller id)) w
          = .ok w'

/-- What `b` does as a lender leaves its debts as a borrower covered:
its proposals are for at least as much, it takes none back while it
owes, and a settlement of one leaves enough. A new cash token has to be
one `b` has granted as much in. -/
def LeavesEnough (addr b : Address) (e : Entry) (w : World State) : Prop :=
  match e with
  | .setUsdc _ usdc =>
      collectable w.store b ≤ (w.tokens.allowance usdc b addr).amount
  | .propose lender _ _ _ cash _ _ _ _ =>
      lender = b → collectable w.store b ≤ cash
  | .cancelProposal caller id => ∀ t, w.store.trades.get id = some t →
      Resets w.store caller id t → caller = b → collectable w.store b ≤ 0
  | .acceptAndSettle borrower id => ∀ t usdc,
      w.store.trades.get id = some t → w.store.usdc = some usdc →
      t.cashLender = b → borrower ≠ b →
      collectable w.store b + t.cashAmount
        ≤ (w.tokens.allowance usdc b addr).amount
  | _ => True

/-- If `tx` commits, it leaves enough. -/
def LenderCovers (addr b : Address) (tx : Tx) (w : World State) : Prop :=
  ∀ env e w', tx = .call env e → (machine addr).apply tx w = .ok w' →
    LeavesEnough addr b e w

-- ==================================================== standing facts

/-- The ledger time of a call. -/
def Tx.time : Tx → Option Nat
  | .call env _ => some env.timestamp
  | .outside _ => none

/-- Allowances granted to the contract change in its calls only. -/
def Undisturbed (addr : Address) : Tx → World State → Prop
  | .call _ _, _ => True
  | .outside tokens, w => ∀ token owner,
      tokens.allowance token owner addr = w.tokens.allowance token owner addr

/-- What is taken for granted of a run: ledger time does not run
backwards, and nobody else changes the contract's allowances. -/
structure Standing (addr : Address) (txs : List Tx) : Prop where
  clock : (txs.filterMap Tx.time).Pairwise (· ≤ ·)
  undisturbed : (machine addr).Allowed (Undisturbed addr)
    (machine addr).init txs

/-- A run in good standing was so at every earlier point. -/
theorem Standing.left {pre post : List Tx} (h : Standing addr (pre ++ post)) :
    Standing addr pre := by
  refine ⟨?_, (Machine.Allowed.append.mp h.undisturbed).1⟩
  have hclock := h.clock
  rw [List.filterMap_append, List.pairwise_append] at hclock
  exact hclock.1

/-- Where a trade stored after a call comes from. -/
theorem Settlement.get_cases (h : Settlement env w w' e) {k : Nat}
    (hk : w'.store.trades.get k = some t') :
    w.store.trades.get k = some t'
    ∨ (t'.status = .proposed ∧ t'.proposedAt = env.timestamp)
    ∨ ∃ t usdc ps, w.store.trades.get k = some t ∧ Leg env usdc t e t' ps := by
  cases h with
  | setup _ _ htrades =>
      rw [htrades] at hk
      exact .inl hk
  | proposed _ _ hst hat htrades =>
      rw [htrades, Store.get_set] at hk
      split at hk
      · injection hk with hk
        subst hk
        exact .inr (.inl ⟨hst, hat⟩)
      · exact .inl hk
  | @leg id t _ ps _ ht hleg htrades =>
      rw [htrades, Store.get_set] at hk
      split at hk
      · next heq =>
        injection hk with hk
        subst hk heq
        exact .inr (.inr ⟨t, _, ps, ht, hleg⟩)
      · exact .inl hk

/-- When a trade was proposed never changes; when it settled is written
once. -/
theorem Leg.times {usdc : Option Address} {ps : List Payment}
    (h : Leg env usdc t e t' ps) :
    t'.proposedAt = t.proposedAt
    ∧ (t'.status = .settled →
        t'.settledAt = some env.timestamp
        ∨ t.status = .settled ∧ t'.settledAt = t.settledAt) := by
  cases h with
  | cancelled => exact ⟨rfl, fun hst => by cases hst⟩
  | settled => exact ⟨rfl, fun _ => .inl rfl⟩
  | margin hst hmargin =>
      exact ⟨hmargin.proposedAt, fun _ => .inr ⟨hst, hmargin.settledAt⟩⟩
  | toppedUp hst _ hmargin =>
      exact ⟨hmargin.proposedAt, fun _ => .inr ⟨hst, hmargin.settledAt⟩⟩
  | unwound => exact ⟨rfl, fun hst => by cases hst⟩
  | defaulted => exact ⟨rfl, fun hst => by cases hst⟩

/-- Every stored trade was proposed at the time of some call. -/
theorem proposedAt_mem (addr : Address) (txs : List Tx) {id : Nat}
    (ht : ((machine addr).run (machine addr).init txs).store.trades.get id
      = some t) : t.proposedAt ∈ txs.filterMap Tx.time := by
  induction txs using List.reverseRecOn generalizing t with
  | nil => cases ht
  | append_singleton txs tx ih =>
      rw [List.filterMap_append, List.mem_append]
      rw [Machine.run_snoc] at ht
      rcases (machine addr).exec_cases
        ((machine addr).run (machine addr).init txs) tx with happ | hsame
      · cases tx with
        | call env e =>
            have hset := call_settlement (tradesOk_run addr txs) happ
            rcases hset.get_cases ht with hold | ⟨-, hnew⟩
              | ⟨t₀, _, _, hold, hleg⟩
            · exact .inl (ih hold)
            · right
              rw [hnew]
              exact List.mem_singleton.mpr rfl
            · rw [hleg.times.1]
              exact .inl (ih hold)
        | outside tokens =>
            injection happ with happ
            rw [← happ] at ht
            exact .inl (ih ht)
      · rw [hsame] at ht
        exact .inl (ih ht)

/-- A settled trade settled no earlier than it was proposed. -/
def SettledLater (s : State) : Prop :=
  ∀ id t start, s.trades.get id = some t → t.status = .settled →
    t.settledAt = some start → t.proposedAt ≤ start

/-- A call made after a run happens no earlier than its proposals. -/
theorem Standing.proposedAt_le {pre post : List Tx} {id : Nat}
    (h : Standing addr (pre ++ .call env e :: post))
    (ht : ((machine addr).run (machine addr).init pre).store.trades.get id
      = some t) : t.proposedAt ≤ env.timestamp := by
  have hclock := h.clock
  rw [List.filterMap_append, List.pairwise_append] at hclock
  apply hclock.2.2 _ (proposedAt_mem addr pre ht)
  simp [Tx.time]

/-- With a clock that never runs back, a trade settles no earlier than it
was proposed. -/
theorem Standing.settledLater {txs : List Tx} (h : Standing addr txs) :
    SettledLater ((machine addr).run (machine addr).init txs).store := by
  refine Machine.run_induction_prefix (P := fun w : World State =>
    SettledLater w.store) (fun _ _ _ ht => by cases ht) ?_
    (Machine.allowed_true _ txs)
  intro pre tx post w' htxs hlater _ happ id t start ht hst hstart
  cases tx with
  | call env e =>
      have hset := call_settlement (tradesOk_run addr pre) happ
      rcases hset.get_cases ht with hold | ⟨hnew, -⟩ | ⟨t₀, _, _, hold, hleg⟩
      · exact hlater id t start hold hst hstart
      · rw [hst] at hnew
        cases hnew
      · obtain ⟨hprop, hsettled⟩ := hleg.times
        rw [hprop]
        rcases hsettled hst with hnow | ⟨hst₀, hsame⟩
        · rw [htxs] at h
          have hnow' : some env.timestamp = some start := hnow.symm.trans hstart
          injection hnow' with hnow'
          rw [← hnow']
          exact h.proposedAt_le hold
        · exact hlater id t₀ start hold hst₀ (hsame.symm.trans hstart)
  | outside tokens =>
      injection happ with happ
      subst happ
      exact hlater id t start ht hst hstart

/-- Nothing is stored before a cash token is configured. -/
def UsdcKnown (s : State) : Prop :=
  s.usdc = none → ∀ id, s.trades.get id = none

/-- Once there is a trade, the currency is configured, and stays so. -/
theorem UsdcKnown.effect (hu : UsdcKnown w.store)
    (h : Effect env w w' e) : UsdcKnown w'.store := by
  -- a call on a trade found one, so the token was known and stays so
  have hkeep : ∀ {id : Nat} {t t' : RepoTrade},
      w.store.trades.get id = some t →
      Replaces w.store w'.store id t' → UsdcKnown w'.store := by
    intro id t t' ht hrep hnone
    rw [hrep.usdc] at hnone
    rw [hu hnone id] at ht
    cases ht
  cases h with
  | setup _ _ htrades _ _ husdc =>
      intro hnone id
      rw [htrades]
      rw [husdc, Option.or_eq_none_iff] at hnone
      exact hu hnone.2 id
  | propose _ _ _ husdc _ _ _ _ hsame =>
      intro hnone
      rw [hsame, husdc] at hnone
      cases hnone
  | cancel ht _ _ hrep _ => exact hkeep ht hrep
  | settle _ ht _ _ _ _ _ _ _ hrep _ => exact hkeep ht hrep
  | unwind ht _ _ _ _ _ _ hrep _ => exact hkeep ht hrep
  | margin ht _ _ _ hrep _ => exact hkeep ht hrep
  | topUp _ _ ht _ _ _ hrep _ => exact hkeep ht hrep
  | defaultClose ht _ _ _ _ _ hrep _ => exact hkeep ht hrep
  | defaultAtMaturity ht _ _ _ _ _ hrep _ => exact hkeep ht hrep

/-- A stored due sum fits its type. -/
theorem fits_due_effect (hs : TradesOk env.self w.store)
    (hfits : I128.Fits (readBorrowerDue w.store b))
    (h : Effect env w w' e) : I128.Fits (readBorrowerDue w'.store b) := by
  have hrelease : ∀ {id : Nat} {t : RepoTrade},
      w.store.trades.get id = some t →
      SetsDue w.store w'.store t.cashBorrower
        (readBorrowerDue w.store t.cashBorrower - ceiling t) →
      I128.Fits (readBorrowerDue w'.store b) := by
    intro id t ht hdue
    have hpos := (hs.trade id t ht).ceiling_pos
    rw [hdue b]
    split
    · next hb =>
      rw [← hb]
      unfold I128.Fits at hfits ⊢
      omega
    · exact hfits
  cases h with
  | setup _ _ _ hdues _ _ =>
      rw [hdues b]
      exact hfits
  | propose _ _ _ _ _ _ hdues _ _ =>
      rw [hdues b]
      exact hfits
  | cancel _ _ _ _ hdues =>
      rw [hdues b]
      exact hfits
  | settle _ _ _ _ _ hpos hsum _ _ _ hdue =>
      rw [hdue b]
      split
      · rw [max_eq_left hpos]
        exact hsum
      · exact hfits
  | unwind ht _ _ _ _ _ _ _ hdue => exact hrelease ht hdue
  | margin _ _ _ _ _ hdues =>
      rw [hdues b]
      exact hfits
  | topUp _ _ _ _ _ _ _ hdues =>
      rw [hdues b]
      exact hfits
  | defaultClose ht _ _ _ _ _ _ hdue => exact hrelease ht hdue
  | defaultAtMaturity _ _ _ _ _ _ _ hdues =>
      rw [hdues b]
      exact hfits

/-- In every state a run reaches. -/
theorem usdcKnown_run (addr : Address) (txs : List Tx) :
    UsdcKnown ((machine addr).run (machine addr).init txs).store := by
  refine Machine.run_induction_prefix (P := fun w : World State =>
    UsdcKnown w.store) (fun _ _ => rfl) ?_ (Machine.allowed_true _ txs)
  intro pre tx post w' _ hu _ happ
  cases tx with
  | call env e =>
      exact hu.effect (call_effect (tradesOk_run addr pre).keyed happ)
  | outside tokens =>
      injection happ with happ
      subst happ
      exact hu

/-- A due sum that was stored has passed its overflow check, so reading it
cannot overflow. -/
theorem fits_due_run (addr b : Address) (txs : List Tx) :
    I128.Fits (readBorrowerDue
      ((machine addr).run (machine addr).init txs).store b) := by
  refine Machine.run_induction_prefix (P := fun w : World State =>
    I128.Fits (readBorrowerDue w.store b)) (show I128.Fits 0 by decide) ?_
    (Machine.allowed_true _ txs)
  intro pre tx post w' _ hfits _ happ
  cases tx with
  | call env e =>
      have hs : TradesOk (env.at addr).self _ := tradesOk_run addr pre
      exact fits_due_effect hs hfits (call_effect hs.keyed happ)
  | outside tokens =>
      injection happ with happ
      subst happ
      exact hfits

/-- The facts about a reached state the law rests on. -/
structure Sound (addr b : Address) (s : State) : Prop where
  trades : TradesOk addr s
  later : SettledLater s
  gap : 0 ≤ dueGap s b
  fits : I128.Fits (readBorrowerDue s b)
  usdc : UsdcKnown s

/-- The facts that the step lemmas ask for hold at the end of every run in
good standing. -/
theorem Standing.sound {txs : List Tx} (h : Standing addr txs)
    (b : Address) :
    Sound addr b ((machine addr).run (machine addr).init txs).store :=
  ⟨tradesOk_run addr txs, h.settledLater, dueGap_nonneg addr b txs,
    fits_due_run addr b txs, usdcKnown_run addr txs⟩

-- ==================================================== what is owed

/-- A settled trade owes its interest from its settlement on. -/
theorem owedOn_settled {start : Nat} (h : t.settledAt = some start) :
    owedOn t = dueFrom t start := by
  unfold owedOn
  rw [h]
  rfl

/-- Margin calls and top-ups change nothing that is owed. -/
theorem MarginOnly.owedOn (h : MarginOnly t t') : owedOn t' = owedOn t := by
  unfold RepoDvp.owedOn
  rw [h.settledAt, h.dueFrom]

/-- Nobody owes less than nothing. -/
theorem TradeOk.owedOn_nonneg (h : TradeOk addr t) : 0 ≤ owedOn t := by
  have hcash := h.cash_pos
  have hle : t.cashAmount ≤ owedOn t := cashAmount_le_dueFrom hcash.le
  omega

/-- A settled trade owes at most what it was approved for. -/
theorem Sound.owedOn_le (h : Sound addr b s) {id : Nat}
    (ht : s.trades.get id = some t) (hst : t.status = .settled) :
    owedOn t ≤ ceiling t := by
  have hok := h.trades.trade id t ht
  obtain ⟨start, hstart⟩ := hok.start hst
  unfold owedOn ceiling
  rw [hstart]
  exact dueFrom_anti hok.cash_pos.le (h.later id t start ht hst hstart)

/-- Together, at most what is on the borrower's account. -/
theorem Sound.collectable_le (h : Sound addr b s) :
    collectable s b ≤ readBorrowerDue s b := by
  have hle : collectable s b ≤ settledDue s b := by
    apply Store.total_le_total
    intro id t ht
    unfold whenSettled
    split
    · next hst => exact h.owedOn_le ht hst.1
    · exact le_refl 0
  have hgap := h.gap
  unfold dueGap at hgap
  omega

/-- One trade is part of the whole. -/
theorem Sound.owedOn_le_collectable (h : Sound addr b s) {id : Nat}
    (ht : s.trades.get id = some t) (hst : t.status = .settled)
    (hb : t.cashBorrower = b) : owedOn t ≤ collectable s b := by
  have hle : whenSettled (·.cashBorrower = b) owedOn t
      ≤ collectable s b := by
    apply le_tradeTotal _ ht
    intro k x hx
    unfold whenSettled
    split
    · exact (h.trades.trade k x hx).owedOn_nonneg
    · exact le_refl 0
  rw [whenSettled_settled hst, if_pos hb] at hle
  exact hle

/-- An amount that was computed for a longer term can be computed for a
shorter one. -/
theorem totalDue_later {m n : Nat} {x : Int} (hcash : 0 ≤ t.cashAmount)
    (hmn : m ≤ n) (h : totalDue t m = .ok x) :
    totalDue t n = .ok (dueFrom t n) := by
  obtain ⟨hrate, hterm, hfits, -⟩ := totalDue_ok.mp h
  have hrated : 0 ≤ t.cashAmount * t.rateBps := by positivity
  have hshort :
      ((t.maturityAt - n : Nat) : Int) ≤ (t.maturityAt - m : Nat) := by
    omega
  refine totalDue_ok.mpr ⟨hrate, hterm.of_le (by positivity) ?_,
    hfits.of_le ?_ (dueFrom_anti hcash hmn), rfl⟩
  · exact mul_le_mul_of_nonneg_left hshort hrated
  · exact hcash.trans (cashAmount_le_dueFrom hcash)

-- ==================================================== one step

/-- The bare number, expired or not. -/
def Covered (addr b : Address) (w : World State) : Prop :=
  ∀ usdc, w.store.usdc = some usdc →
    collectable w.store b ≤ (w.tokens.allowance usdc b addr).amount

/-- The law, once the currency is known: the allowance is at least what
may be collected. -/
theorem covered_some {usdc : Address} (h : w.store.usdc = some usdc) :
    Covered addr b w ↔ collectable w.store b
      ≤ (w.tokens.allowance usdc b addr).amount := by
  unfold Covered
  rw [h]
  simp

/-- A call that takes nothing off `b`'s allowance, and adds nothing to
what it owes. -/
theorem covered_mono (hle : collectable w'.store b ≤ collectable w.store b)
    (husdc : w'.store.usdc = w.store.usdc)
    (hallow : ∀ usdc, w'.tokens.allowance usdc b addr
      = w.tokens.allowance usdc b addr)
    (h : Covered addr b w) : Covered addr b w' := by
  intro usdc hu
  rw [husdc] at hu
  rw [hallow usdc]
  exact hle.trans (h usdc hu)

/-- A setup call that leaves the currency alone endangers nothing. -/
theorem leavesEnough_of_setup (he : e.isSetup = true)
    (hu : e.setsUsdc = none) : LeavesEnough addr b e w := by
  cases e <;> trivial

/-- After a setup call the law holds exactly if the currency it may have
changed to covers the dues. -/
theorem covered_setup (he : e.isSetup = true)
    (htokens : w'.tokens = w.tokens)
    (htrades : w'.store.trades = w.store.trades)
    (husdc : w'.store.usdc = e.setsUsdc.or w.store.usdc)
    (hc : Covered addr b w) :
    Covered addr b w' ↔ LeavesEnough addr b e w := by
  have hsame : collectable w'.store b = collectable w.store b :=
    tradeTotal_congr _ htrades
  by_cases hset : ∃ a u, e = .setUsdc a u
  · obtain ⟨a, u, rfl⟩ := hset
    have hu : w'.store.usdc = some u := husdc
    rw [covered_some hu, hsame, htokens]
    rfl
  · have hnone : e.setsUsdc = none := by
      cases e with
      | setUsdc a u => exact absurd ⟨a, u, rfl⟩ hset
      | _ => rfl
    rw [hnone] at husdc
    refine iff_of_true (covered_mono hsame.le husdc ?_ hc)
      (leavesEnough_of_setup he hnone)
    intro _
    rw [htokens]

/-- `b`'s allowance after a replacement of `owner`'s. -/
theorem allowance_replaced {l : Ledger} {usdc owner : Address}
    {x : Allowance} :
    (l.setAllowance usdc owner addr x).allowance usdc b addr
      = if b = owner then x else l.allowance usdc b addr := by
  rw [Ledger.allowance_setAllowance]
  simp

/-- A proposal replaces the lender's allowance by its cash; the law holds
after it exactly if that covers what he owes as a borrower. -/
theorem covered_propose {lender borrower asset usdc : Address}
    {units cash : Int} {rate maturity n : Nat} {kind : RepoKind}
    {hash : BytesN 32} (hs : TradesOk addr w.store)
    (husdc : w.store.usdc = some usdc)
    (htokens : w'.tokens = w.tokens.setAllowance usdc lender addr ⟨cash, n⟩)
    (htrades : w'.store.trades = w.store.trades.set w.store.nextId
      (newTrade env w.store.nextId lender borrower asset units cash rate
        kind maturity hash))
    (hsame : w'.store.usdc = w.store.usdc) (hc : Covered addr b w) :
    Covered addr b w' ↔ (lender = b → collectable w.store b ≤ cash) := by
  have howed : collectable w'.store b = collectable w.store b :=
    tradeTotal_propose (hs.fresh _ (le_refl _)) htrades
      (fun hst => by cases hst)
  have hbefore := hc usdc husdc
  rw [covered_some (hsame.trans husdc), howed, htokens, allowance_replaced]
  by_cases hb : b = lender
  · rw [if_pos hb]
    exact ⟨fun h _ => h, fun h => h hb.symm⟩
  · rw [if_neg hb]
    exact iff_of_true hbefore fun hl => absurd hl.symm hb

/-- A cancel that takes the allowance back leaves zero, which covers only
a lender who owes nothing. -/
theorem covered_cancel {caller : Address} {id : Nat}
    (ht : w.store.trades.get id = some t) (hprop : t.status = .proposed)
    (htokens : (¬ Resets w.store caller id t ∧ w'.tokens = w.tokens)
      ∨ ∃ usdc n, Resets w.store caller id t ∧ w.store.usdc = some usdc
        ∧ w'.tokens = w.tokens.setAllowance usdc t.cashLender addr ⟨0, n⟩)
    (hrep : Replaces w.store w'.store id { t with status := .cancelled })
    (hc : Covered addr b w) :
    Covered addr b w' ↔ LeavesEnough addr b (.cancelProposal caller id) w := by
  have howed : collectable w'.store b = collectable w.store b :=
    tradeTotal_open ht hrep (by rw [hprop]; decide)
      (fun hst => by cases hst)
  rcases htokens with ⟨hkeep, htokens⟩ | ⟨usdc, n, hreset, husdc, htokens⟩
  · refine iff_of_true (covered_mono howed.le hrep.usdc ?_ hc) ?_
    · intro _
      rw [htokens]
    · intro t' ht' hreset _
      rw [ht] at ht'
      injection ht' with ht'
      rw [← ht'] at hreset
      exact absurd hreset hkeep
  · have hbefore := hc usdc husdc
    rw [covered_some (hrep.usdc.trans husdc), howed, htokens,
      allowance_replaced]
    by_cases hb : b = t.cashLender
    · rw [if_pos hb]
      constructor
      · intro h _ _ _ _
        exact h
      · intro h
        exact h t ht hreset (hreset.1.trans hb.symm)
    · rw [if_neg hb]
      refine iff_of_true hbefore ?_
      intro t' ht' hreset' hcaller
      exact absurd (hcaller.symm.trans hreset.1) hb

/-- A settlement approves what the borrower owes with the new trade. The
lender's allowance falls by the cash, and has to cover what he owes
himself. -/
theorem covered_settle {usdc : Address} {id n : Nat}
    (hs : Sound env.self b w.store)
    (htime : t.proposedAt ≤ env.timestamp)
    (ht : w.store.trades.get id = some t) (hprop : t.status = .proposed)
    (husdc : w.store.usdc = some usdc)
    (htokens : w'.tokens = (((w.tokens.move t.asset t.cashBorrower env.self
        t.units).setAllowance usdc t.cashLender env.self
          { w.tokens.allowance usdc t.cashLender env.self with
            amount := (w.tokens.allowance usdc t.cashLender
              env.self).amount - t.cashAmount }).move usdc t.cashLender
          t.cashBorrower t.cashAmount).setAllowance usdc t.cashBorrower
        env.self
        ⟨readBorrowerDue w.store t.cashBorrower + ceiling t, n⟩)
    (hrep : Replaces w.store w'.store id (settledTrade env t))
    (hc : Covered env.self b w) :
    Covered env.self b w'
      ↔ LeavesEnough env.self b (.acceptAndSettle t.cashBorrower id) w := by
  have hjoin : collectable w'.store b = collectable w.store b
      + (if t.cashBorrower = b then dueFrom t env.timestamp else 0) :=
    tradeTotal_settle ht hprop hrep
  have hbefore := hc usdc husdc
  rw [covered_some (hrep.usdc.trans husdc), hjoin, htokens,
    allowance_replaced]
  by_cases hb : b = t.cashBorrower
  · -- the borrower's side: the sum approved covers the trade as well
    rw [if_pos hb, if_pos hb.symm]
    refine iff_of_true ?_ ?_
    · have hle := hs.collectable_le
      have hanti : dueFrom t env.timestamp ≤ ceiling t :=
        dueFrom_anti (hs.trades.trade id t ht).cash_pos.le htime
      rw [hb] at hle ⊢
      show _ ≤ readBorrowerDue w.store t.cashBorrower + ceiling t
      omega
    · intro t' _ _ _ _ hne
      exact absurd hb.symm hne
  · rw [if_neg hb, if_neg (Ne.symm hb), Ledger.allowance_move,
      allowance_replaced]
    by_cases hl : b = t.cashLender
    · -- the lender's side: the cash comes out of what covers its debts
      rw [if_pos hl]
      constructor
      · intro h t' usdc' ht' husdc' _ _
        rw [ht] at ht'
        rw [husdc] at husdc'
        injection ht' with ht'
        injection husdc' with husdc'
        rw [← ht', ← husdc', hl]
        rw [hl] at h
        have h' : collectable w.store t.cashLender + 0
          ≤ (w.tokens.allowance usdc t.cashLender env.self).amount
            - t.cashAmount := h
        omega
      · intro h
        have hcover := h t usdc ht husdc hl.symm (Ne.symm hb)
        rw [hl] at hcover ⊢
        show _ ≤ (w.tokens.allowance usdc t.cashLender env.self).amount
          - t.cashAmount
        omega
    · rw [if_neg hl, Ledger.allowance_move, add_zero]
      refine iff_of_true hbefore ?_
      intro t' usdc' ht' _ hlender _
      rw [ht] at ht'
      injection ht' with ht'
      rw [← ht'] at hlender
      exact absurd hlender.symm hl

/-- An unwind takes as much out of the allowance as out of what is owed,
and so changes nothing about the law. -/
theorem covered_unwind {caller usdc : Address} {id start : Nat}
    {tokens : Ledger} (ht : w.store.trades.get id = some t)
    (hst : t.status = .settled) (husdc : w.store.usdc = some usdc)
    (hstart : t.settledAt = some start)
    (hpay : payDue env caller usdc t (dueFrom t start) w.tokens = .ok tokens)
    (htokens : w'.tokens
      = tokens.move t.asset env.self t.cashBorrower t.units)
    (hrep : Replaces w.store w'.store id { t with status := .unwound })
    (hc : Covered env.self b w) : Covered env.self b w' := by
  have hclose : collectable w'.store b = collectable w.store b
      - (if t.cashBorrower = b then owedOn t else 0) :=
    tradeTotal_close ht hst (by decide) hrep
  have howed := owedOn_settled hstart
  have hbefore := hc usdc husdc
  rw [covered_some (hrep.usdc.trans husdc), hclose, htokens,
    Ledger.allowance_move]
  obtain ⟨hpos, hpaid⟩ := payDue_ok hpay
  rcases hpaid with ⟨-, hpaid⟩ | ⟨-, hpaid⟩
  · rw [hpaid, Ledger.allowance_move]
    split <;> omega
  · rw [hpaid, Ledger.allowance_move, allowance_replaced]
    by_cases hb : b = t.cashBorrower
    · rw [if_pos hb, if_pos hb.symm]
      rw [hb] at hbefore ⊢
      show _ ≤ (w.tokens.allowance usdc t.cashBorrower env.self).amount
        - dueFrom t start
      omega
    · rw [if_neg hb, if_neg (Ne.symm hb)]
      omega

/-- A default takes its trade out of what is owed and leaves the
allowance, so the law can only become easier. -/
theorem covered_default {id : Nat} (hs : TradesOk addr w.store)
    (ht : w.store.trades.get id = some t) (hst : t.status = .settled)
    (hallow : w'.tokens.allowance = w.tokens.allowance)
    (hrep : Replaces w.store w'.store id { t with status := .defaulted })
    (hc : Covered addr b w) : Covered addr b w' := by
  have hclose : collectable w'.store b = collectable w.store b
      - (if t.cashBorrower = b then owedOn t else 0) :=
    tradeTotal_close ht hst (by decide) hrep
  have hpos := (hs.trade id t ht).owedOn_nonneg
  refine covered_mono ?_ hrep.usdc ?_ hc
  · rw [hclose]
    split <;> omega
  · intro _
    rw [hallow]

/-- What a call leaves covered is exactly what `LeavesEnough` asks. -/
theorem covered_effect (hs : Sound env.self b w.store)
    (htime : ∀ id t, w.store.trades.get id = some t →
      t.proposedAt ≤ env.timestamp)
    (hc : Covered env.self b w) (h : Effect env w w' e) :
    Covered env.self b w' ↔ LeavesEnough env.self b e w := by
  cases h with
  | setup he htokens htrades _ _ husdc =>
      exact covered_setup he htokens htrades husdc hc
  | propose _ _ _ husdc htokens htrades _ _ hsame =>
      exact covered_propose hs.trades husdc htokens htrades hsame hc
  | cancel ht hprop htokens hrep _ =>
      exact covered_cancel ht hprop htokens hrep hc
  | settle _ ht hprop husdc _ _ _ _ htokens hrep _ =>
      exact covered_settle hs (htime _ _ ht) ht hprop husdc htokens hrep hc
  | unwind ht hst husdc hstart _ hpay htokens hrep _ =>
      exact iff_of_true
        (covered_unwind ht hst husdc hstart hpay htokens hrep hc) trivial
  | margin ht _ hmargin htokens hrep _ =>
      have hsame : collectable w'.store b = collectable w.store b :=
        tradeTotal_keep ht hrep hmargin.status
          (by rw [hmargin.cashBorrower]) hmargin.owedOn
      refine iff_of_true (covered_mono hsame.le hrep.usdc ?_ hc) trivial
      intro _
      rw [htokens]
  | topUp _ _ ht _ hmargin htokens hrep _ =>
      have hsame : collectable w'.store b = collectable w.store b :=
        tradeTotal_keep ht hrep hmargin.status
          (by rw [hmargin.cashBorrower]) hmargin.owedOn
      refine iff_of_true (covered_mono hsame.le hrep.usdc ?_ hc) trivial
      intro _
      rw [htokens, Ledger.allowance_move]
  | defaultClose ht hst _ _ hallow _ hrep _ =>
      exact iff_of_true (covered_default hs.trades ht hst hallow hrep hc)
        trivial
  | defaultAtMaturity ht hst _ _ hallow _ hrep _ =>
      exact iff_of_true (covered_default hs.trades ht hst hallow hrep hc)
        trivial

-- ==================================================== unwinding

/-- A party of the trade passes, and so does the keeper. -/
theorem requirePartyOrKeeper_ok {caller : Address} {ps : List Address}
    {msg : String} (h : caller ∈ ps ∨ ∃ r, s.roles = some r
      ∧ caller = r.keeper) :
    requirePartyOrKeeper s caller ps msg = .ok () := by
  unfold requirePartyOrKeeper
  split
  · rfl
  · next hnot =>
    rcases h with hmem | ⟨r, hr, hk⟩
    · exact absurd hmem hnot
    · simp only [readRoles, bind_ok, expect_ok, ensure_ok]
      exact ⟨r, hr, hk⟩

/-- A settled trade's ceiling can be released. -/
theorem Sound.release (h : Sound addr b s) {id : Nat} (st : RepoStatus)
    (ht : s.trades.get id = some t) (hst : t.status = .settled)
    (hb : t.cashBorrower = b) :
    ∃ s', releaseBorrowerDue (writeTrade s { t with status := st })
      { t with status := st } = .ok s' := by
  have hok := h.trades.trade id t ht
  have hle := ceilingOf_le_settledDue (b := b) h.trades ht hst
  rw [ceilingOf, if_pos hb] at hle
  have hgap := h.gap
  have hpos := hok.ceiling_pos
  unfold dueGap at hgap
  have hfits : I128.Fits (readBorrowerDue s t.cashBorrower - ceiling t) := by
    rw [hb]
    exact h.fits.of_le (by omega) (by omega)
  simp only [releaseBorrowerDue, bind_ok, I128.sub_ok, pure_ok]
  exact ⟨_, _, hok.due hst, _, ⟨hfits, rfl⟩, rfl⟩

/-- With the dues covered, an unwind by somebody else fails for lack of
balance or a lapsed allowance only. -/
theorem unwind_succeeds {caller usdc : Address} {id start : Nat}
    (hs : Sound env.self b w.store) (hc : Covered env.self b w)
    (ht : w.store.trades.get id = some t) (hst : t.status = .settled)
    (hb : t.cashBorrower = b) (husdc : w.store.usdc = some usdc)
    (hstart : t.settledAt = some start)
    (hdue : totalDue t start = .ok (owedOn t))
    (hparty : caller = t.cashLender
      ∨ ∃ r, w.store.roles = some r ∧ caller = r.keeper)
    (hother : caller ≠ t.cashBorrower) (hauth : env.Grants caller)
    (hmature : t.maturityAt ≤ env.timestamp)
    (hlive : env.sequence ≤ (w.tokens.allowance usdc b env.self).liveUntil)
    (hcash : owedOn t ≤ w.tokens.balance usdc b)
    (hunits : t.units ≤ w.tokens.balance t.asset env.self) :
    ∃ w', unwind env caller id w = .ok w' := by
  have hok := hs.trades.trade id t ht
  have hnonneg := hok.owedOn_nonneg
  have hcover : owedOn t ≤ w.tokens.allowanceNow env.toHostEnv usdc
      t.cashBorrower env.self := by
    rw [Ledger.allowanceNow, hb, if_pos hlive]
    exact (hs.owedOn_le_collectable ht hst hb).trans (hc usdc husdc)
  have hpay : ∃ tokens, payDue env caller usdc t (owedOn t) w.tokens
      = .ok tokens ∧ t.units ≤ tokens.balance t.asset env.self := by
    unfold payDue
    rw [if_neg hother]
    refine ⟨_, Ledger.transferFrom_ok.mpr ⟨.inl rfl, hnonneg, hcover,
      by rw [hb]; exact hcash, rfl⟩, hunits.trans ?_⟩
    exact Ledger.le_balance_move _ (hok.borrower_ne hst) hnonneg _
  obtain ⟨tokens, hpaid, hleft⟩ := hpay
  obtain ⟨s', hs'⟩ := hs.release .unwound ht hst hb
  have hadmit : requirePartyOrKeeper w.store caller
      [t.cashLender, t.cashBorrower]
      "repo-dvp: caller is neither party nor keeper" = .ok () := by
    apply requirePartyOrKeeper_ok
    rcases hparty with hl | hk
    · left
      rw [hl]
      exact List.mem_cons_self
    · exact .inr hk
  simp only [unwind, readTrade, readUsdc, bind_ok, ensure_ok, expect_ok,
    HostEnv.requireAuth_ok, Ledger.transfer_ok, pure_ok, exists_const]
  exact ⟨_, hauth, t, ht, hst, (), hadmit, hmature, start, hstart, _, hdue,
    usdc, husdc, tokens, hpaid, _, ⟨.inl rfl, hok.units_pos.le, hleft, rfl⟩,
    s', hs', rfl⟩

-- ================================================================= runs

/-- That every settled trade can be unwound, in any order and at any time
of the term, is the law and nothing more. -/
theorem staysCollectable_iff (hs : Sound addr b w.store) :
    StaysCollectable addr b w ↔ Covered addr b w := by
  constructor
  · intro h usdc husdc
    -- read the allowance in ledger 0, where nothing has expired
    have hzero := h.covered usdc husdc ⟨addr, 0, 0, 0, fun _ => false⟩
      (Nat.zero_le _)
    rw [Ledger.allowanceNow, if_pos (Nat.zero_le _)] at hzero
    exact hzero
  · intro hc
    refine ⟨?_, ?_⟩
    · intro usdc husdc env hlive
      rw [Ledger.allowanceNow, if_pos hlive]
      exact hc usdc husdc
    · intro id t ht hst hb
      have hok := hs.trades.trade id t ht
      obtain ⟨start, hstart⟩ := hok.start hst
      obtain ⟨usdc, husdc⟩ : ∃ usdc, w.store.usdc = some usdc := by
        cases hu : w.store.usdc with
        | some usdc => exact ⟨usdc, rfl⟩
        | none =>
            rw [hs.usdc hu id] at ht
            cases ht
      have hdue : totalDue t start = .ok (owedOn t) := by
        rw [owedOn_settled hstart]
        exact totalDue_later hok.cash_pos.le
          (hs.later id t start ht hst hstart) (hok.due hst)
      refine ⟨usdc, start, husdc, hstart, hdue, ?_⟩
      intro env caller hmay hlive hcash hunits
      have hs' : Sound (env.at addr).self b w.store := hs
      exact unwind_succeeds hs' hc ht hst hb husdc hstart hdue hmay.party
        hmay.other hmay.signed hmay.mature hlive hcash hunits

/-- One transaction keeps the coverage exactly when it leaves enough. -/
theorem covered_step {pre post : List Tx} {tx : Tx}
    (h : Standing addr (pre ++ tx :: post))
    (hc : Covered addr b ((machine addr).run (machine addr).init pre))
    (happ : (machine addr).apply tx
      ((machine addr).run (machine addr).init pre) = .ok w') :
    Covered addr b w' ↔ LenderCovers addr b tx
      ((machine addr).run (machine addr).init pre) := by
  cases tx with
  | call env e =>
      have hs : Sound (env.at addr).self b _ := h.left.sound b
      have hiff := covered_effect hs (fun _ _ ht => h.proposedAt_le ht) hc
        (call_effect hs.trades.keyed happ)
      constructor
      · intro hc' env' e' w₁ htx _
        injection htx with _ he
        rw [← he]
        exact hiff.mp hc'
      · intro hl
        exact hiff.mpr (hl env e w' rfl happ)
  | outside tokens =>
      have hquiet := (Machine.Allowed.append.mp h.undisturbed).2.1
      injection happ with happ
      subst happ
      refine iff_of_true (covered_mono
        (w := (machine addr).run (machine addr).init pre) (le_refl _) rfl ?_
        hc) ?_
      · intro usdc
        exact hquiet usdc b
      · intro env e w₁ htx _
        cases htx

/-- In every run the settled trades of `b` stay collectable at every
point, exactly when `b`'s own lending always leaves them covered. -/
theorem stays_collectable_iff {txs : List Tx} (b : Address)
    (h : Standing addr txs) :
    (∀ pre post, txs = pre ++ post → StaysCollectable addr b
      ((machine addr).run (machine addr).init pre))
    ↔ (machine addr).Allowed (LenderCovers addr b) (machine addr).init
        txs := by
  constructor
  · intro hall
    apply Machine.allowed_of_prefix
    intro pre tx post htxs
    have hc : Covered addr b ((machine addr).run (machine addr).init pre) := by
      rw [htxs] at h
      exact (staysCollectable_iff (h.left.sound b)).mp (hall pre _ htxs)
    intro env e w' htx happ
    have hnext : txs = (pre ++ [tx]) ++ post := by
      rw [htxs]
      simp
    have hc' : Covered addr b w' := by
      have hstays := hall (pre ++ [tx]) post hnext
      rw [hnext] at h
      have hcov := (staysCollectable_iff (h.left.sound b)).mp hstays
      rw [Machine.run_snoc, Machine.exec_of_ok happ] at hcov
      exact hcov
    rw [htxs] at h
    exact (covered_step h hc happ).mp hc' env e w' htx happ
  · intro hall pre post htxs
    rw [htxs] at h hall
    rw [staysCollectable_iff (h.left.sound b)]
    refine Machine.run_induction_prefix (P := Covered addr b) ?_ ?_
      (Machine.Allowed.append.mp hall).1
    · intro usdc husdc
      cases husdc
    · intro pre' tx post' w' hpre hc hok happ
      have h' := h.left
      rw [hpre] at h'
      exact (covered_step h' hc happ).mpr hok

/-- The dealer borrows 100, and then offers to lend `cash`. -/
def Demo.dealing (cash : Int) : List Tx :=
  Demo.setup ++ Demo.repo Demo.lender Demo.dealer 0 ++
    [.call (Demo.env 20 4) (.propose Demo.dealer Demo.borrower Demo.asset
      200 cash 0 .term 1000 (Vector.replicate 32 0))]

/-- The demonstration runs in order, whatever the cash of the second
proposal. -/
theorem standing_dealing (cash : Int) :
    Standing Demo.self (Demo.dealing cash) := by
  refine ⟨?_, trivial, trivial, trivial, ?_, trivial, trivial, trivial,
    trivial⟩
  · show List.Pairwise (· ≤ ·) [0, 0, 0, 10, 10, 20]
    decide
  · intro token owner
    rfl

/-- Offering 150 leaves the 100 covered. -/
theorem stays_collectable_demo :
    StaysCollectable Demo.self Demo.dealer
      ((machine Demo.self).run (machine Demo.self).init
        (Demo.dealing 150)) := by
  refine (stays_collectable_iff Demo.dealer (standing_dealing 150)).mpr ?_
    (Demo.dealing 150) [] (List.append_nil _).symm
  have hquiet : ∀ tx w, (∀ env e, tx = Tx.call env e →
      LeavesEnough Demo.self Demo.dealer e w) →
      LenderCovers Demo.self Demo.dealer tx w :=
    fun tx w h env e _ htx _ => h env e htx
  refine ⟨hquiet _ _ ?_, hquiet _ _ ?_, hquiet _ _ ?_, hquiet _ _ ?_,
    hquiet _ _ ?_, hquiet _ _ ?_, hquiet _ _ ?_, trivial⟩
  · intro env e htx
    cases htx
    trivial
  · intro env e htx
    cases htx
    show _ ≤ _
    decide +kernel
  · intro env e htx
    cases htx
    trivial
  · intro env e htx
    cases htx
  · intro env e htx
    cases htx
    intro hl
    cases hl
  · intro env e htx
    cases htx
    intro t usdc _ _ _ hne
    exact absurd rfl hne
  · intro env e htx
    cases htx
    intro _
    decide +kernel

/-- Offering 50 does not: the dealer holds the cash and the allowance is
live, and the lender's unwind at maturity still fails. -/
theorem lending_strands_unwind :
    let w := (machine Demo.self).run (machine Demo.self).init
      (Demo.dealing 50)
    Standing Demo.self (Demo.dealing 50)
    ∧ ¬ StaysCollectable Demo.self Demo.dealer w
    ∧ 100 ≤ w.tokens.balance Demo.usdc Demo.dealer
    ∧ w.tokens.allowanceNow (Demo.env 1000 50).toHostEnv Demo.usdc
        Demo.dealer Demo.self = 50
    ∧ ((machine Demo.self).apply
        (.call (Demo.env 1000 50) (.unwind Demo.lender 0)) w).isOk
        = false := by
  intro w
  refine ⟨standing_dealing 50, ?_, by decide +kernel, by decide +kernel,
    by decide +kernel⟩
  intro h
  have hle := h.covered Demo.usdc (by decide +kernel)
    (Demo.env 1000 50).toHostEnv (by decide +kernel)
  revert hle
  decide +kernel

end Ballast.RepoDvp
