/-
The desk's counters: what they count, what backs them and what caps
them.

Exits raise an asset's inventory and the holder's day; withdrawals lower
the inventory by what was taken, donated tokens included, to zero at
most. So the inventory never exceeds what the desk holds (`DeskOk`), and
a day's figure is the sum of its exits (`daily_tally`). Both caps are
checked by the exit that raises the counter, against the configuration
of that moment; a cap lowered later binds the next exit only.

The cash token is assumed fixed and no exit asset: an exit would
otherwise pay out of the very balance its inventory counts.
-/
import Ballast.ExitDesk.Proofs.Steps

namespace Ballast.ExitDesk

open Soroban Machine

variable {env : Env} {w w' : World State} {self usdc : Address}
  {e : Entry}

-- ====================================================== what a call does

/-- The cash token a call configures. -/
def Entry.setsUsdc : Entry → Option Address
  | .setUsdc _ usdc => some usdc
  | _ => none

/-- The asset a call configures. -/
def Entry.setsAsset : Entry → Option Address
  | .configureAsset _ asset _ _ _ _ => some asset
  | _ => none

/-- An exit of `asset` by `holder`. -/
def Entry.Exits (holder asset : Address) (units : Int) (e : Entry) : Prop :=
  ∃ minUsdcOut payTo, e = .exit holder asset units minUsdcOut payTo

/-- What a committed call does to the counters, the tokens and the
configuration they are checked against. -/
inductive Effect (env : Env) (w w' : World State) : Entry → Prop
  | setup {e : Entry} : (∀ h a n, ¬ e.Exits h a n) →
      w'.tokens = w.tokens →
      w'.store.inventory = w.store.inventory →
      w'.store.dailyUsed = w.store.dailyUsed →
      w'.store.usdc = e.setsUsdc.or w.store.usdc →
      (∀ a, (w'.store.assetConfig.get a).isSome
        = (decide (e.setsAsset = some a)
          || (w.store.assetConfig.get a).isSome)) →
      Effect env w w' e
  | funded {caller usdc : Address} {amount : Int} {ev : Event} :
      0 < amount →
      w'.tokens = w.tokens.move usdc caller env.self amount →
      w'.store = publish w.store ev →
      Effect env w w' (.fund caller usdc amount)
  | withdrawn {admin token payTo : Address} {amount : Int} {s : State}
      {ev : Event} : 0 < amount →
      amount ≤ w.tokens.balance token env.self →
      w'.tokens = w.tokens.move token env.self payTo amount →
      releaseInventory w.store token amount = .ok s →
      w'.store = publish s ev →
      Effect env w w' (.withdraw admin token amount payTo)
  | exited {holder asset payTo usdc : Address} {units minUsdcOut out : Int}
      {config : AssetConfig} : env.Grants holder → 0 < units →
      w.store.assetConfig.get asset = some config →
      dailyUsedBy w.store holder asset (env.timestamp / secondsPerDay)
        + units ≤ config.perHolderDailyCap →
      inventoryOf w.store asset + units ≤ config.deskInventoryCap →
      w.store.usdc = some usdc → 0 < out →
      out ≤ (w.tokens.move asset holder env.self units).balance usdc
        env.self →
      w'.tokens = (w.tokens.move asset holder env.self units).move usdc
        env.self payTo out →
      w'.store = publish { w.store with
          dailyUsed := w.store.dailyUsed.set
            (holder, asset, env.timestamp / secondsPerDay)
            (dailyUsedBy w.store holder asset
              (env.timestamp / secondsPerDay) + units)
          inventory := w.store.inventory.set asset
            (inventoryOf w.store asset + units) }
        (.exit holder asset out) →
      Effect env w w' (.exit holder asset units minUsdcOut payTo)

/-- A setup call that changes neither the cash token nor an asset. -/
theorem Effect.of_frame {s' : State} (hexit : ∀ h a n, ¬ e.Exits h a n)
    (husdc : e.setsUsdc = none) (hasset : e.setsAsset = none)
    (hinv : s'.inventory = w.store.inventory)
    (hdaily : s'.dailyUsed = w.store.dailyUsed)
    (hcash : s'.usdc = w.store.usdc)
    (hconfig : s'.assetConfig = w.store.assetConfig) :
    Effect env w ⟨w.tokens, s'⟩ e := by
  refine .setup hexit rfl hinv hdaily (by rw [husdc]; exact hcash) ?_
  intro a
  rw [hasset]
  show (s'.assetConfig.get a).isSome = _
  rw [hconfig]
  simp

theorem call_effect (h : call env e w = .ok w') : Effect env w w' e := by
  cases e with
  | initContract =>
      obtain ⟨s', hs', rfl⟩ := onStore_ok h
      obtain ⟨-, rfl⟩ := initContract_ok hs'
      exact .of_frame (by simp [Entry.Exits]) rfl rfl rfl rfl rfl rfl
  | configureAsset admin asset =>
      obtain ⟨s', hs', rfl⟩ := onStore_ok h
      obtain ⟨-, -, -, rfl⟩ := configureAsset_ok hs'
      refine .setup (by simp [Entry.Exits]) rfl rfl rfl rfl ?_
      intro a
      by_cases ha : a = asset
      · simp [Entry.setsAsset, ha]
      · simp [Entry.setsAsset, ha, Ne.symm ha]
  | setUsdc admin usdc =>
      obtain ⟨s', hs', rfl⟩ := onStore_ok h
      rw [setUsdc_ok hs']
      refine .setup (by simp [Entry.Exits]) rfl rfl rfl rfl ?_
      intro a
      simp [Entry.setsAsset, publish]
  | disableAsset =>
      obtain ⟨s', hs', rfl⟩ := onStore_ok h
      rw [disableAsset_ok hs']
      exact .of_frame (by simp [Entry.Exits]) rfl rfl rfl rfl rfl rfl
  | enableAsset =>
      obtain ⟨s', hs', rfl⟩ := onStore_ok h
      rw [enableAsset_ok hs']
      exact .of_frame (by simp [Entry.Exits]) rfl rfl rfl rfl rfl rfl
  | fund =>
      obtain ⟨hpos, -, htokens, hs'⟩ := fund_ok h
      obtain ⟨-, -, -, htokens⟩ := Ledger.transfer_ok.mp htokens
      exact .funded hpos htokens.symm hs'
  | withdraw =>
      obtain ⟨s', hpos, htokens, hrelease, hs'⟩ := withdraw_ok h
      obtain ⟨-, -, hcover, htokens⟩ := Ledger.transfer_ok.mp htokens
      exact .withdrawn hpos hcover htokens.symm hrelease hs'
  | exit =>
      obtain ⟨p, hp, rfl⟩ := map_ok.mp h
      obtain ⟨quote, config, usdc, hauth, hquote, -, hconfig, hdaily,
        hinventory, husdc, hout, -, hcover, rfl⟩ := exit_ok hp
      obtain ⟨-, -, hunits, -⟩ := computeQuote_ok hquote
      exact .exited hauth hunits hconfig hdaily hinventory
        husdc hout hcover rfl rfl
  | pause =>
      obtain ⟨s', hs', rfl⟩ := onStore_ok h
      rw [pause_ok hs']
      exact .of_frame (by simp [Entry.Exits]) rfl rfl rfl rfl rfl rfl
  | queueUnpause =>
      obtain ⟨s', hs', rfl⟩ := onStore_ok h
      obtain ⟨p, hp, rfl⟩ := map_ok.mp hs'
      rw [queueUnpause_ok hp]
      exact .of_frame (by simp [Entry.Exits]) rfl rfl rfl rfl rfl rfl
  | executeUnpause =>
      obtain ⟨s', hs', rfl⟩ := onStore_ok h
      obtain ⟨p, -, -, rfl⟩ := executeUnpause_ok hs'
      exact .of_frame (by simp [Entry.Exits]) rfl rfl rfl rfl rfl rfl
  | cancelUnpause =>
      obtain ⟨s', hs', rfl⟩ := onStore_ok h
      obtain ⟨p, -, rfl⟩ := cancelUnpause_ok hs'
      exact .of_frame (by simp [Entry.Exits]) rfl rfl rfl rfl rfl rfl

-- ======================================================== the invariant

/-- What is assumed of a transaction: the cash token is `usdc`, which is
no exit asset, and token activity elsewhere does not debit the desk. -/
def Assumed (self usdc : Address) (tx : Tx) (w : World State) : Prop :=
  match tx with
  | .call _ e => (∀ u, e.setsUsdc = some u → u = usdc)
      ∧ e.setsAsset ≠ some usdc
  | .outside tokens =>
      ∀ a, w.tokens.balance a self ≤ tokens.balance a self

/-- The inventory is backed, and only configured assets have any. -/
structure DeskOk (addr usdc : Address) (w : World State) : Prop where
  cash : ∀ u, w.store.usdc = some u → u = usdc
  apart : (w.store.assetConfig.get usdc).isSome = false
  known : ∀ a, (w.store.assetConfig.get a).isSome = false →
    inventoryOf w.store a = 0
  nonneg : ∀ a, 0 ≤ inventoryOf w.store a
  backed : ∀ a, inventoryOf w.store a ≤ w.tokens.balance a addr

/-- The inventory of every asset but the one exited stays. -/
theorem inventoryOf_exit {s : State} {asset : Address} {x : Int}
    (hs : s.inventory = w.store.inventory.set asset x) (a : Address) :
    inventoryOf s a = if a = asset then x else inventoryOf w.store a := by
  unfold inventoryOf
  rw [hs, Store.get_set]
  split <;> rfl

theorem DeskOk.setup (hok : DeskOk self usdc w)
    (htx : (∀ u, e.setsUsdc = some u → u = usdc)
      ∧ e.setsAsset ≠ some usdc)
    (htokens : w'.tokens = w.tokens)
    (hinv : w'.store.inventory = w.store.inventory)
    (hcash : w'.store.usdc = e.setsUsdc.or w.store.usdc)
    (hconfig : ∀ a, (w'.store.assetConfig.get a).isSome
      = (decide (e.setsAsset = some a)
        || (w.store.assetConfig.get a).isSome)) : DeskOk self usdc w' := by
  have hsame : ∀ a, inventoryOf w'.store a = inventoryOf w.store a := by
    intro a
    unfold inventoryOf
    rw [hinv]
  constructor
  · intro u hu
    rw [hcash] at hu
    cases hset : e.setsUsdc with
    | none =>
        rw [hset] at hu
        exact hok.cash u hu
    | some v =>
        rw [hset] at hu
        injection hu with hu
        rw [← hu]
        exact htx.1 v hset
  · rw [hconfig, hok.apart]
    simp [htx.2]
  · intro a ha
    rw [hsame]
    rw [hconfig, Bool.or_eq_false_iff] at ha
    exact hok.known a ha.2
  · intro a
    rw [hsame]
    exact hok.nonneg a
  · intro a
    rw [hsame, htokens]
    exact hok.backed a

/-- Tokens come in and no counter moves. -/
theorem DeskOk.paid_in {s : State} {tokens : Ledger}
    (hok : DeskOk self usdc w)
    (hs : (∃ ev, s = publish w.store ev) ∨ s = w.store)
    (htokens : ∀ a, w.tokens.balance a self ≤ tokens.balance a self) :
    DeskOk self usdc ⟨tokens, s⟩ := by
  have hback : ∀ a, inventoryOf w.store a ≤ tokens.balance a self :=
    fun a => (hok.backed a).trans (htokens a)
  rcases hs with ⟨ev, rfl⟩ | rfl
  · exact ⟨hok.cash, hok.apart, hok.known, hok.nonneg, hback⟩
  · exact ⟨hok.cash, hok.apart, hok.known, hok.nonneg, hback⟩

theorem DeskOk.withdrawn {s : State} {token payTo : Address} {amount : Int}
    {ev : Event} (hok : DeskOk env.self usdc w) (hpos : 0 < amount)
    (hcover : amount ≤ w.tokens.balance token env.self)
    (hrelease : releaseInventory w.store token amount = .ok s) :
    DeskOk env.self usdc
      ⟨w.tokens.move token env.self payTo amount, publish s ev⟩ := by
  obtain ⟨hframe, hinv⟩ := releaseInventory_ok hrelease
  have hinv' : ∀ a, inventoryOf (publish s ev) a = _ := hinv
  have hcash : (publish s ev).usdc = w.store.usdc := by
    show s.usdc = _
    rw [hframe]
  have hconfig : (publish s ev).assetConfig = w.store.assetConfig := by
    show s.assetConfig = _
    rw [hframe]
  constructor
  · rw [hcash]
    exact hok.cash
  · rw [hconfig]
    exact hok.apart
  · intro a ha
    rw [hconfig] at ha
    have hzero := hok.known a ha
    rw [hinv', hzero]
    split <;> omega
  · intro a
    have hnonneg := hok.nonneg a
    rw [hinv']
    split <;> omega
  · intro a
    have hout := w.tokens.balance_move_out token env.self payTo hpos.le a
    have hback := hok.backed a
    have hnonneg := hok.nonneg a
    refine le_trans ?_ hout
    rw [hinv']
    by_cases ha : a = token
    · subst ha
      rw [if_pos rfl]
      by_cases hsome : (w.store.assetConfig.get a).isSome
      · rw [if_pos ⟨rfl, hsome⟩]
        omega
      · -- not configured, so nothing was counted
        rw [if_neg (fun hc => hsome hc.2),
          hok.known a (by simpa using hsome)]
        omega
    · rw [if_neg (fun hc => ha hc.1), if_neg ha]
      omega

theorem DeskOk.exited {s : State} {holder asset payTo u : Address}
    {units out : Int} {config : AssetConfig}
    (hok : DeskOk env.self usdc w) (hauth : env.Grants holder)
    (hunits : 0 < units)
    (hconfig : w.store.assetConfig.get asset = some config)
    (hcash : w.store.usdc = some u) (hout : 0 < out)
    (hcover : out ≤ (w.tokens.move asset holder env.self units).balance u
      env.self)
    (hs : s.usdc = w.store.usdc
      ∧ s.assetConfig = w.store.assetConfig
      ∧ s.inventory = w.store.inventory.set asset
        (inventoryOf w.store asset + units)) :
    DeskOk env.self usdc ⟨(w.tokens.move asset holder env.self units).move u
      env.self payTo out, s⟩ := by
  obtain ⟨hsusdc, hsconfig, hsinv⟩ := hs
  have hinv := inventoryOf_exit hsinv
  -- the desk's money is no asset of its own
  have hne : u ≠ asset := by
    intro heq
    have hapart := hok.apart
    rw [← hok.cash u hcash, heq, hconfig] at hapart
    cases hapart
  constructor
  · show ∀ x, s.usdc = some x → x = usdc
    rw [hsusdc]
    exact hok.cash
  · show (s.assetConfig.get usdc).isSome = false
    rw [hsconfig]
    exact hok.apart
  · intro a ha
    have ha' : (w.store.assetConfig.get a).isSome = false := by
      rw [← hsconfig]
      exact ha
    show inventoryOf s a = 0
    rw [hinv, if_neg, hok.known a ha']
    intro heq
    rw [heq, hconfig] at ha'
    cases ha'
  · intro a
    have hnonneg := hok.nonneg a
    show 0 ≤ inventoryOf s a
    rw [hinv]
    split
    · next ha =>
      rw [ha] at hnonneg
      omega
    · exact hnonneg
  · intro a
    have hleg := Ledger.balance_move_out
      (w.tokens.move asset holder env.self units) u env.self payTo hout.le a
    have hin : (w.tokens.move asset holder env.self units).balance a env.self
        = w.tokens.balance a env.self + (if a = asset then units else 0) :=
      w.tokens.balance_move_in hauth.1 a
    have hback := hok.backed a
    refine le_trans ?_ hleg
    show inventoryOf s a ≤ _
    rw [hinv]
    by_cases ha : a = asset
    · subst ha
      rw [if_pos rfl, if_neg (Ne.symm hne), hin, if_pos rfl]
      omega
    · rw [if_neg ha]
      by_cases hu : a = u
      · -- the cash token: nothing of it is counted
        rw [if_pos hu, hu, hok.known u (by
          rw [hok.cash u hcash]
          exact hok.apart)]
        omega
      · rw [if_neg hu, hin, if_neg ha]
        omega

theorem deskOk_step {tx : Tx} (hok : DeskOk self usdc w)
    (htx : Assumed self usdc tx w)
    (happ : (machine self).apply tx w = .ok w') : DeskOk self usdc w' := by
  cases tx with
  | outside tokens =>
      injection happ with happ
      subst happ
      exact hok.paid_in (.inr rfl) htx
  | call env e =>
      have hok' : DeskOk (env.at self).self usdc w := hok
      have hcall : call (env.at self) e w = .ok w' := happ
      cases call_effect hcall with
      | setup _ htokens hinv _ hcash hconfig =>
          exact hok.setup htx htokens hinv hcash hconfig
      | @funded caller u amount ev hpos htokens hstore =>
          have hw' : w' = ⟨w'.tokens, w'.store⟩ := rfl
          rw [hw', hstore, htokens]
          refine hok'.paid_in (.inl ⟨ev, rfl⟩) ?_
          intro a
          show w.tokens.balance a self
            ≤ (w.tokens.move u caller self amount).balance a self
          by_cases hself : caller = self
          · rw [hself, Ledger.balance_move, sub_add_cancel]
          · exact w.tokens.le_balance_move hself hpos.le a
      | withdrawn hpos hcover htokens hrelease hstore =>
          have hw' : w' = ⟨w'.tokens, w'.store⟩ := rfl
          rw [hw', hstore, htokens]
          exact hok'.withdrawn hpos hcover hrelease
      | exited hauth hunits hconfig _ _ hcash hout hcover htokens hstore =>
          have hw' : w' = ⟨w'.tokens, w'.store⟩ := rfl
          rw [hw', hstore, htokens]
          exact hok'.exited hauth hunits hconfig hcash hout hcover
            ⟨rfl, rfl, rfl⟩

variable {txs : List Tx}

theorem deskOk_init : DeskOk self usdc (machine self).init := by
  refine ⟨?_, rfl, fun _ _ => rfl, fun _ => le_rfl, fun _ => le_rfl⟩
  intro u hu
  cases hu

theorem deskOk_run
    (htxs : (machine self).Allowed (Assumed self usdc) (machine self).init
      txs) :
    DeskOk self usdc ((machine self).run (machine self).init txs) := by
  refine run_induction ?_ deskOk_init htxs
  intro w tx w' hok htx happ
  exact deskOk_step hok htx happ

-- ============================================================== the days

/-- An exit of `asset` by `holder` at a ledger time of day `day`. -/
def Tx.ExitsOn (holder asset : Address) (day : Nat) (tx : Tx) : Prop :=
  ∃ env e units, tx = .call env e ∧ e.Exits holder asset units
    ∧ env.timestamp / secondsPerDay = day

/-- The units of an exit of `asset` by `holder` on `day`; of any other
transaction none. -/
def Tx.exitedOn (holder asset : Address) (day : Nat) : Tx → Int
  | .call env (.exit h a units _ _) =>
      if (holder, asset, day) = (h, a, env.timestamp / secondsPerDay)
      then units else 0
  | _ => 0

variable {holder asset : Address} {day : Nat} {tx : Tx}

theorem exitedOn_of_not (h : ¬ tx.ExitsOn holder asset day) :
    tx.exitedOn holder asset day = 0 := by
  unfold Tx.exitedOn
  split
  · next env h' a units minUsdcOut payTo =>
    refine if_neg ?_
    intro hkey
    injection hkey with hholder hkey
    injection hkey with hasset hday
    subst hholder
    subst hasset
    exact h ⟨env, _, units, rfl, ⟨minUsdcOut, payTo, rfl⟩, hday.symm⟩
  · rfl

/-- A committed transaction adds what it exits to the holder's day. -/
theorem dailyUsedBy_step (happ : (machine self).apply tx w = .ok w') :
    dailyUsedBy w'.store holder asset day
      = dailyUsedBy w.store holder asset day
        + tx.exitedOn holder asset day := by
  cases tx with
  | outside tokens =>
      injection happ with happ
      subst happ
      simp [Tx.exitedOn]
  | call env e =>
      have hcall : call (env.at self) e w = .ok w' := happ
      cases call_effect hcall with
      | setup hexit _ _ hdaily _ _ =>
          rw [exitedOn_of_not, dailyUsedBy, hdaily]
          · simp [dailyUsedBy]
          · rintro ⟨_, _, units, heq, hex, -⟩
            injection heq with _ heq
            subst heq
            exact hexit _ _ _ hex
      | funded _ _ hstore =>
          simp [hstore, dailyUsedBy, publish, Tx.exitedOn]
      | withdrawn _ _ _ hrelease hstore =>
          rw [hstore, (releaseInventory_ok hrelease).1]
          simp [dailyUsedBy, publish, Tx.exitedOn]
      | @exited h a payTo _ units minUsdcOut _ _ _ _ _ _ _ _ _ _ _ hstore =>
          rw [hstore]
          show (((w.store.dailyUsed.set (h, a, env.timestamp / secondsPerDay)
            (dailyUsedBy w.store h a (env.timestamp / secondsPerDay)
              + units))).get (holder, asset, day)).getD 0 = _
          rw [Store.get_set, Tx.exitedOn]
          by_cases hkey : (holder, asset, day)
              = (h, a, env.timestamp / secondsPerDay)
          · rw [if_pos hkey, if_pos hkey]
            injection hkey with hholder hkey
            injection hkey with hasset hday
            subst hholder
            subst hasset
            subst hday
            rfl
          · rw [if_neg hkey, if_neg hkey, add_zero]
            rfl

/-- A day's figure is the sum of the exits made on it. -/
theorem daily_tally (self : Address) (txs : List Tx)
    (holder asset : Address) (day : Nat) :
    dailyUsedBy ((machine self).run (machine self).init txs).store holder
        asset day
      = (((machine self).trace (machine self).init txs).map fun c =>
          c.call.exitedOn holder asset day).sum := by
  refine trace_induction (M := machine self) (P := fun w tr =>
    dailyUsedBy w.store holder asset day
      = (tr.map fun c => c.call.exitedOn holder asset day).sum) rfl ?_
    (allowed_true _ txs)
  intro w tr tx w' htally _ happ
  rw [dailyUsedBy_step happ, htally]
  simp

/-- What an exit leaves, under the caps it found. -/
theorem exit_capped {c : Committed (World State) Tx}
    (hc : (machine self).apply c.call c.before = .ok c.after)
    (hexit : c.call.ExitsOn holder asset day) :
    ∃ config, c.before.store.assetConfig.get asset = some config
      ∧ c.after.store.assetConfig.get asset = some config
      ∧ inventoryOf c.after.store asset ≤ config.deskInventoryCap
      ∧ dailyUsedBy c.after.store holder asset day
        ≤ config.perHolderDailyCap := by
  obtain ⟨tx, w, w'⟩ := c
  obtain ⟨env, e, units, rfl, ⟨minUsdcOut, payTo, rfl⟩, rfl⟩ := hexit
  have hcall : call (env.at self)
      (.exit holder asset units minUsdcOut payTo) w = .ok w' := hc
  have hday : dailyUsedBy w'.store holder asset
      (env.timestamp / secondsPerDay) = dailyUsedBy w.store holder asset
        (env.timestamp / secondsPerDay)
        + (Tx.call env (.exit holder asset units minUsdcOut payTo)).exitedOn
          holder asset (env.timestamp / secondsPerDay) :=
    dailyUsedBy_step hc
  cases call_effect hcall with
  | setup hexit => exact absurd ⟨minUsdcOut, payTo, rfl⟩ (hexit _ _ units)
  | exited _ _ hconfig hdaily hinventory _ _ _ _ hstore =>
      refine ⟨_, hconfig, by rw [hstore]; exact hconfig, ?_, ?_⟩
      · rw [hstore]
        rw [inventoryOf_exit (w := w) rfl asset, if_pos rfl]
        exact hinventory
      · show dailyUsedBy w'.store holder asset _ ≤ _
        rw [hday, Tx.exitedOn, if_pos rfl]
        exact hdaily

-- =============================================================== the caps

/-- The desk's counters at the end of a run: backed, capped by the exits
that raised them, and untouched by exits that fail. -/
structure DeskCaps (self : Address) (txs : List Tx) : Prop where
  /-- what is counted is there -/
  backed : ∀ asset, 0 ≤ inventoryOf ((machine self).run
      (machine self).init txs).store asset
    ∧ inventoryOf ((machine self).run (machine self).init txs).store asset
      ≤ ((machine self).run (machine self).init txs).tokens.balance asset
        self
  /-- right after an exit the inventory is under the cap then set -/
  capped : ∀ c ∈ (machine self).trace (machine self).init txs,
    ∀ holder asset day, c.call.ExitsOn holder asset day →
      ∃ config, c.after.store.assetConfig.get asset = some config
        ∧ inventoryOf c.after.store asset ≤ config.deskInventoryCap
  /-- a day counts its exits -/
  tally : ∀ holder asset day,
    dailyUsedBy ((machine self).run (machine self).init txs).store holder
        asset day
      = (((machine self).trace (machine self).init txs).map fun c =>
          c.call.exitedOn holder asset day).sum
  /-- and is under the cap in force at the last of them -/
  daily : ∀ holder asset day l₁ c l₂,
    (machine self).trace (machine self).init txs = l₁ ++ c :: l₂ →
    c.call.ExitsOn holder asset day →
    (∀ d ∈ l₂, ¬ d.call.ExitsOn holder asset day) →
    ∃ config, c.before.store.assetConfig.get asset = some config
      ∧ dailyUsedBy ((machine self).run (machine self).init txs).store
          holder asset day ≤ config.perHolderDailyCap
  /-- an exit that fails changes nothing -/
  failed : ∀ env holder asset units minUsdcOut payTo,
    ((machine self).apply
      (.call env (.exit holder asset units minUsdcOut payTo))
      ((machine self).run (machine self).init txs)).isOk = false →
    (machine self).exec ((machine self).run (machine self).init txs)
        (.call env (.exit holder asset units minUsdcOut payTo))
      = (machine self).run (machine self).init txs

/-- With the cash token fixed and no exit asset, the desk's inventory is
always backed and its caps held at every exit. -/
theorem desk_caps (self usdc : Address) (txs : List Tx)
    (htxs : (machine self).Allowed (Assumed self usdc) (machine self).init
      txs) : DeskCaps self txs := by
  have hok := deskOk_run htxs
  constructor
  case backed => exact fun asset => ⟨hok.nonneg asset, hok.backed asset⟩
  case capped =>
    intro c hc holder asset day hexit
    obtain ⟨config, -, hconfig, hcap, -⟩ :=
      exit_capped (apply_of_mem_trace hc) hexit
    exact ⟨config, hconfig, hcap⟩
  case tally => exact daily_tally self txs
  case daily =>
    intro holder asset day l₁ c l₂ hsplit hexit hlast
    obtain ⟨pre, post, htxs, hbefore, happ, -, hpost⟩ := trace_split hsplit
    obtain ⟨config, hconfig, -, -, hcap⟩ := exit_capped happ hexit
    have hend : (machine self).run (machine self).init txs
        = (machine self).run c.after post := by
      rw [htxs, run_append, run_cons, ← hbefore, exec_of_ok happ]
    refine ⟨config, hconfig, ?_⟩
    rw [hend]
    refine run_of_trace (M := machine self) (P := fun w =>
      dailyUsedBy w.store holder asset day ≤ config.perHolderDailyCap)
      hcap ?_
    intro d hd hle
    rw [dailyUsedBy_step (apply_of_mem_trace hd),
      exitedOn_of_not (hlast d (by rw [← hpost]; exact hd)), add_zero]
    exact hle
  case failed =>
    intro env holder asset units minUsdcOut payTo hfail
    unfold exec
    split
    · next h =>
      rw [h] at hfail
      cases hfail
    · rfl

/-- A day at the desk: an exit of 400 under a cap of 1000, the cap
lowered to 300 and a withdrawal of 300 of the units. -/
theorem desk_caps_demo :
    (machine Demo.self).Allowed (Assumed Demo.self Demo.usdc)
        (machine Demo.self).init Demo.tradingDay
      ∧ inventoryOf ((machine Demo.self).run (machine Demo.self).init
          Demo.tradingDay).store Demo.asset = 100
      ∧ DeskCaps Demo.self Demo.tradingDay := by
  have hallowed : (machine Demo.self).Allowed
      (Assumed Demo.self Demo.usdc) (machine Demo.self).init
      Demo.tradingDay := by
    refine ⟨?_, ⟨?_, ?_⟩, ⟨?_, ?_⟩, ⟨?_, ?_⟩, ⟨?_, ?_⟩, ⟨?_, ?_⟩, ⟨?_, ?_⟩,
      ⟨?_, ?_⟩, trivial⟩
    · intro a
      simp [Demo.endowed, Ledger.credit, Demo.self, Demo.holder, machine]
    all_goals simp [Entry.setsUsdc, Entry.setsAsset, Demo.usdc, Demo.asset]
  exact ⟨hallowed, by decide +kernel,
    desk_caps Demo.self Demo.usdc Demo.tradingDay hallowed⟩

end Ballast.ExitDesk
