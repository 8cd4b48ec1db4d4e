/-
What a committed `ExitDesk` call did: one inversion lemma per entry
point, each giving the guards and the world after.

An exit is the call that matters here: units come in and USDC goes out,
at a price taken from the guard, under the caps of the day and of the
inventory. The other calls work on the storage alone (`onStore_ok`), but
for the two that move the desk's own money.
-/
import Ballast.ExitDesk.Basic

namespace Ballast.ExitDesk

open Soroban

variable {env : Env} {w w' : World State} {s s' : State}

-- ======================================================== admin and setup

/-- A call that works on the storage moves no tokens. -/
theorem onStore_ok {r : Call State} (h : onStore w r = .ok w') :
    ∃ s', r = .ok s' ∧ w' = ⟨w.tokens, s'⟩ := by
  obtain ⟨s', hr, hw⟩ := map_ok.mp h
  exact ⟨s', hr, hw.symm⟩

/-- The roles are set once. -/
theorem initContract_ok {a p k pp r : Address}
    (h : initContract a p k pp r s = .ok s') :
    s.roles = none ∧ s' = { s with roles := some ⟨a, p, k, pp, r⟩ } := by
  simp only [initContract, bind_ok, ensure_ok, pure_ok, exists_const] at h
  exact ⟨h.1, h.2.symm⟩

/-- An asset's spread is below 100%, and its caps are positive. -/
theorem configureAsset_ok {admin asset guard : Address} {spread : Nat}
    {daily inventory : Int}
    (h : configureAsset env admin asset guard spread daily inventory s
      = .ok s') :
    (spread : Int) < bpsDenominator ∧ 0 < daily ∧ 0 < inventory
      ∧ s' = { s with
          assetConfig := s.assetConfig.set asset
            ⟨guard, spread, daily, inventory⟩ } := by
  simp only [configureAsset, bind_ok, ensure_ok, pure_ok,
    exists_const] at h
  obtain ⟨-, -, hspread, hdaily, hinventory, rfl⟩ := h
  exact ⟨hspread, hdaily, hinventory, rfl⟩

/-- The admin names the settlement token. -/
theorem setUsdc_ok {admin usdc : Address}
    (h : setUsdc env admin usdc s = .ok s') :
    s' = publish { s with usdc := some usdc } (.setUsdc admin usdc) := by
  simp only [setUsdc, bind_ok, pure_ok] at h
  obtain ⟨_, -, rfl⟩ := h
  rfl

/-- An asset is taken off the desk. -/
theorem disableAsset_ok {admin asset : Address}
    (h : disableAsset env admin asset s = .ok s') :
    s' = publish
      { s with assetDisabled := s.assetDisabled.set asset true }
      (.disable asset) := by
  simp only [disableAsset, bind_ok, pure_ok] at h
  obtain ⟨_, -, _, -, rfl⟩ := h
  rfl

/-- It is put back by removing the flag. -/
theorem enableAsset_ok {admin asset : Address}
    (h : enableAsset env admin asset s = .ok s') :
    s' = publish { s with assetDisabled := s.assetDisabled.remove asset }
      (.enable asset) := by
  simp only [enableAsset, bind_ok, pure_ok] at h
  obtain ⟨_, -, _, -, rfl⟩ := h
  rfl

-- ========================================================== the two legs

/-- The desk is funded in its settlement token. -/
theorem fund_ok {caller usdc : Address} {amount : Int}
    (h : fund env caller usdc amount w = .ok w') :
    0 < amount ∧ w.store.usdc = some usdc
      ∧ w.tokens.transfer env.toHostEnv usdc caller env.self amount
        = .ok w'.tokens
      ∧ w'.store = publish w.store (.fund caller amount) := by
  simp only [fund, readUsdc, bind_ok, ensure_ok, expect_ok, pure_ok,
    exists_const] at h
  obtain ⟨_, -, hpos, _, husdc, rfl, tokens, htokens, rfl⟩ := h
  exact ⟨hpos, husdc, htokens, rfl⟩

/-- The admin may take any token out, and of an asset it is counted off
the inventory. -/
theorem withdraw_ok {admin token payTo : Address} {amount : Int}
    (h : withdraw env admin token amount payTo w = .ok w') :
    ∃ s', 0 < amount
      ∧ w.tokens.transfer env.toHostEnv token env.self payTo amount
        = .ok w'.tokens
      ∧ releaseInventory w.store token amount = .ok s'
      ∧ w'.store = publish s' (.withdraw token amount) := by
  simp only [withdraw, bind_ok, ensure_ok, pure_ok, exists_const] at h
  obtain ⟨-, -, hpos, tokens, htokens, s', hs', rfl⟩ := h
  exact ⟨s', hpos, htokens, hs', rfl⟩

/-- The inventory of a configured token falls by what was taken, to zero
at most; that of any other stays. -/
theorem releaseInventory_ok {token : Address} {amount : Int}
    (h : releaseInventory s token amount = .ok s') :
    s' = { s with inventory := s'.inventory }
      ∧ ∀ a, inventoryOf s' a
        = if a = token ∧ (s.assetConfig.get token).isSome
          then inventoryOf s a - min amount (inventoryOf s a)
          else inventoryOf s a := by
  unfold releaseInventory at h
  split at h
  case isTrue hconfig =>
    simp only [bind_ok, I128.sub_ok, pure_ok] at h
    obtain ⟨_, ⟨-, rfl⟩, rfl⟩ := h
    refine ⟨rfl, ?_⟩
    intro a
    by_cases ha : a = token
    · rw [if_pos ⟨ha, hconfig⟩, ha]
      simp [inventoryOf]
    · rw [if_neg (fun hc => ha hc.1)]
      simp [inventoryOf, ha]
  case isFalse hconfig =>
    simp only [pure_ok] at h
    subst h
    refine ⟨rfl, ?_⟩
    intro a
    rw [if_neg (fun hc => hconfig hc.2)]

/-- The formula of a quote, without its overflow checks. -/
def quoteOut (units value : Int) (spreadBps : Nat) : Int :=
  (units * (value * (bpsDenominator - spreadBps)).tdiv
    bpsDenominator).tdiv priceScale

/-- A quote is the formula at the guard's `Ok` price and the configured
spread. -/
theorem computeQuote_ok {asset : Address} {units : Int} {quote : ExitQuote}
    (h : computeQuote env s asset units = .ok quote) :
    ∃ config guarded, 0 < units
      ∧ s.assetConfig.get asset = some config
      ∧ env.guardedPrice config.priceGuard asset = .ok guarded
      ∧ guarded.isUsableForNewRisk = true
      ∧ quote.asset = asset ∧ quote.units = units
      ∧ quote.spreadBps = config.spreadBps
      ∧ quote.usdcOut = quoteOut units guarded.value config.spreadBps := by
  simp only [computeQuote, readAssetConfig, bind_ok, ensure_ok, expect_ok,
    I128.checked_ok, pure_ok, exists_const] at h
  obtain ⟨hunits, _, -, config, hconfig, guarded, hguarded, husable, _,
    ⟨-, rfl⟩, _, ⟨-, rfl⟩, _, -, rfl⟩ := h
  exact ⟨config, guarded, hunits, hconfig, hguarded, husable, rfl, rfl, rfl,
    rfl⟩

/-- An exit, with what was quoted, the caps it stayed under and the two
legs. -/
theorem exit_ok {holder asset payTo : Address} {units minUsdcOut : Int}
    {p : Int × World State}
    (h : exit env holder asset units minUsdcOut payTo w = .ok p) :
    ∃ quote config usdc, env.Grants holder
      ∧ computeQuote env w.store asset units = .ok quote
      ∧ isPaused w.store.paused .exits = false
      ∧ w.store.assetConfig.get asset = some config
      ∧ dailyUsedBy w.store holder asset (env.timestamp / secondsPerDay)
          + units ≤ config.perHolderDailyCap
      ∧ inventoryOf w.store asset + units ≤ config.deskInventoryCap
      ∧ w.store.usdc = some usdc
      ∧ 0 < quote.usdcOut ∧ minUsdcOut ≤ quote.usdcOut
      ∧ quote.usdcOut ≤ (w.tokens.move asset holder env.self
          units).balance usdc env.self
      ∧ p = (quote.usdcOut,
          ⟨(w.tokens.move asset holder env.self units).move usdc env.self
            payTo quote.usdcOut,
          publish { w.store with
            dailyUsed := w.store.dailyUsed.set
              (holder, asset, env.timestamp / secondsPerDay)
              (dailyUsedBy w.store holder asset
                (env.timestamp / secondsPerDay) + units)
            inventory := w.store.inventory.set asset
              (inventoryOf w.store asset + units) }
          (.exit holder asset quote.usdcOut)⟩) := by
  simp only [exit, readAssetConfig, readUsdc, bind_ok,
    HostEnv.requireAuth_ok, requireNotPaused_ok, ensure_ok, expect_ok,
    I128.checked_ok, Ledger.transfer_ok, pure_ok, exists_const] at h
  obtain ⟨hauth, hrun, quote, hquote, hout, hmin, config, hconfig, _, ⟨-, rfl⟩,
    hdaily, _, ⟨-, rfl⟩, hinventory, _, ⟨-, -, -, rfl⟩, usdc, husdc, _,
    ⟨-, -, hcover, rfl⟩, rfl⟩ := h
  exact ⟨quote, config, usdc, hauth, hquote, hrun, hconfig, hdaily,
    hinventory, husdc, hout, hmin, hcover, rfl⟩

-- ================================================================ pause

/-- A pause is a flag, set at once. -/
theorem pause_ok {pauser : Address} {scope : PauseScope}
    (h : pause env pauser scope s = .ok s') :
    s' = publish { s with paused := s.paused.set scope true }
      (.paused pauser scope) := by
  simp only [pause, bind_ok, ensure_ok, pure_ok, exists_const] at h
  obtain ⟨_, -, -, rfl⟩ := h
  rfl

/-- Lifting one is queued. -/
theorem queueUnpause_ok {admin : Address} {scope : PauseScope}
    {p : Nat × State} (h : queueUnpause env admin scope s = .ok p) :
    p = (s.nextId, publish { s with
          nextId := s.nextId + 1
          pendingUnpause := s.pendingUnpause.set s.nextId
            ⟨scope, env.timestamp + timelockDelaySeconds⟩ }
        (.unpauseQueued s.nextId scope
          (env.timestamp + timelockDelaySeconds))) :=
  (queued_ok h).2

/-- It takes effect once the delay is over. -/
theorem executeUnpause_ok {id : Nat}
    (h : executeUnpause env id s = .ok s') :
    ∃ p, s.pendingUnpause.get id = some p ∧ p.executesAt ≤ env.timestamp
      ∧ s' = publish { s with
            paused := s.paused.set p.scope false
            pendingUnpause := s.pendingUnpause.remove id }
          (.unpauseExecuted id p.scope) :=
  executed_ok h

/-- It may be called off before. -/
theorem cancelUnpause_ok {admin : Address} {id : Nat}
    (h : cancelUnpause env admin id s = .ok s') :
    ∃ p, s.pendingUnpause.get id = some p
      ∧ s' = publish
          { s with pendingUnpause := s.pendingUnpause.remove id }
          (.unpauseCancelled id p.scope) :=
  cancelled_ok h

end Ballast.ExitDesk
