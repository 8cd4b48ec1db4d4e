/-
`ExitDesk`: swaps a holder's RWA tokens for USDC out of the desk's own
float, at the guarded price less a spread.

`computeQuote` is the price of an exit and refuses anything but an `Ok`
price; `exit` computes it afresh, checks the holder's day and the
desk's inventory against their caps, and moves both legs in one call.
Days are buckets of the ledger time, so a cap is per bucket and not per
sliding day. `fund` and `withdraw` move the operator's own money.

Stopping exits is immediate, lifting the stop waits in
`pendingUnpause`, whose ids are the contract's only use of the shared
counter.
-/
import Ballast.Common.Risk
import Ballast.Common.Access
import Ballast.Soroban.Machine

namespace Ballast.ExitDesk

open Soroban

-- ============================================================ constants

/-- `QUOTE_TTL_SECONDS`. -/
def quoteTtlSeconds : Nat := 60

/-- `SECONDS_PER_DAY`. -/
def secondsPerDay : Nat := 86400

-- ============================================================== storage

structure AssetConfig where
  priceGuard : Address
  spreadBps : Nat
  perHolderDailyCap : Int
  deskInventoryCap : Int
  deriving DecidableEq, Repr

structure ExitQuote where
  asset : Address
  units : Int
  price : Int
  spreadBps : Nat
  usdcOut : Int
  expiresAt : Nat
  deriving DecidableEq, Repr

structure PendingUnpause where
  scope : PauseScope
  executesAt : Nat
  deriving DecidableEq, Repr

inductive Event where
  | setUsdc (admin usdc : Address)
  | disable (asset : Address)
  | enable (asset : Address)
  | fund (caller : Address) (amount : Int)
  | withdraw (token : Address) (amount : Int)
  | exit (holder asset : Address) (usdcOut : Int)
  | paused (pauser : Address) (scope : PauseScope)
  | unpauseQueued (id : Nat) (scope : PauseScope) (executesAt : Nat)
  | unpauseExecuted (id : Nat) (scope : PauseScope)
  | unpauseCancelled (id : Nat) (scope : PauseScope)
  deriving DecidableEq, Repr

structure State where
  roles : Option Roles
  paused : Store PauseScope Bool
  nextId : Nat
  usdc : Option Address
  assetConfig : Store Address AssetConfig
  assetDisabled : Store Address Bool
  /-- RWA units the desk holds, by asset -/
  inventory : Store Address Int
  /-- units exited by (holder, asset, day bucket) -/
  dailyUsed : Store (Address × Address × Nat) Int
  pendingUnpause : Store Nat PendingUnpause
  events : List Event

/-- A contract nothing has been written to. -/
def State.empty : State where
  roles := none
  paused := Store.empty
  nextId := 0
  usdc := none
  assetConfig := Store.empty
  assetDisabled := Store.empty
  inventory := Store.empty
  dailyUsed := Store.empty
  pendingUnpause := Store.empty
  events := []

/-- `read_asset_config`. -/
def readAssetConfig (s : State) (asset : Address) : Call AssetConfig :=
  expect (s.assetConfig.get asset) "exit-desk: asset not configured"

/-- `read_usdc`. -/
def readUsdc (s : State) : Call Address :=
  expect s.usdc "exit-desk: usdc not configured"

/-- `is_asset_disabled`. -/
def isAssetDisabled (s : State) (asset : Address) : Bool :=
  (s.assetDisabled.get asset).getD false

/-- `require_asset_enabled`. -/
def requireAssetEnabled (s : State) (asset : Address) : Call Unit :=
  ensure (isAssetDisabled s asset = false) "exit-desk: asset is disabled"

/-- `require_admin_is`. -/
def requireAdminIs (env : Env) (s : State) (admin : Address) :
    Call Unit := do
  let stored ← requireAdmin env.toHostEnv s.roles
  ensure (stored = admin) "exit-desk: admin argument mismatch"

/-- `env.events().publish`. -/
def publish (s : State) (e : Event) : State :=
  { s with events := s.events ++ [e] }

/-- The desk's units of an asset, none before the first exit. -/
def inventoryOf (s : State) (asset : Address) : Int :=
  (s.inventory.get asset).getD 0

/-- What a holder has exited of an asset in a day bucket. -/
def dailyUsedBy (s : State) (holder asset : Address) (day : Nat) : Int :=
  (s.dailyUsed.get (holder, asset, day)).getD 0

-- ============================================================ the quote

/-- `compute_quote`, which `quote` answers with. -/
def computeQuote (env : Env) (s : State) (asset : Address) (units : Int) :
    Call ExitQuote := do
  ensure (0 < units) "exit-desk: units must be positive"
  requireAssetEnabled s asset
  let config ← readAssetConfig s asset
  let guarded ← env.guardedPrice config.priceGuard asset
  ensure (guarded.isUsableForNewRisk)
    "exit-desk: price is not Ok, refusing to quote"
  let scaled ← I128.checked "exit-desk: overflow computing price"
    (guarded.value * (bpsDenominator - config.spreadBps))
  let price := scaled.tdiv bpsDenominator
  let gross ← I128.checked "exit-desk: overflow computing usdc_out"
    (units * price)
  let expiresAt ← U64.add env.timestamp quoteTtlSeconds
  return ⟨asset, units, price, config.spreadBps, gross.tdiv priceScale,
    expiresAt⟩

-- ======================================================== admin and setup

/-- `initialize`. -/
def initContract (admin pauser keeper pricePublisher risk : Address)
    (s : State) : Call State := do
  ensure (s.roles = none) "exit-desk: already initialized"
  return { s with
    roles := some ⟨admin, pauser, keeper, pricePublisher, risk⟩ }

/-- `configure_asset`. -/
def configureAsset (env : Env) (admin asset priceGuard : Address)
    (spreadBps : Nat) (perHolderDailyCap deskInventoryCap : Int)
    (s : State) : Call State := do
  requireAdminIs env s admin
  ensure ((spreadBps : Int) < bpsDenominator)
    "exit-desk: spread must be below 100%"
  ensure (0 < perHolderDailyCap)
    "exit-desk: per_holder_daily_cap must be positive"
  ensure (0 < deskInventoryCap)
    "exit-desk: desk_inventory_cap must be positive"
  return { s with
    assetConfig := s.assetConfig.set asset
      ⟨priceGuard, spreadBps, perHolderDailyCap, deskInventoryCap⟩ }

/-- `set_usdc`. -/
def setUsdc (env : Env) (admin usdc : Address) (s : State) :
    Call State := do
  requireAdminIs env s admin
  return publish { s with usdc := some usdc } (.setUsdc admin usdc)

/-- `disable_asset`. -/
def disableAsset (env : Env) (admin asset : Address) (s : State) :
    Call State := do
  requireAdminIs env s admin
  let _ ← readAssetConfig s asset
  return publish { s with assetDisabled := s.assetDisabled.set asset true }
    (.disable asset)

/-- `enable_asset`. -/
def enableAsset (env : Env) (admin asset : Address) (s : State) :
    Call State := do
  requireAdminIs env s admin
  let _ ← readAssetConfig s asset
  return publish { s with assetDisabled := s.assetDisabled.remove asset }
    (.enable asset)

-- ==================================================== the operator's money

/-- `fund`. -/
def fund (env : Env) (caller usdc : Address) (amount : Int)
    (w : World State) : Call (World State) := do
  let _ ← requireAdminOrKeeper env.toHostEnv w.store.roles caller
  ensure (0 < amount) "exit-desk: amount must be positive"
  let configured ← readUsdc w.store
  ensure (configured = usdc) "exit-desk: usdc address mismatch"
  let tokens ← w.tokens.transfer env.toHostEnv usdc caller env.self amount
  return ⟨tokens, publish w.store (.fund caller amount)⟩

/-- The inventory `withdraw` leaves: an RWA taken out frees the same
amount of room, any other token none. -/
def releaseInventory (s : State) (token : Address) (amount : Int) :
    Call State :=
  if (s.assetConfig.get token).isSome then do
    let left ← I128.sub (inventoryOf s token)
      (min amount (inventoryOf s token))
    return { s with inventory := s.inventory.set token left }
  else return s

/-- `withdraw`. -/
def withdraw (env : Env) (admin token : Address) (amount : Int)
    (payTo : Address) (w : World State) : Call (World State) := do
  requireAdminIs env w.store admin
  ensure (0 < amount) "exit-desk: amount must be positive"
  let tokens ← w.tokens.transfer env.toHostEnv token env.self payTo amount
  let s ← releaseInventory w.store token amount
  return ⟨tokens, publish s (.withdraw token amount)⟩

-- =============================================================== exits

/-- `exit`: the USDC paid, and the world after. -/
def exit (env : Env) (holder asset : Address) (units minUsdcOut : Int)
    (payTo : Address) (w : World State) : Call (Int × World State) := do
  env.requireAuth holder
  requireNotPaused w.store.paused .exits
  let quote ← computeQuote env w.store asset units
  ensure (0 < quote.usdcOut)
    "exit-desk: usdc_out is zero, amount too small to exit"
  ensure (minUsdcOut ≤ quote.usdcOut)
    "exit-desk: usdc_out below min_usdc_out (slippage)"
  let config ← readAssetConfig w.store asset
  let day := env.timestamp / secondsPerDay
  let newDailyUsed ← I128.checked
    "exit-desk: overflow in daily-used counter"
    (dailyUsedBy w.store holder asset day + units)
  ensure (newDailyUsed ≤ config.perHolderDailyCap)
    "exit-desk: exceeds per-holder daily cap"
  let newInventory ← I128.checked "exit-desk: overflow in desk inventory"
    (inventoryOf w.store asset + units)
  ensure (newInventory ≤ config.deskInventoryCap)
    "exit-desk: exceeds desk inventory cap"
  let tokens ← w.tokens.transfer env.toHostEnv asset holder env.self units
  let usdc ← readUsdc w.store
  let tokens ← tokens.transfer env.toHostEnv usdc env.self payTo quote.usdcOut
  return (quote.usdcOut, ⟨tokens, publish { w.store with
      dailyUsed := w.store.dailyUsed.set (holder, asset, day) newDailyUsed
      inventory := w.store.inventory.set asset newInventory }
    (.exit holder asset quote.usdcOut)⟩)

-- ================================================================ pause

/-- `pause`. -/
def pause (env : Env) (pauser : Address) (scope : PauseScope) (s : State) :
    Call State := do
  let stored ← requirePauser env.toHostEnv s.roles
  ensure (stored = pauser) "exit-desk: pauser argument mismatch"
  return publish { s with paused := s.paused.set scope true }
    (.paused pauser scope)

/-- `queue_unpause`: the id minted, and the storage after. -/
def queueUnpause (env : Env) (admin : Address) (scope : PauseScope)
    (s : State) : Call (Nat × State) := do
  requireAdminIs env s admin
  let (id, next) ← nextId s.nextId
  let at' ← executesAt env.toHostEnv
  return (id, publish { s with
      nextId := next
      pendingUnpause := s.pendingUnpause.set id ⟨scope, at'⟩ }
    (.unpauseQueued id scope at'))

/-- `execute_unpause`. -/
def executeUnpause (env : Env) (id : Nat) (s : State) : Call State := do
  let pending ← expect (s.pendingUnpause.get id)
    "exit-desk: no such pending unpause"
  ensure (IsReady env.toHostEnv pending.executesAt)
    "exit-desk: timelock has not elapsed"
  return publish { s with
      paused := s.paused.set pending.scope false
      pendingUnpause := s.pendingUnpause.remove id }
    (.unpauseExecuted id pending.scope)

/-- `cancel_unpause`. -/
def cancelUnpause (env : Env) (admin : Address) (id : Nat) (s : State) :
    Call State := do
  requireAdminIs env s admin
  let pending ← expect (s.pendingUnpause.get id)
    "exit-desk: no such pending unpause"
  return publish { s with pendingUnpause := s.pendingUnpause.remove id }
    (.unpauseCancelled id pending.scope)

-- =========================================================== the machine

/-- The entry points that change storage, with their arguments. -/
inductive Entry where
  | initContract (admin pauser keeper pricePublisher risk : Address)
  | configureAsset (admin asset priceGuard : Address) (spreadBps : Nat)
      (perHolderDailyCap deskInventoryCap : Int)
  | setUsdc (admin usdc : Address)
  | disableAsset (admin asset : Address)
  | enableAsset (admin asset : Address)
  | fund (caller usdc : Address) (amount : Int)
  | withdraw (admin token : Address) (amount : Int) (payTo : Address)
  | exit (holder asset : Address) (units minUsdcOut : Int) (payTo : Address)
  | pause (pauser : Address) (scope : PauseScope)
  | queueUnpause (admin : Address) (scope : PauseScope)
  | executeUnpause (id : Nat)
  | cancelUnpause (admin : Address) (id : Nat)

/-- Storage-only entry points leave the token ledger alone. -/
def onStore (w : World State) (r : Call State) : Call (World State) :=
  r.map fun s => ⟨w.tokens, s⟩

/-- One contract call. -/
def call (env : Env) (e : Entry) (w : World State) :
    Call (World State) :=
  match e with
  | .initContract admin pauser keeper pricePublisher risk =>
      onStore w (initContract admin pauser keeper pricePublisher risk
        w.store)
  | .configureAsset admin asset priceGuard spreadBps perHolderDailyCap
      deskInventoryCap =>
      onStore w (configureAsset env admin asset priceGuard spreadBps
        perHolderDailyCap deskInventoryCap w.store)
  | .setUsdc admin usdc => onStore w (setUsdc env admin usdc w.store)
  | .disableAsset admin asset =>
      onStore w (disableAsset env admin asset w.store)
  | .enableAsset admin asset =>
      onStore w (enableAsset env admin asset w.store)
  | .fund caller usdc amount => fund env caller usdc amount w
  | .withdraw admin token amount payTo =>
      withdraw env admin token amount payTo w
  | .exit holder asset units minUsdcOut payTo =>
      (exit env holder asset units minUsdcOut payTo w).map Prod.snd
  | .pause pauser scope => onStore w (pause env pauser scope w.store)
  | .queueUnpause admin scope =>
      onStore w ((queueUnpause env admin scope w.store).map Prod.snd)
  | .executeUnpause id => onStore w (executeUnpause env id w.store)
  | .cancelUnpause admin id =>
      onStore w (cancelUnpause env admin id w.store)

/-- What can happen next: a call into the contract, or token activity
the contract takes no part in. -/
inductive Tx where
  | call (env : Env) (e : Entry)
  | outside (tokens : Ledger)

/-- The same at ledger time `now`. -/
def Tx.at (now : Nat) : Tx → Tx
  | .call env e => .call { env with timestamp := now } e
  | .outside tokens => .outside tokens

/-- The contract deployed at `self`. -/
def machine (self : Address) : Machine (World State) Tx where
  init := ⟨Ledger.empty, State.empty⟩
  apply
    | .call env e, w => call (env.at self) e w
    | .outside tokens, w => .ok { w with tokens := tokens }

-- ================================================= a deployment to run

namespace Demo

def self : Address := ⟨100⟩

/-- Everybody signs; the guard stands behind a price of 1.00. -/
def env : Env where
  self := self
  timestamp := 0
  sequence := 0
  maxTtl := 3110400
  auth := fun _ => true
  guardedPrice := fun _ a => .ok ⟨a, 10000000, .ok, 0, []⟩

/-- Nothing is paused, and an unpause of exits is queued. -/
def beforePause : List (Nat × Tx) :=
  [(0, .call env (.initContract ⟨1⟩ ⟨1⟩ ⟨1⟩ ⟨1⟩ ⟨1⟩)),
   (0, .call env (.queueUnpause ⟨1⟩ .exits))]

/-- Two days later exits are paused. -/
def pauseExits : Nat × Tx := (172800, .call env (.pause ⟨1⟩ .exits))

def unpauseExits : Nat × Tx := (172801, .call env (.executeUnpause 0))

def asset : Address := ⟨7⟩

def usdc : Address := ⟨8⟩

def holder : Address := ⟨9⟩

/-- A holder with 1000 units, a keeper with 1000 of cash. -/
def endowed : Ledger :=
  (Ledger.empty.credit asset holder 1000).credit usdc ⟨1⟩ 1000

/-- The desk is funded, 400 units are exited, the caps are lowered below
them and 300 units withdrawn. -/
def tradingDay : List Tx :=
  [.outside endowed,
   .call env (.initContract ⟨1⟩ ⟨1⟩ ⟨1⟩ ⟨1⟩ ⟨1⟩),
   .call env (.setUsdc ⟨1⟩ usdc),
   .call env (.configureAsset ⟨1⟩ asset ⟨2⟩ 0 1000 1000),
   .call env (.fund ⟨1⟩ usdc 500),
   .call env (.exit holder asset 400 0 holder),
   .call env (.configureAsset ⟨1⟩ asset ⟨2⟩ 0 300 300),
   .call env (.withdraw ⟨1⟩ asset 300 ⟨1⟩)]

end Demo

end Ballast.ExitDesk
