/-
`CreditLine`: lender commitments, draws, repayments, interest, the
margin state machine and the liquidation entry point.

Every entry point is the source's, guard by guard and in the source's
order, over explicit storage (`State`) and, where USDC moves, the token
ledger beside it (`World State`). Two kinds of arguments are read by
nobody and kept only so the signatures match: `admin`/`keeper` (the
check is against the stored role) and `route`.

`CreditLine` exposes no entry point that writes its pause flags, so
`paused` is read by `draw` and written by nothing.

# Figures

Amounts are `i128`s and every operation on them may overflow, which
aborts the call; times are `u64`s and interest is charged by the second
on the principal that is drawn. Divisions truncate. A line is written as
a whole, and the views compute what is owed anew from the last accrual
on.
-/
import Ballast.Common.Risk
import Ballast.Common.Access
import Ballast.Soroban.Machine

namespace Ballast.CreditLine

open Soroban

/-- `SECONDS_PER_YEAR`. -/
def secondsPerYear : Int := 365 * 24 * 60 * 60

-- ============================================================== storage

structure LtvView where
  debt : Int
  collateralValue : Int
  ltvBps : Nat
  state : MarginState
  priceStatus : PriceStatus
  deriving DecidableEq, Repr

structure AssetConfig where
  priceGuard : Address
  usdc : Address
  haircutBps : Nat
  thresholds : MarginThresholds
  deriving DecidableEq, Repr

/-- `LineStatus`; `Open` is spelled `opened`. -/
inductive LineStatus where
  | opened
  | liquidating
  | closed
  deriving DecidableEq, Repr

/-- What a liquidation took and what it was worth: `seizedUnits`,
`price` and `debt` are frozen by `liquidate`, the rest is filled in by
`closeLiquidated`. -/
structure LiquidationRecord where
  seizedUnits : Int
  price : Int
  debt : Int
  closed : Bool
  recovered : Int
  surplus : Int
  shortfall : Int
  deriving DecidableEq, Repr

structure Line where
  lender : Address
  borrower : Address
  asset : Address
  limit : Int
  funded : Int
  drawn : Int
  pledgedUnits : Int
  rateBps : Nat
  cureS : Nat
  agreement : BytesN 32
  status : LineStatus
  lastAccrualTs : Nat
  accruedInterest : Int
  marginState : MarginState
  breachLedger : Option Nat
  breachLtvBps : Nat
  unhealthySince : Option Nat
  deriving DecidableEq, Repr

/-- `line_closed`, the one event this contract publishes. -/
inductive Event where
  | lineClosed (line : Nat) (debt recovered surplus shortfall : Int)
  deriving DecidableEq, Repr

structure State where
  roles : Option Roles
  paused : Store PauseScope Bool
  assetConfig : Store Address AssetConfig
  nextLineId : Nat
  lines : Store Nat Line
  vault : Option Address
  claimable : Store Nat Int
  liquidation : Store Nat LiquidationRecord
  events : List Event

/-- A contract nothing has been written to. -/
def State.empty : State where
  roles := none
  paused := Store.empty
  assetConfig := Store.empty
  nextLineId := 0
  lines := Store.empty
  vault := none
  claimable := Store.empty
  liquidation := Store.empty
  events := []

/-- `read_claimable`. -/
def readClaimable (s : State) (line : Nat) : Int :=
  (s.claimable.get line).getD 0

/-- `write_claimable`. -/
def writeClaimable (s : State) (line : Nat) (amount : Int) : State :=
  { s with claimable := s.claimable.set line amount }

/-- `read_line`. -/
def readLine (s : State) (line : Nat) : Call Line :=
  expect (s.lines.get line) "credit-line: unknown line"

/-- `write_line`. -/
def writeLine (s : State) (line : Nat) (l : Line) : State :=
  { s with lines := s.lines.set line l }

/-- `read_liquidation`. -/
def readLiquidation (s : State) (line : Nat) : Call LiquidationRecord :=
  expect (s.liquidation.get line) "credit-line: line was not liquidated"

/-- `write_liquidation`. -/
def writeLiquidation (s : State) (line : Nat) (r : LiquidationRecord) :
    State :=
  { s with liquidation := s.liquidation.set line r }

/-- `env.events().publish`. -/
def publish (s : State) (e : Event) : State :=
  { s with events := s.events ++ [e] }

/-- `read_asset_config`. -/
def readAssetConfig (s : State) (asset : Address) : Call AssetConfig :=
  expect (s.assetConfig.get asset) "credit-line: asset not configured"

-- ==================================================== interest and LTV

/-- `interest_delta`: simple interest since the last accrual, on top of
what is already booked. -/
def interestDelta (l : Line) (now : Nat) : Call Int := do
  let elapsed : Int := ((now - l.lastAccrualTs : Nat) : Int)
  let rated ← I128.mul l.drawn l.rateBps
  let timed ← I128.mul rated elapsed
  return (timed.tdiv secondsPerYear).tdiv bpsDenominator

/-- Principal, booked interest and interest accrued since, the figure
`debt_of` and `ltv` report. -/
def debtAt (l : Line) (now : Nat) : Call Int := do
  let booked ← I128.add l.drawn l.accruedInterest
  let delta ← interestDelta l now
  I128.add booked delta

/-- `read_ltv`: the view, and the guarded price it was computed from. -/
def readLtv (env : Env) (s : State) (l : Line) : Call (LtvView × Int) := do
  let config ← readAssetConfig s l.asset
  let guarded ← env.guardedPrice config.priceGuard l.asset
  let debt ← debtAt l env.timestamp
  let cv ← collateralValue l.pledgedUnits guarded.value config.haircutBps
  let bps ← Ballast.ltvBps debt cv
  return ({ debt := debt, collateralValue := cv, ltvBps := bps,
            state := classify bps config.thresholds,
            priceStatus := guarded.status }, guarded.value)

/-- `compute_ltv`. -/
def computeLtv (env : Env) (s : State) (l : Line) : Call LtvView := do
  let (view, _) ← readLtv env s l
  return view

-- ======================================================== admin and setup

/-- `initialize`. -/
def initContract (admin pauser keeper pricePublisher risk : Address)
    (s : State) : Call State := do
  ensure (s.roles = none) "credit-line: already initialized"
  return { s with
    roles := some ⟨admin, pauser, keeper, pricePublisher, risk⟩ }

/-- `configure_asset`. -/
def configureAsset (env : Env) (_admin asset priceGuard usdc : Address)
    (haircutBps : Nat) (thresholds : MarginThresholds) (s : State) :
    Call State := do
  let _ ← requireAdmin env.toHostEnv s.roles
  thresholds.validate
  return { s with
    assetConfig := s.assetConfig.set asset
      ⟨priceGuard, usdc, haircutBps, thresholds⟩ }

/-- `set_vault`. -/
def setVault (env : Env) (_admin vault : Address) (s : State) :
    Call State := do
  let _ ← requireAdmin env.toHostEnv s.roles
  return { s with vault := some vault }

/-- The line `open` writes. -/
def newLine (env : Env) (lender borrower asset : Address) (limit : Int)
    (rateBps cureS : Nat) (agreement : BytesN 32) : Line where
  lender := lender
  borrower := borrower
  asset := asset
  limit := limit
  funded := 0
  drawn := 0
  pledgedUnits := 0
  rateBps := rateBps
  cureS := cureS
  agreement := agreement
  status := .opened
  lastAccrualTs := env.timestamp
  accruedInterest := 0
  marginState := .healthy
  breachLedger := none
  breachLtvBps := 0
  unhealthySince := none

/-- `open`: the id minted, and the storage after. -/
def openLine (env : Env) (lender borrower asset : Address) (limit : Int)
    (rateBps cureS : Nat) (agreement : BytesN 32) (s : State) :
    Call (Nat × State) := do
  env.requireAuth lender
  ensure (0 < limit) "credit-line: limit must be positive"
  let id := s.nextLineId
  let next ← U64.add id 1
  let l := newLine env lender borrower asset limit rateBps cureS agreement
  return (id, writeLine { s with nextLineId := next } id l)

-- ============================================================ collateral

/-- `sync_from_vault`. -/
def syncFromVault (env : Env) (vault : Address) (line : Nat)
    (asset : Address) (units : Int) (s : State) : Call State := do
  env.requireAuth vault
  let stored ← expect s.vault "credit-line: vault not configured"
  ensure (vault = stored) "credit-line: caller is not the configured vault"
  ensure (0 ≤ units) "credit-line: units cannot be negative"
  let l ← readLine s line
  ensure (l.asset = asset) "credit-line: not this line's collateral asset"
  return writeLine s line { l with pledgedUnits := units }

/-- `sync_collateral`. -/
def syncCollateral (env : Env) (caller : Address) (line : Nat)
    (units : Int) (s : State) : Call State := do
  let _ ← requireAdminOrKeeper env.toHostEnv s.roles caller
  ensure (0 ≤ units) "credit-line: units cannot be negative"
  let l ← readLine s line
  return writeLine s line { l with pledgedUnits := units }

-- ================================================================= funds

/-- `fund`. -/
def fund (env : Env) (lender : Address) (line : Nat) (amount : Int)
    (w : World State) : Call (World State) := do
  env.requireAuth lender
  ensure (0 < amount) "credit-line: amount must be positive"
  let l ← readLine w.store line
  ensure (l.lender = lender) "credit-line: not this line's lender"
  ensure (l.status ≠ .closed) "credit-line: line is closed"
  let config ← readAssetConfig w.store l.asset
  let tokens ← w.tokens.transfer env.toHostEnv config.usdc lender env.self
    amount
  let funded ← I128.add l.funded amount
  return ⟨tokens, writeLine w.store line { l with funded := funded }⟩

/-- `draw`. -/
def draw (env : Env) (borrower : Address) (line : Nat) (amount : Int)
    (recipient : Address) (w : World State) : Call (World State) := do
  env.requireAuth borrower
  requireNotPaused w.store.paused .draws
  ensure (0 < amount) "credit-line: amount must be positive"
  let l ← readLine w.store line
  ensure (l.borrower = borrower) "credit-line: not this line's borrower"
  ensure (l.status = .opened) "credit-line: line is not open"
  let delta ← interestDelta l env.timestamp
  let accrued ← I128.add l.accruedInterest delta
  let undrawn ← I128.sub l.funded l.drawn
  ensure (amount ≤ undrawn)
    "credit-line: draw exceeds funded-but-undrawn balance"
  let drawn ← I128.add l.drawn amount
  ensure (drawn ≤ l.limit) "credit-line: draw exceeds the line's limit"
  let config ← readAssetConfig w.store l.asset
  let guarded ← env.guardedPrice config.priceGuard l.asset
  ensure (guarded.status = .ok) "credit-line: price status is not Ok"
  let cv ← collateralValue l.pledgedUnits guarded.value config.haircutBps
  let owed ← I128.add l.drawn accrued
  let postDrawDebt ← I128.add owed amount
  let bps ← Ballast.ltvBps postDrawDebt cv
  let marginState := classify bps config.thresholds
  ensure (marginState = .healthy)
    "credit-line: draw would push the line past a healthy LTV"
  let tokens ← w.tokens.transfer env.toHostEnv config.usdc env.self
    recipient amount
  return ⟨tokens, writeLine w.store line
    { l with
      accruedInterest := accrued
      lastAccrualTs := env.timestamp
      drawn := drawn
      marginState := marginState }⟩

/-- `repay`: the amount applied, and the world after. -/
def repay (env : Env) (payer : Address) (line : Nat) (amount : Int)
    (w : World State) : Call (Int × World State) := do
  env.requireAuth payer
  ensure (0 < amount) "credit-line: amount must be positive"
  let l ← readLine w.store line
  let delta ← interestDelta l env.timestamp
  let accrued ← I128.add l.accruedInterest delta
  let owed ← I128.add accrued l.drawn
  ensure (0 < owed) "credit-line: nothing owed"
  let applied := min amount owed
  let payInterest := min applied accrued
  let accruedLeft ← I128.sub accrued payInterest
  let remaining ← I128.sub applied payInterest
  let claimable ← I128.add (readClaimable w.store line) payInterest
  let payPrincipal := min remaining l.drawn
  let drawn ← I128.sub l.drawn payPrincipal
  let rest ← I128.sub remaining payPrincipal
  ensure (rest = 0) "credit-line: repayment bookkeeping mismatch"
  let config ← readAssetConfig w.store l.asset
  let tokens ← w.tokens.transfer env.toHostEnv config.usdc payer env.self
    applied
  return (applied, ⟨tokens,
    writeLine (writeClaimable w.store line claimable) line
      { l with
        accruedInterest := accruedLeft
        lastAccrualTs := env.timestamp
        drawn := drawn }⟩)

/-- `withdraw_undrawn`. -/
def withdrawUndrawn (env : Env) (lender : Address) (line : Nat)
    (amount : Int) (w : World State) : Call (World State) := do
  env.requireAuth lender
  ensure (0 < amount) "credit-line: amount must be positive"
  let l ← readLine w.store line
  ensure (l.lender = lender) "credit-line: not this line's lender"
  let undrawn ← I128.sub l.funded l.drawn
  ensure (amount ≤ undrawn)
    "credit-line: withdrawal exceeds the undrawn balance"
  let funded ← I128.sub l.funded amount
  let config ← readAssetConfig w.store l.asset
  let tokens ← w.tokens.transfer env.toHostEnv config.usdc env.self lender
    amount
  return ⟨tokens, writeLine w.store line { l with funded := funded }⟩

/-- `withdraw_interest`. -/
def withdrawInterest (env : Env) (lender : Address) (line : Nat)
    (amount : Int) (w : World State) : Call (World State) := do
  env.requireAuth lender
  ensure (0 < amount) "credit-line: amount must be positive"
  let l ← readLine w.store line
  ensure (l.lender = lender) "credit-line: not this line's lender"
  let claimable := readClaimable w.store line
  ensure (amount ≤ claimable)
    "credit-line: withdrawal exceeds the interest repaid"
  let left ← I128.sub claimable amount
  let config ← readAssetConfig w.store l.asset
  let tokens ← w.tokens.transfer env.toHostEnv config.usdc env.self lender
    amount
  return ⟨tokens, writeClaimable w.store line left⟩

-- ======================================================= the margin machine

/-- What `poke` writes back for the view it just read: the margin
state, the cure clock and the breach flag. -/
def pokeLine (env : Env) (l : Line) (view : LtvView) : Line :=
  let breached := view.state = .liquidation ∧ view.priceStatus = .ok
  { l with
    marginState := view.state
    unhealthySince :=
      if view.state.isUnhealthy then
        if l.unhealthySince.isNone then some env.timestamp
        else l.unhealthySince
      else none
    breachLedger :=
      if breached then
        if l.breachLedger.isNone then some env.sequence else l.breachLedger
      else none
    breachLtvBps :=
      if breached then
        if l.breachLedger.isNone then view.ltvBps else l.breachLtvBps
      else 0 }

/-- `poke`: the state found, and the storage after. -/
def poke (env : Env) (line : Nat) (s : State) :
    Call (MarginState × State) := do
  let l ← readLine s line
  let view ← computeLtv env s l
  return (view.state, writeLine s line (pokeLine env l view))

/-- `liquidate`. -/
def liquidate (env : Env) (_keeper : Address) (line : Nat)
    (_route : LiquidationRoute) (s : State) : Call State := do
  let _ ← requireKeeper env.toHostEnv s.roles
  let l ← readLine s line
  let breachLedger ← expect l.breachLedger
    "credit-line: no confirmed breach flagged; call poke(line) first"
  ensure (breachLedger < env.sequence)
    "credit-line: liquidation needs a later ledger than the flagged breach"
  ensure (l.status = .opened) "credit-line: line is not open"
  let (view, price) ← readLtv env s l
  ensure (view.priceStatus = .ok) "credit-line: price status is not Ok"
  ensure (view.state = .liquidation)
    "credit-line: breach is no longer confirmed"
  let record : LiquidationRecord :=
    { seizedUnits := l.pledgedUnits, price := price, debt := view.debt,
      closed := false, recovered := 0, surplus := 0, shortfall := 0 }
  return writeLine (writeLiquidation s line record) line
    { l with status := .liquidating, marginState := .liquidation }

/-- The line `close_liquidated` writes: principal still out is written
off `funded`, and every other figure is cleared. -/
def closedLine (l : Line) (funded : Int) : Line :=
  { l with
    funded := funded
    drawn := 0
    accruedInterest := 0
    pledgedUnits := 0
    marginState := .healthy
    breachLedger := none
    breachLtvBps := 0
    unhealthySince := none
    status := .closed }

/-- The USDC leg of `close_liquidated`: collateral worth more than the
debt is made up to the borrower by the lender, who signs. -/
def paySurplus (env : Env) (l : Line) (surplus : Int) (w : World State) :
    Call Ledger :=
  if 0 < surplus then do
    let config ← readAssetConfig w.store l.asset
    w.tokens.transfer env.toHostEnv config.usdc l.lender l.borrower surplus
  else return w.tokens

/-- `close_liquidated`. -/
def closeLiquidated (env : Env) (lender : Address) (line : Nat)
    (w : World State) : Call (World State) := do
  env.requireAuth lender
  let l ← readLine w.store line
  ensure (l.lender = lender) "credit-line: not this line's lender"
  ensure (l.status = .liquidating)
    "credit-line: line is not being liquidated"
  let record ← readLiquidation w.store line
  let recovered ← collateralValue record.seizedUnits record.price 0
  let excess ← I128.sub recovered record.debt
  let under ← I128.sub record.debt recovered
  let surplus := max excess 0
  let shortfall := max under 0
  let tokens ← paySurplus env l surplus w
  let funded ← I128.sub l.funded l.drawn
  let s := writeLine w.store line (closedLine l funded)
  let s := writeLiquidation s line
    { record with
      closed := true
      recovered := recovered
      surplus := surplus
      shortfall := shortfall }
  return ⟨tokens, publish s
    (.lineClosed line record.debt recovered surplus shortfall)⟩

-- ================================================================= views

/-- `ltv`. -/
def ltv (env : Env) (line : Nat) (s : State) : Call LtvView := do
  let l ← readLine s line
  computeLtv env s l

/-- `debt_of`. -/
def debtOf (env : Env) (line : Nat) (s : State) : Call Int := do
  let l ← readLine s line
  debtAt l env.timestamp

/-- `borrower_of`. -/
def borrowerOf (line : Nat) (s : State) : Call Address := do
  let l ← readLine s line
  return l.borrower

/-- `asset_of`. -/
def assetOf (line : Nat) (s : State) : Call Address := do
  let l ← readLine s line
  return l.asset

-- =========================================================== the machine

/-- The entry points that change storage, with their arguments. -/
inductive Entry where
  | initContract (admin pauser keeper pricePublisher risk : Address)
  | configureAsset (admin asset priceGuard usdc : Address)
      (haircutBps : Nat) (thresholds : MarginThresholds)
  | setVault (admin vault : Address)
  | openLine (lender borrower asset : Address) (limit : Int)
      (rateBps cureS : Nat) (agreement : BytesN 32)
  | fund (lender : Address) (line : Nat) (amount : Int)
  | syncFromVault (vault : Address) (line : Nat) (asset : Address)
      (units : Int)
  | syncCollateral (caller : Address) (line : Nat) (units : Int)
  | draw (borrower : Address) (line : Nat) (amount : Int)
      (recipient : Address)
  | repay (payer : Address) (line : Nat) (amount : Int)
  | poke (line : Nat)
  | liquidate (keeper : Address) (line : Nat) (route : LiquidationRoute)
  | closeLiquidated (lender : Address) (line : Nat)
  | withdrawUndrawn (lender : Address) (line : Nat) (amount : Int)
  | withdrawInterest (lender : Address) (line : Nat) (amount : Int)

/-- Storage-only entry points leave the token ledger alone. -/
def onStore (w : World State) (r : Call State) : Call (World State) :=
  r.map fun s => ⟨w.tokens, s⟩

/-- One contract call. -/
def call (env : Env) (e : Entry) (w : World State) :
    Call (World State) :=
  match e with
  | .initContract admin pauser keeper pricePublisher risk =>
      onStore w (initContract admin pauser keeper pricePublisher risk
        w.store)
  | .configureAsset admin asset priceGuard usdc haircutBps thresholds =>
      onStore w (configureAsset env admin asset priceGuard usdc haircutBps
        thresholds w.store)
  | .setVault admin vault => onStore w (setVault env admin vault w.store)
  | .openLine lender borrower asset limit rateBps cureS agreement =>
      onStore w ((openLine env lender borrower asset limit rateBps cureS
        agreement w.store).map Prod.snd)
  | .fund lender line amount => fund env lender line amount w
  | .syncFromVault vault line asset units =>
      onStore w (syncFromVault env vault line asset units w.store)
  | .syncCollateral caller line units =>
      onStore w (syncCollateral env caller line units w.store)
  | .draw borrower line amount recipient =>
      draw env borrower line amount recipient w
  | .repay payer line amount =>
      (repay env payer line amount w).map Prod.snd
  | .poke line => onStore w ((poke env line w.store).map Prod.snd)
  | .liquidate keeper line route =>
      onStore w (liquidate env keeper line route w.store)
  | .closeLiquidated lender line => closeLiquidated env lender line w
  | .withdrawUndrawn lender line amount =>
      withdrawUndrawn env lender line amount w
  | .withdrawInterest lender line amount =>
      withdrawInterest env lender line amount w

/-- What can happen next: a call into the contract, or token activity
the contract takes no part in. -/
inductive Tx where
  | call (env : Env) (e : Entry)
  | outside (tokens : Ledger)

/-- The contract deployed at `self`. -/
def machine (self : Address) : Machine (World State) Tx where
  init := ⟨Ledger.empty, State.empty⟩
  apply
    | .call env e, w => call (env.at self) e w
    | .outside tokens, w => .ok { w with tokens := tokens }

-- ================================================= a deployment to run

namespace Demo

/-- The contract, its token, one collateral asset and its guard. -/
def self : Address := ⟨100⟩

def usdc : Address := ⟨11⟩

def asset : Address := ⟨10⟩

def guard : Address := ⟨12⟩

def lender : Address := ⟨2⟩

def borrower : Address := ⟨3⟩

/-- Everybody signs; the guard stands behind `price`. -/
def env (timestamp sequence : Nat) (price : Int) : Env where
  self := self
  timestamp := timestamp
  sequence := sequence
  maxTtl := 3110400
  auth := fun _ => true
  guardedPrice := fun _ a => .ok ⟨a, price, .ok, timestamp, []⟩

/-- Bands at 70, 80 and 90 percent. -/
def thresholds : MarginThresholds := ⟨7000, 8000, 9000⟩

/-- Initialised, one asset configured, one line opened at 10% a year,
and 2000 USDC with the lender, 200 with the borrower. -/
def setup : List Tx :=
  [.call (env 0 0 0) (.initContract ⟨1⟩ ⟨1⟩ ⟨1⟩ ⟨1⟩ ⟨1⟩),
   .call (env 0 0 0) (.configureAsset ⟨1⟩ asset guard usdc 0 thresholds),
   .call (env 0 0 0) (.openLine lender borrower asset 1000 1000 3600
     (Vector.replicate 32 0)),
   .outside ((Ledger.empty.credit usdc lender 2000).credit usdc borrower
     200)]

end Demo

end Ballast.CreditLine
