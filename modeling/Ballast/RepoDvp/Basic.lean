/-
`RepoDvp`: bilateral repo of RWA tokens against USDC, settled delivery
versus payment on leg 1 and unwound or defaulted on leg 2.

The collateral of every settled trade sits in this contract, pooled by
token. Cash never does: leg 1 is paid out of an allowance the lender's
`propose` granted, leg 2 out of one the borrower's `acceptAndSettle`
granted, and one allowance per (owner, contract) serves all of an
address's trades, in either role.

`borrowerDue` is the contract's own sum of what its borrowers may still
owe on leg 2, each trade counted at a ceiling fixed when it was
proposed (`totalDue t t.proposedAt`); `acceptAndSettle` approves that
sum.

Entry points are the source's, guard by guard. Saturating `u32`
arithmetic is written out (`U32.satAdd`), everything else is
range-checked.
-/
import Ballast.Common.Risk
import Ballast.Common.Access
import Ballast.Soroban.Machine

namespace Ballast.RepoDvp

open Soroban

-- ============================================================ constants

/-- `MARGIN_CURE_GRACE_SECONDS`. -/
def marginCureGraceSeconds : Nat := 24 * 60 * 60

/-- `MIN_CURE_GRACE_SECONDS`. -/
def minCureGraceSeconds : Nat := 60

/-- `DEFAULT_MATURITY_GRACE_SECONDS`. -/
def defaultMaturityGraceSeconds : Nat := 24 * 60 * 60

/-- `MIN_MATURITY_GRACE_SECONDS`. -/
def minMaturityGraceSeconds : Nat := 60

/-- `UNWIND_ALLOWANCE_GRACE_LEDGERS`. -/
def unwindAllowanceGraceLedgers : Nat := 120960

/-- `SECONDS_PER_LEDGER`. -/
def secondsPerLedger : Nat := 5

/-- `ALLOWANCE_EXPIRY_BUCKET_LEDGERS`. -/
def allowanceExpiryBucketLedgers : Nat := 17280

/-- `SECONDS_PER_YEAR`. -/
def secondsPerYear : Int := 365 * 24 * 60 * 60

-- ============================================================== storage

/-- `RepoKind`; `Open` is spelled `opened`. -/
inductive RepoKind where
  | intraday
  | overnight
  | opened
  | term
  deriving DecidableEq, Repr

inductive RepoStatus where
  | proposed
  | settled
  | unwound
  | defaulted
  | cancelled
  deriving DecidableEq, Repr

structure RepoAssetConfig where
  priceGuard : Address
  haircutBps : Nat
  thresholds : MarginThresholds
  deriving DecidableEq, Repr

structure RepoTrade where
  id : Nat
  cashLender : Address
  cashBorrower : Address
  asset : Address
  units : Int
  cashAmount : Int
  rateBps : Nat
  kind : RepoKind
  maturityAt : Nat
  agreementHash : BytesN 32
  proposedAt : Nat
  status : RepoStatus
  leg1Ledger : Option Nat
  settledAt : Option Nat
  pendingMarginCall : Bool
  marginCallAmount : Int
  cureDeadline : Option Nat
  deriving DecidableEq, Repr

structure RepoMarginView where
  exposure : Int
  collateralValue : Int
  ltvBps : Nat
  state : MarginState
  priceOk : Bool
  deriving DecidableEq, Repr

structure PendingUnpause where
  scope : PauseScope
  executesAt : Nat
  deriving DecidableEq, Repr

inductive Event where
  | paused (scope : PauseScope)
  | unpauseQueued (id : Nat) (scope : PauseScope) (executesAt : Nat)
  | unpauseCancelled (id : Nat) (scope : PauseScope)
  | unpauseExecuted (id : Nat) (scope : PauseScope)
  | disable (asset : Address)
  | enable (asset : Address)
  | cancel (id : Nat) (caller : Address)
  | settle (id : Nat) (units : Int)
  | unwind (id : Nat) (totalDue : Int)
  | mcall (id : Nat) (amount : Int)
  | cured (id : Nat)
  | topup (id : Nat) (extraUnits : Int) (cured : Bool)
  | defaulted (id : Nat) (lenderUnits borrowerUnits : Int)
  | matDef (id : Nat) (lenderUnits borrowerUnits : Int)
  deriving DecidableEq, Repr

structure State where
  roles : Option Roles
  paused : Store PauseScope Bool
  nextId : Nat
  usdc : Option Address
  assetConfig : Store Address RepoAssetConfig
  assetDisabled : Store Address Bool
  trades : Store Nat RepoTrade
  cureGrace : Option Nat
  borrowerDue : Store Address Int
  borrowerDueExpiry : Store Address Nat
  maturityGrace : Option Nat
  pendingUnpause : Store Nat PendingUnpause
  latestProposal : Store Address Nat
  events : List Event

/-- A contract nothing has been written to. -/
def State.empty : State where
  roles := none
  paused := Store.empty
  nextId := 0
  usdc := none
  assetConfig := Store.empty
  assetDisabled := Store.empty
  trades := Store.empty
  cureGrace := none
  borrowerDue := Store.empty
  borrowerDueExpiry := Store.empty
  maturityGrace := none
  pendingUnpause := Store.empty
  latestProposal := Store.empty
  events := []

/-- `cure_grace`. -/
def cureGrace (s : State) : Nat := s.cureGrace.getD marginCureGraceSeconds

/-- `maturity_grace`. -/
def maturityGrace (s : State) : Nat :=
  s.maturityGrace.getD defaultMaturityGraceSeconds

/-- `read_asset_config`. -/
def readAssetConfig (s : State) (asset : Address) : Call RepoAssetConfig :=
  expect (s.assetConfig.get asset) "repo-dvp: asset not configured"

/-- `is_asset_disabled`. -/
def isAssetDisabled (s : State) (asset : Address) : Bool :=
  (s.assetDisabled.get asset).getD false

/-- `require_asset_enabled`. -/
def requireAssetEnabled (s : State) (asset : Address) : Call Unit :=
  ensure (isAssetDisabled s asset = false) "repo-dvp: asset is disabled"

/-- `read_trade`. -/
def readTrade (s : State) (id : Nat) : Call RepoTrade :=
  expect (s.trades.get id) "repo-dvp: trade not found"

/-- `write_trade`: under the trade's own id. -/
def writeTrade (s : State) (t : RepoTrade) : State :=
  { s with trades := s.trades.set t.id t }

/-- `read_usdc`. -/
def readUsdc (s : State) : Call Address :=
  expect s.usdc "repo-dvp: usdc not configured"

/-- `require_admin_is`. -/
def requireAdminIs (env : Env) (s : State) (admin : Address) :
    Call Unit := do
  let stored ← requireAdmin env.toHostEnv s.roles
  ensure (stored = admin) "repo-dvp: admin argument mismatch"

/-- `env.events().publish`. -/
def publish (s : State) (e : Event) : State :=
  { s with events := s.events ++ [e] }

-- ====================================================== what is owed when

/-- `accrue_interest`. -/
def accrueInterest (cashAmount : Int) (rateBps elapsedSeconds : Nat) :
    Call Int := do
  let rated ← I128.checked "repo-dvp: overflow accruing interest (rate)"
    (cashAmount * rateBps)
  let timed ← I128.checked "repo-dvp: overflow accruing interest (term)"
    (rated * elapsedSeconds)
  return (timed.tdiv secondsPerYear).tdiv bpsDenominator

/-- `total_due`: principal plus interest over the fixed term. -/
def totalDue (t : RepoTrade) (settledAt : Nat) : Call Int := do
  let interest ← accrueInterest t.cashAmount t.rateBps
    (t.maturityAt - settledAt)
  I128.checked "repo-dvp: overflow computing total due"
    (t.cashAmount + interest)

/-- `read_borrower_due`. -/
def readBorrowerDue (s : State) (borrower : Address) : Int :=
  (s.borrowerDue.get borrower).getD 0

/-- `read_borrower_due_expiry`. -/
def readBorrowerDueExpiry (s : State) (borrower : Address) : Nat :=
  (s.borrowerDueExpiry.get borrower).getD 0

/-- `write_borrower_due`. -/
def writeBorrowerDue (s : State) (borrower : Address) (due : Int)
    (expiry : Nat) : State :=
  if 0 < due then
    { s with
      borrowerDue := s.borrowerDue.set borrower due
      borrowerDueExpiry := s.borrowerDueExpiry.set borrower expiry }
  else
    { s with
      borrowerDue := s.borrowerDue.remove borrower
      borrowerDueExpiry := s.borrowerDueExpiry.remove borrower }

/-- `release_borrower_due`: take a closed trade's ceiling back out. -/
def releaseBorrowerDue (s : State) (t : RepoTrade) : Call State := do
  let ceiling ← totalDue t t.proposedAt
  let left ← I128.sub (readBorrowerDue s t.cashBorrower) ceiling
  return writeBorrowerDue s t.cashBorrower (max left 0)
    (readBorrowerDueExpiry s t.cashBorrower)

/-- `u32::saturating_add`. -/
def U32.satAdd (a b : Nat) : Nat := min (a + b) u32Max

/-- `u32::saturating_mul`. -/
def U32.satMul (a b : Nat) : Nat := min (a * b) u32Max

/-- `allowance_expiry`. -/
def allowanceExpiry (env : Env) (secondsAhead graceLedgers : Nat) : Nat :=
  let ledgersAhead := min (secondsAhead / secondsPerLedger) u32Max
  let earliest := U32.satAdd (U32.satAdd env.sequence ledgersAhead)
    graceLedgers
  let bucketed := U32.satMul
    (U32.satAdd (earliest / allowanceExpiryBucketLedgers) 2)
    allowanceExpiryBucketLedgers
  let furthest := U32.satAdd env.sequence env.maxTtl - 1
  min bucketed (furthest / allowanceExpiryBucketLedgers
    * allowanceExpiryBucketLedgers)

/-- `clear_margin_call`. -/
def clearMarginCall (t : RepoTrade) : RepoTrade :=
  { t with
    pendingMarginCall := false
    marginCallAmount := 0
    cureDeadline := none }

/-- What `evaluate_margin` returns at a price the guard stands behind. -/
structure Margin where
  exposure : Int
  collateralValue : Int
  state : MarginState
  price : Int
  deriving DecidableEq, Repr

/-- `evaluate_margin`. -/
def evaluateMargin (env : Env) (t : RepoTrade) (config : RepoAssetConfig) :
    Call (Option Margin) := do
  let guarded ← env.guardedPrice config.priceGuard t.asset
  if guarded.isUsableForNewRisk then do
    let cv ← collateralValue t.units guarded.value config.haircutBps
    let settledAt := t.settledAt.getD env.timestamp
    let accrued ← accrueInterest t.cashAmount t.rateBps
      (env.timestamp - settledAt)
    let exposure ← I128.checked "repo-dvp: overflow computing exposure"
      (t.cashAmount + accrued)
    let bps ← Ballast.ltvBps exposure cv
    return some ⟨exposure, cv, classify bps config.thresholds, guarded.value⟩
  else return none

/-- Units worth `owed` at `price`, rounded up, capped at the trade's:
the split both defaults make. -/
def lenderUnits (msg : String) (owed price units : Int) : Call Int := do
  let scaled ← I128.checked msg (owed * priceScale)
  let padded ← I128.checked msg (scaled + (price - 1))
  return min (padded.tdiv price) units

-- ======================================================== admin and setup

/-- `initialize`. -/
def initContract (admin pauser keeper pricePublisher risk : Address)
    (s : State) : Call State := do
  ensure (s.roles = none) "repo-dvp: already initialized"
  return { s with
    roles := some ⟨admin, pauser, keeper, pricePublisher, risk⟩ }

/-- `set_usdc`. -/
def setUsdc (env : Env) (admin usdc : Address) (s : State) :
    Call State := do
  requireAdminIs env s admin
  return { s with usdc := some usdc }

/-- `set_cure_grace`. -/
def setCureGrace (env : Env) (admin : Address) (seconds : Nat)
    (s : State) : Call State := do
  requireAdminIs env s admin
  ensure (minCureGraceSeconds ≤ seconds)
    "repo-dvp: cure window is shorter than the minimum"
  return { s with cureGrace := some seconds }

/-- `set_maturity_grace`. -/
def setMaturityGrace (env : Env) (admin : Address) (seconds : Nat)
    (s : State) : Call State := do
  requireAdminIs env s admin
  ensure (minMaturityGraceSeconds ≤ seconds)
    "repo-dvp: maturity grace is shorter than the minimum"
  return { s with maturityGrace := some seconds }

/-- `pause`. -/
def pause (env : Env) (pauser : Address) (scope : PauseScope) (s : State) :
    Call State := do
  env.requireAuth pauser
  let _ ← requirePauser env.toHostEnv s.roles
  return publish { s with paused := s.paused.set scope true }
    (.paused scope)

/-- `queue_unpause`: the id minted, and the storage after. -/
def queueUnpause (env : Env) (admin : Address) (scope : PauseScope)
    (s : State) : Call (Nat × State) := do
  requireAdminIs env s admin
  let (id, next) ← nextId s.nextId
  let at' ← executesAt env.toHostEnv
  return (id, publish { s with
      nextId := next
      pendingUnpause := s.pendingUnpause.set id ⟨scope, at'⟩ }
    (.unpauseQueued id scope at'))

/-- `cancel_unpause`. -/
def cancelUnpause (env : Env) (admin : Address) (id : Nat) (s : State) :
    Call State := do
  requireAdminIs env s admin
  let pending ← expect (s.pendingUnpause.get id)
    "repo-dvp: no such pending unpause"
  return publish { s with pendingUnpause := s.pendingUnpause.remove id }
    (.unpauseCancelled id pending.scope)

/-- `execute_unpause`. -/
def executeUnpause (env : Env) (id : Nat) (s : State) : Call State := do
  let pending ← expect (s.pendingUnpause.get id)
    "repo-dvp: no such pending unpause"
  ensure (IsReady env.toHostEnv pending.executesAt)
    "repo-dvp: timelock has not elapsed"
  return publish { s with
      paused := s.paused.set pending.scope false
      pendingUnpause := s.pendingUnpause.remove id }
    (.unpauseExecuted id pending.scope)

/-- `configure_asset`. -/
def configureAsset (env : Env) (admin asset priceGuard : Address)
    (haircutBps : Nat) (thresholds : MarginThresholds) (s : State) :
    Call State := do
  requireAdminIs env s admin
  ensure ((haircutBps : Int) ≤ bpsDenominator)
    "repo-dvp: haircut exceeds 100%"
  thresholds.validate
  return { s with
    assetConfig := s.assetConfig.set asset
      ⟨priceGuard, haircutBps, thresholds⟩ }

/-- `disable_asset`. -/
def disableAsset (env : Env) (admin asset : Address) (s : State) :
    Call State := do
  requireAdminIs env s admin
  let _ ← readAssetConfig s asset
  return publish { s with assetDisabled := s.assetDisabled.set asset true }
    (.disable asset)

/-- `enable_asset`. -/
def enableAsset (env : Env) (admin asset : Address) (s : State) :
    Call State := do
  requireAdminIs env s admin
  let _ ← readAssetConfig s asset
  return publish { s with assetDisabled := s.assetDisabled.remove asset }
    (.enable asset)

-- ================================================================ leg 1

/-- The trade `propose` writes. -/
def newTrade (env : Env) (id : Nat) (cashLender cashBorrower asset : Address)
    (units cashAmount : Int) (rateBps : Nat) (kind : RepoKind)
    (maturityAt : Nat) (agreementHash : BytesN 32) : RepoTrade where
  id := id
  cashLender := cashLender
  cashBorrower := cashBorrower
  asset := asset
  units := units
  cashAmount := cashAmount
  rateBps := rateBps
  kind := kind
  maturityAt := maturityAt
  agreementHash := agreementHash
  proposedAt := env.timestamp
  status := .proposed
  leg1Ledger := none
  settledAt := none
  pendingMarginCall := false
  marginCallAmount := 0
  cureDeadline := none

/-- `propose`: the id minted, and the world after. -/
def propose (env : Env) (cashLender cashBorrower asset : Address)
    (units cashAmount : Int) (rateBps : Nat) (kind : RepoKind)
    (maturityAt : Nat) (agreementHash : BytesN 32) (w : World State) :
    Call (Nat × World State) := do
  env.requireAuth cashLender
  requireAssetEnabled w.store asset
  ensure (0 < units) "repo-dvp: units must be positive"
  ensure (0 < cashAmount) "repo-dvp: cash_amount must be positive"
  ensure (env.timestamp < maturityAt)
    "repo-dvp: maturity_at must be in the future"
  let _ ← readAssetConfig w.store asset
  let usdc ← readUsdc w.store
  let tokens ← w.tokens.approve env.toHostEnv usdc cashLender env.self
    cashAmount (allowanceExpiry env (maturityAt - env.timestamp) 0)
  let (id, next) ← nextId w.store.nextId
  let t := newTrade env id cashLender cashBorrower asset units cashAmount
    rateBps kind maturityAt agreementHash
  return (id, ⟨tokens, writeTrade { w.store with
    nextId := next
    latestProposal := w.store.latestProposal.set cashLender id } t⟩)

/-- The allowance leg of `cancel_proposal`: the lender's own cancel of
its latest proposal takes the leg-1 allowance back. -/
def resetAllowance (env : Env) (caller : Address) (id : Nat)
    (t : RepoTrade) (w : World State) : Call Ledger :=
  if caller = t.cashLender ∧ w.store.latestProposal.get t.cashLender
      = some id then do
    let usdc ← readUsdc w.store
    w.tokens.approve env.toHostEnv usdc t.cashLender env.self 0
      (allowanceExpiry env 0 0)
  else return w.tokens

/-- `cancel_proposal`. -/
def cancelProposal (env : Env) (caller : Address) (id : Nat)
    (w : World State) : Call (World State) := do
  env.requireAuth caller
  let t ← readTrade w.store id
  ensure (t.status = .proposed)
    "repo-dvp: trade is not in proposed status"
  ensure (caller = t.cashLender ∨ caller = t.cashBorrower)
    "repo-dvp: caller is neither lender nor borrower"
  let tokens ← resetAllowance env caller id t w
  return ⟨tokens, publish (writeTrade w.store { t with status := .cancelled })
    (.cancel id caller)⟩

/-- The trade `accept_and_settle` writes. -/
def settledTrade (env : Env) (t : RepoTrade) : RepoTrade :=
  { t with
    status := .settled
    leg1Ledger := some env.sequence
    settledAt := some env.timestamp }

/-- `accept_and_settle`. -/
def acceptAndSettle (env : Env) (cashBorrower : Address) (id : Nat)
    (w : World State) : Call (World State) := do
  env.requireAuth cashBorrower
  requireNotPaused w.store.paused .repos
  let t ← readTrade w.store id
  requireAssetEnabled w.store t.asset
  ensure (t.status = .proposed)
    "repo-dvp: trade is not in proposed status"
  ensure (t.cashBorrower = cashBorrower)
    "repo-dvp: caller is not the trade's cash borrower"
  ensure (env.timestamp < t.maturityAt)
    "repo-dvp: proposal is past its maturity"
  let _ ← readAssetConfig w.store t.asset
  let tokens ← w.tokens.transfer env.toHostEnv t.asset cashBorrower env.self
    t.units
  let usdc ← readUsdc w.store
  let tokens ← tokens.transferFrom env.toHostEnv usdc env.self t.cashLender
    cashBorrower t.cashAmount
  let ceiling ← totalDue t t.proposedAt
  let outstanding ← I128.checked
    "repo-dvp: overflow summing the borrower's leg-2 due"
    (readBorrowerDue w.store cashBorrower + ceiling)
  let expiry := max (allowanceExpiry env (t.maturityAt - env.timestamp)
    unwindAllowanceGraceLedgers) (readBorrowerDueExpiry w.store cashBorrower)
  let tokens ← tokens.approve env.toHostEnv usdc cashBorrower env.self
    outstanding expiry
  let s := writeBorrowerDue w.store cashBorrower outstanding expiry
  return ⟨tokens, publish (writeTrade s (settledTrade env t))
    (.settle id t.units)⟩

-- ================================================================ leg 2

/-- The cash leg of `unwind`: the borrower pays directly, anybody else
spends the allowance the borrower granted at settlement. -/
def payDue (env : Env) (caller usdc : Address) (t : RepoTrade) (due : Int)
    (tokens : Ledger) : Call Ledger :=
  if caller = t.cashBorrower then
    tokens.transfer env.toHostEnv usdc t.cashBorrower t.cashLender due
  else
    tokens.transferFrom env.toHostEnv usdc env.self t.cashBorrower
      t.cashLender due

/-- Anyone but `parties` has to be the keeper. -/
def requirePartyOrKeeper (s : State) (caller : Address)
    (parties : List Address) (msg : String) : Call Unit :=
  if caller ∈ parties then return ()
  else do
    let r ← readRoles s.roles
    ensure (caller = r.keeper) msg

/-- `unwind`. -/
def unwind (env : Env) (caller : Address) (id : Nat) (w : World State) :
    Call (World State) := do
  env.requireAuth caller
  let t ← readTrade w.store id
  ensure (t.status = .settled) "repo-dvp: trade is not settled"
  requirePartyOrKeeper w.store caller [t.cashLender, t.cashBorrower]
    "repo-dvp: caller is neither party nor keeper"
  ensure (t.maturityAt ≤ env.timestamp) "repo-dvp: not yet at maturity"
  let settledAt ← expect t.settledAt
    "repo-dvp: trade has no settlement time"
  let due ← totalDue t settledAt
  let usdc ← readUsdc w.store
  let tokens ← payDue env caller usdc t due w.tokens
  let tokens ← tokens.transfer env.toHostEnv t.asset env.self t.cashBorrower
    t.units
  let t := { t with status := .unwound }
  let s ← releaseBorrowerDue (writeTrade w.store t) t
  return ⟨tokens, publish s (.unwind id due)⟩

-- =============================================================== margin

/-- The trade `call_margin` writes at `MarginCall` or worse: the amount
moves, an open cure window does not. -/
def calledTrade (env : Env) (s : State) (t : RepoTrade) (amount : Int) :
    Call RepoTrade :=
  if t.pendingMarginCall then return { t with marginCallAmount := amount }
  else do
    let deadline ← U64.add env.timestamp (cureGrace s)
    return { t with
      marginCallAmount := amount
      pendingMarginCall := true
      cureDeadline := some deadline }

/-- `call_margin`. -/
def callMargin (env : Env) (keeper : Address) (id : Nat) (s : State) :
    Call State := do
  let _ ← requireKeeper env.toHostEnv s.roles
  env.requireAuth keeper
  let t ← readTrade s id
  ensure (t.status = .settled) "repo-dvp: trade is not settled"
  let config ← readAssetConfig s t.asset
  let evaluated ← evaluateMargin env t config
  let m ← expect evaluated
    "repo-dvp: price is not Ok, cannot evaluate margin"
  if m.state.isUnhealthy then do
    let scaled ← I128.checked "repo-dvp: overflow computing margin target"
      (m.exposure * bpsDenominator)
    ensure (config.thresholds.marginCallBps ≠ 0) "attempt to divide by zero"
    let target := scaled.tdiv config.thresholds.marginCallBps
    let gap ← I128.sub target m.collateralValue
    let t ← calledTrade env s t (max gap 0)
    return publish (writeTrade s t) (.mcall id (max gap 0))
  else if t.pendingMarginCall then
    return publish (writeTrade s (clearMarginCall t)) (.cured id)
  else return s

/-- The second half of `top_up`: with a call open and a usable price, a
position back under the threshold is cured. -/
def cureIfHealthy (env : Env) (s : State) (t : RepoTrade) :
    Call (RepoTrade × Bool) :=
  if t.pendingMarginCall then do
    let config ← readAssetConfig s t.asset
    let evaluated ← evaluateMargin env t config
    match evaluated with
    | some m =>
        if m.state.isUnhealthy then return (t, false)
        else return (clearMarginCall t, true)
    | none => return (t, false)
  else return (t, false)

/-- `top_up`. -/
def topUp (env : Env) (cashBorrower : Address) (id : Nat)
    (extraUnits : Int) (w : World State) : Call (World State) := do
  env.requireAuth cashBorrower
  ensure (0 < extraUnits) "repo-dvp: top-up must be positive"
  let t ← readTrade w.store id
  ensure (t.status = .settled) "repo-dvp: trade is not settled"
  ensure (t.cashBorrower = cashBorrower)
    "repo-dvp: only the cash borrower can top up"
  let tokens ← w.tokens.transfer env.toHostEnv t.asset cashBorrower env.self
    extraUnits
  let units ← I128.checked "repo-dvp: overflow adding collateral"
    (t.units + extraUnits)
  let (t, cured) ← cureIfHealthy env w.store { t with units := units }
  return ⟨tokens, publish (writeTrade w.store t)
    (.topup id extraUnits cured)⟩

-- ============================================================= defaults

/-- The collateral legs of a default: the lender's share, then what is
left to the borrower. -/
def splitCollateral (env : Env) (t : RepoTrade) (lenderUnits : Int)
    (tokens : Ledger) : Call Ledger := do
  let borrowerUnits ← I128.sub t.units lenderUnits
  let tokens ← tokens.transfer env.toHostEnv t.asset env.self t.cashLender
    lenderUnits
  if 0 < borrowerUnits then
    tokens.transfer env.toHostEnv t.asset env.self t.cashBorrower
      borrowerUnits
  else return tokens

/-- `default_close`. -/
def defaultClose (env : Env) (keeper : Address) (id : Nat)
    (w : World State) : Call (World State) := do
  let _ ← requireKeeper env.toHostEnv w.store.roles
  env.requireAuth keeper
  let t ← readTrade w.store id
  ensure (t.status = .settled) "repo-dvp: trade is not settled"
  ensure (t.pendingMarginCall = true)
    "repo-dvp: no active margin call to default on"
  let deadline ← expect t.cureDeadline
    "repo-dvp: margin call has no cure deadline"
  ensure (deadline ≤ env.timestamp)
    "repo-dvp: cure window has not expired yet"
  let config ← readAssetConfig w.store t.asset
  let evaluated ← evaluateMargin env t config
  let m ← expect evaluated "repo-dvp: price is not Ok, cannot default"
  ensure (m.state.isUnhealthy) "repo-dvp: margin call has been cured"
  ensure (0 < m.price) "repo-dvp: guarded price is not positive"
  let share ← lenderUnits "repo-dvp: overflow valuing the exposure"
    m.exposure m.price t.units
  let tokens ← splitCollateral env t share w.tokens
  let t := { t with status := .defaulted }
  let s ← releaseBorrowerDue (writeTrade w.store t) t
  return ⟨tokens, publish s (.defaulted id share (t.units - share))⟩

/-- `default_at_maturity`. -/
def defaultAtMaturity (env : Env) (caller : Address) (id : Nat)
    (w : World State) : Call (World State) := do
  env.requireAuth caller
  let t ← readTrade w.store id
  ensure (t.status = .settled) "repo-dvp: trade is not settled"
  requirePartyOrKeeper w.store caller [t.cashLender]
    "repo-dvp: caller is neither lender nor keeper"
  let defaultAfter ← U64.checked
    "repo-dvp: overflow computing maturity grace"
    (t.maturityAt + maturityGrace w.store)
  ensure (defaultAfter ≤ env.timestamp)
    "repo-dvp: maturity grace period has not expired yet"
  let settledAt ← expect t.settledAt
    "repo-dvp: trade has no settlement time"
  let due ← totalDue t settledAt
  let config ← readAssetConfig w.store t.asset
  let guarded ← env.guardedPrice config.priceGuard t.asset
  ensure (guarded.isUsableForNewRisk)
    "repo-dvp: price is not Ok, cannot default"
  ensure (0 < guarded.value) "repo-dvp: guarded price is not positive"
  let share ← lenderUnits "repo-dvp: overflow valuing total due" due
    guarded.value t.units
  let tokens ← splitCollateral env t share w.tokens
  let t := { t with status := .defaulted }
  return ⟨tokens, publish (writeTrade w.store t)
    (.matDef id share (t.units - share))⟩

-- ================================================================ views

/-- `margin_view`. -/
def marginView (env : Env) (id : Nat) (s : State) :
    Call RepoMarginView := do
  let t ← readTrade s id
  let config ← readAssetConfig s t.asset
  let evaluated ← evaluateMargin env t config
  match evaluated with
  | some m => do
      let bps ← Ballast.ltvBps m.exposure m.collateralValue
      return ⟨m.exposure, m.collateralValue, bps, m.state, true⟩
  | none => return ⟨0, 0, 0, .healthy, false⟩

-- =========================================================== the machine

/-- The entry points that change storage, with their arguments. -/
inductive Entry where
  | initContract (admin pauser keeper pricePublisher risk : Address)
  | setUsdc (admin usdc : Address)
  | setCureGrace (admin : Address) (seconds : Nat)
  | setMaturityGrace (admin : Address) (seconds : Nat)
  | pause (pauser : Address) (scope : PauseScope)
  | queueUnpause (admin : Address) (scope : PauseScope)
  | cancelUnpause (admin : Address) (id : Nat)
  | executeUnpause (id : Nat)
  | configureAsset (admin asset priceGuard : Address) (haircutBps : Nat)
      (thresholds : MarginThresholds)
  | disableAsset (admin asset : Address)
  | enableAsset (admin asset : Address)
  | propose (cashLender cashBorrower asset : Address)
      (units cashAmount : Int) (rateBps : Nat) (kind : RepoKind)
      (maturityAt : Nat) (agreementHash : BytesN 32)
  | cancelProposal (caller : Address) (id : Nat)
  | acceptAndSettle (cashBorrower : Address) (id : Nat)
  | unwind (caller : Address) (id : Nat)
  | callMargin (keeper : Address) (id : Nat)
  | topUp (cashBorrower : Address) (id : Nat) (extraUnits : Int)
  | defaultClose (keeper : Address) (id : Nat)
  | defaultAtMaturity (caller : Address) (id : Nat)

/-- Storage-only entry points leave the token ledger alone. -/
def onStore (w : World State) (r : Call State) : Call (World State) :=
  r.map fun s => ⟨w.tokens, s⟩

/-- One contract call. -/
def call (env : Env) (e : Entry) (w : World State) :
    Call (World State) :=
  match e with
  | .initContract admin pauser keeper pricePublisher risk =>
      onStore w (initContract admin pauser keeper pricePublisher risk
        w.store)
  | .setUsdc admin usdc => onStore w (setUsdc env admin usdc w.store)
  | .setCureGrace admin seconds =>
      onStore w (setCureGrace env admin seconds w.store)
  | .setMaturityGrace admin seconds =>
      onStore w (setMaturityGrace env admin seconds w.store)
  | .pause pauser scope => onStore w (pause env pauser scope w.store)
  | .queueUnpause admin scope =>
      onStore w ((queueUnpause env admin scope w.store).map Prod.snd)
  | .cancelUnpause admin id =>
      onStore w (cancelUnpause env admin id w.store)
  | .executeUnpause id => onStore w (executeUnpause env id w.store)
  | .configureAsset admin asset priceGuard haircutBps thresholds =>
      onStore w (configureAsset env admin asset priceGuard haircutBps
        thresholds w.store)
  | .disableAsset admin asset =>
      onStore w (disableAsset env admin asset w.store)
  | .enableAsset admin asset =>
      onStore w (enableAsset env admin asset w.store)
  | .propose cashLender cashBorrower asset units cashAmount rateBps kind
      maturityAt agreementHash =>
      (propose env cashLender cashBorrower asset units cashAmount rateBps
        kind maturityAt agreementHash w).map Prod.snd
  | .cancelProposal caller id => cancelProposal env caller id w
  | .acceptAndSettle cashBorrower id => acceptAndSettle env cashBorrower id w
  | .unwind caller id => unwind env caller id w
  | .callMargin keeper id => onStore w (callMargin env keeper id w.store)
  | .topUp cashBorrower id extraUnits =>
      topUp env cashBorrower id extraUnits w
  | .defaultClose keeper id => defaultClose env keeper id w
  | .defaultAtMaturity caller id => defaultAtMaturity env caller id w

/-- What can happen next: a call into the contract, or token activity
the contract takes no part in. -/
inductive Tx where
  | call (env : Env) (e : Entry)
  | outside (tokens : Ledger)

/-- The same at ledger time `now`. -/
def Tx.at (now : Nat) : Tx → Tx
  | .call env e => .call { env with timestamp := now } e
  | .outside tokens => .outside tokens

/-- The contract deployed at `self`. -/
def machine (self : Address) : Machine (World State) Tx where
  init := ⟨Ledger.empty, State.empty⟩
  apply
    | .call env e, w => call (env.at self) e w
    | .outside tokens, w => .ok { w with tokens := tokens }

-- ================================================= a deployment to run

namespace Demo

def self : Address := ⟨100⟩

def usdc : Address := ⟨11⟩

def asset : Address := ⟨10⟩

def guard : Address := ⟨12⟩

def lender : Address := ⟨2⟩

def borrower : Address := ⟨3⟩

/-- A third party, who may be on either side of a trade. -/
def dealer : Address := ⟨4⟩

/-- Everybody signs; the guard stands behind a price of 1.00. -/
def env (timestamp sequence : Nat) : Env where
  self := self
  timestamp := timestamp
  sequence := sequence
  maxTtl := 3110400
  auth := fun _ => true
  guardedPrice := fun _ a => .ok ⟨a, 10000000, .ok, timestamp, []⟩

/-- Initialised for one asset, with 1000 USDC for the lender, 1000 for
the dealer, and 500 units of collateral for the borrower and for the
dealer. -/
def setup : List Tx :=
  [.call (env 0 0) (.initContract ⟨1⟩ ⟨1⟩ ⟨1⟩ ⟨1⟩ ⟨1⟩),
   .call (env 0 0) (.setUsdc ⟨1⟩ usdc),
   .call (env 0 0) (.configureAsset ⟨1⟩ asset guard 0
     ⟨7000, 8000, 9000⟩),
   .outside ((((Ledger.empty.credit usdc lender 1000).credit usdc dealer
     1000).credit asset borrower 500).credit asset dealer 500)]

/-- 100 USDC lent against 200 units until time 1000, as trade `id`,
proposed and accepted at time 10. -/
def repo (lender borrower : Address) (id : Nat) : List Tx :=
  [.call (env 10 2) (.propose lender borrower asset 200 100 0 .term 1000
     (Vector.replicate 32 0)),
   .call (env 10 3) (.acceptAndSettle borrower id)]

/-- Nothing is paused, and an unpause of repos is queued. -/
def beforePause : List (Nat × Tx) :=
  [(0, .call (env 0 0) (.initContract ⟨1⟩ ⟨1⟩ ⟨1⟩ ⟨1⟩ ⟨1⟩)),
   (0, .call (env 0 0) (.queueUnpause ⟨1⟩ .repos))]

/-- Two days later repos are paused. -/
def pauseRepos : Nat × Tx := (172800, .call (env 0 0) (.pause ⟨1⟩ .repos))

def unpauseRepos : Nat × Tx := (172801, .call (env 0 0) (.executeUnpause 0))

end Demo

end Ballast.RepoDvp
