/-
The contracts and the price guard they ask, deployed together.

# Asking for a price

A draw, an exit, a release or a default calls `guarded_price` of the guard
in its own transaction, and the guard writes down what it found: the last
good price, the window's reference, a halt. A transaction names the asset
it may ask the price of (`asks`), as every transaction names what it
touches before it runs. The guard evaluates that asset once, ahead of the
call, and each question of the call gets this answer: to ask twice in one
ledger is to ask once. A question about anything else aborts, and so does
one to a guard nobody deployed. When a call does not ask after all, the
evaluation is that of somebody who called `guarded_price` just before it.

# The guard alone

Publishers, the admin and the risk role call the guard in transactions of
their own, between those of the others.
-/
import Ballast.Api.Chain
import Ballast.PriceGuard.Basic

namespace Ballast.Priced

open Soroban Api

-- ========================================================== deployment

structure Deployed extends Api.Deployed where
  guard : Address

structure World where
  guard : PriceGuard.State
  chain : Chain

/-- What can happen next: a call into the guard, a call into one of the
contracts that ask it, or token activity none of them takes part in. -/
inductive Tx where
  | guard (tx : PriceGuard.Tx)
  | call (asks : Option Address) (env : HostEnv) (e : Envelope)
  | outside (tokens : Ledger)

-- ============================================================= the guard

/-- The price of the asset a transaction asks for, and the guard after. -/
def ask (d : Deployed) (env : HostEnv) (s : PriceGuard.State) :
    Option Address → Call (Option GuardedPrice × PriceGuard.State)
  | none => return (none, s)
  | some asset => do
      ensure (s.wasm = none) "host: the contract's code was replaced"
      let (g, s) ← PriceGuard.evaluate (env.into d.guard) asset s
      return (some g, s)

/-- `PriceGuardClient::guarded_price` for the rest of the transaction. -/
def answer (d : Deployed) (g : Option GuardedPrice)
    (guard asset : Address) : Call GuardedPrice := do
  ensure (guard = d.guard) "host: no contract at this address"
  expect (g.filter fun p => decide (p.asset = asset))
    "host: outside of the transaction's footprint"

/-- What a contract sees. -/
def answered (d : Deployed) (env : HostEnv) (g : Option GuardedPrice) :
    Env :=
  { env with guardedPrice := answer d g }

-- =========================================================== the machine

/-- The contracts as one machine, from `start` on, with a guard nothing
has been written to. -/
def machine (d : Deployed) (start : Chain) : Machine World Tx where
  init := ⟨PriceGuard.State.empty, start⟩
  apply
    | .guard tx, w =>
        ((PriceGuard.machine d.guard).apply tx w.guard).map fun s =>
          { w with guard := s }
    | .call asks env e, w => do
        let (g, s) ← ask d env w.guard asks
        let c ← (chainMachine d.toDeployed start).apply
          (e.invoke (answered d env g)) w.chain
        return ⟨s, c⟩
    | .outside tokens, w => .ok { w with chain.tokens := tokens }

-- ======================================================= where it decides

/-- The calls that go by the price of an asset: `e` takes on new risk in
it, or takes somebody's collateral for what it is worth. -/
inductive Decides (c : Chain) (env : HostEnv) : Envelope → Address → Prop
    where
  | draw {borrower recipient : Address} {line : Nat} {amount : Int}
      {l : CreditLine.Line}
      (hl : c.lending.creditLine.lines.get line = some l) :
      Decides c env (.creditLine (.draw borrower line amount recipient))
        l.asset
  | liquidate {keeper : Address} {line : Nat} {route : LiquidationRoute}
      {l : CreditLine.Line}
      (hl : c.lending.creditLine.lines.get line = some l) :
      Decides c env (.creditLine (.liquidate keeper line route)) l.asset
  /-- collateral of a line that owes something -/
  | release {borrower asset : Address} {line : Nat} {units debt : Int}
      {l : CreditLine.Line}
      (hl : c.lending.creditLine.lines.get line = some l)
      (hdebt : CreditLine.debtAt l env.timestamp = .ok debt)
      (hpos : 0 < debt) :
      Decides c env (.pledgeVault (.release borrower line asset units)) asset
  | exit {holder asset payTo : Address} {units minUsdcOut : Int} :
      Decides c env (.exitDesk (.exit holder asset units minUsdcOut payTo))
        asset
  | callMargin {keeper : Address} {id : Nat} {t : RepoDvp.RepoTrade}
      (ht : c.repo.trades.get id = some t) :
      Decides c env (.repoDvp (.callMargin keeper id)) t.asset
  | defaultClose {keeper : Address} {id : Nat} {t : RepoDvp.RepoTrade}
      (ht : c.repo.trades.get id = some t) :
      Decides c env (.repoDvp (.defaultClose keeper id)) t.asset
  | defaultAtMaturity {caller : Address} {id : Nat} {t : RepoDvp.RepoTrade}
      (ht : c.repo.trades.get id = some t) :
      Decides c env (.repoDvp (.defaultAtMaturity caller id)) t.asset

-- ================================================= a deployment to run

namespace Demo

def deployed : Deployed := ⟨Api.Demo.deployed, Wired.Demo.guard⟩

/-- Everybody signs. -/
def host (timestamp sequence : Nat) : HostEnv :=
  (Wired.Demo.env timestamp sequence 0).toHostEnv

/-- Two sources agree on 1.00. -/
def agreed : List Tx :=
  (PriceGuard.Demo.setup ++ [PriceGuard.Demo.reading "reflector" 10000000 0,
    PriceGuard.Demo.reading "band" 10000000 0]).map .guard

/-- A day later they agree on 1.10. -/
def halted : List Tx := agreed ++
  [PriceGuard.Demo.reading "reflector" 11000000 90000,
    PriceGuard.Demo.reading "band" 11000000 90000].map .guard

def drawing : Envelope :=
  .creditLine (.draw Wired.Demo.borrower 0 100 Wired.Demo.borrower)

def drawn : List Tx :=
  agreed ++ [.call (some Wired.Demo.asset) (host 0 2) drawing]

/-- The feeds go back to 1.00. -/
def later : List Tx :=
  [PriceGuard.Demo.reading "reflector" 10000000 90000,
    PriceGuard.Demo.reading "band" 10000000 90000].map .guard

end Demo

end Ballast.Priced
