/-
The keeper's `runSyncCollateralJob`, over the two contracts it keeps in
step.

The turn of a line reads the line, then the vault's position, and when the
two differ submits `sync_collateral` with the position. Each read is a
request of its own, and the transaction lands when it lands: anyone's
transactions may commit in between. A turn may end anywhere, and what it
has submitted may land after it or never. The turns of any number of
processes are in flight at once.
-/
import Ballast.Api.Books
import Ballast.Wired.Basic

namespace Ballast.Keeper.SyncCollateral

open Soroban
open Api (RowId CreditLineRow)

-- ================================================================= the state

/-- How far a turn is. -/
inductive Turn where
  | selected (contractLine : Nat)
  /-- the line is read -/
  | sized (contractLine : Nat) (asset : Address) (pledgedUnits : Int)
  /-- the transaction is submitted -/
  | submitted (contractLine : Nat) (held : Int)
  deriving DecidableEq, Repr

structure System where
  world : World Wired.State
  creditLine : Store RowId CreditLineRow
  turns : Store Nat Turn

variable (d : Wired.Deployment) (keeper : Address)

def turnAt (s : System) (w : Nat) : Call Turn :=
  expect (s.turns.get w) "no such turn"

-- ================================================================== the turn

/-- An open row with its line on chain. -/
def select (w : Nat) (r : RowId) (s : System) : Call System := do
  ensure ((s.turns.get w).isNone) "a new turn"
  let row ← expect (s.creditLine.get r) "no such row"
  ensure (row.status = .opened) "not open"
  let contractLine ← expect row.contractLineId "not on-chain"
  return { s with turns := s.turns.set w (.selected contractLine) }

/-- `creditLineClient.line`. -/
def readLine (w : Nat) (s : System) : Call System := do
  match ← turnAt s w with
  | .selected contractLine =>
      let onChain ← CreditLine.readLine s.world.store.creditLine contractLine
      return { s with
        turns := s.turns.set w
          (.sized contractLine onChain.asset onChain.pledgedUnits) }
  | _ => throw "nothing to read"

/-- `pledgeVaultClient.positionUnits`, and the comparison. -/
def readPosition (w : Nat) (s : System) : Call System := do
  match ← turnAt s w with
  | .sized contractLine asset pledgedUnits =>
      let held := PledgeVault.positionUnits s.world.store.vault contractLine
        asset
      if pledgedUnits = held then
        return { s with turns := s.turns.remove w }
      else
        return { s with
          turns := s.turns.set w (.submitted contractLine held) }
  | _ => throw "nothing to read"

/-- The transaction of a turn. -/
def syncTx (env : Env) (contractLine : Nat) (held : Int) : Wired.Tx :=
  .creditLine env (.syncCollateral keeper contractLine held)

/-- The transaction lands. -/
def land (w : Nat) (env : Env) (s : System) : Call System := do
  match ← turnAt s w with
  | .submitted contractLine held =>
      return { s with
        world := (Wired.machine d).exec s.world
          (syncTx keeper env contractLine held)
        turns := s.turns.remove w }
  | _ => throw "nothing to land"

-- =============================================================== the machine

inductive Act where
  | tx (tx : Wired.Tx)
  /-- others write the books -/
  | rows (creditLine : Store RowId CreditLineRow)
  | select (w : Nat) (r : RowId)
  | readLine (w : Nat)
  | readPosition (w : Nat)
  | land (w : Nat) (env : Env)
  /-- the turn ends, or its transaction will not land -/
  | stop (w : Nat)

def step (a : Act) (s : System) : Call System :=
  match a with
  | .tx tx => do
      let world ← (Wired.machine d).apply tx s.world
      return { s with world := world }
  | .rows creditLine => return { s with creditLine := creditLine }
  | .select w r => select w r s
  | .readLine w => readLine w s
  | .readPosition w => readPosition w s
  | .land w env => land d keeper w env s
  | .stop w => return { s with turns := s.turns.remove w }

/-- The job at work over the contracts as `start` has them. -/
def machine (start : World Wired.State) : Machine System Act where
  init := ⟨start, Store.empty, Store.empty⟩
  apply := step d keeper

/-- Others' transactions keep the wiring. -/
def KeepsWiring (a : Act) (s : System) : Prop :=
  match a with
  | .tx tx => Wired.KeepsWiring d tx s.world
  | _ => True

namespace Demo

def operator : Address := ⟨1⟩

def rows : Store RowId CreditLineRow :=
  Store.empty.set 7 ⟨2, 3, .opened, some 0, none⟩

/-- The lending contracts with the line's figure one short. -/
def drifted : World Wired.State :=
  let M := Wired.machine Wired.Demo.deployment
  M.run M.init (Wired.Demo.lent
    ++ [syncTx operator (Wired.Demo.env 0 6 10000000) 0 4999])

/-- A turn with nobody in between. -/
def turn : List Act :=
  [.rows rows, .select 0 7, .readLine 0, .readPosition 0]

/-- The same after the demo lends, with every line in step. -/
def healthy : List Act := Wired.Demo.lent.map .tx ++ turn

/-- A pledge of 100 between the two reads of a turn, and its release
before the landing. -/
def torn : List Act :=
  Wired.Demo.lent.map .tx ++
  [.rows rows, .select 0 7, .readLine 0,
   .tx (.outside ((Ledger.empty.credit Wired.Demo.asset
      Wired.Demo.deployment.vault 5000).credit Wired.Demo.asset
      Wired.Demo.borrower 100)),
   .tx (.vault (Wired.Demo.env 0 7 10000000)
      (.pledge Wired.Demo.borrower 0 Wired.Demo.asset 100)),
   .readPosition 0,
   .tx (.vault (Wired.Demo.env 0 8 10000000)
      (.release Wired.Demo.borrower 0 Wired.Demo.asset 100)),
   .land 0 (Wired.Demo.env 0 9 10000000)]

end Demo

end Ballast.Keeper.SyncCollateral
