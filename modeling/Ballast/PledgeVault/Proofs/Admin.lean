/-
What the admin can do to pledged collateral.

# The promise

Units in escrow leave the vault when the line's borrower releases them
or the keeper liquidates them. So while neither signs anything, whatever
the admin and everybody else do, the vault should hold at least the
units of those borrowers' escrow positions.

# Where it fails

`release` asks the credit line the asset is configured with whose line
it is, and the admin may point that configuration anywhere at any time.
A contract of the admin's own making names anybody as the borrower and
reports no debt (`admin_takes_collateral`).

# When it holds

As long as the configured credit line names the borrower the original
one recorded whenever somebody releases (`silent_collateral_kept`). The
units of a silent borrower's position then only grow (`Kept`), and the
balance covers what is in escrow.
-/
import Ballast.PledgeVault.Proofs.Escrow
import Ballast.Wired.Basic

namespace Ballast.PledgeVault

open Soroban Machine

variable {κ : Type} {net : CreditLineInterface κ} {env : Env}
  {w w' : Scene κ} {s : State} {e : Entry} {self : Address}
  {owner : Nat → Address} {silent : Address → Bool}

-- ========================================================== the promise

/-- What a position adds to the escrow of `a`, if the owner of its line
is silent. -/
def silentPart (owner : Nat → Address) (silent : Address → Bool)
    (a : Address) (k : Nat × Address) (p : Position) : Int :=
  if silent (owner k.1) then escrowPart a k p else 0

/-- The units of all escrow positions in `a` of silent owners. -/
def silentUnits (owner : Nat → Address) (silent : Address → Bool)
    (s : State) (a : Address) : Int :=
  s.positions.total (silentPart owner silent a)

/-- Neither the silent nor the vault's keeper sign, and nothing outside
debits the vault. -/
def Silent (addr : Address) (silent : Address → Bool) :
    Tx κ → Scene κ → Prop
  | .call env _, w => (∀ a, silent a = true → env.auth a = false)
      ∧ ∀ r, w.vault.roles = some r → env.auth r.keeper = false
  | .outside tokens _, w => ∀ a, w.tokens.balance a addr ≤ tokens.balance a addr

/-- The credit line `asset` is configured with names `owner line` as the
line's borrower, if it answers at all. -/
def NamesOwner (net : CreditLineInterface κ) (owner : Nat → Address)
    (env : Env) (w : Scene κ) (line : Nat) (asset : Address) : Prop :=
  ∀ config b, w.vault.assetConfig.get asset = some config →
    net.borrowerOf (env.into config.creditLine) line w.peers = .ok b →
    b = owner line

/-- Pledges are made under a configuration that names the owner, and
nothing outside debits the vault. -/
def HonestPledges (net : CreditLineInterface κ) (addr : Address)
    (owner : Nat → Address) : Tx κ → Scene κ → Prop
  | .call env (.pledge _ line asset _), w =>
      NamesOwner net owner (env.at addr) w line asset
  | .call _ _, _ => True
  | .outside tokens _, w => ∀ a, w.tokens.balance a addr ≤ tokens.balance a addr

/-- Releases on the silent owners' lines are asked for under a
configuration that names the owner. -/
def HonestReleases (net : CreditLineInterface κ) (addr : Address)
    (owner : Nat → Address) (silent : Address → Bool) :
    Tx κ → Scene κ → Prop
  | .call env (.release _ line asset _), w =>
      silent (owner line) = true →
        NamesOwner net owner (env.at addr) w line asset
  | _, _ => True

theorem HonestPledges.noOutsideDebit {tx : Tx κ}
    (h : HonestPledges net self owner tx w) : NoOutsideDebit self tx w := by
  cases tx with
  | outside => exact h
  | call => trivial

-- =========================================================== what grows

/-- Every escrow position of a silent owner has kept its units. -/
def Kept (owner : Nat → Address) (silent : Address → Bool) (s s' : State) :
    Prop :=
  ∀ a line asset, silent (owner line) = true →
    escrowPart a (line, asset) (readPosition s line asset)
      ≤ escrowPart a (line, asset) (readPosition s' line asset)

theorem Kept.refl (s : State) : Kept owner silent s s :=
  fun _ _ _ _ => le_rfl

/-- A pledge never takes anything out of escrow. -/
theorem escrowPart_pledged {a asset : Address} {line : Nat} {units : Int}
    {mode : CustodyMode} {p p' : Position} (hpos : 0 < units)
    (hp : PositionOk p)
    (hmode : (p.units = 0 ∧ p.pendingLienUnits = 0) ∨ p.mode = mode)
    (h : pledgedPosition mode p units = .ok p') :
    escrowPart a (line, asset) p ≤ escrowPart a (line, asset) p' := by
  have hnonneg := hp.units_nonneg
  rcases pledgedPosition_cases h with ⟨hesc, -, rfl⟩ | ⟨hlien, rfl⟩
  · unfold escrowPart
    by_cases ha : asset = a
    · have hnew : asset = a ∧ mode = .escrow := ⟨ha, hesc⟩
      rw [if_pos hnew]
      split
      · show p.units ≤ p.units + units
        omega
      · show 0 ≤ p.units + units
        omega
    · rw [if_neg fun hc => ha hc.1, if_neg fun hc => ha hc.1]
  · have hzero : escrowPart a (line, asset) p = 0 := by
      rcases hmode with ⟨hzero, -⟩ | hsame
      · simp [escrowPart, hzero]
      · simp [escrowPart, hsame, hlien]
    rw [hzero]
    simp [escrowPart, hlien]

/-- A silent step keeps what was kept. -/
theorem Kept.call {env : Env} (hok : Escrowed self w)
    (h : call net (env.at self) e w = .ok w')
    (hkept : Kept owner silent s w.vault)
    (hsilent : Silent self silent (.call env e) w)
    (hhonest : HonestReleases net self owner silent (.call env e) w) :
    Kept owner silent s w'.vault := by
  intro a line asset hline
  refine (hkept a line asset hline).trans ?_
  cases call_custody h with
  | setup _ hpos =>
      unfold readPosition
      rw [hpos]
  | pledged _ hunits _ hmode _ hp' hpos =>
      rw [readPosition_set hpos]
      split
      · next hk =>
        obtain ⟨rfl, rfl⟩ := hk
        exact escrowPart_pledged hunits (hok.read _ _) hmode hp'
      · exact le_rfl
  | @confirmed _ asset' line' units _ hunits hle _ _ hpos =>
      rw [readPosition_set hpos]
      split
      · next hk =>
        obtain ⟨rfl, rfl⟩ := hk
        have hlien : (readPosition w.vault line asset).mode ≠ .escrow := by
          intro hesc
          have := (hok.read line asset).escrow_pending hesc
          omega
        simp [escrowPart, hlien]
      · exact le_rfl
  | @released borrower asset' line' units config hauth hconfig hreal hout =>
      rw [readPosition_set hout.positions]
      split
      · next hk =>
        -- the release would carry the owner's signature
        obtain ⟨rfl, rfl⟩ := hk
        have howner := hhonest hline config borrower hconfig hreal
        have hsign : env.auth borrower = true := hauth.2
        rw [howner, hsilent.1 _ hline] at hsign
        cases hsign
      · exact le_rfl
  | @liquidated keeper asset' recipient line' units r hroles hauth hout =>
      have hsign : env.auth r.keeper = true := hauth.2
      rw [hsilent.2 r hroles] at hsign
      cases hsign

-- ============================================================= all runs

theorem kept_run {peers : κ} {more : List (Tx κ)} (hw : Escrowed self w)
    (hsilent : (machine net self peers).Allowed (Silent self silent) w more)
    (hhonest : (machine net self peers).Allowed
      (HonestReleases net self owner silent) w more) :
    Escrowed self ((machine net self peers).run w more)
      ∧ Kept owner silent w.vault
        ((machine net self peers).run w more).vault := by
  refine run_induction (M := machine net self peers)
    (P := fun w' => Escrowed self w' ∧ Kept owner silent w.vault w'.vault)
    ?_ ⟨hw, .refl _⟩ (hsilent.and hhonest)
  intro v tx v' hv hok happ
  cases tx with
  | outside tokens peers' =>
      injection happ with happ
      subst happ
      exact ⟨⟨hv.1.position, fun a => (hv.1.backed a).trans (hok.1 a)⟩, hv.2⟩
  | call env e =>
      exact ⟨hv.1.call rfl happ, hv.2.call hv.1 happ hok.1 hok.2⟩

/-- What was kept is in escrow. -/
theorem Kept.units_le {s' : State} (h : Kept owner silent s s')
    (hs' : ∀ k p, s'.positions.get k = some p → PositionOk p)
    (a : Address) : silentUnits owner silent s a ≤ escrowUnits s' a := by
  apply Store.total_le_of_part
  intro k
  obtain ⟨line, asset⟩ := k
  have hold : s.positions.part (silentPart owner silent a) (line, asset)
      = if silent (owner line) then
          s.positions.part (escrowPart a) (line, asset) else 0 := by
    cases hp : s.positions.get (line, asset) with
    | none => simp [Store.part_none _ hp]
    | some p =>
        rw [Store.part_some _ hp, Store.part_some _ hp]
        rfl
  rw [hold]
  split
  · next hsilent =>
    rw [part_escrow, part_escrow]
    exact h a line asset hsilent
  · cases hp : s'.positions.get (line, asset) with
    | none => rw [Store.part_none _ hp]
    | some p =>
        rw [Store.part_some _ hp]
        exact escrowPart_nonneg (hs' _ p hp)

/-- Over every continuation in which the silent owners and the keeper
sign nothing, and in which every release on such an owner's line is
asked for under a configuration that names the owner, the balance stays
at or above the units those owners had in escrow when it began. -/
theorem silent_collateral_kept (net : CreditLineInterface κ)
    (self : Address) (peers : κ) (owner : Nat → Address)
    (silent : Address → Bool) (pre more : List (Tx κ))
    (hpre : (machine net self peers).Allowed (HonestPledges net self owner)
      (machine net self peers).init pre)
    (hsilent : (machine net self peers).Allowed (Silent self silent)
      ((machine net self peers).run (machine net self peers).init pre) more)
    (hhonest : (machine net self peers).Allowed
      (HonestReleases net self owner silent)
      ((machine net self peers).run (machine net self peers).init pre) more)
    (a : Address) :
    silentUnits owner silent ((machine net self peers).run
        (machine net self peers).init pre).vault a
      ≤ ((machine net self peers).run ((machine net self peers).run
          (machine net self peers).init pre) more).tokens.balance a self := by
  have hw := escrowed_run (hpre.imp fun _ _ h => h.noOutsideDebit)
  obtain ⟨hend, hkept⟩ := kept_run hw hsilent hhonest
  exact (hkept.units_le hend.position a).trans (hend.backed a)

-- =========================================================== an attack

namespace Demo

def admin : Address := ⟨1⟩

def keeper : Address := ⟨9⟩

def attacker : Address := ⟨66⟩

/-- Signed by some. -/
def signedBy (who : List Address) : Env :=
  { Demo.env with auth := fun a => decide (a ∈ who) }

/-- The deployed credit line at its address, and at every other a
contract that calls the attacker the borrower of every line, reports no
debt and accepts every report. -/
def anyContract : CreditLineInterface CreditLine.State where
  ltv env line s :=
    if env.self = creditLine then
      Wired.Demo.deployment.lineInterface.ltv env line s
    else .ok ⟨0, 0, 0, .healthy, .ok⟩
  debtOf env line s :=
    if env.self = creditLine then
      Wired.Demo.deployment.lineInterface.debtOf env line s
    else .ok 0
  borrowerOf env line s :=
    if env.self = creditLine then
      Wired.Demo.deployment.lineInterface.borrowerOf env line s
    else .ok attacker
  assetOf env line s :=
    if env.self = creditLine then
      Wired.Demo.deployment.lineInterface.assetOf env line s
    else .ok asset
  syncFromVault env vault line asset units s :=
    if env.self = creditLine then
      Wired.Demo.deployment.lineInterface.syncFromVault env vault line asset
        units s
    else .ok s

/-- The credit line once it has opened line 0 for the borrower and been
told of the vault. -/
def opened : CreditLine.State :=
  ((CreditLine.machine creditLine).run (CreditLine.machine creditLine).init
    (CreditLine.Demo.setup ++
      [.call (CreditLine.Demo.env 0 0 0) (.setVault admin Demo.self)])).store

/-- The admin configures the asset with the credit line at `line`. -/
def point (line : Address) : Tx CreditLine.State :=
  .call (signedBy [admin]) (.configureAsset admin asset ⟨12⟩ line 0
    ⟨7000, 8000, 9000⟩ .escrow)

/-- The vault set up, and 300 units with the borrower. -/
def configured : List (Tx CreditLine.State) :=
  [.call Demo.env (.initContract admin admin keeper admin admin),
   point creditLine,
   .outside (Ledger.empty.credit asset borrower 300) opened]

/-- The borrower pledges them. -/
def pledgeAll : Tx CreditLine.State :=
  .call (signedBy [borrower]) (.pledge borrower 0 asset 300)

/-- The attacker releases them. -/
def grab : Tx CreditLine.State :=
  .call (signedBy [attacker]) (.release attacker 0 asset 300)

/-- The vault among any contracts. -/
def vault : Machine (Scene CreditLine.State) (Tx CreditLine.State) :=
  machine anyContract Demo.self opened

/-- The vault with the borrower's units in it. -/
def pledged : Scene CreditLine.State :=
  vault.run vault.init (configured ++ [pledgeAll])

/-- A call the borrower and the keeper have not signed. -/
theorem silent_call {v : Scene CreditLine.State} {who : List Address}
    {e : Entry}
    (hroles : v.vault.roles = some ⟨admin, admin, keeper, admin, admin⟩)
    (hborrower : borrower ∉ who) (hkeeper : keeper ∉ who) :
    Silent Demo.self (fun a => a == borrower) (.call (signedBy who) e)
      v := by
  constructor
  · intro a ha
    rw [eq_of_beq ha]
    exact decide_eq_false hborrower
  · intro r hr
    rw [hroles] at hr
    injection hr with hr
    rw [← hr]
    exact decide_eq_false hkeeper

/-- The deployed credit line names the borrower. -/
theorem names_borrower {v : Scene CreditLine.State} {env : Env}
    (hstored : v.vault.assetConfig.get asset
      = some ⟨⟨12⟩, creditLine, 0, ⟨7000, 8000, 9000⟩, .escrow⟩)
    (hreal : anyContract.borrowerOf (env.into creditLine) 0 v.peers
      = .ok borrower) :
    NamesOwner anyContract (fun _ => borrower) env v 0 asset := by
  intro config b hconfig hb
  rw [hstored] at hconfig
  injection hconfig with hconfig
  subst hconfig
  rw [hreal] at hb
  injection hb with hb
  exact hb.symm

/-- The pledge is made under the honest configuration. -/
theorem honest_pledges : vault.Allowed
    (HonestPledges anyContract Demo.self fun _ => borrower) vault.init
    (configured ++ [pledgeAll]) := by
  refine Allowed.append.mpr ⟨⟨trivial, trivial, ?_, trivial⟩, ?_, trivial⟩
  · intro a
    show (0 : Int) ≤ _
    simp [Ledger.credit, Ledger.empty, Demo.self, borrower]
  · exact names_borrower (by decide +kernel) (by decide +kernel)

end Demo

/-- Pointed at the same credit line again, the vault refuses the
attacker. -/
theorem silent_collateral_kept_demo :
    silentUnits (fun _ => Demo.borrower) (fun a => a == Demo.borrower)
        Demo.pledged.vault Demo.asset = 300
      ∧ 300 ≤ (Demo.vault.run Demo.pledged [Demo.point Demo.creditLine,
          Demo.grab]).tokens.balance Demo.asset Demo.self := by
  have hunits : silentUnits (fun _ => Demo.borrower)
      (fun a => a == Demo.borrower) Demo.pledged.vault Demo.asset = 300 := by
    decide +kernel
  have hsilent : Demo.vault.Allowed
      (Silent Demo.self fun a => a == Demo.borrower) Demo.pledged
      [Demo.point Demo.creditLine, Demo.grab] :=
    ⟨Demo.silent_call (by decide +kernel) (by decide) (by decide),
      Demo.silent_call (by decide +kernel) (by decide) (by decide), trivial⟩
  have hhonest : Demo.vault.Allowed (HonestReleases Demo.anyContract
      Demo.self (fun _ => Demo.borrower) fun a => a == Demo.borrower)
      Demo.pledged [Demo.point Demo.creditLine, Demo.grab] := by
    refine ⟨trivial, ?_, trivial⟩
    intro _
    exact Demo.names_borrower (by decide +kernel) (by decide +kernel)
  refine ⟨hunits, ?_⟩
  rw [← hunits]
  exact silent_collateral_kept Demo.anyContract Demo.self Demo.opened
    (fun _ => Demo.borrower) (fun a => a == Demo.borrower)
    (Demo.configured ++ [Demo.pledgeAll])
    [Demo.point Demo.creditLine, Demo.grab] Demo.honest_pledges hsilent
    hhonest Demo.asset

/-- Pointed at a contract of the admin's, it pays out the borrower's 300
units on the signatures of the admin and the attacker. -/
theorem admin_takes_collateral :
    ¬ ∀ (net : CreditLineInterface CreditLine.State) (self : Address)
        (peers : CreditLine.State) (owner : Nat → Address)
        (silent : Address → Bool) (pre more : List (Tx CreditLine.State)),
      (machine net self peers).Allowed (HonestPledges net self owner)
        (machine net self peers).init pre →
      (machine net self peers).Allowed (Silent self silent)
        ((machine net self peers).run (machine net self peers).init pre)
        more →
      ∀ a, silentUnits owner silent ((machine net self peers).run
          (machine net self peers).init pre).vault a
        ≤ ((machine net self peers).run ((machine net self peers).run
            (machine net self peers).init pre) more).tokens.balance a
          self := by
  intro hclaim
  have hunits : silentUnits (fun _ => Demo.borrower)
      (fun a => a == Demo.borrower) Demo.pledged.vault Demo.asset = 300 := by
    decide +kernel
  have hempty : (Demo.vault.run Demo.pledged [Demo.point ⟨999⟩,
      Demo.grab]).tokens.balance Demo.asset Demo.self = 0 := by
    decide +kernel
  have hsilent : Demo.vault.Allowed
      (Silent Demo.self fun a => a == Demo.borrower) Demo.pledged
      [Demo.point ⟨999⟩, Demo.grab] :=
    ⟨Demo.silent_call (by decide +kernel) (by decide) (by decide),
      Demo.silent_call (by decide +kernel) (by decide) (by decide), trivial⟩
  have hle : silentUnits (fun _ => Demo.borrower)
      (fun a => a == Demo.borrower) Demo.pledged.vault Demo.asset
      ≤ (Demo.vault.run Demo.pledged [Demo.point ⟨999⟩,
        Demo.grab]).tokens.balance Demo.asset Demo.self :=
    hclaim Demo.anyContract Demo.self Demo.opened (fun _ => Demo.borrower)
      (fun a => a == Demo.borrower) (Demo.configured ++ [Demo.pledgeAll])
      [Demo.point ⟨999⟩, Demo.grab] Demo.honest_pledges hsilent Demo.asset
  rw [hunits, hempty] at hle
  omega

end Ballast.PledgeVault
