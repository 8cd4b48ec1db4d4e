/-
What the vault holds for a line, and what on the chain changes it: a
pledge, a release and a liquidation of that line move the position by
their units. Everything else leaves it alone, whichever contract it
enters.

A pledge counts at once only in escrow; under a lien the units wait for
the gateway. So the asset is one whose custody mode is and stays escrow
(`Escrowing`), and no lien is ever pending on the position.

The figure is the vault's, read through the line's id and its collateral
asset, and the line keeps both. Escrow is an assumption about the asset
and not about the line: `configure_asset` may change the mode at any
time, and a run in which it does is excluded by `keepsEscrow` and
nothing more.
-/
import Ballast.Api.Chain
import Ballast.Api.Proofs.Steps
import Ballast.Wired.Proofs.Mirror

namespace Ballast.Api

open Soroban Machine

variable {d : Deployed} {start c c' : Chain} {line : Nat} {asset : Address}
  {tx : ChainTx}

/-- `position(line, asset).units`. -/
def heldOf (c : Chain) (line : Nat) (asset : Address) : Int :=
  Wired.held c.lending line asset

/-- The line whose position an entry point moves. -/
def pledgeLine : PledgeVault.Entry → Option Nat
  | .pledge _ line _ _ => some line
  | .release _ line _ _ => some line
  | .liquidate _ line _ _ _ => some line
  | _ => none

def Envelope.pledgeLine : Envelope → Option Nat
  | .pledgeVault e => Api.pledgeLine e
  | _ => none

def ChainTx.pledgeLine : ChainTx → Option Nat
  | .lending (.vault _ e) => Api.pledgeLine e
  | _ => none

theorem pledgeLine_invoke (env : Env) (e : Envelope) :
    (e.invoke env).pledgeLine = e.pledgeLine := by
  cases e <;> rfl

theorem pledgeLine_setup {e : PledgeVault.Entry} (h : e.target = none) :
    Api.pledgeLine e = none := by
  cases e with
  | pledge => cases h
  | release => cases h
  | liquidate => cases h
  | _ => rfl

/-- The entry point leaves the asset's custody mode at escrow. -/
def keepsEscrow (asset : Address) : PledgeVault.Entry → Prop
  | .configureAsset _ a _ _ _ _ mode => a = asset → mode = .escrow
  | _ => True

def ChainTx.keepsEscrow (asset : Address) : ChainTx → Prop
  | .lending (.vault _ e) => Api.keepsEscrow asset e
  | _ => True

/-- The line is on the contract with this collateral, under an id that is
never minted again, and the vault keeps the asset in escrow. -/
structure Escrowing (c : Chain) (line : Nat) (asset : Address) : Prop where
  fresh : CreditLine.FreshIds c.lending.creditLine
  stored : ∃ l, c.lending.creditLine.lines.get line = some l
    ∧ l.asset = asset
  mode : ∀ config, c.lending.vault.assetConfig.get asset = some config →
    config.custodyMode = .escrow
  noLien : (PledgeVault.readPosition c.lending.vault line
    asset).pendingLienUnits = 0

/-- What happens on the chain to what the vault holds for the line. -/
inductive HeldStep (line : Nat) (asset : Address) (c c' : Chain) :
    ChainTx → Prop
  | other {tx : ChainTx} : tx.pledgeLine ≠ some line →
      heldOf c' line asset = heldOf c line asset →
      HeldStep line asset c c' tx
  | pledge {env : Env} {borrower a : Address} {units : Int} :
      heldOf c' line asset = heldOf c line asset + units →
      HeldStep line asset c c'
        (.lending (.vault env (.pledge borrower line a units)))
  | release {env : Env} {borrower a : Address} {units : Int} :
      heldOf c' line asset = heldOf c line asset - units →
      HeldStep line asset c c'
        (.lending (.vault env (.release borrower line a units)))
  | liquidate {env : Env} {keeper a recipient : Address} {units : Int} :
      heldOf c' line asset = heldOf c line asset - units →
      HeldStep line asset c c'
        (.lending (.vault env (.liquidate keeper line a units recipient)))

-- ============================================================ the vault

section

variable {κ : Type} {net : PledgeVault.CreditLineInterface κ} {env : Env}
  {w w' : PledgeVault.Scene κ}

/-- A pledge of an asset in escrow adds its units to the position. -/
theorem pledge_escrow {borrower : Address} {units : Int}
    (h : PledgeVault.pledge net env borrower line asset units w = .ok w')
    (hmode : ∀ config, w.vault.assetConfig.get asset = some config →
      config.custodyMode = .escrow) :
    PledgeVault.readPosition w'.vault line asset
      = { PledgeVault.readPosition w.vault line asset with
          units := (PledgeVault.readPosition w.vault line asset).units
            + units
          mode := .escrow } := by
  obtain ⟨config, p', tokens, peers, -, -, hconfig, -, -, -, -, hp', -, rfl⟩
    := PledgeVault.pledge_ok h
  rw [hmode config hconfig] at hp'
  have hp := PledgeVault.pledgedPosition_ok hp'
  rw [if_pos rfl] at hp
  subst hp
  rw [PledgeVault.readPosition_set rfl,
    if_pos ⟨rfl, rfl⟩]

/-- The asset stays in escrow. -/
theorem call_keepsEscrow {e : PledgeVault.Entry}
    (h : PledgeVault.call net env e w = .ok w')
    (hkeeps : keepsEscrow asset e)
    (hmode : ∀ config, w.vault.assetConfig.get asset = some config →
      config.custodyMode = .escrow) :
    ∀ config, w'.vault.assetConfig.get asset = some config →
      config.custodyMode = .escrow := by
  cases e with
  | initContract =>
      obtain ⟨h, -, -⟩ := PledgeVault.onVault_ok.mp h
      obtain ⟨-, hs⟩ := PledgeVault.initContract_ok h
      rw [hs]
      exact hmode
  | configureAsset admin a guard creditLine hc t mode =>
      obtain ⟨h, -, -⟩ := PledgeVault.onVault_ok.mp h
      obtain ⟨-, hs⟩ := PledgeVault.configureAsset_ok h
      intro config hconfig
      rw [hs, Store.get_set] at hconfig
      split at hconfig
      · next ha =>
        injection hconfig with hconfig
        rw [← hconfig]
        exact hkeeps ha.symm
      · exact hmode config hconfig
  | setGateway =>
      obtain ⟨h, -, -⟩ := PledgeVault.onVault_ok.mp h
      rw [PledgeVault.setGateway_ok h]
      exact hmode
  | _ =>
      rw [PledgeVault.call_keeps_config h rfl]
      exact hmode

end

-- ============================================================ every step

theorem held_callVault {env : Env} {e : PledgeVault.Entry}
    {w : World Wired.State} (hesc : Escrowing c line asset)
    (hkeeps : keepsEscrow asset e)
    (hcall : Wired.callVault d.lending env e ⟨c.tokens, c.lending⟩ = .ok w)
    (hc' : c' = { c with tokens := w.tokens, lending := w.store }) :
    HeldStep line asset c c' (.lending (.vault env e))
      ∧ Escrowing c' line asset := by
  subst hc'
  obtain ⟨l, hl, hasset⟩ := hesc.stored
  obtain ⟨w₁, hvault, hw₁⟩ := map_ok.mp hcall
  have hmode : ∀ config, w.store.vault.assetConfig.get asset = some config →
      config.custodyMode = .escrow := by
    rw [← hw₁]
    exact call_keepsEscrow hvault hkeeps hesc.mode
  cases Wired.callVault_ok hcall with
  | setup htarget hpos hline =>
      have hheld : Wired.held w.store line asset
          = Wired.held c.lending line asset := Wired.held_congr hpos
      have hread : PledgeVault.readPosition w.store.vault line asset
          = PledgeVault.readPosition c.lending.vault line asset := by
        unfold PledgeVault.readPosition
        rw [hpos]
      have hline' : w.store.creditLine = c.lending.creditLine := hline
      refine ⟨.other ?_ hheld, ?_, ⟨l, ?_, hasset⟩, hmode, ?_⟩
      · show Api.pledgeLine e ≠ some line
        rw [pledgeLine_setup htarget]
        exact nofun
      · show CreditLine.FreshIds w.store.creditLine
        rw [hline']
        exact hesc.fresh
      · show w.store.creditLine.lines.get line = some l
        rw [hline', hl]
      · show (PledgeVault.readPosition w.store.vault line
          asset).pendingLienUnits = 0
        rw [hread]
        exact hesc.noLien
  | @position k l₁ p' hl₁ hunits hstep hpos hline =>
      have hfresh : CreditLine.FreshIds w.store.creditLine := by
        rw [hline]
        exact hesc.fresh.writeLine hl₁
      have hread : ∀ a, PledgeVault.readPosition w.store.vault line a
          = if line = k ∧ a = l₁.asset then p'
            else PledgeVault.readPosition c.lending.vault line a :=
        fun a => PledgeVault.readPosition_set hpos
      by_cases hk : line = k
      -- the line's own position: which of the four calls it was
      · subst hk
        have hsame : l = l₁ := Option.some.inj (hl.symm.trans hl₁)
        subst hsame
        subst hasset
        have hread' : PledgeVault.readPosition w.store.vault line l.asset
            = p' := by
          rw [hread, if_pos ⟨rfl, rfl⟩]
        have hline' : w.store.creditLine.lines.get line
            = some { l with pledgedUnits := p'.units } := by
          rw [hline]
          exact Store.get_set_self _ _ _
        have hafter : ∀ hlien : p'.pendingLienUnits = 0, Escrowing
            { c with tokens := w.tokens, lending := w.store } line
              l.asset := by
          intro hlien
          refine ⟨hfresh, ⟨_, hline', rfl⟩, hmode, ?_⟩
          show (PledgeVault.readPosition w.store.vault line
            l.asset).pendingLienUnits = 0
          rw [hread', hlien]
        cases hstep with
        | @pledge borrower units mode hpositive =>
            have hvault' : PledgeVault.pledge d.lending.lineInterface
                (d.lending.enter env d.lending.vault) borrower line l.asset
                units ⟨c.tokens, c.lending.vault, c.lending.creditLine⟩
                = .ok w₁ := hvault
            have hpledge := pledge_escrow hvault' hesc.mode
            have hsame : w₁.vault = w.store.vault := by rw [← hw₁]
            rw [hsame] at hpledge
            refine ⟨.pledge ?_, ?_⟩
            · show (PledgeVault.readPosition w.store.vault line
                l.asset).units = _
              rw [hpledge]
              rfl
            · refine ⟨hfresh, ⟨_, hline', rfl⟩, hmode, ?_⟩
              show (PledgeVault.readPosition w.store.vault line
                l.asset).pendingLienUnits = 0
              rw [hpledge]
              exact hesc.noLien
        | @release borrower units hpositive hle =>
            refine ⟨.release ?_, hafter hesc.noLien⟩
            show (PledgeVault.readPosition w.store.vault line
              l.asset).units = _
            rw [hread']
            rfl
        | @recordLien gateway units lienRef hpositive hle =>
            -- no lien is pending, so there is none to confirm
            have hnone := hesc.noLien
            exact absurd (hpositive.trans_le hle) (by rw [hnone]; simp)
        | @liquidate keeper recipient units hpositive hle =>
            refine ⟨.liquidate ?_, hafter hesc.noLien⟩
            show (PledgeVault.readPosition w.store.vault line
              l.asset).units = _
            rw [hread']
            rfl
      -- another line's position
      · have hheld : PledgeVault.readPosition w.store.vault line asset
            = PledgeVault.readPosition c.lending.vault line asset := by
          rw [hread, if_neg fun hc => hk hc.1]
        refine ⟨.other ?_ ?_, hfresh, ⟨l, ?_, hasset⟩, hmode, ?_⟩
        · show Api.pledgeLine e ≠ some line
          cases hstep <;> simp [Api.pledgeLine, Ne.symm hk]
        · show (PledgeVault.readPosition w.store.vault line asset).units = _
          rw [hheld]
          rfl
        · show w.store.creditLine.lines.get line = some l
          rw [hline]
          exact (Store.get_set_ne _ _ hk).trans hl
        · show (PledgeVault.readPosition w.store.vault line
            asset).pendingLienUnits = 0
          rw [hheld]
          exact hesc.noLien

theorem held_callLine {env : Env} {e : CreditLine.Entry}
    {w : World Wired.State} (hesc : Escrowing c line asset)
    (hcall : Wired.callLine d.lending env e ⟨c.tokens, c.lending⟩ = .ok w)
    (hc' : c' = { c with tokens := w.tokens, lending := w.store }) :
    heldOf c' line asset = heldOf c line asset
      ∧ Escrowing c' line asset := by
  subst hc'
  obtain ⟨l, hl, hasset⟩ := hesc.stored
  obtain ⟨hcall, hvault⟩ := Wired.callLine_ok hcall
  have hvault' : w.store.vault = c.lending.vault := hvault
  have hfresh : CreditLine.FreshIds w.store.creditLine :=
    CreditLine.FreshIds.call hesc.fresh hcall
  have hstored : ∃ l', w.store.creditLine.lines.get line = some l'
      ∧ l'.asset = asset := by
    cases CreditLine.call_line hcall line with
    | same hsame => exact ⟨l, hsame.trans hl, hasset⟩
    | opened _ hid _ =>
        have hnone := hesc.fresh line (by rw [hid])
        rw [hnone] at hl
        cases hl
    | step hl₁ hafter hstep =>
        have hsame := Option.some.inj (hl.symm.trans hl₁)
        subst hsame
        refine ⟨_, hafter, ?_⟩
        cases hstep <;> exact hasset
  refine ⟨?_, hfresh, hstored, ?_, ?_⟩
  · show PledgeVault.positionUnits w.store.vault line asset = _
    rw [hvault']
    rfl
  · show ∀ config, w.store.vault.assetConfig.get asset = some config → _
    rw [hvault']
    exact hesc.mode
  · show (PledgeVault.readPosition w.store.vault line
      asset).pendingLienUnits = 0
    rw [hvault']
    exact hesc.noLien

/-- Whatever happens on the chain, with the asset left in escrow, is a
`HeldStep` of the line. -/
theorem held_step (hesc : Escrowing c line asset)
    (hkeeps : tx.keepsEscrow asset)
    (happ : (chainMachine d start).apply tx c = .ok c') :
    HeldStep line asset c c' tx ∧ Escrowing c' line asset := by
  cases tx with
  | lending tx =>
      obtain ⟨w, hw, hc'⟩ := map_ok.mp happ
      cases tx with
      | creditLine env e =>
          obtain ⟨hsame, hesc'⟩ := held_callLine hesc hw hc'.symm
          exact ⟨.other (by simp [ChainTx.pledgeLine]) hsame, hesc'⟩
      | vault env e => exact held_callVault hesc hkeeps hw hc'.symm
      | outside tokens =>
          injection hw with hw
          subst hw
          subst hc'
          exact ⟨.other (by simp [ChainTx.pledgeLine]) rfl, hesc.fresh,
            hesc.stored, hesc.mode, hesc.noLien⟩
  | repo tx =>
      obtain ⟨w, -, hc'⟩ := map_ok.mp happ
      subst hc'
      exact ⟨.other (by simp [ChainTx.pledgeLine]) rfl, hesc.fresh,
        hesc.stored, hesc.mode, hesc.noLien⟩
  | desk tx =>
      obtain ⟨w, -, hc'⟩ := map_ok.mp happ
      subst hc'
      exact ⟨.other (by simp [ChainTx.pledgeLine]) rfl, hesc.fresh,
        hesc.stored, hesc.mode, hesc.noLien⟩

-- ============================================================== landings

variable {env : Env} {e : Envelope} {x : Landing Chain}

/-- What a landed transaction moved into the vault for the line. -/
def movedUnits (line : Nat) (asset : Address) (x : Landing Chain) : Int :=
  heldOf x.after line asset - heldOf x.before line asset

/-- The envelope configures nothing: the API builds none that does. -/
def Envelope.keepsEscrow (asset : Address) : Envelope → Prop
  | .pledgeVault e => Api.keepsEscrow asset e
  | _ => True

theorem keepsEscrow_invoke (env : Env) (e : Envelope) :
    (e.invoke env).keepsEscrow asset ↔ e.keepsEscrow asset := by
  cases e <;> rfl

theorem Lands.escrowing (h : Lands (network d start) env e c x)
    (hesc : Escrowing c line asset) (hkeeps : e.keepsEscrow asset) :
    Escrowing x.after line asset := by
  cases h with
  | failed => exact hesc
  | success happ =>
      exact (held_step hesc ((keepsEscrow_invoke env e).mpr hkeeps) happ).2

/-- What does not touch the line's position leaves it. -/
theorem Lands.moved_other (h : Lands (network d start) env e c x)
    (hesc : Escrowing c line asset) (hkeeps : e.keepsEscrow asset)
    (he : e.pledgeLine ≠ some line) : movedUnits line asset x = 0 := by
  unfold movedUnits
  cases h with
  | failed => exact sub_self _
  | @success c' happ =>
      have hstep := (held_step hesc ((keepsEscrow_invoke env e).mpr hkeeps)
        happ).1
      have htx : (e.invoke env).pledgeLine ≠ some line := by
        rw [pledgeLine_invoke]
        exact he
      have happ' : HeldStep line asset c c' (e.invoke env) := hstep
      generalize e.invoke env = tx at happ' htx
      cases happ' with
      | other _ hsame =>
          show heldOf c' line asset - heldOf c line asset = 0
          omega
      | pledge => exact absurd rfl htx
      | release => exact absurd rfl htx
      | liquidate => exact absurd rfl htx

/-- A pledge of the line that succeeded moved its units in. -/
theorem Lands.moved_pledge {borrower a : Address} {units : Int}
    (h : Lands (network d start) env
      (.pledgeVault (.pledge borrower line a units)) c x)
    (hesc : Escrowing c line asset) {ledger : Nat} {v : Int}
    (hsuccess : x.outcome = .success ledger v) :
    movedUnits line asset x = units := by
  unfold movedUnits
  cases h with
  | failed => cases hsuccess
  | @success c' happ =>
      have happ' : (chainMachine d start).apply (.lending (.vault env
          (.pledge borrower line a units))) c = .ok c' := happ
      have hstep := (held_step hesc (by trivial) happ').1
      cases hstep with
      | other hne => exact absurd rfl hne
      | pledge hheld =>
          show heldOf c' line asset - heldOf c line asset = units
          omega

/-- A release of the line that succeeded moved its units out. -/
theorem Lands.moved_release {borrower a : Address} {units : Int}
    (h : Lands (network d start) env
      (.pledgeVault (.release borrower line a units)) c x)
    (hesc : Escrowing c line asset) {ledger : Nat} {v : Int}
    (hsuccess : x.outcome = .success ledger v) :
    movedUnits line asset x = -units := by
  unfold movedUnits
  cases h with
  | failed => cases hsuccess
  | @success c' happ =>
      have happ' : (chainMachine d start).apply (.lending (.vault env
          (.release borrower line a units))) c = .ok c' := happ
      have hstep := (held_step hesc (by trivial) happ').1
      cases hstep with
      | other hne => exact absurd rfl hne
      | release hheld =>
          show heldOf c' line asset - heldOf c line asset = -units
          omega

end Ballast.Api
