/-
Escrow and liens: what stands behind the units of a position.

# Custody

`Custody` says what a committed call does to positions and tokens, with
the guards that held. Tokens come in with an escrow pledge and leave
with a release or a liquidation from an escrow position; a lien pledge,
its confirmation, and whatever leaves a lien position move none.

# The invariant

All lines' escrow of one asset shares one balance, and the asset's
custody mode may be changed at any time. What keeps the two apart is
that a position's own mode is fixed while it holds anything, and that
an escrow position never has lien units pending (`PositionOk`). So the
balance covers the escrow positions (`Escrowed`), and what is confirmed
and pending of a position is what was pledged to it under a lien
(`lien_tally`).
-/
import Ballast.PledgeVault.Proofs.Steps

namespace Ballast.PledgeVault

open Soroban Machine

variable {κ : Type} {net : CreditLineInterface κ} {env : Env}
  {w w' : Scene κ} {s s' : State} {e : Entry}

-- ============================================================== custody

/-- `units` left the position of (`line`, `asset`), paid to `recipient`
if they were in escrow. -/
structure PaidOut (env : Env) (w w' : Scene κ) (line : Nat)
    (asset : Address) (units : Int) (recipient : Address) : Prop where
  pos : 0 < units
  le : units ≤ (readPosition w.vault line asset).units
  tokens : payOut env (readPosition w.vault line asset) asset recipient
    units w.tokens = .ok w'.tokens
  positions : w'.vault.positions = w.vault.positions.set (line, asset)
    { readPosition w.vault line asset with
      units := (readPosition w.vault line asset).units - units }

/-- What a committed call does to positions and tokens. -/
inductive Custody (net : CreditLineInterface κ) (env : Env)
    (w w' : Scene κ) : Entry → Prop
  | setup {e : Entry} : e.target = none →
      w'.vault.positions = w.vault.positions → w'.tokens = w.tokens →
      Custody net env w w' e
  | pledged {borrower asset : Address} {line : Nat} {units : Int}
      {config : AssetConfig} {p' : Position} :
      env.Grants borrower → 0 < units →
      w.vault.assetConfig.get asset = some config →
      (((readPosition w.vault line asset).units = 0
          ∧ (readPosition w.vault line asset).pendingLienUnits = 0)
        ∨ (readPosition w.vault line asset).mode = config.custodyMode) →
      payIn env config.custodyMode asset borrower units w.tokens
        = .ok w'.tokens →
      pledgedPosition config.custodyMode (readPosition w.vault line asset)
        units = .ok p' →
      w'.vault.positions = w.vault.positions.set (line, asset) p' →
      Custody net env w w' (.pledge borrower line asset units)
  | confirmed {gateway asset : Address} {line : Nat} {units : Int}
      {lienRef : Bytes} : 0 < units →
      units ≤ (readPosition w.vault line asset).pendingLienUnits →
      I128.Fits ((readPosition w.vault line asset).units + units) →
      w'.tokens = w.tokens →
      w'.vault.positions = w.vault.positions.set (line, asset)
        { readPosition w.vault line asset with
          pendingLienUnits :=
            (readPosition w.vault line asset).pendingLienUnits - units
          units := (readPosition w.vault line asset).units + units
          lienRef := some lienRef } →
      Custody net env w w' (.recordLien gateway line asset units lienRef)
  | released {borrower asset : Address} {line : Nat} {units : Int}
      {config : AssetConfig} : env.Grants borrower →
      w.vault.assetConfig.get asset = some config →
      net.borrowerOf (env.into config.creditLine) line w.peers
        = .ok borrower →
      PaidOut env w w' line asset units borrower →
      Custody net env w w' (.release borrower line asset units)
  | liquidated {keeper asset recipient : Address} {line : Nat}
      {units : Int} {r : Roles} : w.vault.roles = some r →
      env.Grants r.keeper →
      PaidOut env w w' line asset units recipient →
      Custody net env w w' (.liquidate keeper line asset units recipient)

/-- Every call that commits is one of these. -/
theorem call_custody (h : call net env e w = .ok w') :
    Custody net env w w' e := by
  cases e with
  | initContract =>
      obtain ⟨h, ht, -⟩ := onVault_ok.mp h
      obtain ⟨-, hs⟩ := initContract_ok h
      exact .setup rfl (by rw [hs]) ht
  | configureAsset =>
      obtain ⟨h, ht, -⟩ := onVault_ok.mp h
      obtain ⟨-, hs⟩ := configureAsset_ok h
      exact .setup rfl (by rw [hs]) ht
  | setGateway =>
      obtain ⟨h, ht, -⟩ := onVault_ok.mp h
      exact .setup rfl (by rw [setGateway_ok h]) ht
  | pledge borrower line asset units =>
      obtain ⟨config, p', tokens, peers, hauth, hunits, hconfig, -, -, hmode,
        htokens, hp', -, rfl⟩ := pledge_ok h
      exact .pledged hauth hunits hconfig hmode htokens hp' rfl
  | release borrower line asset units =>
      obtain ⟨config, tokens, peers, hauth, hunits, hconfig, hreal, hle, -,
        htokens, -, rfl⟩ := release_ok h
      exact .released hauth hconfig hreal ⟨hunits, hle, htokens, rfl⟩
  | recordLien gateway line asset units lienRef =>
      obtain ⟨config, peers, -, -, hunits, -, hle, hfits, -, rfl⟩ :=
        recordLien_ok h
      exact .confirmed hunits hle hfits rfl rfl
  | liquidate keeper line asset units recipient =>
      have hliq : liquidate net env keeper line asset units recipient w
          = .ok w' := h
      obtain ⟨r, config, tokens, peers, hr, hgrants, hunits, -, hle, htokens,
        -, rfl⟩ := liquidate_ok hliq
      exact .liquidated hr hgrants ⟨hunits, hle, htokens, rfl⟩

-- ======================================================== the invariant

/-- The figures of a position are in order. -/
structure PositionOk (p : Position) : Prop where
  units_nonneg : 0 ≤ p.units
  units_fit : I128.Fits p.units
  pending_nonneg : 0 ≤ p.pendingLienUnits
  escrow_pending : p.mode = .escrow → p.pendingLienUnits = 0

/-- What a position adds to the escrow of `a`. -/
def escrowPart (a : Address) (k : Nat × Address) (p : Position) : Int :=
  if k.2 = a ∧ p.mode = .escrow then p.units else 0

/-- The units of all escrow positions in `a`. -/
def escrowUnits (s : State) (a : Address) : Int :=
  s.positions.total (escrowPart a)

/-- Positions are in order, and the balance covers the escrow of every
asset. -/
structure Escrowed (addr : Address) (w : Scene κ) : Prop where
  position : ∀ k p, w.vault.positions.get k = some p → PositionOk p
  backed : ∀ a, escrowUnits w.vault a ≤ w.tokens.balance a addr

/-- A position that was never written is in order. -/
theorem PositionOk.fresh : PositionOk Position.fresh where
  units_nonneg := le_rfl
  units_fit := by decide
  pending_nonneg := le_rfl
  escrow_pending _ := rfl

/-- So every position reads as one in order. -/
theorem Escrowed.read {addr : Address} (h : Escrowed addr w) (line : Nat)
    (asset : Address) : PositionOk (readPosition w.vault line asset) := by
  unfold readPosition
  cases hp : w.vault.positions.get (line, asset) with
  | none => exact .fresh
  | some p => exact h.position _ p hp

/-- A position never written adds nothing. -/
theorem part_escrow (s : State) (line : Nat) (asset a : Address) :
    s.positions.part (escrowPart a) (line, asset)
      = escrowPart a (line, asset) (readPosition s line asset) :=
  s.positions.part_getD (by simp [escrowPart, Position.fresh])

/-- Writing a position changes the escrow by the difference it makes. -/
theorem escrowUnits_set {line : Nat} {asset : Address} {p' : Position}
    (h : s'.positions = s.positions.set (line, asset) p') (a : Address) :
    escrowUnits s' a = escrowUnits s a
      - escrowPart a (line, asset) (readPosition s line asset)
      + escrowPart a (line, asset) p' := by
  unfold escrowUnits
  rw [h, Store.total_set, part_escrow]

/-- A position in order adds no negative escrow. -/
theorem escrowPart_nonneg {a : Address} {k : Nat × Address} {p : Position}
    (h : PositionOk p) : 0 ≤ escrowPart a k p := by
  unfold escrowPart
  split
  · exact h.units_nonneg
  · exact le_rfl

/-- One position replaced by one in order, with no less in the balance
than the difference it makes. -/
theorem Escrowed.set {addr : Address} {line : Nat} {asset : Address}
    {p' : Position} (h : Escrowed addr w)
    (hpos : w'.vault.positions = w.vault.positions.set (line, asset) p')
    (hp' : PositionOk p')
    (hbal : ∀ a, w.tokens.balance a addr
        - escrowPart a (line, asset) (readPosition w.vault line asset)
        + escrowPart a (line, asset) p' ≤ w'.tokens.balance a addr) :
    Escrowed addr w' := by
  constructor
  · intro k p hk
    rw [hpos, Store.get_set] at hk
    split at hk
    · injection hk with hk
      rw [← hk]
      exact hp'
    · exact h.position k p hk
  · intro a
    rw [escrowUnits_set hpos]
    have hold := h.backed a
    have hnew := hbal a
    omega

-- ============================================================= one call

/-- Units in, from somebody else, if the mode is escrow. -/
theorem balance_payIn {mode : CustodyMode} {asset borrower : Address}
    {units : Int} {tokens tokens' : Ledger} (hne : borrower ≠ env.self)
    (h : payIn env mode asset borrower units tokens = .ok tokens')
    (a : Address) :
    tokens'.balance a env.self = tokens.balance a env.self
      + if mode = .escrow ∧ a = asset then units else 0 := by
  unfold payIn at h
  split at h
  case isTrue hmode =>
    obtain ⟨-, -, -, rfl⟩ := Ledger.transfer_ok.mp h
    rw [Ledger.balance_move_in _ hne]
    simp [hmode]
  case isFalse hmode =>
    rw [pure_ok] at h
    simp [h, hmode]

/-- Units out, at most, if the position is in escrow. -/
theorem balance_payOut {p : Position} {asset recipient : Address}
    {units : Int} {tokens tokens' : Ledger}
    (h : payOut env p asset recipient units tokens = .ok tokens')
    (a : Address) :
    tokens.balance a env.self
        - (if p.mode = .escrow ∧ a = asset then units else 0)
      ≤ tokens'.balance a env.self := by
  unfold payOut at h
  split at h
  case isTrue hmode =>
    obtain ⟨-, hunits, -, rfl⟩ := Ledger.transfer_ok.mp h
    have hout := Ledger.balance_move_out tokens asset env.self recipient
      hunits a
    simpa [hmode] using hout
  case isFalse hmode =>
    rw [pure_ok] at h
    simp [h, hmode]

/-- A pledge adds to the escrow what it pays in, in escrow mode, and
nothing under a lien. -/
theorem Escrowed.pledged {borrower asset : Address} {line : Nat}
    {units : Int} {config : AssetConfig} {p' : Position}
    (h : Escrowed env.self w) (hauth : env.Grants borrower)
    (hunits : 0 < units)
    (hmode : ((readPosition w.vault line asset).units = 0
        ∧ (readPosition w.vault line asset).pendingLienUnits = 0)
      ∨ (readPosition w.vault line asset).mode = config.custodyMode)
    (hin : payIn env config.custodyMode asset borrower units w.tokens
      = .ok w'.tokens)
    (hp' : pledgedPosition config.custodyMode
      (readPosition w.vault line asset) units = .ok p')
    (hpos : w'.vault.positions = w.vault.positions.set (line, asset) p') :
    Escrowed env.self w' := by
  have hp := h.read line asset
  have hbal := balance_payIn hauth.1 hin
  rcases pledgedPosition_cases hp' with ⟨hesc, hfits, rfl⟩ | ⟨hlien, rfl⟩
  · refine h.set hpos ⟨?_, hfits, hp.pending_nonneg, ?_⟩ ?_
    · have := hp.units_nonneg
      show 0 ≤ _ + units
      omega
    · intro _
      -- an escrow position has none, and one that changes mode is empty
      rcases hmode with ⟨-, hpend⟩ | hsame
      · exact hpend
      · exact hp.escrow_pending (hsame.trans hesc)
    · intro a
      have hheld : escrowPart a (line, asset)
          (readPosition w.vault line asset)
          = if asset = a then (readPosition w.vault line asset).units
            else 0 := by
        unfold escrowPart
        rcases hmode with ⟨hzero, -⟩ | hsame
        · simp [hzero]
        · simp [hsame, hesc]
      rw [hbal a, hheld, escrowPart]
      by_cases ha : asset = a
      · rw [if_pos ha, if_pos ⟨ha, hesc⟩, if_pos ⟨hesc, ha.symm⟩]
        show _ - _ + ((readPosition w.vault line asset).units + units) ≤ _
        omega
      · rw [if_neg ha, if_neg (fun hc => ha hc.1),
          if_neg (fun hc => ha hc.2.symm)]
        omega
  · refine h.set hpos ⟨hp.units_nonneg, hp.units_fit, ?_, ?_⟩ ?_
    · have := hp.pending_nonneg
      show 0 ≤ _ + units
      omega
    · intro hesc
      exact absurd hesc hlien
    · intro a
      rw [hbal a]
      have hnone := escrowPart_nonneg (a := a) (k := (line, asset)) hp
      have hzero : escrowPart a (line, asset)
          { readPosition w.vault line asset with
            pendingLienUnits :=
              (readPosition w.vault line asset).pendingLienUnits + units
            mode := config.custodyMode } = 0 := by
        simp [escrowPart, hlien]
      rw [hzero]
      simp only [hlien, false_and, if_false]
      omega

/-- What is paid out of a position leaves both its escrow and the balance,
or neither. -/
theorem Escrowed.paidOut {asset recipient : Address} {line : Nat}
    {units : Int} (h : Escrowed env.self w)
    (hout : PaidOut env w w' line asset units recipient) :
    Escrowed env.self w' := by
  have hp := h.read line asset
  have hle := hout.le
  have hpos := hout.pos
  refine h.set hout.positions
    ⟨?_, ?_, hp.pending_nonneg, hp.escrow_pending⟩ ?_
  · show 0 ≤ (readPosition w.vault line asset).units - units
    omega
  · apply hp.units_fit.of_le
    · show 0 ≤ (readPosition w.vault line asset).units - units
      omega
    · show (readPosition w.vault line asset).units - units ≤ _
      omega
  · intro a
    have hbal := balance_payOut hout.tokens a
    unfold escrowPart
    by_cases hk : asset = a ∧ (readPosition w.vault line asset).mode
        = .escrow
    · have hcond : (readPosition w.vault line asset).mode = .escrow
          ∧ a = asset := ⟨hk.2, hk.1.symm⟩
      rw [if_pos hcond] at hbal
      rw [if_pos hk, if_pos hk]
      show _ - _ + ((readPosition w.vault line asset).units - units) ≤ _
      omega
    · have hcond : ¬ ((readPosition w.vault line asset).mode = .escrow
          ∧ a = asset) := fun hc => hk ⟨hc.2.symm, hc.1⟩
      rw [if_neg hcond] at hbal
      rw [if_neg hk, if_neg hk]
      omega

/-- Every call keeps the escrow backed. -/
theorem Escrowed.call {addr : Address} (h : Escrowed addr w)
    (hself : env.self = addr) (hcall : call net env e w = .ok w') :
    Escrowed addr w' := by
  subst hself
  cases call_custody hcall with
  | setup _ hpos htok =>
      refine ⟨?_, ?_⟩
      · rw [hpos]
        exact h.position
      · intro a
        unfold escrowUnits
        rw [hpos, htok]
        exact h.backed a
  | pledged hauth hunits _ hmode hin hp' hpos =>
      exact h.pledged hauth hunits hmode hin hp' hpos
  | @confirmed _ asset line units _ hunits hle hfits htok hpos =>
      have hp := h.read line asset
      -- only a lien position has anything pending
      have hlien : (readPosition w.vault line asset).mode ≠ .escrow := by
        intro hesc
        have := hp.escrow_pending hesc
        omega
      refine h.set hpos ⟨?_, hfits, ?_, ?_⟩ ?_
      · have := hp.units_nonneg
        show 0 ≤ _ + units
        omega
      · show 0 ≤ _ - units
        omega
      · intro hesc
        exact absurd hesc hlien
      · intro a
        simp [escrowPart, hlien, htok]
  | released _ _ _ hout => exact h.paidOut hout
  | liquidated _ _ hout => exact h.paidOut hout

/-- Paying out leaves the pending units and the mode of every position
alone. -/
theorem PaidOut.keeps {line : Nat} {asset recipient : Address}
    {units : Int} (h : PaidOut env w w' line asset units recipient)
    (l : Nat) (a : Address) :
    (readPosition w'.vault l a).pendingLienUnits
        = (readPosition w.vault l a).pendingLienUnits
      ∧ (readPosition w'.vault l a).mode
        = (readPosition w.vault l a).mode := by
  rw [readPosition_set h.positions]
  split
  · next hk =>
    rw [hk.1, hk.2]
    exact ⟨rfl, rfl⟩
  · exact ⟨rfl, rfl⟩

-- ========================================================== the liens

/-- Units a committed call pledges to a position under a lien. -/
def lienPledged (line : Nat) (asset : Address)
    (c : Committed (Scene κ) (Tx κ)) : Int :=
  match c.call with
  | .call _ (.pledge _ l a units) =>
      if l = line ∧ a = asset ∧ (c.before.vault.assetConfig.get asset).map
          (·.custodyMode) ≠ some .escrow
      then units else 0
  | _ => 0

/-- Units a committed call confirms under a lien on a position. -/
def lienConfirmed (line : Nat) (asset : Address)
    (c : Committed (Scene κ) (Tx κ)) : Int :=
  match c.call with
  | .call _ (.recordLien _ l a units _) =>
      if l = line ∧ a = asset then units else 0
  | _ => 0

/-- What is pending changes by what is pledged less what is confirmed. -/
theorem pending_call (env : Env) {env' : Env}
    (h : call net env' e w = .ok w') (line : Nat) (asset : Address) :
    (readPosition w'.vault line asset).pendingLienUnits
      = (readPosition w.vault line asset).pendingLienUnits
        + lienPledged line asset ⟨.call env e, w, w'⟩
        - lienConfirmed line asset ⟨.call env e, w, w'⟩ := by
  cases call_custody h with
  | setup htarget hpos =>
      have hsame : readPosition w'.vault line asset
          = readPosition w.vault line asset := by
        unfold readPosition
        rw [hpos]
      rw [hsame]
      cases e with
      | initContract => simp [lienPledged, lienConfirmed]
      | configureAsset => simp [lienPledged, lienConfirmed]
      | setGateway => simp [lienPledged, lienConfirmed]
      | _ => cases htarget
  | @pledged borrower a l units config p' _ _ hconfig _ _ hp' hpos =>
      rw [readPosition_set hpos]
      by_cases hk : line = l ∧ asset = a
      · obtain ⟨rfl, rfl⟩ := hk
        rw [if_pos ⟨rfl, rfl⟩]
        rcases pledgedPosition_cases hp' with ⟨hesc, -, rfl⟩ | ⟨hlien, rfl⟩
        · simp [lienPledged, lienConfirmed, hconfig, hesc]
        · simp [lienPledged, lienConfirmed, hconfig, hlien]
      · have hk' : ¬ (l = line ∧ a = asset) :=
          fun hc => hk ⟨hc.1.symm, hc.2.symm⟩
        rw [if_neg hk]
        simp only [lienPledged, lienConfirmed, ← and_assoc]
        rw [if_neg fun hc => hk' hc.1]
        omega
  | @confirmed _ a l units _ _ _ _ _ hpos =>
      rw [readPosition_set hpos]
      by_cases hk : line = l ∧ asset = a
      · obtain ⟨rfl, rfl⟩ := hk
        simp [lienPledged, lienConfirmed]
      · have hk' : ¬ (l = line ∧ a = asset) :=
          fun hc => hk ⟨hc.1.symm, hc.2.symm⟩
        rw [if_neg hk]
        simp [lienPledged, lienConfirmed, hk']
  | released _ _ _ hout =>
      rw [(hout.keeps line asset).1]
      simp [lienPledged, lienConfirmed]
  | liquidated _ _ hout =>
      rw [(hout.keeps line asset).1]
      simp [lienPledged, lienConfirmed]

/-- Over a run, what was confirmed and what is pending is what was
pledged. -/
theorem lien_tally (net : CreditLineInterface κ) (self : Address)
    (peers : κ) (txs : List (Tx κ)) (line : Nat) (asset : Address) :
    (((machine net self peers).trace (machine net self peers).init txs).map
        (lienConfirmed line asset)).sum
      + (readPosition ((machine net self peers).run
          (machine net self peers).init txs).vault line
          asset).pendingLienUnits
      = (((machine net self peers).trace (machine net self peers).init
          txs).map (lienPledged line asset)).sum := by
  refine trace_induction (M := machine net self peers)
    (P := fun w tr => (tr.map (lienConfirmed line asset)).sum
      + (readPosition w.vault line asset).pendingLienUnits
      = (tr.map (lienPledged line asset)).sum) ?_ ?_ (allowed_true _ txs)
  · rfl
  · intro w tr tx w' hw _ happ
    rw [List.map_append, List.map_append, List.sum_append, List.sum_append]
    simp only [List.map_cons, List.map_nil, List.sum_cons, List.sum_nil]
    cases tx with
    | outside tokens peers' =>
        injection happ with happ
        subst happ
        simpa [lienPledged, lienConfirmed] using hw
    | call env e =>
        have hstep := pending_call env
          (show call net (env.at self) e w = .ok w' from happ) line asset
        omega

-- ========================================================== the modes

/-- The position holds units, counted or pending. -/
def Position.Holds (p : Position) : Prop :=
  p.units ≠ 0 ∨ p.pendingLienUnits ≠ 0

/-- A position that holds anything keeps its mode. -/
theorem call_keeps_mode (h : call net env e w = .ok w') {line : Nat}
    {asset : Address} (hp : (readPosition w.vault line asset).Holds) :
    (readPosition w'.vault line asset).mode
      = (readPosition w.vault line asset).mode := by
  cases call_custody h with
  | setup _ hpos =>
      unfold readPosition
      rw [hpos]
  | @pledged _ a l _ config p' _ _ _ hmode _ hp' hpos =>
      rw [readPosition_set hpos]
      split
      · next hk =>
        obtain ⟨rfl, rfl⟩ := hk
        have hnew : p'.mode = config.custodyMode := by
          rcases pledgedPosition_cases hp' with ⟨-, -, rfl⟩ | ⟨-, rfl⟩
          · rfl
          · rfl
        rcases hmode with ⟨hunits, hpend⟩ | hsame
        · rcases hp with hp | hp
          · exact absurd hunits hp
          · exact absurd hpend hp
        · rw [hnew, hsame]
      · rfl
  | confirmed _ _ _ _ hpos =>
      rw [readPosition_set hpos]
      split
      · next hk => rw [hk.1, hk.2]
      · rfl
  | released _ _ _ hout => exact (hout.keeps line asset).2
  | liquidated _ _ hout => exact (hout.keeps line asset).2

/-- The mode of a position is fixed while it holds anything. -/
theorem apply_keeps_mode {self : Address} {peers : κ} {tx : Tx κ}
    (h : (machine net self peers).apply tx w = .ok w') {line : Nat}
    {asset : Address} (hp : (readPosition w.vault line asset).Holds) :
    (readPosition w'.vault line asset).mode
      = (readPosition w.vault line asset).mode := by
  cases tx with
  | outside tokens peers' =>
      injection h with h
      subst h
      rfl
  | call env e => exact call_keeps_mode h hp

-- ========================================================== paying out

/-- The position an entry point takes units from. -/
def Entry.withdraws : Entry → Option (Nat × Address)
  | .release _ line asset _ => some (line, asset)
  | .liquidate _ line asset _ _ => some (line, asset)
  | _ => none

/-- Nothing is paid for units under a lien. -/
theorem PaidOut.lien {line : Nat} {asset recipient : Address}
    {units : Int} (h : PaidOut env w w' line asset units recipient)
    (hlien : (readPosition w.vault line asset).mode ≠ .escrow) :
    w'.tokens = w.tokens := by
  have htok := h.tokens
  rw [payOut, if_neg hlien, pure_ok] at htok
  exact htok.symm

/-- A withdrawal from a lien position moves no tokens. -/
theorem call_lien_unpaid (h : call net env e w = .ok w') {line : Nat}
    {asset : Address} (he : e.withdraws = some (line, asset))
    (hlien : (readPosition w.vault line asset).mode ≠ .escrow) :
    w'.tokens = w.tokens := by
  cases call_custody h with
  | setup _ _ htok => exact htok
  | pledged => cases he
  | confirmed => cases he
  | released _ _ _ hout =>
      injection he with he
      injection he with hline hasset
      subst hline hasset
      exact hout.lien hlien
  | liquidated _ _ hout =>
      injection he with he
      injection he with hline hasset
      subst hline hasset
      exact hout.lien hlien

/-- The balance covers every position on its own. -/
theorem Escrowed.covers {addr : Address} (h : Escrowed addr w)
    {line : Nat} {asset : Address}
    (hesc : (readPosition w.vault line asset).mode = .escrow) :
    (readPosition w.vault line asset).units
      ≤ w.tokens.balance asset addr := by
  refine le_trans ?_ (h.backed asset)
  unfold readPosition at hesc ⊢
  cases hp : w.vault.positions.get (line, asset) with
  | none =>
      refine Store.total_nonneg ?_
      intro k p hk
      exact escrowPart_nonneg (h.position k p hk)
  | some p =>
      rw [hp] at hesc
      have hpart : escrowPart asset (line, asset) p = p.units :=
        if_pos ⟨rfl, hesc⟩
      have hle := Store.part_le_total (f := escrowPart asset)
        (fun k p hk => escrowPart_nonneg (h.position k p hk)) hp
      rw [hpart] at hle
      exact hle

/-- Paying out up to the units of a position never fails. -/
theorem Escrowed.payOut_succeeds (h : Escrowed env.self w) {line : Nat}
    {asset : Address} {units : Int} (recipient : Address)
    (hpos : 0 < units)
    (hle : units ≤ (readPosition w.vault line asset).units) :
    ∃ tokens, payOut env (readPosition w.vault line asset) asset recipient
      units w.tokens = .ok tokens := by
  unfold payOut
  split
  case isTrue hesc =>
    have hcovers := h.covers hesc
    exact ⟨_, Ledger.transfer_ok.mpr
      ⟨Or.inl rfl, hpos.le, by omega, rfl⟩⟩
  case isFalse => exact ⟨w.tokens, rfl⟩

/-- Taking out no more than a position holds does not overflow. -/
theorem Escrowed.sub_fits {addr : Address} (h : Escrowed addr w)
    {line : Nat} {asset : Address} {units : Int} (hpos : 0 < units)
    (hle : units ≤ (readPosition w.vault line asset).units) :
    I128.Fits ((readPosition w.vault line asset).units - units) := by
  refine (h.read line asset).units_fit.of_le ?_ ?_
  · omega
  · omega

/-- A release whose other guards hold goes through. -/
theorem Escrowed.release_succeeds (h : Escrowed env.self w)
    {borrower asset : Address} {line : Nat} {units : Int}
    {config : AssetConfig} {peers : κ} (hauth : env.Grants borrower)
    (hpos : 0 < units)
    (hle : units ≤ (readPosition w.vault line asset).units)
    (hconfig : w.vault.assetConfig.get asset = some config)
    (hreal : net.borrowerOf (env.into config.creditLine) line w.peers
      = .ok borrower)
    (hcheck : checkRelease net env config line asset
      ((readPosition w.vault line asset).units - units) w.peers = .ok ())
    (hsync : syncCreditLine net env config line asset
      { readPosition w.vault line asset with
        units := (readPosition w.vault line asset).units - units } w.peers
      = .ok peers) :
    ∃ w', release net env borrower line asset units w = .ok w' := by
  obtain ⟨tokens, htokens⟩ := h.payOut_succeeds borrower hpos hle
  simp only [release, readAssetConfig, bind_ok, ensure_ok, expect_ok,
    HostEnv.requireAuth_ok, I128.sub_ok, pure_ok, exists_const]
  exact ⟨_, hauth, hpos, config, hconfig, borrower, hreal, rfl, hle, _,
    ⟨h.sub_fits hpos hle, rfl⟩, (), hcheck, tokens, htokens, peers, hsync,
    rfl⟩

/-- So does a liquidation. -/
theorem Escrowed.liquidate_succeeds (h : Escrowed env.self w)
    {keeper asset recipient : Address} {line : Nat} {units : Int}
    {r : Roles} {config : AssetConfig} {peers : κ}
    (hroles : w.vault.roles = some r) (hauth : env.Grants r.keeper)
    (hpos : 0 < units)
    (hle : units ≤ (readPosition w.vault line asset).units)
    (hconfig : w.vault.assetConfig.get asset = some config)
    (hsync : syncCreditLine net env config line asset
      { readPosition w.vault line asset with
        units := (readPosition w.vault line asset).units - units } w.peers
      = .ok peers) :
    ∃ w', liquidate net env keeper line asset units recipient w
      = .ok w' := by
  obtain ⟨tokens, htokens⟩ := h.payOut_succeeds recipient hpos hle
  simp only [liquidate, requireKeeper, readAssetConfig, bind_ok, ensure_ok,
    expect_ok, requireRole_ok, I128.sub_ok, pure_ok, exists_const]
  exact ⟨_, r.keeper, ⟨r, hroles, hauth, rfl⟩, hpos, hle, tokens, htokens,
    _, ⟨h.sub_fits hpos hle, rfl⟩, config, hconfig, peers, hsync, rfl⟩

-- ============================================================= all runs

/-- Nothing outside the vault debits its balance. -/
def NoOutsideDebit (addr : Address) : Tx κ → Scene κ → Prop
  | .call _ _, _ => True
  | .outside tokens _, w => ∀ a, w.tokens.balance a addr ≤ tokens.balance a addr

/-- The escrow is backed after every run in which nobody debits the vault
from outside. -/
theorem escrowed_run {self : Address} {peers : κ} {txs : List (Tx κ)}
    (h : (machine net self peers).Allowed (NoOutsideDebit self)
      (machine net self peers).init txs) :
    Escrowed self ((machine net self peers).run
      (machine net self peers).init txs) := by
  refine run_induction (P := Escrowed self) ?_ ⟨?_, ?_⟩ h
  · intro w tx w' hw hok happ
    cases tx with
    | outside tokens peers' =>
        injection happ with happ
        subst happ
        exact ⟨hw.position, fun a => (hw.backed a).trans (hok a)⟩
    | call env e => exact hw.call rfl happ
  · intro k p hk
    cases hk
  · intro a
    exact le_of_eq (Store.total_empty _)

/-- Custody over whole runs: the balance covers the escrow positions,
liens are confirmed only as far as they were pledged, a position that
holds anything keeps its mode, lien units are never paid for, and no
release or liquidation of what a position has fails for lack of
tokens. -/
theorem escrow_backed (net : CreditLineInterface κ) (self : Address)
    (peers : κ) (txs : List (Tx κ))
    (h : (machine net self peers).Allowed (NoOutsideDebit self)
      (machine net self peers).init txs) :
    let M := machine net self peers
    let w := M.run M.init txs
    (∀ a, escrowUnits w.vault a ≤ w.tokens.balance a self)
    ∧ (∀ line asset, let p := readPosition w.vault line asset
        0 ≤ p.units ∧ 0 ≤ p.pendingLienUnits
          ∧ (p.mode = .escrow → p.pendingLienUnits = 0))
    ∧ (∀ line asset, ((M.trace M.init txs).map
          (lienConfirmed line asset)).sum
        ≤ ((M.trace M.init txs).map (lienPledged line asset)).sum)
    ∧ (∀ c ∈ M.trace M.init txs, ∀ line asset,
        (readPosition c.before.vault line asset).Holds →
        (readPosition c.after.vault line asset).mode
          = (readPosition c.before.vault line asset).mode)
    ∧ (∀ c ∈ M.trace M.init txs, ∀ env e line asset,
        c.call = .call env e → e.withdraws = some (line, asset) →
        (readPosition c.before.vault line asset).mode ≠ .escrow →
        c.after.tokens = c.before.tokens)
    ∧ (∀ (env : Env) line asset units config peers',
        0 < units → units ≤ (readPosition w.vault line asset).units →
        w.vault.assetConfig.get asset = some config →
        syncCreditLine net (env.at self) config line asset
          { readPosition w.vault line asset with
            units := (readPosition w.vault line asset).units - units }
          w.peers = .ok peers' →
        (∀ borrower, (env.at self).Grants borrower →
          net.borrowerOf ((env.at self).into config.creditLine) line
            w.peers = .ok borrower →
          checkRelease net (env.at self) config line asset
            ((readPosition w.vault line asset).units - units) w.peers
            = .ok () →
          ∃ w', release net (env.at self) borrower line asset units w
            = .ok w')
        ∧ ∀ r keeper recipient, w.vault.roles = some r →
          (env.at self).Grants r.keeper →
          ∃ w', liquidate net (env.at self) keeper line asset units
            recipient w = .ok w') := by
  intro M w
  have hw : Escrowed self w := escrowed_run h
  refine ⟨hw.backed, ?_, ?_, ?_, ?_, ?_⟩
  · intro line asset p
    have hp := hw.read line asset
    exact ⟨hp.units_nonneg, hp.pending_nonneg, hp.escrow_pending⟩
  · intro line asset
    have htally := lien_tally net self peers txs line asset
    have hpend := (hw.read line asset).pending_nonneg
    exact (le_add_of_nonneg_right hpend).trans htally.le
  · intro c hc line asset hholds
    exact apply_keeps_mode (apply_of_mem_trace hc) hholds
  · intro c hc env e line asset hcall he hlien
    have happ := apply_of_mem_trace hc
    rw [hcall] at happ
    exact call_lien_unpaid happ he hlien
  · intro env line asset units config peers' hpos hle hconfig hsync
    have hself : Escrowed (env.at self).self w := hw
    refine ⟨?_, ?_⟩
    · intro borrower hauth hreal hcheck
      exact hself.release_succeeds hauth hpos hle hconfig hreal hcheck hsync
    · intro r keeper recipient hroles hauth
      exact hself.liquidate_succeeds hroles hauth hpos hle hconfig hsync

/-- After the demo run 200 units are in escrow and the vault holds
them. -/
theorem escrow_backed_demo :
    let w := (machine Demo.line Demo.self ()).run
      (machine Demo.line Demo.self ()).init Demo.escrowRun
    w.tokens.balance Demo.asset Demo.self = 200
      ∧ positionUnits w.vault 0 Demo.asset = 200
      ∧ escrowUnits w.vault Demo.asset ≤ 200 := by
  intro w
  have hb : w.tokens.balance Demo.asset Demo.self = 200 := by
    decide +kernel
  refine ⟨hb, by decide +kernel, ?_⟩
  rw [← hb]
  refine (escrow_backed Demo.line Demo.self () Demo.escrowRun ?_).1
    Demo.asset
  refine ⟨trivial, trivial, ?_, trivial, trivial, trivial⟩
  intro a
  show (0 : Int) ≤ _
  simp [Ledger.credit, Ledger.empty, Demo.self, Demo.borrower]

end Ballast.PledgeVault
