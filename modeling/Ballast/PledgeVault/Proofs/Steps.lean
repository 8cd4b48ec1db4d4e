/-
What a committed `PledgeVault` call did: one inversion lemma per entry
point, then the two shapes they come in. A setup call touches neither
positions nor peers; every other call replaces one position and reports
its units to the credit line the asset is configured with
(`VaultEffect`).
-/
import Ballast.PledgeVault.Basic

namespace Ballast.PledgeVault

open Soroban

variable {κ : Type} {net : CreditLineInterface κ} {env : Env}
  {w w' : Scene κ} {s s' : State}

-- =============================================================== setup

/-- The roles are set once. -/
theorem initContract_ok {a p k pp r : Address}
    (h : initContract a p k pp r s = .ok s') :
    s.roles = none ∧ s' = { s with roles := some ⟨a, p, k, pp, r⟩ } := by
  simp only [initContract, bind_ok, ensure_ok, pure_ok, exists_const] at h
  exact ⟨h.1, h.2.symm⟩

/-- The thresholds are checked and the haircut is not. -/
theorem configureAsset_ok {admin asset guard creditLine : Address}
    {hc : Nat} {t : MarginThresholds} {mode : CustodyMode}
    (h : configureAsset env admin asset guard creditLine hc t mode s
      = .ok s') :
    t.validate = .ok ()
      ∧ s' = { s with
          assetConfig := s.assetConfig.set asset
            ⟨guard, creditLine, hc, t, mode⟩ } := by
  simp only [configureAsset, bind_ok, pure_ok] at h
  obtain ⟨-, -, ⟨⟩, ht, rfl⟩ := h
  exact ⟨ht, rfl⟩

/-- The admin names the gateway that may confirm liens. -/
theorem setGateway_ok {admin gateway : Address}
    (h : setGateway env admin gateway s = .ok s') :
    s' = { s with gateway := some gateway } := by
  simp only [setGateway, bind_ok, pure_ok] at h
  obtain ⟨-, -, rfl⟩ := h
  rfl

-- ============================================================ positions

/-- A pledge adds to the counted units in escrow, and to the pending ones
under a lien. -/
theorem pledgedPosition_cases {mode : CustodyMode} {p p' : Position}
    {units : Int} (h : pledgedPosition mode p units = .ok p') :
    (mode = .escrow ∧ I128.Fits (p.units + units)
        ∧ p' = { p with units := p.units + units, mode := mode })
      ∨ (mode ≠ .escrow ∧ p' = { p with
          pendingLienUnits := p.pendingLienUnits + units
          mode := mode }) := by
  unfold pledgedPosition at h
  split at h
  case isTrue hmode =>
    simp only [bind_ok, I128.add_ok, pure_ok] at h
    obtain ⟨n, ⟨hfits, rfl⟩, rfl⟩ := h
    exact .inl ⟨hmode, hfits, rfl⟩
  case isFalse hmode =>
    simp only [bind_ok, I128.add_ok, pure_ok] at h
    obtain ⟨n, ⟨-, rfl⟩, rfl⟩ := h
    exact .inr ⟨hmode, rfl⟩

/-- Units pledged count at once in escrow, and are pending under a lien. -/
theorem pledgedPosition_ok {mode : CustodyMode} {p p' : Position}
    {units : Int} (h : pledgedPosition mode p units = .ok p') :
    p' = if mode = .escrow
      then { p with units := p.units + units, mode := mode }
      else { p with
        pendingLienUnits := p.pendingLienUnits + units
        mode := mode } := by
  rcases pledgedPosition_cases h with ⟨hmode, -, hp'⟩ | ⟨hmode, hp'⟩
  · rw [if_pos hmode, hp']
  · rw [if_neg hmode, hp']

/-- A pledge is the borrower's, for his own line in its own asset, and
keeps the mode of a position that holds anything. -/
theorem pledge_ok {borrower asset : Address} {line : Nat} {units : Int}
    (h : pledge net env borrower line asset units w = .ok w') :
    ∃ config p' tokens peers,
      env.Grants borrower ∧ 0 < units
      ∧ w.vault.assetConfig.get asset = some config
      ∧ net.borrowerOf (env.into config.creditLine) line w.peers
          = .ok borrower
      ∧ net.assetOf (env.into config.creditLine) line w.peers = .ok asset
      ∧ (((readPosition w.vault line asset).units = 0
          ∧ (readPosition w.vault line asset).pendingLienUnits = 0)
        ∨ (readPosition w.vault line asset).mode = config.custodyMode)
      ∧ payIn env config.custodyMode asset borrower units w.tokens
          = .ok tokens
      ∧ pledgedPosition config.custodyMode
          (readPosition w.vault line asset) units = .ok p'
      ∧ syncCreditLine net env config line asset p' w.peers = .ok peers
      ∧ w' = ⟨tokens, publish (writePosition w.vault line asset p')
          (.pledged line asset units), peers⟩ := by
  simp only [pledge, readAssetConfig, bind_ok, ensure_ok, expect_ok,
    HostEnv.requireAuth_ok, requireNotPaused_ok, pure_ok,
    exists_const] at h
  obtain ⟨hauth, -, hunits, config, hconfig, real, hreal, rfl, collateral,
    hasset, rfl, hmode, tokens, htokens, p', hp', peers, hpeers, rfl⟩ := h
  exact ⟨config, p', tokens, peers, hauth, hunits, hconfig, hreal, hasset,
    hmode, htokens, hp', hpeers, rfl⟩

/-- A release that passed its check either faced no debt, or left the
line's debt healthy against the remaining units at an `Ok` price. -/
theorem checkRelease_ok {config : AssetConfig} {line : Nat}
    {asset : Address} {remaining : Int} {peers : κ}
    (h : checkRelease net env config line asset remaining peers = .ok ()) :
    ∃ debt, net.debtOf (env.into config.creditLine) line peers = .ok debt
      ∧ (0 < debt → ∃ guarded view cv bps,
        env.guardedPrice config.priceGuard asset = .ok guarded
        ∧ guarded.status = .ok
        ∧ net.ltv (env.into config.creditLine) line peers = .ok view
        ∧ collateralValue remaining guarded.value config.haircutBps
            = .ok cv
        ∧ ltvBps view.debt cv = .ok bps
        ∧ classify bps config.thresholds = .healthy) := by
  simp only [checkRelease, bind_ok] at h
  obtain ⟨debt, hdebt, h⟩ := h
  refine ⟨debt, hdebt, ?_⟩
  intro hpos
  rw [if_pos hpos] at h
  simp only [bind_ok, ensure_ok, GuardedPrice.isUsableForNewRisk,
    decide_eq_true_eq, exists_const] at h
  obtain ⟨guarded, hguarded, hok, view, hview, cv, hcv, bps, hbps,
    hhealthy⟩ := h
  exact ⟨guarded, view, cv, bps, hguarded, hok, hview, hcv, hbps, hhealthy⟩

/-- A release is the borrower's, and what stays passes the vault's check. -/
theorem release_ok {borrower asset : Address} {line : Nat} {units : Int}
    (h : release net env borrower line asset units w = .ok w') :
    ∃ config tokens peers,
      env.Grants borrower ∧ 0 < units
      ∧ w.vault.assetConfig.get asset = some config
      ∧ net.borrowerOf (env.into config.creditLine) line w.peers
          = .ok borrower
      ∧ units ≤ (readPosition w.vault line asset).units
      ∧ checkRelease net env config line asset
          ((readPosition w.vault line asset).units - units) w.peers = .ok ()
      ∧ payOut env (readPosition w.vault line asset) asset borrower units
          w.tokens = .ok tokens
      ∧ syncCreditLine net env config line asset
          { readPosition w.vault line asset with
            units := (readPosition w.vault line asset).units - units }
          w.peers = .ok peers
      ∧ w' = ⟨tokens, publish (writePosition w.vault line asset
          { readPosition w.vault line asset with
            units := (readPosition w.vault line asset).units - units })
          (.released line asset units), peers⟩ := by
  simp only [release, readAssetConfig, bind_ok, ensure_ok, expect_ok,
    HostEnv.requireAuth_ok, I128.sub_ok, pure_ok, exists_const] at h
  obtain ⟨hauth, hunits, config, hconfig, real, hreal, rfl, hle, remaining,
    ⟨-, rfl⟩, ⟨⟩, hcheck, tokens, htokens, peers, hpeers, rfl⟩ := h
  exact ⟨config, tokens, peers, hauth, hunits, hconfig, hreal, hle, hcheck,
    htokens, hpeers, rfl⟩

/-- The gateway confirms no more than is pending. -/
theorem recordLien_ok {gateway asset : Address} {line : Nat} {units : Int}
    {lienRef : Bytes}
    (h : recordLien net env gateway line asset units lienRef w = .ok w') :
    ∃ config peers,
      env.Grants gateway ∧ w.vault.gateway = some gateway ∧ 0 < units
      ∧ w.vault.assetConfig.get asset = some config
      ∧ units ≤ (readPosition w.vault line asset).pendingLienUnits
      ∧ I128.Fits ((readPosition w.vault line asset).units + units)
      ∧ syncCreditLine net env config line asset
          { readPosition w.vault line asset with
            pendingLienUnits :=
              (readPosition w.vault line asset).pendingLienUnits - units
            units := (readPosition w.vault line asset).units + units
            lienRef := some lienRef }
          w.peers = .ok peers
      ∧ w' = ⟨w.tokens, publish (writePosition w.vault line asset
          { readPosition w.vault line asset with
            pendingLienUnits :=
              (readPosition w.vault line asset).pendingLienUnits - units
            units := (readPosition w.vault line asset).units + units
            lienRef := some lienRef })
          (.lienRecorded line asset units lienRef), peers⟩ := by
  simp only [recordLien, readAssetConfig, bind_ok, ensure_ok, expect_ok,
    HostEnv.requireAuth_ok, I128.sub_ok, I128.add_ok, pure_ok,
    exists_const] at h
  obtain ⟨hauth, stored, hstored, rfl, hunits, hle, pending, ⟨-, rfl⟩, total,
    ⟨hfits, rfl⟩, config, hconfig, peers, hpeers, rfl⟩ := h
  exact ⟨config, peers, hauth, hstored, hunits, hconfig, hle, hfits, hpeers,
    rfl⟩

/-- The keeper may take all there is, to anyone. -/
theorem liquidate_ok {keeper asset recipient : Address} {line : Nat}
    {units : Int}
    (h : liquidate net env keeper line asset units recipient w = .ok w') :
    ∃ r config tokens peers, w.vault.roles = some r ∧ env.Grants r.keeper
      ∧ 0 < units
      ∧ w.vault.assetConfig.get asset = some config
      ∧ units ≤ (readPosition w.vault line asset).units
      ∧ payOut env (readPosition w.vault line asset) asset recipient units
          w.tokens = .ok tokens
      ∧ syncCreditLine net env config line asset
          { readPosition w.vault line asset with
            units := (readPosition w.vault line asset).units - units }
          w.peers = .ok peers
      ∧ w' = ⟨tokens, publish (writePosition w.vault line asset
          { readPosition w.vault line asset with
            units := (readPosition w.vault line asset).units - units })
          (.liquidated line asset units recipient), peers⟩ := by
  simp only [liquidate, requireKeeper, readAssetConfig, bind_ok, ensure_ok,
    expect_ok, requireRole_ok, I128.sub_ok, pure_ok, exists_const] at h
  obtain ⟨-, ⟨r, hroles, hauth, -⟩, hunits, hle, tokens, htokens, remaining,
    ⟨-, rfl⟩, config, hconfig, peers, hpeers, rfl⟩ := h
  exact ⟨r, config, tokens, peers, hroles, hauth, hunits, hconfig, hle,
    htokens, hpeers, rfl⟩

-- =================================================== what a call does

/-- A setup call moves no tokens and reaches no peer. -/
theorem onVault_ok {r : Call State} :
    onVault w r = .ok w' ↔
      r = .ok w'.vault ∧ w'.tokens = w.tokens ∧ w'.peers = w.peers := by
  simp only [onVault, map_ok]
  constructor
  · intro h
    obtain ⟨s, hs, rfl⟩ := h
    exact ⟨hs, rfl, rfl⟩
  · intro h
    obtain ⟨hs, ht, hp⟩ := h
    exact ⟨w'.vault, hs, by rw [← ht, ← hp]⟩

/-- A call that changes the position `p` of (`line`, `asset`), and what
it makes of it. -/
inductive PositionStep (line : Nat) (asset : Address) (p : Position) :
    Entry → Position → Prop
  | pledge {borrower : Address} {units : Int} {mode : CustodyMode} :
      0 < units →
      PositionStep line asset p (.pledge borrower line asset units)
        (if mode = .escrow
          then { p with units := p.units + units, mode := mode }
          else { p with
            pendingLienUnits := p.pendingLienUnits + units
            mode := mode })
  | release {borrower : Address} {units : Int} :
      0 < units → units ≤ p.units →
      PositionStep line asset p (.release borrower line asset units)
        { p with units := p.units - units }
  | recordLien {gateway : Address} {units : Int} {lienRef : Bytes} :
      0 < units → units ≤ p.pendingLienUnits →
      PositionStep line asset p
        (.recordLien gateway line asset units lienRef)
        { p with
          pendingLienUnits := p.pendingLienUnits - units
          units := p.units + units
          lienRef := some lienRef }
  | liquidate {keeper recipient : Address} {units : Int} :
      0 < units → units ≤ p.units →
      PositionStep line asset p
        (.liquidate keeper line asset units recipient)
        { p with units := p.units - units }

/-- The position an entry point changes, if it changes one. -/
def Entry.target : Entry → Option (Nat × Address)
  | .pledge _ line asset _ => some (line, asset)
  | .release _ line asset _ => some (line, asset)
  | .recordLien _ line asset _ _ => some (line, asset)
  | .liquidate _ line asset _ _ => some (line, asset)
  | _ => none

/-- The call names the position it changes. -/
theorem PositionStep.target {line : Nat} {asset : Address}
    {p p' : Position} {e : Entry} (h : PositionStep line asset p e p') :
    e.target = some (line, asset) := by
  cases h <;> rfl

/-- What a committed call does to the vault and its peers. -/
inductive VaultEffect (net : CreditLineInterface κ) (env : Env)
    (e : Entry) (w w' : Scene κ) : Prop
  | setup : e.target = none → w'.vault.positions = w.vault.positions →
      w'.peers = w.peers → VaultEffect net env e w w'
  | position {line : Nat} {asset : Address} {config : AssetConfig}
      {p' : Position} :
      w.vault.assetConfig.get asset = some config →
      PositionStep line asset (readPosition w.vault line asset) e p' →
      w'.vault.positions = w.vault.positions.set (line, asset) p' →
      w'.vault.assetConfig = w.vault.assetConfig →
      net.syncFromVault (env.into config.creditLine) env.self line asset
        p'.units w.peers = .ok w'.peers →
      VaultEffect net env e w w'

/-- Every call that commits is of one of the two shapes. -/
theorem call_effect {e : Entry} (h : call net env e w = .ok w') :
    VaultEffect net env e w w' := by
  cases e with
  | initContract =>
      obtain ⟨h, -, hp⟩ := onVault_ok.mp h
      obtain ⟨-, hs⟩ := initContract_ok h
      exact .setup rfl (by rw [hs]) hp
  | configureAsset =>
      obtain ⟨h, -, hp⟩ := onVault_ok.mp h
      obtain ⟨-, hs⟩ := configureAsset_ok h
      exact .setup rfl (by rw [hs]) hp
  | setGateway =>
      obtain ⟨h, -, hp⟩ := onVault_ok.mp h
      exact .setup rfl (by rw [setGateway_ok h]) hp
  | pledge borrower line asset units =>
      obtain ⟨config, p', tokens, peers, -, hunits, hconfig, -, -, -, -, hp',
        hsync, rfl⟩ := pledge_ok h
      refine .position hconfig ?_ rfl rfl hsync
      rw [pledgedPosition_ok hp']
      exact .pledge hunits
  | release borrower line asset units =>
      obtain ⟨config, tokens, peers, -, hunits, hconfig, -, hle, -, -, hsync,
        rfl⟩ := release_ok h
      exact .position hconfig (.release hunits hle) rfl rfl hsync
  | recordLien gateway line asset units lienRef =>
      obtain ⟨config, peers, -, -, hunits, hconfig, hle, -, hsync, rfl⟩ :=
        recordLien_ok h
      exact .position hconfig (.recordLien hunits hle) rfl rfl hsync
  | liquidate keeper line asset units recipient =>
      have hliq : liquidate net env keeper line asset units recipient w
          = .ok w' := h
      obtain ⟨_, config, tokens, peers, -, -, hunits, hconfig, hle, -, hsync,
        rfl⟩ := liquidate_ok hliq
      exact .position hconfig (.liquidate hunits hle) rfl rfl hsync

/-- A call that changes a position leaves the configuration alone. -/
theorem call_keeps_config {e : Entry} (h : call net env e w = .ok w')
    {k : Nat × Address} (he : e.target = some k) :
    w'.vault.assetConfig = w.vault.assetConfig := by
  cases call_effect h with
  | setup hnone =>
      rw [hnone] at he
      cases he
  | position _ _ _ hconfig => exact hconfig

/-- Only `configure_asset` writes a configuration, and only one whose
thresholds passed validation. -/
theorem call_config {e : Entry} (h : call net env e w = .ok w') :
    w'.vault.assetConfig = w.vault.assetConfig
      ∨ ∃ admin a guard creditLine hc t mode,
        e = .configureAsset admin a guard creditLine hc t mode
        ∧ t.validate = .ok ()
        ∧ w'.vault.assetConfig
          = w.vault.assetConfig.set a ⟨guard, creditLine, hc, t, mode⟩ := by
  cases e with
  | initContract =>
      obtain ⟨-, hs⟩ := initContract_ok (onVault_ok.mp h).1
      exact .inl (by rw [hs])
  | configureAsset admin a guard creditLine hc t mode =>
      obtain ⟨ht, hs⟩ := configureAsset_ok (onVault_ok.mp h).1
      exact .inr ⟨admin, a, guard, creditLine, hc, t, mode, rfl, ht,
        by rw [hs]⟩
  | setGateway => exact .inl (by rw [setGateway_ok (onVault_ok.mp h).1])
  | pledge => exact .inl (call_keeps_config h rfl)
  | release => exact .inl (call_keeps_config h rfl)
  | recordLien => exact .inl (call_keeps_config h rfl)
  | liquidate => exact .inl (call_keeps_config h rfl)

/-- Reading back after a write of one position. -/
theorem readPosition_set {line k : Nat} {asset a : Address}
    {p' : Position}
    (h : s'.positions = s.positions.set (line, asset) p') :
    readPosition s' k a
      = if k = line ∧ a = asset then p' else readPosition s k a := by
  unfold readPosition
  rw [h, Store.get_set]
  by_cases hk : k = line ∧ a = asset
  · rw [if_pos hk, if_pos (by rw [hk.1, hk.2])]
    rfl
  · rw [if_neg hk, if_neg]
    intro heq
    injection heq with h1 h2
    exact hk ⟨h1, h2⟩

end Ballast.PledgeVault
