/-
The vault's event log against its positions.

Every committed call that changes a position publishes one event, and a
call that aborts publishes none (`call_events`). What an event says of an
asset (`Event.delta`) is what its call did to the units held in it,
counted and pending together: a confirmed lien only moves units from one
to the other, and its event counts for nothing. So the log adds up to
what is held (`held_run`), whatever order it is read in.

In a run in which no asset was ever configured for liens, what is held
is in the vault's own balance as well (`held_le_balance`), so there
three figures agree: the log, the positions and the tokens. Where liens
are used, the first two still do.
-/
import Ballast.PledgeVault.Proofs.Escrow

namespace Ballast.PledgeVault

open Soroban Machine

variable {κ : Type} {net : CreditLineInterface κ} {env : Env}
  {w w' : Scene κ} {s s' : State} {e : Entry} {a : Address}

-- ============================================================ the figures

/-- The event an entry point publishes. -/
def Entry.event : Entry → Option Event
  | .pledge _ line asset units => some (.pledged line asset units)
  | .release _ line asset units => some (.released line asset units)
  | .recordLien _ line asset units lienRef =>
      some (.lienRecorded line asset units lienRef)
  | .liquidate _ line asset units recipient =>
      some (.liquidated line asset units recipient)
  | _ => none

/-- What an event says of the units held in `a`. -/
def Event.delta (a : Address) : Event → Int
  | .pledged _ asset units => if asset = a then units else 0
  | .released _ asset units => if asset = a then -units else 0
  | .lienRecorded .. => 0
  | .liquidated _ asset units _ => if asset = a then -units else 0

/-- What a position holds of `a`, counted or pending. -/
def heldPart (a : Address) (k : Nat × Address) (p : Position) : Int :=
  if k.2 = a then p.units + p.pendingLienUnits else 0

/-- What all lines together hold of `a`. -/
def heldUnits (s : State) (a : Address) : Int :=
  s.positions.total (heldPart a)

theorem part_held (s : State) (line : Nat) (asset a : Address) :
    s.positions.part (heldPart a) (line, asset)
      = heldPart a (line, asset) (readPosition s line asset) :=
  s.positions.part_getD (by simp [heldPart, Position.fresh])

/-- A position that now holds `d` more moves the total of its asset by
`d`. -/
theorem heldUnits_set {line : Nat} {asset : Address} {p' : Position}
    {d : Int} (h : s'.positions = s.positions.set (line, asset) p')
    (hd : p'.units + p'.pendingLienUnits
      = (readPosition s line asset).units
        + (readPosition s line asset).pendingLienUnits + d) (a : Address) :
    heldUnits s' a = heldUnits s a + if asset = a then d else 0 := by
  unfold heldUnits
  rw [h, Store.total_set, part_held]
  unfold heldPart
  by_cases ha : asset = a
  · simp only [ha, if_true]
    rw [ha] at hd
    omega
  · simp only [ha, if_false]
    omega

-- =============================================================== one call

theorem call_events (h : call net env e w = .ok w') :
    w'.vault.events = w.vault.events ++ e.event.toList := by
  cases e with
  | initContract =>
      obtain ⟨h, -, -⟩ := onVault_ok.mp h
      obtain ⟨-, hs⟩ := initContract_ok h
      simp [hs, Entry.event]
  | configureAsset =>
      obtain ⟨h, -, -⟩ := onVault_ok.mp h
      obtain ⟨-, hs⟩ := configureAsset_ok h
      simp [hs, Entry.event]
  | setGateway =>
      obtain ⟨h, -, -⟩ := onVault_ok.mp h
      simp [setGateway_ok h, Entry.event]
  | pledge borrower line asset units =>
      obtain ⟨_, _, _, _, -, -, -, -, -, -, -, -, -, rfl⟩ := pledge_ok h
      rfl
  | release borrower line asset units =>
      obtain ⟨_, _, _, -, -, -, -, -, -, -, -, rfl⟩ := release_ok h
      rfl
  | recordLien gateway line asset units lienRef =>
      obtain ⟨_, _, -, -, -, -, -, -, -, rfl⟩ := recordLien_ok h
      rfl
  | liquidate keeper line asset units recipient =>
      have hliq : liquidate net env keeper line asset units recipient w
          = .ok w' := h
      obtain ⟨_, _, _, _, -, -, -, -, -, -, -, rfl⟩ := liquidate_ok hliq
      rfl

/-- The log of one entry point, for `a`. -/
def Entry.delta (a : Address) (e : Entry) : Int :=
  (e.event.toList.map (Event.delta a)).sum

theorem held_call (h : call net env e w = .ok w') (a : Address) :
    heldUnits w'.vault a = heldUnits w.vault a + e.delta a := by
  cases call_custody h with
  | setup htarget hpos _ =>
      have hnone : e.event = none := by
        cases e with
        | initContract | configureAsset | setGateway => rfl
        | pledge | release | recordLien | liquidate => cases htarget
      simp [heldUnits, hpos, Entry.delta, hnone]
  | @pledged _ asset line units _ p' _ _ _ _ _ hp' hpos =>
      have hd : p'.units + p'.pendingLienUnits
          = (readPosition w.vault line asset).units
            + (readPosition w.vault line asset).pendingLienUnits + units := by
        rcases pledgedPosition_cases hp' with ⟨-, -, rfl⟩ | ⟨-, rfl⟩
        · simp only
          omega
        · simp only
          omega
      rw [heldUnits_set hpos hd a]
      simp [Entry.delta, Entry.event, Event.delta]
  | @confirmed _ asset line units _ _ _ _ _ hpos =>
      rw [heldUnits_set (d := 0) hpos (by simp only; omega) a]
      simp [Entry.delta, Entry.event, Event.delta]
  | @released _ asset line units _ _ _ _ hout =>
      rw [heldUnits_set (d := -units) hout.positions (by simp only; omega) a]
      simp [Entry.delta, Entry.event, Event.delta]
  | @liquidated _ asset _ line units _ _ _ hout =>
      rw [heldUnits_set (d := -units) hout.positions (by simp only; omega) a]
      simp [Entry.delta, Entry.event, Event.delta]

-- =============================================================== all runs

/-- The log adds up to what is held. -/
theorem held_run (net : CreditLineInterface κ) (self : Address) (peers : κ)
    (txs : List (Tx κ)) (a : Address) :
    heldUnits ((machine net self peers).run (machine net self peers).init
        txs).vault a
      = (((machine net self peers).run (machine net self peers).init
        txs).vault.events.map (Event.delta a)).sum := by
  refine run_induction (M := machine net self peers)
    (P := fun w => heldUnits w.vault a
      = (w.vault.events.map (Event.delta a)).sum) ?_ ?_ (allowed_true _ txs)
  · intro w tx w' hw _ happ
    cases tx with
    | outside tokens peers' =>
        injection happ with happ
        subst happ
        exact hw
    | call env e =>
        have hcall : call net (env.at self) e w = .ok w' := happ
        rw [held_call hcall, call_events hcall, List.map_append,
          List.sum_append, hw]
        rfl
  · exact Store.total_empty _

-- ============================================================ escrow runs

/-- No asset is configured for liens. -/
def EscrowOnly : Tx κ → Scene κ → Prop
  | .call _ (.configureAsset _ _ _ _ _ _ mode), _ => mode = .escrow
  | _, _ => True

/-- Every position and every configuration is in escrow mode. -/
structure AllEscrow (s : State) : Prop where
  position : ∀ line asset, (readPosition s line asset).mode = .escrow
  config : ∀ asset c, s.assetConfig.get asset = some c →
    c.custodyMode = .escrow

theorem AllEscrow.call {outer : Env} (hw : AllEscrow w.vault)
    (hok : EscrowOnly (.call outer e) w) (h : call net env e w = .ok w') :
    AllEscrow w'.vault := by
  constructor
  · intro line asset
    cases call_custody h with
    | setup _ hpos =>
        have hsame : readPosition w'.vault line asset
            = readPosition w.vault line asset := by
          unfold readPosition
          rw [hpos]
        rw [hsame]
        exact hw.position line asset
    | @pledged _ b l _ config p' _ _ hconfig _ _ hp' hpos =>
        rw [readPosition_set hpos]
        split
        · have hmode : p'.mode = config.custodyMode := by
            rcases pledgedPosition_cases hp' with ⟨-, -, rfl⟩ | ⟨-, rfl⟩
            · rfl
            · rfl
          rw [hmode]
          exact hw.config _ _ hconfig
        · exact hw.position line asset
    | @confirmed _ b l _ _ _ _ _ _ hpos =>
        rw [readPosition_set hpos]
        split
        · exact hw.position l b
        · exact hw.position line asset
    | released _ _ _ hout =>
        rw [(hout.keeps line asset).2]
        exact hw.position line asset
    | liquidated _ _ hout =>
        rw [(hout.keeps line asset).2]
        exact hw.position line asset
  · intro asset c hc
    rcases call_config h with hsame | ⟨_, b, _, _, _, _, mode, rfl, -, hset⟩
    · rw [hsame] at hc
      exact hw.config asset c hc
    · rw [hset, Store.get_set] at hc
      split at hc
      · injection hc with hc
        rw [← hc]
        exact hok
      · exact hw.config asset c hc

theorem allEscrow_run {self : Address} {peers : κ} {txs : List (Tx κ)}
    (h : (machine net self peers).Allowed EscrowOnly
      (machine net self peers).init txs) :
    AllEscrow ((machine net self peers).run (machine net self peers).init
      txs).vault := by
  refine run_induction (P := fun w : Scene κ => AllEscrow w.vault) ?_ ?_ h
  · intro w tx w' hw hok happ
    cases tx with
    | outside tokens peers' =>
        injection happ with happ
        subst happ
        exact hw
    | call env e =>
        have hcall : PledgeVault.call net (env.at self) e w = .ok w' := happ
        exact hw.call hok hcall
  · exact ⟨fun _ _ => rfl, fun _ _ hc => nomatch hc⟩

/-- Then everything held is in escrow. -/
theorem AllEscrow.held_eq {addr : Address} (h : AllEscrow w.vault)
    (hw : Escrowed addr w) (a : Address) :
    heldUnits w.vault a = escrowUnits w.vault a := by
  apply Store.total_congr
  rintro ⟨line, asset⟩
  rw [part_held, part_escrow]
  have hmode := h.position line asset
  unfold heldPart escrowPart
  by_cases ha : asset = a
  · rw [if_pos ha, if_pos ⟨ha, hmode⟩,
      (hw.read line asset).escrow_pending hmode, add_zero]
  · rw [if_neg ha, if_neg fun hc => ha hc.1]

/-- And the vault's balance covers it. -/
theorem held_le_balance {self : Address} {peers : κ} {txs : List (Tx κ)}
    (hescrow : (machine net self peers).Allowed EscrowOnly
      (machine net self peers).init txs)
    (hdebit : (machine net self peers).Allowed (NoOutsideDebit self)
      (machine net self peers).init txs) (a : Address) :
    heldUnits ((machine net self peers).run (machine net self peers).init
        txs).vault a
      ≤ ((machine net self peers).run (machine net self peers).init
        txs).tokens.balance a self := by
  have hw := escrowed_run hdebit
  rw [(allEscrow_run hescrow).held_eq hw a]
  exact hw.backed a

end Ballast.PledgeVault
