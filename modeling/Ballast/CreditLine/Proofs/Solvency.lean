/-
Solvency of the pooled USDC balance: over every run, the contract holds
at least what all lines together may still take out of it.

# The obligation

A line's claim on its USDC token is what is funded but not drawn plus
the repaid interest its lender has not withdrawn (`lineClaim`); `owed`
adds the claims of the lines using one token. All lines of a token
share one balance, so the property is about the sum: an entry point
that books one side of a movement and forgets the other takes the
difference out of somebody else's line.

# The argument

Every entry point that touches a line rewrites exactly one line and
that line's claimable interest (`LineWrite`). So one lemma
(`Solvent.write`) carries all of them: the contract's balance has to
grow by at least what the line's claim grows. The per-entry work is the
arithmetic of one line.

Payers are never the contract itself, because the host does not grant
the contract its own authorization; without that, `fund` by the
contract would book a claim against its own balance. Recipients may be
anyone, the contract included: a payout to itself only leaves more
behind.

Two side conditions come with the claim (`Admissible`): an asset's USDC
token is not swapped under existing lines, and token activity outside
the contract does not debit it.
-/
import Ballast.CreditLine.Proofs.Steps

namespace Ballast.CreditLine

open Soroban

-- ======================================================== the obligation

/-- What a line may still take out in `usdc`: undrawn funding plus
unclaimed interest, if that is the token its asset is configured
with. -/
def lineClaim (s : State) (usdc : Address) (id : Nat) (l : Line) : Int :=
  if (s.assetConfig.get l.asset).map AssetConfig.usdc = some usdc
  then l.funded - l.drawn + readClaimable s id
  else 0

/-- What all lines together may still take out in `usdc`. -/
def owed (s : State) (usdc : Address) : Int :=
  s.lines.total (lineClaim s usdc)

/-- What every stored line satisfies. -/
structure LineOk (l : Line) : Prop where
  drawn_nonneg : 0 ≤ l.drawn
  drawn_le_funded : l.drawn ≤ l.funded
  drawn_le_limit : l.drawn ≤ l.limit
  accrued_nonneg : 0 ≤ l.accruedInterest
  funded_fits : I128.Fits l.funded

/-- The storage half of solvency. A line in an asset nobody configured
has no money in it, which is what lets the first configuration name any
token. -/
structure Books (s : State) : Prop where
  line_ok : ∀ id l, s.lines.get id = some l → LineOk l
  fresh : ∀ id, s.nextLineId ≤ id → s.lines.get id = none
  claim_nonneg : ∀ id, 0 ≤ readClaimable s id
  claim_fits : ∀ id, I128.Fits (readClaimable s id)
  claim_line : ∀ id, s.lines.get id = none → readClaimable s id = 0
  unconfigured : ∀ id l, s.lines.get id = some l →
    s.assetConfig.get l.asset = none →
    l.funded = 0 ∧ readClaimable s id = 0

/-- The contract deployed at `addr` can pay everything it owes. -/
structure Solvent (addr : Address) (w : World State) : Prop where
  books : Books w.store
  backed : ∀ usdc, owed w.store usdc ≤ w.tokens.balance usdc addr

-- ===================================================== one-line rewrites

/-- `s'` is `s` with line `line` rewritten from `l` to `l'` and its
claimable interest set to `c`. -/
structure LineWrite (s s' : State) (line : Nat) (l l' : Line) (c : Int) :
    Prop where
  old : s.lines.get line = some l
  lines : ∀ id, s'.lines.get id
    = if id = line then some l' else s.lines.get id
  claim : readClaimable s' line = c
  claim_ne : ∀ id, id ≠ line → readClaimable s' id = readClaimable s id
  config : s'.assetConfig = s.assetConfig
  next : s'.nextLineId = s.nextLineId
  asset : l'.asset = l.asset

variable {addr : Address} {env : Env} {w w' : World State} {s s' : State}
  {line : Nat} {l l' : Line} {c : Int}

/-- One line's claimable interest is written, the others read as they
did. -/
theorem readClaimable_writeClaimable (id : Nat) :
    readClaimable (writeClaimable s line c) id
      = if id = line then c else readClaimable s id := by
  unfold readClaimable writeClaimable
  rw [Store.get_set]
  split <;> rfl

/-- An empty line claims nothing, whatever its token. -/
theorem lineClaim_zero {usdc : Address} {id : Nat} (hf : l.funded = 0)
    (hd : l.drawn = 0) (hc : readClaimable s id = 0) :
    lineClaim s usdc id l = 0 := by
  unfold lineClaim
  rw [hf, hd, hc]
  split <;> rfl

/-- Rewriting one line moves the obligation in its token by what that
line's claim moved, and no other obligation at all. -/
theorem LineWrite.owed_eq (h : LineWrite s s' line l l' c)
    (usdc : Address) :
    owed s' usdc = owed s usdc - lineClaim s usdc line l
      + lineClaim s' usdc line l' := by
  have hnew : s'.lines.get line = some l' := by rw [h.lines, if_pos rfl]
  unfold owed
  rw [Store.total_update (s := s.lines) (f := lineClaim s usdc) line,
    Store.part_some _ h.old, Store.part_some _ hnew]
  intro id hid
  have hget : s'.lines.get id = s.lines.get id := by
    rw [h.lines, if_neg hid]
  unfold Store.part
  rw [hget]
  cases s.lines.get id with
  | none => rfl
  | some x =>
      show lineClaim s' usdc id x = lineClaim s usdc id x
      unfold lineClaim
      rw [h.config, h.claim_ne id hid]

/-- The bookkeeping of a line stays in order through a rewrite that keeps
its own part so. -/
theorem LineWrite.books (h : LineWrite s s' line l l' c) (hs : Books s)
    (hl' : LineOk l') (hc : 0 ≤ c) (hfits : I128.Fits c)
    (hun : s.assetConfig.get l.asset = none → l'.funded = 0 ∧ c = 0) :
    Books s' := by
  constructor
  · intro id x hx
    rw [h.lines] at hx
    split at hx
    · injection hx with hx
      rw [← hx]
      exact hl'
    · exact hs.line_ok id x hx
  · intro id hid
    rw [h.next] at hid
    have hnone := hs.fresh id hid
    rw [h.lines, if_neg, hnone]
    intro heq
    subst heq
    rw [h.old] at hnone
    cases hnone
  · intro id
    by_cases hid : id = line
    · rw [hid, h.claim]
      exact hc
    · rw [h.claim_ne id hid]
      exact hs.claim_nonneg id
  · intro id
    by_cases hid : id = line
    · rw [hid, h.claim]
      exact hfits
    · rw [h.claim_ne id hid]
      exact hs.claim_fits id
  · intro id hnone
    rw [h.lines] at hnone
    split at hnone
    · cases hnone
    · next hid =>
      rw [h.claim_ne id hid]
      exact hs.claim_line id hnone
  · intro id x hx hcfg
    rw [h.config] at hcfg
    rw [h.lines] at hx
    split at hx
    · next hid =>
      injection hx with hx
      rw [← hx, h.asset] at hcfg
      rw [← hx, hid, h.claim]
      exact hun hcfg
    · next hid =>
      rw [h.claim_ne id hid]
      exact hs.unconfigured id x hx hcfg

/-- The step rule: rewriting one line keeps the contract solvent when
its balance grows by at least what the line's claim grows. -/
theorem Solvent.write (hw : Solvent addr w)
    (h : LineWrite w.store w'.store line l l' c) (hl' : LineOk l')
    (hc : 0 ≤ c) (hfits : I128.Fits c)
    (hun : w.store.assetConfig.get l.asset = none →
      l'.funded = 0 ∧ c = 0)
    (hgrow : ∀ usdc, w.tokens.balance usdc addr
        + (lineClaim w'.store usdc line l' - lineClaim w.store usdc line l)
      ≤ w'.tokens.balance usdc addr) :
    Solvent addr w' := by
  refine ⟨h.books hw.books hl' hc hfits hun, ?_⟩
  intro usdc
  have hback := hw.backed usdc
  have hmove := hgrow usdc
  rw [h.owed_eq usdc]
  omega

/-- A rewrite that moves no money: undrawn funding and claimable
interest stay what they were. -/
theorem Solvent.write_neutral (hw : Solvent addr w)
    (h : LineWrite w.store w'.store line l l'
      (readClaimable w.store line))
    (hl' : LineOk l') (hfunds : l'.funded - l'.drawn = l.funded - l.drawn)
    (hzero : l.funded = 0 → l'.funded = 0)
    (htokens : ∀ usdc, w.tokens.balance usdc addr
      ≤ w'.tokens.balance usdc addr) :
    Solvent addr w' := by
  refine hw.write h hl' (hw.books.claim_nonneg line)
    (hw.books.claim_fits line) ?_ ?_
  · intro hcfg
    obtain ⟨hf, hcl⟩ := hw.books.unconfigured line l h.old hcfg
    exact ⟨hzero hf, hcl⟩
  · intro usdc
    have hsame : lineClaim w'.store usdc line l'
        = lineClaim w.store usdc line l := by
      unfold lineClaim
      rw [h.config, h.asset, h.claim, hfunds]
    rw [hsame]
    have := htokens usdc
    omega

/-- A rewrite of a line whose asset is configured, with the claim's
change `d` matched by the balance of that asset's USDC token. -/
theorem Solvent.write_funds {config : AssetConfig} {d : Int}
    (hw : Solvent addr w)
    (h : LineWrite w.store w'.store line l l' c) (hl' : LineOk l')
    (hc : 0 ≤ c) (hfits : I128.Fits c)
    (hcfg : w.store.assetConfig.get l.asset = some config)
    (hd : l'.funded - l'.drawn + c
      = l.funded - l.drawn + readClaimable w.store line + d)
    (hgrow : ∀ usdc, w.tokens.balance usdc addr
        + (if usdc = config.usdc then d else 0)
      ≤ w'.tokens.balance usdc addr) :
    Solvent addr w' := by
  refine hw.write h hl' hc hfits ?_ ?_
  · intro hnone
    rw [hcfg] at hnone
    cases hnone
  · intro usdc
    have hnew : lineClaim w'.store usdc line l'
        = if config.usdc = usdc then l'.funded - l'.drawn + c else 0 := by
      unfold lineClaim
      rw [h.config, h.asset, hcfg, h.claim]
      simp
    have hold : lineClaim w.store usdc line l
        = if config.usdc = usdc
          then l.funded - l.drawn + readClaimable w.store line else 0 := by
      unfold lineClaim
      rw [hcfg]
      simp
    have hg := hgrow usdc
    rw [hnew, hold]
    by_cases hu : usdc = config.usdc
    · rw [if_pos hu] at hg
      rw [if_pos hu.symm, if_pos hu.symm]
      omega
    · rw [if_neg hu] at hg
      rw [if_neg (Ne.symm hu), if_neg (Ne.symm hu)]
      omega

-- ===================================================== writes are rewrites

/-- Writing a line's record is such a rewrite. -/
theorem lineWrite_writeLine (hl : s.lines.get line = some l)
    (hasset : l'.asset = l.asset) :
    LineWrite s (writeLine s line l') line l l' (readClaimable s line) where
  old := hl
  lines := fun _ => Store.get_set _ _ _ _
  claim := rfl
  claim_ne := fun _ _ => rfl
  config := rfl
  next := rfl
  asset := hasset

/-- So is writing its claimable interest. -/
theorem lineWrite_writeClaimable (hl : s.lines.get line = some l) :
    LineWrite s (writeClaimable s line c) line l l c where
  old := hl
  lines := by
    intro id
    show s.lines.get id = _
    split
    · next h => rw [h, hl]
    · rfl
  claim := by rw [readClaimable_writeClaimable, if_pos rfl]
  claim_ne := fun id hid => by
    rw [readClaimable_writeClaimable, if_neg hid]
  config := rfl
  next := rfl
  asset := rfl

/-- So is writing both. -/
theorem lineWrite_both (hl : s.lines.get line = some l)
    (hasset : l'.asset = l.asset) :
    LineWrite s (writeLine (writeClaimable s line c) line l') line l l' c
    where
  old := hl
  lines := fun _ => Store.get_set _ _ _ _
  claim := (lineWrite_writeClaimable (c := c) hl).claim
  claim_ne := (lineWrite_writeClaimable (c := c) hl).claim_ne
  config := rfl
  next := rfl
  asset := hasset

-- ========================================================= other writes

/-- The money fields of a line decide whether it is well formed. -/
theorem LineOk.congr (h : LineOk l) (hd : l'.drawn = l.drawn)
    (hf : l'.funded = l.funded) (hm : l'.limit = l.limit)
    (ha : l'.accruedInterest = l.accruedInterest) : LineOk l' := by
  refine ⟨?_, ?_, ?_, ?_, ?_⟩
  · rw [hd]; exact h.drawn_nonneg
  · rw [hd, hf]; exact h.drawn_le_funded
  · rw [hd, hm]; exact h.drawn_le_limit
  · rw [ha]; exact h.accrued_nonneg
  · rw [hf]; exact h.funded_fits

/-- Rewriting a line without touching its money fields. -/
theorem Solvent.write_meta (hw : Solvent addr w)
    (h : LineWrite w.store w'.store line l l'
      (readClaimable w.store line))
    (hd : l'.drawn = l.drawn) (hf : l'.funded = l.funded)
    (hm : l'.limit = l.limit)
    (ha : l'.accruedInterest = l.accruedInterest)
    (htokens : w'.tokens = w.tokens) : Solvent addr w' := by
  refine hw.write_neutral h
    ((hw.books.line_ok line l h.old).congr hd hf hm ha) ?_ ?_ ?_
  · rw [hd, hf]
  · rw [hf]
    exact id
  · intro usdc
    rw [htokens]

/-- The books of the same lines and claims, with no configuration
dropped. -/
theorem Books.congr (hs : Books s) (hlines : s'.lines = s.lines)
    (hclaim : ∀ id, readClaimable s' id = readClaimable s id)
    (hconfig : ∀ a, s'.assetConfig.get a = none →
      s.assetConfig.get a = none)
    (hnext : s'.nextLineId = s.nextLineId) : Books s' := by
  refine ⟨?_, ?_, ?_, ?_, ?_, ?_⟩
  · rw [hlines]
    exact hs.line_ok
  · rw [hlines, hnext]
    exact hs.fresh
  · intro id
    rw [hclaim]
    exact hs.claim_nonneg id
  · intro id
    rw [hclaim]
    exact hs.claim_fits id
  · intro id
    rw [hlines, hclaim]
    exact hs.claim_line id
  · intro id x hx hcfg
    rw [hlines] at hx
    rw [hclaim]
    exact hs.unconfigured id x hx (hconfig _ hcfg)

/-- Writes outside lines, claims and asset configuration. -/
theorem Solvent.frame (hw : Solvent addr w)
    (hlines : w'.store.lines = w.store.lines)
    (hclaim : w'.store.claimable = w.store.claimable)
    (hconfig : w'.store.assetConfig = w.store.assetConfig)
    (hnext : w'.store.nextLineId = w.store.nextLineId)
    (htokens : w'.tokens = w.tokens) : Solvent addr w' := by
  have hread : ∀ id, readClaimable w'.store id
      = readClaimable w.store id := by
    intro id
    unfold readClaimable
    rw [hclaim]
  have howed : ∀ usdc, owed w'.store usdc = owed w.store usdc := by
    intro usdc
    unfold owed
    rw [hlines]
    congr 1
    funext id x
    unfold lineClaim
    rw [hconfig, hread]
  refine ⟨hw.books.congr hlines hread ?_ hnext, ?_⟩
  · intro a
    rw [hconfig]
    exact id
  · intro usdc
    rw [howed, htokens]
    exact hw.backed usdc

/-- Configuring an asset moves no claim to another token, as long as it
does not swap the token under existing lines. -/
theorem Solvent.configure (asset : Address) (config : AssetConfig)
    (hw : Solvent addr w)
    (hlines : w'.store.lines = w.store.lines)
    (hclaim : ∀ id, readClaimable w'.store id = readClaimable w.store id)
    (hconfig : w'.store.assetConfig = w.store.assetConfig.set asset config)
    (hnext : w'.store.nextLineId = w.store.nextLineId)
    (htokens : w'.tokens = w.tokens)
    (hswap : ∀ old, w.store.assetConfig.get asset = some old →
      old.usdc ≠ config.usdc →
      ∀ id x, w.store.lines.get id = some x → x.asset ≠ asset) :
    Solvent addr w' := by
  have hsame : ∀ usdc id x, w.store.lines.get id = some x →
      lineClaim w'.store usdc id x = lineClaim w.store usdc id x := by
    intro usdc id x hx
    by_cases ha : x.asset = asset
    · cases hcfg : w.store.assetConfig.get x.asset with
      | none =>
          -- first configuration: the line is still empty
          obtain ⟨hf, hc⟩ := hw.books.unconfigured id x hx hcfg
          have hok := hw.books.line_ok id x hx
          have hd : x.drawn = 0 := by
            have := hok.drawn_nonneg
            have := hok.drawn_le_funded
            omega
          rw [lineClaim_zero hf hd hc,
            lineClaim_zero hf hd ((hclaim id).trans hc)]
      | some old =>
          have husdc : old.usdc = config.usdc := by
            by_contra hne
            rw [ha] at hcfg
            exact hswap old hcfg hne id x hx ha
          unfold lineClaim
          rw [hclaim, hconfig, hcfg, ha, Store.get_set_self,
            Option.map_some, Option.map_some, husdc]
    · unfold lineClaim
      rw [hclaim, hconfig, Store.get_set_ne _ _ ha]
  refine ⟨hw.books.congr hlines hclaim ?_ hnext, ?_⟩
  · intro a ha
    rw [hconfig, Store.get_set] at ha
    split at ha
    · cases ha
    · exact ha
  · intro usdc
    rw [htokens]
    refine le_trans (le_of_eq ?_) (hw.backed usdc)
    apply Store.total_congr
    intro id
    unfold Store.part
    rw [hlines]
    cases hx : w.store.lines.get id with
    | none => rfl
    | some x => exact hsame usdc id x hx

/-- A line is opened empty, under an id nothing was stored at. -/
theorem Solvent.openLine {lender borrower asset : Address} {limit : Int}
    {rate cure id : Nat} {agreement : BytesN 32}
    (hw : Solvent addr w)
    (h : openLine env lender borrower asset limit rate cure agreement
      w.store = .ok (id, s')) :
    Solvent addr ⟨w.tokens, s'⟩ := by
  obtain ⟨-, hlimit, -, hs⟩ := openLine_ok h
  -- the id is fresh: no line and no claim stand under it
  have hnone := hw.books.fresh w.store.nextLineId le_rfl
  have hzero := hw.books.claim_line w.store.nextLineId hnone
  have hlines : ∀ id, s'.lines.get id
      = if id = w.store.nextLineId
        then some (newLine env lender borrower asset limit rate cure
          agreement)
        else w.store.lines.get id := by
    intro id
    rw [hs]
    exact Store.get_set _ _ _ _
  have hclaim : ∀ id, readClaimable s' id = readClaimable w.store id := by
    intro id
    rw [hs]
    rfl
  have hconfig : s'.assetConfig = w.store.assetConfig := by
    rw [hs]
    rfl
  have hnext : s'.nextLineId = w.store.nextLineId + 1 := by
    rw [hs]
    rfl
  refine ⟨⟨?_, ?_, ?_, ?_, ?_, ?_⟩, ?_⟩
  · intro id x hx
    rw [hlines] at hx
    split at hx
    · injection hx with hx
      rw [← hx]
      exact ⟨le_rfl, le_rfl, hlimit.le, le_rfl,
        by show I128.Fits 0; decide⟩
    · exact hw.books.line_ok id x hx
  · intro id hid
    have hid' : w.store.nextLineId + 1 ≤ id := hnext ▸ hid
    rw [hlines, if_neg (by omega)]
    exact hw.books.fresh id (by omega)
  · intro id
    rw [hclaim]
    exact hw.books.claim_nonneg id
  · intro id
    rw [hclaim]
    exact hw.books.claim_fits id
  · intro id hx
    rw [hlines] at hx
    rw [hclaim]
    split at hx
    · cases hx
    · exact hw.books.claim_line id hx
  · intro id x hx hcfg
    rw [hlines] at hx
    rw [hclaim]
    split at hx
    · next hid =>
      injection hx with hx
      rw [← hx, hid]
      exact ⟨rfl, hzero⟩
    · rw [hconfig] at hcfg
      exact hw.books.unconfigured id x hx hcfg
  · intro usdc
    refine le_trans (le_of_eq ?_) (hw.backed usdc)
    apply Store.total_congr
    intro id
    unfold Store.part
    rw [hlines]
    by_cases hid : id = w.store.nextLineId
    · -- the new line claims nothing, and there was none before
      rw [if_pos hid, hid, hnone]
      exact lineClaim_zero rfl rfl ((hclaim _).trans hzero)
    · rw [if_neg hid]
      cases w.store.lines.get id with
      | none => rfl
      | some x =>
          show lineClaim s' usdc id x = lineClaim w.store usdc id x
          unfold lineClaim
          rw [hconfig, hclaim]

-- ======================================================== entry points

/-- A payout in `token`, as the change it makes to a balance. -/
theorem balance_paid_out (tokens : Ledger) (token recipient : Address)
    {amount : Int} (hamount : 0 ≤ amount) (usdc : Address) :
    tokens.balance usdc env.self + (if usdc = token then -amount else 0)
      ≤ (tokens.move token env.self recipient amount).balance usdc
        env.self := by
  have hout := tokens.balance_move_out token env.self recipient hamount usdc
  refine le_trans (le_of_eq ?_) hout
  split <;> omega

/-- What the lender pays in is what the line may lend more. -/
theorem Solvent.fund {lender : Address} {amount : Int}
    (hw : Solvent env.self w)
    (h : fund env lender line amount w = .ok w') :
    Solvent env.self w' := by
  obtain ⟨l, config, hauth, hamount, hl, -, -, hcfg, hfits, rfl⟩ := fund_ok h
  have hok := hw.books.line_ok line l hl
  have hle := hok.drawn_le_funded
  refine hw.write_funds (d := amount) (lineWrite_writeLine hl rfl)
    ⟨hok.drawn_nonneg, by dsimp only; omega, hok.drawn_le_limit,
      hok.accrued_nonneg, hfits⟩
    (hw.books.claim_nonneg line) (hw.books.claim_fits line) hcfg
    (by dsimp only; omega) ?_
  intro usdc
  exact (Ledger.balance_move_in _ hauth.1 usdc).ge

/-- What is drawn leaves the balance and the claim alike. -/
theorem Solvent.draw {borrower recipient : Address} {amount : Int}
    (hw : Solvent env.self w)
    (h : draw env borrower line amount recipient w = .ok w') :
    Solvent env.self w' := by
  obtain ⟨l, config, guarded, delta, cv, bps, -, hamount, hl, -, -, hdelta,
    hundrawn, hlimit, hcfg, -, -, -, -, -, rfl⟩ := draw_ok h
  have hok := hw.books.line_ok line l hl
  have h0 := hok.drawn_nonneg
  have ha := hok.accrued_nonneg
  have hd := interestDelta_nonneg hdelta h0
  refine hw.write_funds (d := -amount) (lineWrite_writeLine hl rfl)
    ⟨by dsimp only; omega, by dsimp only; omega, hlimit,
      by dsimp only; omega, hok.funded_fits⟩
    (hw.books.claim_nonneg line) (hw.books.claim_fits line) hcfg
    (by dsimp only; omega) ?_
  intro usdc
  exact balance_paid_out w.tokens config.usdc recipient hamount.le usdc

/-- Principal that is repaid may be withdrawn again, interest may be
claimed, and the payment covers the two. -/
theorem Solvent.repay {payer : Address} {amount applied : Int}
    (hw : Solvent env.self w)
    (h : repay env payer line amount w = .ok (applied, w')) :
    Solvent env.self w' := by
  obtain ⟨l, config, delta, payInterest, hauth, hamount, hl, hcfg, hdelta,
    howed, happlied, hpay, hprincipal, hfits, rfl⟩ := repay_ok h
  have hok := hw.books.line_ok line l hl
  have h0 := hok.drawn_nonneg
  have ha := hok.accrued_nonneg
  have hle := hok.drawn_le_funded
  have hlim := hok.drawn_le_limit
  have hd := interestDelta_nonneg hdelta h0
  have hc := hw.books.claim_nonneg line
  -- interest is paid first, principal with the rest
  have hpay0 : 0 ≤ payInterest := by omega
  have hsplit : payInterest ≤ applied := by omega
  refine hw.write_funds (d := applied) (lineWrite_both hl rfl)
    ⟨by dsimp only; omega, by dsimp only; omega, by dsimp only; omega,
      by dsimp only; omega, hok.funded_fits⟩
    (by omega) hfits hcfg (by dsimp only; omega) ?_
  intro usdc
  exact (Ledger.balance_move_in _ hauth.1 usdc).ge

/-- What the lender takes back, the line may no longer lend. -/
theorem Solvent.withdrawUndrawn {lender : Address} {amount : Int}
    (hw : Solvent env.self w)
    (h : withdrawUndrawn env lender line amount w = .ok w') :
    Solvent env.self w' := by
  obtain ⟨l, config, hamount, hl, -, hle, hcfg, hfits, rfl⟩ :=
    withdrawUndrawn_ok h
  have hok := hw.books.line_ok line l hl
  refine hw.write_funds (d := -amount) (lineWrite_writeLine hl rfl)
    ⟨hok.drawn_nonneg, by dsimp only; omega, hok.drawn_le_limit,
      hok.accrued_nonneg, hfits⟩
    (hw.books.claim_nonneg line) (hw.books.claim_fits line) hcfg
    (by dsimp only; omega) ?_
  intro usdc
  exact balance_paid_out w.tokens config.usdc lender hamount.le usdc

/-- What he claims, he may no longer claim. -/
theorem Solvent.withdrawInterest {lender : Address} {amount : Int}
    (hw : Solvent env.self w)
    (h : withdrawInterest env lender line amount w = .ok w') :
    Solvent env.self w' := by
  obtain ⟨l, config, hamount, hl, -, hle, hcfg, hfits, rfl⟩ :=
    withdrawInterest_ok h
  refine hw.write_funds (d := -amount) (lineWrite_writeClaimable hl)
    (hw.books.line_ok line l hl) (by omega) hfits hcfg (by omega) ?_
  intro usdc
  exact balance_paid_out w.tokens config.usdc lender hamount.le usdc

/-- Closing ends the claim on what was drawn, and takes nothing out of the
balance: the surplus is paid by the lender. -/
theorem Solvent.closeLiquidated {lender : Address}
    (hw : Solvent env.self w)
    (h : closeLiquidated env lender line w = .ok w') :
    Solvent env.self w' := by
  obtain ⟨l, record, recovered, tokens, hauth, hl, hlender, -, -, -, htok,
    hfits, rfl⟩ := closeLiquidated_ok h
  have hok := hw.books.line_ok line l hl
  have h0 := hok.drawn_nonneg
  have hle := hok.drawn_le_funded
  have hlim := hok.drawn_le_limit
  have hwrite : LineWrite w.store _ line l
      (closedLine l (l.funded - l.drawn)) (readClaimable w.store line) :=
    lineWrite_writeLine hl rfl
  refine hw.write_neutral
    ⟨hl, hwrite.lines, hwrite.claim, hwrite.claim_ne, rfl, rfl, rfl⟩
    ⟨le_rfl, ?_, ?_, le_rfl, hfits⟩ ?_ ?_ ?_
  · show 0 ≤ l.funded - l.drawn
    omega
  · show 0 ≤ l.limit
    omega
  · show l.funded - l.drawn - 0 = l.funded - l.drawn
    omega
  · intro hzero
    show l.funded - l.drawn = 0
    omega
  -- the surplus comes from the lender, who is not the contract
  · intro usdc
    rcases paySurplus_ok htok with rfl | ⟨token, hpos, rfl⟩
    · exact le_rfl
    · have hne : l.lender ≠ env.self := by
        rw [hlender]
        exact hauth.1
      exact Ledger.le_balance_move _ hne hpos.le usdc

/-- Every contract call keeps the contract solvent. -/
theorem Solvent.call {e : Entry} (hw : Solvent env.self w)
    (hswap : ∀ admin asset guard usdc hc t,
      e = .configureAsset admin asset guard usdc hc t →
      ∀ old, w.store.assetConfig.get asset = some old → old.usdc ≠ usdc →
      ∀ id x, w.store.lines.get id = some x → x.asset ≠ asset)
    (h : call env e w = .ok w') : Solvent env.self w' := by
  cases e with
  | initContract admin pauser keeper publisher risk =>
      obtain ⟨h, ht⟩ := onStore_ok.mp h
      obtain ⟨-, hs⟩ := initContract_ok h
      exact hw.frame (by rw [hs]) (by rw [hs]) (by rw [hs]) (by rw [hs]) ht
  | configureAsset admin asset guard usdc hc t =>
      obtain ⟨h, ht⟩ := onStore_ok.mp h
      obtain ⟨-, hs⟩ := configureAsset_ok h
      exact hw.configure asset ⟨guard, usdc, hc, t⟩ (by rw [hs])
        (fun id => by rw [hs]; rfl) (by rw [hs]) (by rw [hs]) ht
        (hswap _ _ _ _ _ _ rfl)
  | setVault admin vault =>
      obtain ⟨h, ht⟩ := onStore_ok.mp h
      have hs := setVault_ok h
      exact hw.frame (by rw [hs]) (by rw [hs]) (by rw [hs]) (by rw [hs]) ht
  | openLine lender borrower asset limit rate cure agreement =>
      obtain ⟨h, ht⟩ := onStore_ok.mp h
      obtain ⟨⟨id, s'⟩, h, hs⟩ := map_ok.mp h
      have hnew := hw.openLine h
      rw [show s' = w'.store from hs, ← ht] at hnew
      exact hnew
  | fund lender line amount => exact hw.fund h
  | syncFromVault vault line asset units =>
      obtain ⟨h, ht⟩ := onStore_ok.mp h
      obtain ⟨l, -, -, -, hl, -, hs⟩ := syncFromVault_ok h
      have hwrite : LineWrite w.store w'.store line l
          { l with pledgedUnits := units } (readClaimable w.store line) := by
        rw [hs]
        exact lineWrite_writeLine hl rfl
      exact hw.write_meta hwrite rfl rfl rfl rfl ht
  | syncCollateral caller line units =>
      obtain ⟨h, ht⟩ := onStore_ok.mp h
      obtain ⟨l, -, hl, hs⟩ := syncCollateral_ok h
      have hwrite : LineWrite w.store w'.store line l
          { l with pledgedUnits := units } (readClaimable w.store line) := by
        rw [hs]
        exact lineWrite_writeLine hl rfl
      exact hw.write_meta hwrite rfl rfl rfl rfl ht
  | draw borrower line amount recipient => exact hw.draw h
  | repay payer line amount =>
      obtain ⟨⟨applied, w₁⟩, h, hs⟩ := map_ok.mp h
      rw [← hs]
      exact hw.repay h
  | poke line =>
      obtain ⟨h, ht⟩ := onStore_ok.mp h
      obtain ⟨⟨m, s'⟩, h, hs⟩ := map_ok.mp h
      obtain ⟨l, view, hl, -, -, hs'⟩ := poke_ok h
      have hwrite : LineWrite w.store w'.store line l
          (pokeLine env l view) (readClaimable w.store line) := by
        rw [← hs, hs']
        exact lineWrite_writeLine hl rfl
      exact hw.write_meta hwrite rfl rfl rfl rfl ht
  | liquidate keeper line route =>
      obtain ⟨h, ht⟩ := onStore_ok.mp h
      obtain ⟨l, breach, view, price, hl, -, -, -, -, -, -, hs⟩ :=
        liquidate_ok h
      have hline : LineWrite w.store _ line l
          { l with status := .liquidating, marginState := .liquidation }
          (readClaimable w.store line) := lineWrite_writeLine hl rfl
      have hwrite : LineWrite w.store w'.store line l
          { l with status := .liquidating, marginState := .liquidation }
          (readClaimable w.store line) := by
        rw [hs]
        exact ⟨hl, hline.lines, hline.claim, hline.claim_ne, rfl, rfl, rfl⟩
      exact hw.write_meta hwrite rfl rfl rfl rfl ht
  | closeLiquidated lender line => exact hw.closeLiquidated h
  | withdrawUndrawn lender line amount => exact hw.withdrawUndrawn h
  | withdrawInterest lender line amount => exact hw.withdrawInterest h

-- ============================================================ all runs

/-- What the claim grants its runs: an asset's USDC token is not
changed once a line uses the asset, and token activity outside the
contract does not debit it. -/
def Admissible (addr : Address) : Tx → World State → Prop
  | .call _ (.configureAsset _ asset _ usdc _ _), w =>
      ∀ old, w.store.assetConfig.get asset = some old → old.usdc ≠ usdc →
        ∀ id l, w.store.lines.get id = some l → l.asset ≠ asset
  | .outside tokens, w =>
      ∀ token, w.tokens.balance token addr ≤ tokens.balance token addr
  | _, _ => True

/-- Nothing is owed at the start. -/
theorem solvent_init (addr : Address) :
    Solvent addr (machine addr).init := by
  refine ⟨⟨?_, ?_, ?_, ?_, ?_, ?_⟩, ?_⟩
  · intro id l hl; cases hl
  · intro id _; rfl
  · intro id; exact le_rfl
  · intro id; show I128.Fits 0; decide
  · intro id _; rfl
  · intro id l hl; cases hl
  · intro usdc; exact (Store.total_empty _).le

/-- Every transaction keeps the balance above the obligation. -/
theorem solvent_step {tx : Tx} (hw : Solvent addr w)
    (hok : Admissible addr tx w)
    (h : (machine addr).apply tx w = .ok w') : Solvent addr w' := by
  cases tx with
  | call env e =>
      refine Solvent.call (show Solvent (env.at addr).self w from hw) ?_ h
      intro admin asset guard usdc hc t he
      subst he
      exact hok
  | outside tokens =>
      injection h with h
      subst h
      exact ⟨hw.books, fun usdc => le_trans (hw.backed usdc) (hok usdc)⟩

/-- So it is after every run. -/
theorem solvent_run {txs : List Tx}
    (h : (machine addr).Allowed (Admissible addr) (machine addr).init txs) :
    Solvent addr ((machine addr).run (machine addr).init txs) :=
  Machine.run_induction (fun _ _ _ => solvent_step) (solvent_init addr) h

-- ================================================ withdrawals go through

/-- One line's claim on its token is covered by the pooled balance. -/
theorem Solvent.claim_le {config : AssetConfig} (hw : Solvent addr w)
    (hl : w.store.lines.get line = some l)
    (hcfg : w.store.assetConfig.get l.asset = some config) :
    l.funded - l.drawn + readClaimable w.store line
      ≤ w.tokens.balance config.usdc addr := by
  refine le_trans ?_ (hw.backed config.usdc)
  have hpart : lineClaim w.store config.usdc line l
      = l.funded - l.drawn + readClaimable w.store line := by
    unfold lineClaim
    rw [hcfg]
    simp
  rw [← hpart]
  refine Store.part_le_total (f := lineClaim w.store config.usdc) ?_ hl
  intro id x hx
  have hx0 := (hw.books.line_ok id x hx).drawn_le_funded
  have hc0 := hw.books.claim_nonneg id
  unfold lineClaim
  split <;> omega

/-- The lender can take undrawn funding out. -/
theorem Solvent.withdrawUndrawn_succeeds {amount : Int}
    (hw : Solvent env.self w) (hl : w.store.lines.get line = some l)
    (hauth : env.Grants l.lender) (hpos : 0 < amount)
    (hle : amount ≤ l.funded - l.drawn) :
    ∃ w', CreditLine.withdrawUndrawn env l.lender line amount w
      = .ok w' := by
  have hok := hw.books.line_ok line l hl
  have h0 := hok.drawn_nonneg
  have hfits := hok.funded_fits
  cases hcfg : w.store.assetConfig.get l.asset with
  | none =>
      have hf := (hw.books.unconfigured line l hl hcfg).1
      omega
  | some config =>
      have hcover := hw.claim_le hl hcfg
      have hc0 := hw.books.claim_nonneg line
      simp only [CreditLine.withdrawUndrawn, readLine, readAssetConfig,
        bind_ok, ensure_ok, expect_ok, HostEnv.requireAuth_ok,
        Ledger.transfer_ok, I128.sub_ok, pure_ok, exists_const]
      exact ⟨_, hauth, hpos, l, hl, rfl, _,
        ⟨hfits.of_le (by omega) (by omega), rfl⟩, hle, _,
        ⟨hfits.of_le (by omega) (by omega), rfl⟩, config, hcfg, _,
        ⟨Or.inl rfl, hpos.le, by omega, rfl⟩, rfl⟩

/-- The lender can take repaid interest out. -/
theorem Solvent.withdrawInterest_succeeds {amount : Int}
    (hw : Solvent env.self w) (hl : w.store.lines.get line = some l)
    (hauth : env.Grants l.lender) (hpos : 0 < amount)
    (hle : amount ≤ readClaimable w.store line) :
    ∃ w', CreditLine.withdrawInterest env l.lender line amount w
      = .ok w' := by
  have hfits := hw.books.claim_fits line
  cases hcfg : w.store.assetConfig.get l.asset with
  | none =>
      have hc := (hw.books.unconfigured line l hl hcfg).2
      omega
  | some config =>
      have hcover := hw.claim_le hl hcfg
      have hfunds := (hw.books.line_ok line l hl).drawn_le_funded
      simp only [CreditLine.withdrawInterest, readLine, readAssetConfig,
        bind_ok, ensure_ok, expect_ok, HostEnv.requireAuth_ok,
        Ledger.transfer_ok, I128.sub_ok, pure_ok, exists_const]
      exact ⟨_, hauth, hpos, l, hl, rfl, hle, _,
        ⟨hfits.of_le (by omega) (by omega), rfl⟩, config, hcfg, _,
        ⟨Or.inl rfl, hpos.le, by omega, rfl⟩, rfl⟩

/-- Solvency over whole runs: the pooled balance covers what all lines
may take out, every line's figures are in order, and no withdrawal a
lender is entitled to fails for lack of USDC. -/
theorem credit_line_solvent (addr : Address) (txs : List Tx)
    (h : (machine addr).Allowed (Admissible addr) (machine addr).init txs) :
    let w := (machine addr).run (machine addr).init txs
    (∀ usdc, owed w.store usdc ≤ w.tokens.balance usdc addr)
    ∧ (∀ id l, w.store.lines.get id = some l →
        0 ≤ l.drawn ∧ l.drawn ≤ l.funded ∧ l.drawn ≤ l.limit
        ∧ 0 ≤ l.accruedInterest ∧ 0 ≤ readClaimable w.store id)
    ∧ (∀ id l (env : Env), w.store.lines.get id = some l →
        env.self = addr → env.Grants l.lender → ∀ amount, 0 < amount →
        (amount ≤ l.funded - l.drawn →
          ∃ w', withdrawUndrawn env l.lender id amount w = .ok w')
        ∧ (amount ≤ readClaimable w.store id →
          ∃ w', withdrawInterest env l.lender id amount w = .ok w')) := by
  intro w
  have hw : Solvent addr w := solvent_run h
  refine ⟨hw.backed, ?_, ?_⟩
  · intro id l hl
    have hok := hw.books.line_ok id l hl
    exact ⟨hok.drawn_nonneg, hok.drawn_le_funded, hok.drawn_le_limit,
      hok.accrued_nonneg, hw.books.claim_nonneg id⟩
  · intro id l env hl hself hauth amount hpos
    rw [← hself] at hw
    exact ⟨hw.withdrawUndrawn_succeeds hl hauth hpos,
      hw.withdrawInterest_succeeds hl hauth hpos⟩

/-- The demo run, funded, drawn and repaid a year later: the line has
100 of unclaimed interest and 1000 undrawn, and the contract holds both. -/
theorem credit_line_solvent_demo :
    let txs := Demo.setup ++
      [.call (Demo.env 0 1 10000000) (.fund Demo.lender 0 1000),
       .call (Demo.env 0 1 10000000) (.syncCollateral ⟨1⟩ 0 5000),
       .call (Demo.env 0 1 10000000)
         (.draw Demo.borrower 0 1000 Demo.borrower),
       .call (Demo.env 31536000 9 10000000)
         (.repay Demo.borrower 0 5000)]
    let w := (machine Demo.self).run (machine Demo.self).init txs
    w.tokens.balance Demo.usdc Demo.self = 1100
      ∧ readClaimable w.store 0 = 100
      ∧ owed w.store Demo.usdc ≤ 1100 := by
  intro txs w
  have hb : w.tokens.balance Demo.usdc Demo.self = 1100 := by decide +kernel
  refine ⟨hb, by decide +kernel, ?_⟩
  rw [← hb]
  refine (credit_line_solvent Demo.self txs ?_).1 Demo.usdc
  refine ⟨trivial, ?_, trivial, ?_, trivial, trivial, trivial, trivial,
    trivial⟩
  · intro old hold
    cases hold
  · intro token
    show (0 : Int) ≤ _
    simp [Ledger.credit, Ledger.empty, Demo.self, Demo.lender,
      Demo.borrower]

end Ballast.CreditLine
