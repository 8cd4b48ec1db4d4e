/-
The health estimate behind `DELETE .../pledges/:pledgeId`.

`estimateLtvBps` values the line's active pledges row by row at the
latest price snapshots, leaves one out, and sets the debt against the
sum. The contract that will judge the release values the whole position
at once (`checkRelease`). Row by row rounds down more often, never less
(`lotValue_add_le`), so at the same prices, haircut and debt what the
route lets through the contract's check lets through
(`release_estimate_safe`).

The rows a query returns come in no particular order: the estimate takes
them as a list, and `Selected` says which list.
-/
import Ballast.Api.Chain
import Ballast.DomainTypes.Risk

namespace Ballast.Api

open Soroban

-- =========================================================== the estimate

/-- The haircut columns of an `asset` row. -/
structure HaircutRow where
  haircutBaseBps : Int
  haircutFxBps : Int
  deriving DecidableEq, Repr

structure PriceSnapshotRow where
  guardedValue : Int
  status : PriceStatus
  createdAt : Nat
  deriving DecidableEq, Repr

/-- What the estimate reads beside the books. -/
structure RiskTables where
  haircut : Store RowId HaircutRow
  /-- an asset's snapshots, as its query returns them -/
  priceSnapshot : RowId → List PriceSnapshotRow

/-- `latestGuardedPrice`: the newest snapshot, the first of equals. -/
def latestGuardedPrice (r : RiskTables) (asset : RowId) :
    Option (Int × PriceStatus) :=
  match r.priceSnapshot asset with
  | [] => none
  | row :: rows =>
      let latest := rows.foldl
        (fun a b => if a.createdAt < b.createdAt then b else a) row
      some (latest.guardedValue, latest.status)

/-- What an asset's pledge is worth: nothing without an `Ok` price. -/
def valueAt (asset : HaircutRow) (price : Option (Int × PriceStatus))
    (units : Int) : Call Int :=
  match price with
  | some (value, .ok) =>
      DomainTypes.collateralValue units value
        (asset.haircutBaseBps + asset.haircutFxBps)
  | _ => .ok 0

/-- What one row adds to the collateral: nothing if it is not active or
the one left out. -/
def pledgeValue (r : RiskTables) (exclude : Option RowId)
    (p : RowId × PledgeRow) : Call Int :=
  if p.2.status ≠ .active then return 0
  else if exclude = some p.1 then return 0
  else do
    let asset ← expect (r.haircut.get p.2.assetId) "asset not found"
    valueAt asset (latestGuardedPrice r p.2.assetId) p.2.units

/-- The loop over the rows. -/
def collect (r : RiskTables) (exclude : Option RowId) :
    List (RowId × PledgeRow) → Int → Call Int
  | [], totalCollateral => return totalCollateral
  | p :: pledges, totalCollateral => do
      let value ← pledgeValue r exclude p
      collect r exclude pledges (totalCollateral + value)

/-- `estimateLtvBps`, on the rows its query returned. -/
def estimateLtvBps (db : Db) (r : RiskTables) (line : RowId)
    (pledges : List (RowId × PledgeRow)) (exclude : Option RowId)
    (debtOverride : Option Int) : Call Nat := do
  let totalCollateral ← collect r exclude pledges 0
  let debt := debtOverride.getD (outstandingDebt db line)
  return DomainTypes.ltvBps debt totalCollateral

/-- `MARGIN_THRESHOLDS` of the routes. -/
def marginThresholds : MarginThresholds := ⟨7000, 8000, 9000⟩

/-- The release route's bar. -/
def releaseHealthy (postReleaseLtvBps : Nat) : Bool :=
  decide (postReleaseLtvBps < marginThresholds.warningBps)

-- ============================================================= one by one

variable {db : Db} {r : RiskTables} {pledge line : RowId}
  {pledges : List (RowId × PledgeRow)} {asset : RowId}

/-- The pledge rows of `line`, each once, as the query returns them. -/
structure Selected (db : Db) (line : RowId)
    (pledges : List (RowId × PledgeRow)) : Prop where
  nodup : (pledges.map Prod.fst).Nodup
  rows : ∀ id row, (id, row) ∈ pledges
    ↔ db.pledge.get id = some row ∧ row.creditLineId = line

/-- What a row counts for: its units while it is active. -/
def PledgeRow.active (row : PledgeRow) : Int :=
  if row.status = .active then row.units else 0

/-- What the active rows hold. -/
def activeSum (pledges : List (RowId × PledgeRow)) : Int :=
  (pledges.map fun p => p.2.active).sum

/-- What they hold without the row left out. -/
def othersSum (pledge : RowId) (pledges : List (RowId × PledgeRow)) : Int :=
  (pledges.map fun p => if p.1 = pledge then 0 else p.2.active).sum

/-- Every active row is in `asset`, and none holds less than nothing: the
pledge route writes positive amounts. -/
def AllIn (asset : RowId) (pledges : List (RowId × PledgeRow)) : Prop :=
  ∀ p ∈ pledges, p.2.status = .active → p.2.assetId = asset ∧ 0 ≤ p.2.units

theorem AllIn.tail {p : RowId × PledgeRow}
    (h : AllIn asset (p :: pledges)) : AllIn asset pledges :=
  fun q hq => h q (List.mem_cons_of_mem p hq)

theorem AllIn.active_nonneg (h : AllIn asset pledges)
    {p : RowId × PledgeRow} (hp : p ∈ pledges) : 0 ≤ p.2.active := by
  unfold PledgeRow.active
  by_cases hactive : p.2.status = .active
  · rw [if_pos hactive]
    exact (h p hp hactive).2
  · rw [if_neg hactive]

theorem othersSum_nonneg (h : AllIn asset pledges) :
    0 ≤ othersSum pledge pledges := by
  apply List.sum_nonneg
  intro x hx
  obtain ⟨p, hp, rfl⟩ := List.mem_map.mp hx
  by_cases hid : p.1 = pledge
  · rw [if_pos hid]
  · rw [if_neg hid]
    exact h.active_nonneg hp

theorem othersSum_of_not_mem
    (h : pledge ∉ pledges.map Prod.fst) :
    othersSum pledge pledges = activeSum pledges := by
  unfold othersSum activeSum
  congr 1
  apply List.map_congr_left
  intro p hp
  have hid : p.1 ≠ pledge := by
    rintro rfl
    exact h (List.mem_map_of_mem hp)
  rw [if_neg hid]

/-- The row left out holds the difference. -/
theorem othersSum_add {row : PledgeRow}
    (hnodup : (pledges.map Prod.fst).Nodup)
    (hrow : (pledge, row) ∈ pledges) :
    othersSum pledge pledges + row.active = activeSum pledges := by
  induction pledges with
  | nil => cases hrow
  | cons p pledges ih =>
      rw [List.map_cons, List.nodup_cons] at hnodup
      obtain ⟨hfresh, hnodup⟩ := hnodup
      have hactive : activeSum (p :: pledges)
          = p.2.active + activeSum pledges := by
        simp [activeSum]
      have hothers : othersSum pledge (p :: pledges)
          = (if p.1 = pledge then 0 else p.2.active)
            + othersSum pledge pledges := by
        simp [othersSum]
      rw [hactive, hothers]
      rcases List.mem_cons.mp hrow with rfl | hrow
      · rw [if_pos rfl, othersSum_of_not_mem hfresh]
        simp only
        omega
      · have hid : p.1 ≠ pledge := by
          rintro rfl
          exact hfresh (List.mem_map.mpr ⟨_, hrow, rfl⟩)
        rw [if_neg hid]
        have := ih hnodup hrow
        omega

-- =============================================================== one price

/-- A pledge worth something has a price that is not negative and a
haircut that is one. -/
theorem collateralValue_pos {units price haircut v : Int}
    (h : DomainTypes.collateralValue units price haircut = .ok v)
    (hunits : 0 ≤ units) (hv : 0 < v) :
    0 ≤ price ∧ 0 ≤ haircut ∧ haircut ≤ 10000 := by
  simp only [DomainTypes.collateralValue, bind_ok, ensure_ok, pure_ok,
    exists_const] at h
  obtain ⟨hcut, rfl⟩ := h
  have hbps : bpsDenominator = 10000 := rfl
  rw [hbps] at hcut hv
  refine ⟨?_, by omega, by omega⟩
  by_contra hneg
  have hprod : 0 ≤ -(units * price) := by
    rw [← mul_neg]
    exact mul_nonneg hunits (by omega)
  have hgross : 0 ≤ -((units * price).tdiv priceScale) := by
    rw [← Int.neg_tdiv]
    exact Int.tdiv_nonneg hprod (by decide)
  have hnet : 0 ≤ -((units * price).tdiv priceScale * (10000 - haircut)) := by
    rw [← neg_mul]
    exact mul_nonneg hgross (by omega)
  have hvalue := Int.tdiv_nonneg hnet (show (0 : Int) ≤ 10000 by decide)
  rw [Int.neg_tdiv] at hvalue
  omega

/-- And it is worth what the contract would say of it on its own. -/
theorem collateralValue_lot {units price v : Int} {haircut : Nat}
    (h : DomainTypes.collateralValue units price haircut = .ok v) :
    v = lotValue price haircut units := by
  simp only [DomainTypes.collateralValue, bind_ok, ensure_ok, pure_ok,
    exists_const] at h
  exact h.2.symm

/-- A row that adds something is active and not the one left out, and its
asset has a haircut and an `Ok` price. -/
theorem pledgeValue_pos {p : RowId × PledgeRow} {v : Int}
    (h : pledgeValue r (some pledge) p = .ok v) (hv : 0 < v) :
    p.2.status = .active ∧ p.1 ≠ pledge
      ∧ ∃ row price, r.haircut.get p.2.assetId = some row
        ∧ latestGuardedPrice r p.2.assetId = some (price, .ok)
        ∧ DomainTypes.collateralValue p.2.units price
          (row.haircutBaseBps + row.haircutFxBps) = .ok v := by
  unfold pledgeValue at h
  by_cases hactive : p.2.status = .active
  · rw [if_neg (not_not_intro hactive)] at h
    by_cases hid : some pledge = some p.1
    · rw [if_pos hid, pure_ok] at h
      omega
    · simp only [if_neg hid, bind_ok, expect_ok] at h
      obtain ⟨row, hrow, hvalue⟩ := h
      unfold valueAt at hvalue
      split at hvalue
      · next price hprice =>
        exact ⟨hactive, fun heq => hid (by rw [heq]), row, price, hrow,
          hprice, hvalue⟩
      · injection hvalue with hvalue
        omega
  · rw [if_pos hactive, pure_ok] at h
    omega

/-- A sum above where it started has a row that adds something. -/
theorem collect_pos {exclude : Option RowId} {acc total : Int}
    (h : collect r exclude pledges acc = .ok total) (hlt : acc < total) :
    ∃ p ∈ pledges, ∃ v, pledgeValue r exclude p = .ok v ∧ 0 < v := by
  induction pledges generalizing acc with
  | nil =>
      injection h with h
      omega
  | cons p pledges ih =>
      simp only [collect, bind_ok] at h
      obtain ⟨v, hv, hrest⟩ := h
      by_cases hpos : 0 < v
      · exact ⟨p, List.mem_cons_self, v, hv, hpos⟩
      · obtain ⟨q, hq, hadds⟩ := ih hrest (by omega)
        exact ⟨q, List.mem_cons_of_mem p hq, hadds⟩

/-- The asset's price and haircut, as the tables have them. -/
structure PricedAt (r : RiskTables) (asset : RowId) (price : Int)
    (haircut : Nat) : Prop where
  price_nonneg : 0 ≤ price
  haircut_le : haircut ≤ 10000
  price : ∀ g, latestGuardedPrice r asset = some (g, .ok) → g = price
  haircut : ∀ row, r.haircut.get asset = some row →
    row.haircutBaseBps + row.haircutFxBps = haircut

/-- What one row adds is at most its lot. -/
theorem pledgeValue_le {price : Int} {haircut : Nat}
    (hpriced : PricedAt r asset price haircut) (hall : AllIn asset pledges)
    {p : RowId × PledgeRow} (hp : p ∈ pledges) {v : Int}
    (h : pledgeValue r (some pledge) p = .ok v) :
    v ≤ lotValue price haircut (if p.1 = pledge then 0 else p.2.active) := by
  have hunits := hall.active_nonneg hp
  by_cases hpos : 0 < v
  · obtain ⟨hactive, hid, row, g, hrow, hg, hvalue⟩ := pledgeValue_pos h hpos
    rw [(hall p hp hactive).1] at hrow hg
    rw [hpriced.price g hg, hpriced.haircut row hrow] at hvalue
    rw [if_neg hid, PledgeRow.active, if_pos hactive]
    exact (collateralValue_lot hvalue).le
  · have hlot := (@lotValue_eq price
      (if p.1 = pledge then 0 else p.2.active) haircut hpriced.price_nonneg
      hpriced.haircut_le (by split_ifs <;> omega)).1
    omega

/-- So what all rows add is at most the lot they make together. -/
theorem collect_le {price : Int} {haircut : Nat}
    (hpriced : PricedAt r asset price haircut) (hall : AllIn asset pledges)
    {acc total : Int}
    (h : collect r (some pledge) pledges acc = .ok total) :
    total ≤ acc + lotValue price haircut (othersSum pledge pledges) := by
  induction pledges generalizing acc with
  | nil =>
      injection h with h
      have hzero := (@lotValue_eq price 0 haircut hpriced.price_nonneg
        hpriced.haircut_le le_rfl).1
      change total ≤ acc + lotValue price haircut 0
      omega
  | cons p pledges ih =>
      simp only [collect, bind_ok] at h
      obtain ⟨v, hv, hrest⟩ := h
      have hrow := pledgeValue_le hpriced hall List.mem_cons_self hv
      have hrows := ih hall.tail hrest
      have hunits := hall.active_nonneg List.mem_cons_self
      have hothers : 0 ≤ othersSum pledge pledges :=
        othersSum_nonneg hall.tail
      have hjoin := lotValue_add_le
        (a := if p.1 = pledge then 0 else p.2.active)
        hpriced.price_nonneg hpriced.haircut_le (by split_ifs <;> omega)
        hothers
      have hsum : othersSum pledge (p :: pledges)
          = (if p.1 = pledge then 0 else p.2.active)
            + othersSum pledge pledges := by
        simp [othersSum]
      rw [hsum]
      omega

-- ============================================================= the release

/-- The same figures on both sides: the position holds at least what the
active rows do, the tables have the guard's answer and the contract's
haircut, the contracts owe the debt the estimate used, and the warning
band begins where the route's does. -/
structure SameFigures {κ : Type}
    (net : PledgeVault.CreditLineInterface κ) (env : Env)
    (config : PledgeVault.AssetConfig) (position : PledgeVault.Position)
    (peers : κ) (id : Nat) (contract : Address) (r : RiskTables)
    (asset : RowId) (pledges : List (RowId × PledgeRow)) (debt : Int) :
    Prop where
  covered : activeSum pledges ≤ position.units
  price : ∃ g, env.guardedPrice config.priceGuard contract = .ok g
    ∧ latestGuardedPrice r asset = some (g.value, g.status)
  haircut : ∀ row, r.haircut.get asset = some row →
    row.haircutBaseBps + row.haircutFxBps = config.haircutBps
  debtOf : net.debtOf (env.into config.creditLine) id peers = .ok debt
  ltv : ∃ view, net.ltv (env.into config.creditLine) id peers = .ok view
    ∧ view.debt = debt
  thresholds : config.thresholds.validate = .ok ()
  warning : config.thresholds.warningBps = marginThresholds.warningBps

/-- `routeRelease` builds the envelope only below its bar, for the whole
row. -/
theorem routeRelease_healthy {party : PartyId} {healthy : Bool} {d : Draft}
    {account contract : Address} {id : Nat} {units : Int}
    (h : routeRelease db party line pledge healthy = .ok d)
    (henv : d.envelope = .pledgeVault (.release account id contract units)) :
    healthy = true ∧ ∃ row, db.pledge.get pledge = some row
      ∧ row.creditLineId = line ∧ row.status = .active ∧ row.units = units := by
  simp only [routeRelease, bind_ok, ensure_ok, expect_ok, pure_ok,
    exists_const] at h
  obtain ⟨_, -, -, row, hrow, hline, hactive, hhealthy, _, -, _, -, rfl⟩ := h
  injection henv with henv
  injection henv with _ _ _ hunits
  exact ⟨hhealthy, row, hrow, hline, hactive, hunits⟩

/-- An estimate below the bar, with something owed, counted something:
there is an `Ok` price that is not negative and a haircut that is one. -/
theorem estimate_priced {debt total : Int}
    (htotal : collect r (some pledge) pledges 0 = .ok total)
    (hhealthy : DomainTypes.ltvBps debt total < marginThresholds.warningBps)
    (hdebt : 0 < debt) (hall : AllIn asset pledges) :
    0 < total ∧ ∃ row price, r.haircut.get asset = some row
      ∧ latestGuardedPrice r asset = some (price, .ok) ∧ 0 ≤ price
      ∧ row.haircutBaseBps + row.haircutFxBps ≤ 10000 := by
  have htotal_pos : 0 < total := by
    by_contra hnone
    rw [DomainTypes.ltvBps, if_neg (by omega), if_pos (by omega)] at hhealthy
    exact absurd hhealthy (by decide)
  obtain ⟨p, hp, v, hvalue, hv⟩ := collect_pos htotal htotal_pos
  obtain ⟨hactive, -, row, price, hrow, hprice, hcv⟩ :=
    pledgeValue_pos hvalue hv
  obtain ⟨hasset, hunits⟩ := hall p hp hactive
  rw [hasset] at hrow hprice
  obtain ⟨hprice_nonneg, -, hcut⟩ := collateralValue_pos hcv hunits hv
  exact ⟨htotal_pos, row, price, hrow, hprice, hprice_nonneg, hcut⟩

/-- At the same figures, a total that is below the bar and no more than
the remaining units are worth lets them go. -/
theorem checkRelease_healthy {κ : Type}
    {net : PledgeVault.CreditLineInterface κ} {env : Env}
    {config : PledgeVault.AssetConfig} {p : PledgeVault.Position} {peers : κ}
    {id : Nat} {contract : Address} {debt total remaining : Int}
    {g : GuardedPrice}
    (hsame : SameFigures net env config p peers id contract r asset pledges
      debt)
    (hg : env.guardedPrice config.priceGuard contract = .ok g)
    (hok : g.status = .ok)
    (hfits : Ballast.Position.Fits
      ⟨remaining, g.value, config.haircutBps, debt⟩)
    (hcut : config.haircutBps ≤ 10000) (hdebt : 0 < debt)
    (htotal : 0 < total)
    (hle : total ≤ lotValue g.value config.haircutBps remaining)
    (hbar : DomainTypes.ltvBps debt total < marginThresholds.warningBps) :
    PledgeVault.checkRelease net env config id contract remaining peers
      = .ok () := by
  obtain ⟨view, hview, rfl⟩ := hsame.ltv
  obtain ⟨-, hcall, hliquidation, -⟩ :=
    MarginThresholds.validate_ok.mp hsame.thresholds
  have hwarning := hsame.warning
  have hbps : bpsOf view.debt total < marginThresholds.warningBps := by
    have hiff := DomainTypes.le_ltvBps_iff view.debt total
      (show marginThresholds.warningBps ≤ 10000 by decide)
    omega
  have hmono := bpsOf_mono (le_refl view.debt) hle htotal.le
  have hclassify : classify (bpsOf view.debt
      (lotValue g.value config.haircutBps remaining)) config.thresholds
      = .healthy :=
    classify_healthy.mpr ⟨by omega, by omega, by omega⟩
  simp only [PledgeVault.checkRelease, bind_ok]
  refine ⟨view.debt, hsame.debtOf, ?_⟩
  rw [if_pos hdebt]
  simp only [bind_ok, ensure_ok, exists_const]
  exact ⟨g, hg, by simp [GuardedPrice.isUsableForNewRisk, hok], view, hview,
    _, collateralValue_returns hcut hfits, _,
    ltvBps_returns _ hfits.scaled, hclassify⟩

/-- The API's arithmetic is the contracts' wherever theirs returns, so a
release the route lets through passes the vault's own check. -/
theorem release_estimate_safe :
    (∀ (units price debt cv : Int) (haircut l : Nat) (t : MarginThresholds),
      Ballast.collateralValue units price haircut = .ok cv →
      Ballast.ltvBps debt cv = .ok l → t.warningBps ≤ 10000 →
      t.marginCallBps ≤ 10000 → t.liquidationBps ≤ 10000 →
      DomainTypes.collateralValue units price haircut = .ok cv
        ∧ DomainTypes.classifyMargin (DomainTypes.ltvBps debt cv) t
          = classify l t)
    ∧ ∀ {κ : Type} (net : PledgeVault.CreditLineInterface κ) (env : Env)
        (config : PledgeVault.AssetConfig) (vault : PledgeVault.State)
        (peers : κ) (db : Db) (r : RiskTables) (party : PartyId)
        (line pledge asset : RowId) (pledges : List (RowId × PledgeRow))
        (override : Option Int) (bps : Nat) (d : Draft)
        (account contract : Address) (id : Nat) (units : Int),
      Selected db line pledges → AllIn asset pledges →
      SameFigures net env config (PledgeVault.readPosition vault id contract)
        peers id contract r asset pledges
        (override.getD (outstandingDebt db line)) →
      (∀ g, env.guardedPrice config.priceGuard contract = .ok g →
        Ballast.Position.Fits
          ⟨(PledgeVault.readPosition vault id contract).units - units,
            g.value, config.haircutBps,
            override.getD (outstandingDebt db line)⟩) →
      estimateLtvBps db r line pledges (some pledge) override = .ok bps →
      routeRelease db party line pledge (releaseHealthy bps) = .ok d →
      d.envelope = .pledgeVault (.release account id contract units) →
      PledgeVault.checkRelease net env config id contract
        ((PledgeVault.readPosition vault id contract).units - units) peers
        = .ok () := by
  constructor
  · intro units price debt cv haircut l t hcv hl hwarning hcall hliquidation
    rw [ltvBps_eq hl]
    exact ⟨DomainTypes.collateralValue_eq hcv,
      DomainTypes.classifyMargin_eq debt cv hwarning hcall hliquidation⟩
  · intro κ net env config vault peers db r party line pledge asset pledges
      override bps d account contract id units hselected hall hsame hfits
      hestimate hroute henv
    obtain ⟨hhealthy, row, hrow, hline, hactive, rfl⟩ :=
      routeRelease_healthy hroute henv
    simp only [estimateLtvBps, bind_ok, pure_ok] at hestimate
    obtain ⟨total, htotal, rfl⟩ := hestimate
    generalize override.getD (outstandingDebt db line) = debt at *
    generalize PledgeVault.readPosition vault id contract = p at *
    -- the estimate lets a release through below the warning threshold
    have hbar : DomainTypes.ltvBps debt total < marginThresholds.warningBps :=
      of_decide_eq_true hhealthy
    by_cases hdebt : 0 < debt
    -- a debt: so something was valued, and the asset's row has a price
    · obtain ⟨htotal_pos, hrow', price, hcut, hprice, hprice_nonneg,
        hcut_le⟩ := estimate_priced htotal hbar hdebt hall
      obtain ⟨g, hg, hlatest⟩ := hsame.price
      have hsome := hprice.symm.trans hlatest
      injection hsome with hpair
      injection hpair with hvalue hok
      subst hvalue
      have hhaircut := hsame.haircut hrow' hcut
      have hpriced : PricedAt r asset g.value config.haircutBps := by
        refine ⟨hprice_nonneg, by omega, ?_, hsame.haircut⟩
        intro price hother
        rw [hprice] at hother
        injection hother with hother
        injection hother with hother
        exact hother.symm
      -- what stays is at least the other pledges, and the books are covered
      have hothers := othersSum_add hselected.nodup
        ((hselected.rows pledge row).mpr ⟨hrow, hline⟩)
      rw [PledgeRow.active, if_pos hactive] at hothers
      have hcovered := hsame.covered
      have hle := collect_le hpriced hall htotal
      have hnonneg : 0 ≤ othersSum pledge pledges := othersSum_nonneg hall
      have hmono := lotValue_mono hpriced.price_nonneg hpriced.haircut_le
        hnonneg (show othersSum pledge pledges ≤ p.units - row.units by omega)
      exact checkRelease_healthy hsame hg hok.symm (hfits g hg)
        hpriced.haircut_le hdebt (by omega) (show total ≤ _ by omega) hbar
    · simp only [PledgeVault.checkRelease, bind_ok]
      exact ⟨debt, hsame.debtOf, by rw [if_neg hdebt]; rfl⟩

namespace Demo

/-- The line with 1000 drawn, at a price of 1.00. -/
def drawnLine : World Wired.State :=
  (Wired.machine deployed.lending).run (Wired.machine deployed.lending).init
    Wired.Demo.lent

/-- Its 5000 units, on file in two pledges. -/
def pledgeRows : List (RowId × PledgeRow) :=
  [(20, ⟨7, 6, 2000, .active⟩), (21, ⟨7, 6, 3000, .active⟩)]

def riskBooks : Db :=
  { lineBooks with
    asset := Store.empty.set 6 Wired.Demo.asset
    pledge := (Store.empty.set 20 ⟨7, 6, 2000, .active⟩).set 21
      ⟨7, 6, 3000, .active⟩ }

/-- No haircut, and two snapshots of which the later is at 1.00. -/
def riskTables : RiskTables where
  haircut := Store.empty.set 6 ⟨0, 0⟩
  priceSnapshot asset :=
    if asset = 6 then [⟨9000000, .degraded, 1⟩, ⟨10000000, .ok, 2⟩] else []

def releaseDraft : Draft where
  envelope := .pledgeVault
    (.release Wired.Demo.borrower 0 Wired.Demo.asset 3000)
  kind := .pledgeRelease
  refId := some 21
  partyId := 3
  amount := none
  write := .releasePledge 21

theorem pledgeRows_selected : Selected riskBooks 7 pledgeRows where
  nodup := by decide
  rows := by
    intro id row
    simp only [riskBooks, pledgeRows, Store.get_set, Store.get_empty,
      List.mem_cons, Prod.mk.injEq, List.not_mem_nil, or_false]
    constructor
    · rintro (⟨rfl, rfl⟩ | ⟨rfl, rfl⟩)
      · exact ⟨by decide, rfl⟩
      · exact ⟨by decide, rfl⟩
    · rintro ⟨hget, -⟩
      split_ifs at hget with h21 h20
      · injection hget with hget
        exact .inr ⟨h21, hget.symm⟩
      · injection hget with hget
        exact .inl ⟨h20, hget.symm⟩

end Demo

/-- 3000 of the 5000 units leave 2000 against a debt of 1000. -/
theorem release_estimate_safe_demo :
    (DomainTypes.collateralValue 2000 10000000 0 = .ok 2000
      ∧ DomainTypes.classifyMargin (DomainTypes.ltvBps 1000 2000)
        marginThresholds = classify 5000 marginThresholds)
    ∧ PledgeVault.checkRelease Wired.Demo.deployment.lineInterface
        (Wired.Demo.deployment.enter (Demo.env 0 2)
          Wired.Demo.deployment.vault)
        ⟨Wired.Demo.guard, Wired.Demo.deployment.creditLine, 0,
          Wired.Demo.thresholds, .escrow⟩
        0 Wired.Demo.asset
        ((PledgeVault.readPosition Demo.drawnLine.store.vault 0
          Wired.Demo.asset).units - 3000)
        Demo.drawnLine.store.creditLine = .ok () := by
  refine ⟨release_estimate_safe.1 2000 10000000 1000 2000 0 5000
    marginThresholds (by decide) (by decide) (by decide) (by decide)
    (by decide), ?_⟩
  refine release_estimate_safe.2 Wired.Demo.deployment.lineInterface _ _
    Demo.drawnLine.store.vault Demo.drawnLine.store.creditLine
    Demo.riskBooks Demo.riskTables 3 7 21 6 Demo.pledgeRows (some 1000)
    5000 Demo.releaseDraft Wired.Demo.borrower Wired.Demo.asset 0 3000
    Demo.pledgeRows_selected ?_ ?_ ?_ (by decide +kernel) rfl rfl
  · unfold AllIn
    decide
  · constructor
    · decide +kernel
    · exact ⟨_, rfl, by decide +kernel⟩
    · intro row hrow
      injection hrow with hrow
      subst hrow
      rfl
    · decide +kernel
    · exact ⟨⟨1000, 5000, 2000, .healthy, .ok⟩, by decide +kernel, rfl⟩
    · decide
    · rfl
  · intro g hg
    injection hg with hg
    subst hg
    exact ⟨by decide +kernel, by decide +kernel, by decide +kernel⟩

end Ballast.Api
