/-
Asset configurations over whole runs: they stay valid, and the base
haircut falls only by a timelocked change.

# One call

A call writes at most one asset's configuration, and only
`executeParam` makes its haircut smaller (`call_asset`).

# The emergency raise

A raise is not undone within 48 hours by anything queued after it. What
was queued before it is another matter: `executeParam` writes the
absolute value it was queued with, whatever was raised in between. The
raise holds for the notice period exactly when no such entry is
executed in it.
-/
import Ballast.Registry.Proofs.Queues

namespace Ballast.Registry

open Soroban Machine

variable {env : HostEnv} {s s' : State} {e : Entry} {asset : Address}

-- ====================================================== what is written

/-- Every stored configuration passes validation. -/
def ConfigsValid (s : State) : Prop :=
  ∀ asset config, s.assets.get asset = some config →
    config.validate asset = .ok ()

/-- What a committed call does to the configuration of `asset`. -/
inductive AssetStep (s s' : State) (asset : Address) : Entry → Prop
  | same {e : Entry} : s'.assets.get asset = s.assets.get asset →
      AssetStep s s' asset e
  | registered {e : Entry} {config : AssetConfig} :
      s.assets.get asset = none → config.validate asset = .ok () →
      s'.assets.get asset = some config → AssetStep s s' asset e
  | changed {id : Nat} {p : PendingParamChange} {config : AssetConfig} :
      s.pendingParam.get id = some p → p.asset = asset →
      s.assets.get asset = some config →
      (p.change.apply config).validate asset = .ok () →
      s'.assets.get asset = some (p.change.apply config) →
      AssetStep s s' asset (.executeParam id)
  | raised {risk : Address} {addBps : Nat} {config : AssetConfig} :
      s.assets.get asset = some config →
      config.haircutBaseBps + addBps + config.haircutFxBps ≤ 10000 →
      s'.assets.get asset = some { config with
        haircutBaseBps := config.haircutBaseBps + addBps } →
      AssetStep s s' asset (.raiseHaircutNow risk asset addBps)

theorem call_asset (h : call env e s = .ok s') (asset : Address) :
    AssetStep s s' asset e := by
  cases e with
  | initContract =>
      obtain ⟨-, rfl⟩ := initContract_ok h
      exact .same rfl
  | proposeAdmin =>
      obtain ⟨-, rfl⟩ := proposeAdmin_ok h
      exact .same rfl
  | acceptAdmin =>
      obtain ⟨r, a, -, -, -, rfl⟩ := acceptAdmin_ok h
      exact .same rfl
  | queueRoleChange =>
      obtain ⟨p, hp, rfl⟩ := map_ok.mp h
      obtain ⟨-, rfl⟩ := queueRoleChange_ok hp
      exact .same rfl
  | executeRoleChange =>
      obtain ⟨p, r, -, -, -, rfl⟩ := executeRoleChange_ok h
      exact .same rfl
  | registerAsset admin a config =>
      obtain ⟨hnone, hvalid, rfl⟩ := registerAsset_ok h
      by_cases ha : a = asset
      · subst ha
        exact .registered hnone hvalid (Store.get_set_self _ _ _)
      · exact .same (Store.get_set_ne _ _ (Ne.symm ha))
  | queueParam =>
      obtain ⟨p, hp, rfl⟩ := map_ok.mp h
      obtain ⟨-, rfl⟩ := queueParam_ok hp
      exact .same rfl
  | cancelParam =>
      obtain ⟨p, -, rfl⟩ := cancelParam_ok h
      exact .same rfl
  | executeParam id =>
      obtain ⟨p, config, hp, -, hconfig, hvalid, rfl⟩ := executeParam_ok h
      by_cases ha : p.asset = asset
      · subst ha
        exact .changed hp rfl hconfig hvalid (Store.get_set_self _ _ _)
      · exact .same (Store.get_set_ne _ _ (Ne.symm ha))
  | raiseHaircutNow risk a addBps =>
      obtain ⟨config, hconfig, hle, rfl⟩ := raiseHaircutNow_ok h
      by_cases ha : a = asset
      · subst ha
        exact .raised hconfig hle (Store.get_set_self _ _ _)
      · exact .same (Store.get_set_ne _ _ (Ne.symm ha))
  | pause =>
      rw [pause_ok h]
      exact .same rfl
  | queueUnpause =>
      obtain ⟨p, hp, rfl⟩ := map_ok.mp h
      obtain ⟨-, rfl⟩ := queueUnpause_ok hp
      exact .same rfl
  | cancelUnpause =>
      obtain ⟨p, -, rfl⟩ := cancelUnpause_ok h
      exact .same rfl
  | executeUnpause =>
      obtain ⟨p, -, -, rfl⟩ := executeUnpause_ok h
      exact .same rfl
  | queueUpgrade =>
      obtain ⟨p, hp, rfl⟩ := map_ok.mp h
      obtain ⟨-, rfl⟩ := queueUpgrade_ok hp
      exact .same rfl
  | cancelUpgrade =>
      obtain ⟨p, -, rfl⟩ := cancelUpgrade_ok h
      exact .same rfl
  | executeUpgrade =>
      obtain ⟨p, -, -, rfl⟩ := executeUpgrade_ok h
      exact .same rfl

-- ============================================================= validity

theorem validate_ok {c : AssetConfig} {u : Unit} :
    c.validate asset = .ok u ↔
      c.haircutBaseBps ≤ 10000 ∧ c.haircutFxBps ≤ 10000
        ∧ c.totalHaircutBps ≤ 10000
        ∧ (0 < c.priceBandBps ∧ c.priceBandBps ≤ 10000)
        ∧ (0 < c.dailyMoveBandBps ∧ c.dailyMoveBandBps ≤ 10000)
        ∧ c.contract = asset
        ∧ (c.status = "active" ∨ c.status = "paused"
          ∨ c.status = "retired") := by
  simp only [AssetConfig.validate, bind_ok, ensure_ok, exists_const]

/-- A raise within the total keeps a configuration valid. -/
theorem validate_raised {c : AssetConfig} {addBps : Nat}
    (h : c.validate asset = .ok ())
    (hle : c.haircutBaseBps + addBps + c.haircutFxBps ≤ 10000) :
    { c with haircutBaseBps := c.haircutBaseBps + addBps }.validate asset
      = .ok () := by
  obtain ⟨-, hfx, -, hrest⟩ := validate_ok.mp h
  refine validate_ok.mpr ⟨?_, hfx, hle, hrest⟩
  show c.haircutBaseBps + addBps ≤ 10000
  omega

theorem ConfigsValid.step (hs : ConfigsValid s)
    (h : call env e s = .ok s') : ConfigsValid s' := by
  intro asset config hconfig
  cases call_asset h asset with
  | same heq =>
      rw [heq] at hconfig
      exact hs asset config hconfig
  | registered _ hvalid heq =>
      rw [heq] at hconfig
      injection hconfig with hconfig
      rw [← hconfig]
      exact hvalid
  | changed _ _ _ hvalid heq =>
      rw [heq] at hconfig
      injection hconfig with hconfig
      rw [← hconfig]
      exact hvalid
  | raised hold hle heq =>
      rw [heq] at hconfig
      injection hconfig with hconfig
      rw [← hconfig]
      exact validate_raised (hs asset _ hold) hle

theorem configsValid_run (self : Address) (txs : List Tx) :
    ConfigsValid ((machine self).run (machine self).init txs) := by
  refine run_induction (P := ConfigsValid) ?_ ?_ (allowed_true _ txs)
  · intro s tx s' hs _ happ
    exact hs.step (apply_call happ)
  · intro asset config hconfig
    cases hconfig

-- ========================================================== the haircut

/-- `haircut_base_bps` of a registered asset. -/
def haircutBase (s : State) (asset : Address) : Option Nat :=
  (s.assets.get asset).map (·.haircutBaseBps)

@[simp] theorem haircutBase_of_some {config : AssetConfig}
    (h : s.assets.get asset = some config) :
    haircutBase s asset = some config.haircutBaseBps := by
  simp [haircutBase, h]

/-- The haircut of `asset` is at least `floor`. -/
def HaircutAtLeast (asset : Address) (floor : Nat) (s : State) : Prop :=
  ∃ h, haircutBase s asset = some h ∧ floor ≤ h

/-- A queued change that takes the haircut of `asset` below `floor`. -/
def Lowers (asset : Address) (floor : Nat) (item : Item) : Prop :=
  ∃ v, item = .param asset (.haircutBaseBps v) ∧ v < floor

/-- A change of parameters that made the haircut smaller set it. -/
theorem ParamChange.lowered {c : AssetConfig} {change : ParamChange}
    (h : (change.apply c).haircutBaseBps < c.haircutBaseBps) :
    ∃ v, change = .haircutBaseBps v
      ∧ (change.apply c).haircutBaseBps = v := by
  cases change with
  | haircutBaseBps v => exact ⟨v, rfl, rfl⟩
  | _ => exact absurd h (Nat.lt_irrefl _)

/-- What an executed parameter change is noted as. -/
theorem note_executeParam {id : Nat} {p : PendingParamChange}
    (h : s.pendingParam.get id = some p) :
    note env s (.executeParam id)
      = some (.executed .param id (.param p.asset p.change)) := by
  simp [note, executedAs, queue, h]

/-- Only `executeParam` executes a parameter change. -/
theorem executeParam_of_note {k : Kind} {n : Nat} {change : ParamChange}
    (h : note env s e = some (.executed k n (.param asset change))) :
    e = .executeParam n ∧ k = .param ∧ ∃ p,
      s.pendingParam.get n = some p ∧ p.asset = asset
        ∧ p.change = change := by
  cases e with
  | executeParam id =>
      cases hp : s.pendingParam.get id with
      | none => simp [note, executedAs, queue, hp] at h
      | some p =>
          rw [note_executeParam hp] at h
          injection h with h
          injection h with hk hn hitem
          injection hitem with hasset hchange
          subst hn
          exact ⟨rfl, hk.symm, p, hp, hasset, hchange⟩
  | _ => simp [note, queuedAs, executedAs, queue] at h

/-- An executed change of the haircut leaves the queued value. -/
theorem haircutBase_executed {id w : Nat} {p : PendingParamChange}
    (h : executeParam env id s = .ok s')
    (hp : s.pendingParam.get id = some p)
    (hchange : p.change = .haircutBaseBps w) :
    haircutBase s' p.asset = some w := by
  obtain ⟨p', config, hp', -, -, -, hs'⟩ := executeParam_ok h
  rw [hp] at hp'
  injection hp' with hp'
  subst hp'
  have hget : s'.assets.get p.asset = some (p.change.apply config) := by
    rw [hs']
    exact Store.get_set_self _ _ _
  rw [haircutBase_of_some hget, hchange]
  rfl

/-- The haircut falls below a floor only by a queued change that lowers
it there. -/
theorem haircut_breaks (h : call env e s = .ok s') {floor : Nat}
    (hs : HaircutAtLeast asset floor s) :
    ¬ HaircutAtLeast asset floor s' ↔ ∃ k n item,
      note env s e = some (.executed k n item)
        ∧ Lowers asset floor item := by
  obtain ⟨v, hv, hfloor⟩ := hs
  constructor
  · intro hnot
    cases call_asset h asset with
    | same heq =>
        refine absurd ⟨v, ?_, hfloor⟩ hnot
        rw [haircutBase, heq]
        exact hv
    | registered hnone =>
        rw [haircutBase, hnone] at hv
        cases hv
    | @changed id p config hp hasset hold _ heq =>
        rw [haircutBase_of_some hold] at hv
        injection hv with hv
        have hlt : (p.change.apply config).haircutBaseBps < floor := by
          by_contra hge
          exact hnot ⟨_, haircutBase_of_some heq, Nat.le_of_not_lt hge⟩
        have hless : (p.change.apply config).haircutBaseBps
            < config.haircutBaseBps := by omega
        obtain ⟨w, hw, hval⟩ := ParamChange.lowered hless
        refine ⟨.param, id, _, note_executeParam hp, w, ?_, by omega⟩
        rw [hasset, hw]
    | @raised risk addBps config hold _ heq =>
        rw [haircutBase_of_some hold] at hv
        injection hv with hv
        refine absurd ⟨_, haircutBase_of_some heq, ?_⟩ hnot
        show floor ≤ config.haircutBaseBps + addBps
        omega
  · intro hex hs'
    obtain ⟨k, n, item, hnote, w, hitem, hlt⟩ := hex
    subst hitem
    obtain ⟨rfl, -, p, hp, hasset, hchange⟩ := executeParam_of_note hnote
    obtain ⟨v', hv', hle⟩ := hs'
    have hset := haircutBase_executed h hp hchange
    rw [hasset, hv'] at hset
    injection hset with hset
    omega

-- ============================================================= all runs

/-- `d` executes a change of `asset`'s haircut to `v` that was waiting
in `s` already. -/
def ExecutesWaiting (s : State) (asset : Address) (v : Nat)
    (d : Committed State Tx) : Prop :=
  ∃ n p, d.call.entry = .executeParam n
    ∧ d.before.pendingParam.get n = some p
    ∧ s.pendingParam.get n = some p
    ∧ p.asset = asset ∧ p.change = .haircutBaseBps v

/-- `b` queued the change `change` of `asset` under the id `n`. -/
def QueuesParam (b : Committed State Tx) (n : Nat) (asset : Address)
    (change : ParamChange) : Prop :=
  (∃ admin, b.call.entry = .queueParam admin asset change)
    ∧ b.before.nextId = n

/-- A queueing call is what its note says. -/
theorem queuesParam_of_note {self : Address} {b : Committed State Tx}
    (happ : (machine self).apply b.call b.before = .ok b.after) {n : Nat}
    {asset : Address} {change : ParamChange}
    (h : (governed self).note b
      = some (.queued .param n (.param asset change))) :
    QueuesParam b n asset change := by
  have hcall := apply_call happ
  change note _ _ b.call.entry = _ at h
  cases hentry : b.call.entry with
  | queueParam admin a ch =>
      rw [hentry] at h hcall
      obtain ⟨p, hp, -⟩ := map_ok.mp hcall
      simp only [note, queuedAs, hp, Except.toOption, Option.map_some,
        Option.some.injEq, Note.queued.injEq, Item.param.injEq,
        true_and] at h
      obtain ⟨hid, rfl, rfl⟩ := h
      refine ⟨⟨admin, hentry⟩, ?_⟩
      rw [← hid, (queueParam_ok hp).2]
  | _ => simp [hentry, note, queuedAs, executedAs] at h

/-- What waits among the parameters, as the queue shows it. -/
theorem waiting_param {n readyAt : Nat} {asset : Address}
    {change : ParamChange} :
    (queue s).waiting .param n = some (.param asset change, readyAt) ↔
      s.pendingParam.get n = some ⟨asset, change, readyAt⟩ := by
  simp only [queue, Option.map_eq_some_iff, Prod.mk.injEq,
    Item.param.injEq]
  constructor
  · intro h
    obtain ⟨p, hp, ⟨rfl, rfl⟩, rfl⟩ := h
    exact hp
  · intro h
    exact ⟨_, h, ⟨rfl, rfl⟩, rfl⟩

/-- A smaller haircut is an executed change that waited for 48 hours. -/
theorem haircut_lowered (self : Address) (txs : List Tx)
    {l₁ l₂ : List (Committed State Tx)} {c : Committed State Tx}
    {h h' : Nat}
    (hsplit : (machine self).trace (machine self).init txs
      = l₁ ++ c :: l₂)
    (hbefore : haircutBase c.before asset = some h)
    (hafter : haircutBase c.after asset = some h') (hlt : h' < h) :
    ∃ n, c.call.entry = .executeParam n ∧ ∃ b ∈ l₁,
      QueuesParam b n asset (.haircutBaseBps h')
        ∧ b.call.time + 172800 ≤ c.call.time := by
  have happ := apply_of_split hsplit
  have hcall := apply_call happ
  have hnot : ¬ HaircutAtLeast asset h c.after := by
    intro hex
    obtain ⟨w, hw, hle⟩ := hex
    rw [hafter] at hw
    injection hw with hw
    omega
  obtain ⟨k, n, item, hnote, v, hitem, -⟩ :=
    (haircut_breaks hcall ⟨h, hbefore, le_rfl⟩).mp hnot
  subst hitem
  obtain ⟨hentry, rfl, p, hp, hasset, hchange⟩ :=
    executeParam_of_note hnote
  have hv : h' = v := by
    rw [hentry] at hcall
    have hset := haircutBase_executed hcall hp hchange
    rw [hasset, hafter] at hset
    injection hset
  subst hv
  obtain ⟨l₃, b, l₄, hl₁, hb, htime, -⟩ :=
    (governed self).executed_once hsplit hnote
  have hmem : b ∈ l₁ := by
    rw [hl₁]
    simp
  have hbtrace : b ∈ (machine self).trace (machine self).init txs := by
    rw [hsplit]
    exact List.mem_append_left _ hmem
  have hbapp := apply_of_mem_trace hbtrace
  exact ⟨n, hentry, b, hmem, queuesParam_of_note hbapp hb, htime⟩

/-- A raise holds for the notice period exactly when no lower value that
was waiting before it is executed in it. -/
theorem raise_holds_iff (self : Address) {txs : List Tx}
    (hchron : Chronological Tx.time txs)
    {l₁ l₂ : List (Committed State Tx)} {c : Committed State Tx} {h : Nat}
    (hsplit : (machine self).trace (machine self).init txs
      = l₁ ++ c :: l₂)
    (hafter : haircutBase c.after asset = some h) :
    (∀ d ∈ l₂, d.call.time < c.call.time + 172800 →
        HaircutAtLeast asset h d.after) ↔
      ∀ d ∈ l₂, d.call.time < c.call.time + 172800 →
        ∀ v, ExecutesWaiting c.before asset v d → h ≤ v := by
  have hnotice := (governed self).holds_for_notice
    (P := HaircutAtLeast asset h)
    (B := fun item _ => Lowers asset h item)
    (fun d happ hd => haircut_breaks (apply_call happ) hd)
    hchron hsplit ⟨h, hafter, le_rfl⟩
  refine hnotice.trans ?_
  constructor
  · intro hno d hd hwindow v hex
    obtain ⟨n, p, hentry, hp, hwait, hasset, hchange⟩ := hex
    by_contra hlt
    have hnote : (governed self).note d
        = some (.executed .param n (.param p.asset p.change)) := by
      show note _ _ d.call.entry = _
      rw [hentry, note_executeParam hp]
    refine hno d hd hwindow .param n _ p.executesAt hnote
      (waiting_param.mpr hp) (waiting_param.mpr hwait) ?_
    rw [hasset, hchange]
    exact ⟨v, rfl, Nat.lt_of_not_le hlt⟩
  · intro hall d hd hwindow k n item readyAt hnote hnow hwait hlower
    obtain ⟨v, hitem, hlt⟩ := hlower
    subst hitem
    obtain ⟨hentry, rfl, -⟩ := executeParam_of_note hnote
    have hle := hall d hd hwindow v ⟨n, _, hentry, waiting_param.mp hnow,
      waiting_param.mp hwait, rfl, rfl⟩
    omega

/-- Configurations and haircuts over a run: valid throughout, lowered
only by a change that waited for 48 hours, and a raise holds for the
notice period exactly when no lower value that was waiting before it is
executed in it. -/
theorem haircut_notice (self : Address) (txs : List Tx)
    (hchron : Chronological Tx.time txs) :
    ConfigsValid ((machine self).run (machine self).init txs)
      ∧ (∀ l₁ c l₂ asset h h', (machine self).trace (machine self).init txs
          = l₁ ++ c :: l₂ → haircutBase c.before asset = some h →
        haircutBase c.after asset = some h' → h' < h →
        ∃ n, c.call.entry = .executeParam n ∧ ∃ b ∈ l₁,
          QueuesParam b n asset (.haircutBaseBps h')
            ∧ b.call.time + 172800 ≤ c.call.time)
      ∧ (∀ l₁ c l₂ risk asset addBps h,
        (machine self).trace (machine self).init txs = l₁ ++ c :: l₂ →
        c.call.entry = .raiseHaircutNow risk asset addBps →
        haircutBase c.after asset = some h →
        ((∀ d ∈ l₂, d.call.time < c.call.time + 172800 →
            HaircutAtLeast asset h d.after) ↔
          ∀ d ∈ l₂, d.call.time < c.call.time + 172800 →
            ∀ v, ExecutesWaiting c.before asset v d → h ≤ v)) := by
  refine ⟨configsValid_run self txs, ?_, ?_⟩
  · intro l₁ c l₂ asset h h' hsplit hbefore hafter hlt
    exact haircut_lowered self txs hsplit hbefore hafter hlt
  · intro l₁ c l₂ risk asset addBps h hsplit _ hafter
    exact raise_holds_iff self hchron hsplit hafter

-- ============================================================ an undoing

theorem haircut_notice_demo :
    Chronological Tx.time (Demo.beforeRaise ++ [Demo.raise])
      ∧ ConfigsValid ((machine Demo.self).run (machine Demo.self).init
          (Demo.beforeRaise ++ [Demo.raise])) := by
  have hchron : Chronological Tx.time
      (Demo.beforeRaise ++ [Demo.raise]) := by
    unfold Chronological
    decide
  exact ⟨hchron, (haircut_notice Demo.self _ hchron).1⟩

/-- One second after the raise to 13% anyone may take it back to 1%. -/
theorem raise_undone :
    ¬ ∀ (self : Address) (txs : List Tx), Chronological Tx.time txs →
      ∀ l₁ c l₂ risk asset addBps h,
        (machine self).trace (machine self).init txs = l₁ ++ c :: l₂ →
        c.call.entry = .raiseHaircutNow risk asset addBps →
        haircutBase c.after asset = some h →
        ∀ d ∈ l₂, d.call.time < c.call.time + 172800 →
          HaircutAtLeast asset h d.after := by
  intro hclaim
  have hafter : haircutBase ((machine Demo.self).run
      (machine Demo.self).init (Demo.beforeRaise ++ [Demo.raise]))
      Demo.asset = some 1300 := by decide
  have hundone : haircutBase ((machine Demo.self).run
      (machine Demo.self).init
        (Demo.beforeRaise ++ [Demo.raise] ++ [Demo.undo]))
      Demo.asset = some 100 := by decide
  have htrace := trace_two (machine Demo.self) (machine Demo.self).init
    Demo.beforeRaise (a := Demo.raise) (b := Demo.undo) (by decide)
    (by decide)
  have hchron : Chronological Tx.time
      (Demo.beforeRaise ++ [Demo.raise, Demo.undo]) := by
    unfold Chronological
    decide
  obtain ⟨v, hv, hle⟩ := hclaim Demo.self _ hchron _ _ _ _ Demo.asset _ _
    htrace rfl hafter _ (List.mem_singleton_self _) (by decide)
  rw [hundone] at hv
  injection hv with hv
  omega

end Ballast.Registry
