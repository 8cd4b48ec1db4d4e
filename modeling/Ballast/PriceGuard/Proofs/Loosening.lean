/-
Loosening the guard waits 48 hours.

# Strictness

`AsStrict` compares two states by everything the guard's judgement
depends on: per asset the five settings, with `windowSeconds` the other
way round, the registered issuer key, and whether NAV signatures are
checked. An asset or a key that was not there yet may be anything.

# What loosens

The three direct setters refuse to loosen, each in its own way, with one
exception: while nothing is stored for the signature switch, the admin
may turn it off at once, although unset means on. Everything else waits
in the queue (`loosening_waits`).
-/
import Ballast.PriceGuard.Proofs.Queues

namespace Ballast.PriceGuard

open Soroban Machine

variable {env : GuardEnv} {s s' : State} {e : Entry}

-- =========================================================== strictness

/-- `s'` guards at least as strictly as `s`. -/
structure AsStrict (s s' : State) : Prop where
  config : ∀ asset old, s.config.get asset = some old →
    ∃ new, s'.config.get asset = some new ∧ ¬ IsLoosening old new
  issuerPubKey : ∀ asset key, s.issuerPubKey.get asset = some key →
    s'.issuerPubKey.get asset = some key
  signature : requireNavSignature s = true → requireNavSignature s' = true

theorem IsLoosening.irrefl (c : AssetGuardConfig) : ¬ IsLoosening c c := by
  unfold IsLoosening
  omega

/-- The same settings are as strict. -/
theorem AsStrict.of_same (hconfig : s'.config = s.config)
    (hkeys : s'.issuerPubKey = s.issuerPubKey)
    (hsig : s'.requireNavSignature = s.requireNavSignature) :
    AsStrict s s' := by
  refine ⟨?_, ?_, ?_⟩
  · intro asset old hold
    exact ⟨old, by rw [hconfig, hold], IsLoosening.irrefl old⟩
  · intro asset key hkey
    rw [hkeys, hkey]
  · intro h
    rw [requireNavSignature, hsig]
    exact h

theorem AsStrict.of_settings (h : settings s' = settings s) :
    AsStrict s s' :=
  .of_same (congrArg Settings.config h) (congrArg Settings.issuerPubKey h)
    (congrArg Settings.requireNavSignature h)

-- ========================================================== the setters

theorem AsStrict.configureAsset {admin asset : Address}
    {band daily winSec winMove staleness : Nat}
    (h : configureAsset env admin asset band daily winSec winMove staleness
      s = .ok s') : AsStrict s s' := by
  obtain ⟨hstrict, rfl⟩ := configureAsset_ok h
  refine ⟨?_, fun _ _ hkey => hkey, id⟩
  intro a old hold
  by_cases ha : a = asset
  · subst ha
    exact ⟨_, Store.get_set_self _ _ _, hstrict old hold⟩
  · exact ⟨old, (Store.get_set_ne _ _ ha).trans hold, IsLoosening.irrefl old⟩

theorem AsStrict.configureIssuerKey {admin asset : Address}
    {key : BytesN 32}
    (h : configureIssuerKey env admin asset key s = .ok s') :
    AsStrict s s' := by
  obtain ⟨hsame, rfl⟩ := configureIssuerKey_ok h
  refine ⟨fun _ old hold => ⟨old, hold, IsLoosening.irrefl old⟩, ?_, id⟩
  intro a old hold
  by_cases ha : a = asset
  · subst ha
    rw [hsame old hold]
    exact Store.get_set_self _ _ _
  · exact (Store.get_set_ne _ _ ha).trans hold

/-- The admin, signing, turns signature checks off while nothing is
stored for them. -/
def FirstSwitchOff (env : GuardEnv) (s s' : State) (e : Entry) : Prop :=
  (∃ admin, e = .configureSignatureRequirement admin false)
    ∧ s.requireNavSignature = none
    ∧ (∃ r, s.roles = some r ∧ env.Grants r.admin)
    ∧ s'.config = s.config ∧ s'.issuerPubKey = s.issuerPubKey

theorem strict_or_switchOff {admin : Address} {required : Bool}
    (h : configureSignatureRequirement env admin required s = .ok s') :
    AsStrict s s' ∨ FirstSwitchOff env s s'
      (.configureSignatureRequirement admin required) := by
  obtain ⟨hadmin, hguard, rfl⟩ := configureSignatureRequirement_ok h
  have hframe : ∀ x : Bool, (requireNavSignature s = true → x = true) →
      AsStrict s (publish { s with requireNavSignature := some x }
        (.configureSignatureRequirement x)) := by
    intro x hx
    exact ⟨fun _ old hold => ⟨old, hold, IsLoosening.irrefl old⟩,
      fun _ _ hkey => hkey, hx⟩
  cases required with
  | true => exact .inl (hframe true fun _ => rfl)
  | false =>
      cases hstored : s.requireNavSignature with
      | none => exact .inr ⟨⟨admin, rfl⟩, hstored, hadmin, rfl, rfl⟩
      | some b =>
          cases b with
          | true => cases hguard hstored
          | false =>
              refine .inl (hframe false ?_)
              intro hon
              simp [requireNavSignature, hstored] at hon

-- ============================================================= one call

/-- Every call but an execution leaves the guard as strict, or turns the
signature checks off for the first time. -/
theorem call_strict (h : call env e s = .ok s') :
    AsStrict s s' ∨ (∃ id, e = .executeConfig id)
      ∨ FirstSwitchOff env s s' e := by
  cases e with
  | initContract =>
      obtain ⟨-, rfl⟩ := initContract_ok h
      exact .inl (.of_same rfl rfl rfl)
  | proposeAdmin =>
      obtain ⟨-, rfl⟩ := proposeAdmin_ok h
      exact .inl (.of_same rfl rfl rfl)
  | acceptAdmin =>
      obtain ⟨r, a, -, -, -, rfl⟩ := acceptAdmin_ok h
      exact .inl (.of_same rfl rfl rfl)
  | queueRoleChange =>
      obtain ⟨p, hp, rfl⟩ := map_ok.mp h
      obtain ⟨-, rfl⟩ := queueRoleChange_ok hp
      exact .inl (.of_same rfl rfl rfl)
  | executeRoleChange =>
      obtain ⟨p, r, -, -, -, rfl⟩ := executeRoleChange_ok h
      exact .inl (.of_same rfl rfl rfl)
  | queueUpgrade =>
      obtain ⟨p, hp, rfl⟩ := map_ok.mp h
      obtain ⟨-, rfl⟩ := queueUpgrade_ok hp
      exact .inl (.of_same rfl rfl rfl)
  | cancelUpgrade =>
      obtain ⟨p, -, rfl⟩ := cancelUpgrade_ok h
      exact .inl (.of_same rfl rfl rfl)
  | executeUpgrade =>
      obtain ⟨p, -, -, rfl⟩ := executeUpgrade_ok h
      exact .inl (.of_same rfl rfl rfl)
  | configureAsset => exact .inl (.configureAsset h)
  | configureIssuerKey => exact .inl (.configureIssuerKey h)
  | configureSignatureRequirement =>
      rcases strict_or_switchOff h with hs | hoff
      · exact .inl hs
      · exact .inr (.inr hoff)
  | queueConfig =>
      obtain ⟨p, hp, rfl⟩ := map_ok.mp h
      obtain ⟨-, rfl⟩ := queueConfig_ok hp
      exact .inl (.of_same rfl rfl rfl)
  | cancelConfig =>
      obtain ⟨p, -, rfl⟩ := cancelConfig_ok h
      exact .inl (.of_same rfl rfl rfl)
  | executeConfig id => exact .inr (.inl ⟨id, rfl⟩)
  | removeSource => exact .inl (.of_settings (call_settings h trivial))
  | publishNav => exact .inl (.of_settings (call_settings h trivial))
  | publishSource => exact .inl (.of_settings (call_settings h trivial))
  | guardedPrice => exact .inl (.of_settings (call_settings h trivial))
  | confirmHaltCleared =>
      exact .inl (.of_settings (call_settings h trivial))

-- ============================================================= all runs

/-- `c` executes the change queued under `n`, which the admin of the
time queued at least 48 hours earlier and which nothing in `past`
cancelled or executed. -/
def ExecutesAfterNotice (self : Address) (past : List (Committed State Tx))
    (c : Committed State Tx) : Prop :=
  ∃ n change, c.call.entry = .executeConfig n ∧ ∃ b ∈ past,
    (∃ admin, b.call.entry = .queueConfig admin change)
      ∧ b.before.nextId = n
      ∧ (∃ r, b.before.roles = some r
        ∧ (b.call.env.at self).Grants r.admin)
      ∧ b.call.time + 172800 ≤ c.call.time
      ∧ ∀ d ∈ past, d.call.entry ≠ .executeConfig n
        ∧ ∀ admin, d.call.entry ≠ .cancelConfig admin n

/-- What an executed change is noted as. -/
theorem note_executeConfig {id : Nat} {p : PendingConfigChange}
    (h : s.pendingConfig.get id = some p) :
    note env s (.executeConfig id)
      = some (.executed .config id (.config p.change)) := by
  simp [note, executedAs, queue, Settings.queue, settings, h]

/-- A call noted as queueing a change is `queueConfig`, with the counter
at the id. -/
theorem queueConfig_of_note (h : call env e s = .ok s') {n : Nat}
    {change : ConfigChange}
    (hnote : note env s e = some (.queued .config n (.config change))) :
    (∃ admin, e = .queueConfig admin change) ∧ s.nextId = n := by
  cases e with
  | queueConfig admin ch =>
      obtain ⟨p, hp, -⟩ := map_ok.mp h
      simp only [note, queuedAs, hp, Except.toOption, Option.map_some,
        Option.some.injEq, Note.queued.injEq, Item.config.injEq,
        true_and] at hnote
      obtain ⟨hid, rfl⟩ := hnote
      refine ⟨⟨admin, rfl⟩, ?_⟩
      rw [← hid, (queueConfig_ok hp).2]
  | _ => simp [note, queuedAs, executedAs] at hnote

theorem executes_after_notice (self : Address) {txs : List Tx}
    {l₁ l₂ : List (Committed State Tx)} {c : Committed State Tx} {id : Nat}
    (hsplit : (machine self).trace (machine self).init txs
      = l₁ ++ c :: l₂)
    (hentry : c.call.entry = .executeConfig id) :
    ExecutesAfterNotice self l₁ c := by
  have hmem : ∀ d, d ∈ l₁ ++ c :: l₂ →
      call (d.call.env.at self) d.call.entry d.before = .ok d.after := by
    intro d hd
    rw [← hsplit] at hd
    exact apply_call (apply_of_mem_trace hd)
  have hcall := hmem c (by simp)
  rw [hentry] at hcall
  obtain ⟨p, hp, -⟩ := executeConfig_ok hcall
  have hnote : (governed self).note c
      = some (.executed .config id (.config p.change)) := by
    show note _ _ c.call.entry = _
    rw [hentry, note_executeConfig hp]
  obtain ⟨l₃, b, l₄, hl₁, hb, htime, hnone⟩ :=
    (governed self).executed_once hsplit hnote
  have hin : b ∈ l₁ := by
    rw [hl₁]
    simp
  have hbcall := hmem b (List.mem_append_left _ hin)
  obtain ⟨hqueue, hid⟩ := queueConfig_of_note hbcall hb
  refine ⟨id, p.change, hentry, b, hin, hqueue, hid,
    call_signed hbcall hb, htime, ?_⟩
  intro d hd
  have hdcall := hmem d (List.mem_append_left _ hd)
  constructor
  · intro hexec
    rw [hexec] at hdcall
    obtain ⟨p', hp', -⟩ := executeConfig_ok hdcall
    refine hnone d hd (.inr ⟨.config p'.change, ?_⟩)
    show note _ _ d.call.entry = _
    rw [hexec, note_executeConfig hp']
  · intro admin hcancel
    refine hnone d hd (.inl ?_)
    show note _ _ d.call.entry = _
    rw [hcancel]
    rfl

/-- Every committed call leaves the guard at least as strict, executes a
change that waited for 48 hours, or turns the signature checks off for
the first time. -/
theorem loosening_waits (self : Address) (txs : List Tx)
    {l₁ l₂ : List (Committed State Tx)} {c : Committed State Tx}
    (hsplit : (machine self).trace (machine self).init txs
      = l₁ ++ c :: l₂) :
    AsStrict c.before c.after ∨ ExecutesAfterNotice self l₁ c
      ∨ FirstSwitchOff (c.call.env.at self) c.before c.after
        c.call.entry := by
  have happ := apply_of_split hsplit
  rcases call_strict (apply_call happ) with hs | ⟨id, hentry⟩ | hoff
  · exact .inl hs
  · exact .inr (.inl (executes_after_notice self hsplit hentry))
  · exact .inr (.inr hoff)

/-- A wider band, executed two days after it was queued. -/
theorem loosening_waits_demo :
    ∃ c, c.call = Demo.widen
      ∧ ExecutesAfterNotice Demo.self ((machine Demo.self).trace
        (machine Demo.self).init Demo.beforeWiden) c := by
  have htrace := trace_snoc (machine Demo.self) (machine Demo.self).init
    Demo.beforeWiden (a := Demo.widen) (by decide)
  refine ⟨⟨Demo.widen, (machine Demo.self).run (machine Demo.self).init
    Demo.beforeWiden, (machine Demo.self).run (machine Demo.self).init
    (Demo.beforeWiden ++ [Demo.widen])⟩, rfl, ?_⟩
  rcases loosening_waits Demo.self _ htrace with hs | hexec | hoff
  · obtain ⟨new, hnew, hstrict⟩ := hs.config Demo.asset
      ⟨50, 200, 3600, 86400, 100⟩ (by decide)
    have hwide : ((machine Demo.self).run (machine Demo.self).init
        (Demo.beforeWiden ++ [Demo.widen])).config.get Demo.asset
        = some ⟨60, 200, 3600, 86400, 100⟩ := by decide
    change ((machine Demo.self).run (machine Demo.self).init
      (Demo.beforeWiden ++ [Demo.widen])).config.get Demo.asset = _ at hnew
    rw [hwide] at hnew
    injection hnew with hnew
    subst hnew
    exact absurd (by decide) hstrict
  · exact hexec
  · obtain ⟨⟨admin, hentry⟩, -⟩ := hoff
    cases hentry

/-- The switch is on by default and the admin turns it off at once. -/
theorem switched_off_at_once :
    ¬ ∀ (self : Address) (txs : List Tx) l₁ c l₂,
      (machine self).trace (machine self).init txs = l₁ ++ c :: l₂ →
      AsStrict c.before c.after ∨ ExecutesAfterNotice self l₁ c := by
  intro hclaim
  have hon : requireNavSignature ((machine Demo.self).run
      (machine Demo.self).init Demo.setup) = true := by decide
  have hoff : requireNavSignature ((machine Demo.self).run
      (machine Demo.self).init (Demo.setup ++ [Demo.switchOff]))
      = false := by decide
  have htrace := trace_snoc (machine Demo.self) (machine Demo.self).init
    Demo.setup (a := Demo.switchOff) (by decide)
  rcases hclaim Demo.self _ _ _ _ htrace with hs | hexec
  · have hstill := hs.signature hon
    rw [hoff] at hstill
    cases hstill
  · obtain ⟨n, change, hentry, -⟩ := hexec
    cases hentry

end Ballast.PriceGuard
