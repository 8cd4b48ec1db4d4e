/-
The replayed events are the vault.

`chain_event` is a set of rows in no order, with those of other contracts
among them (`Mirrors`). A row about a vault event adds the event's own
delta to its asset and nothing to any other (`sumUnits_eq`), so the sum
does not depend on the order and is what the vault holds (`held_run`).

# What a row is

An event is stored as the RPC gives it, topics and a value in base 64,
and the reconciliation decodes it again. What the SDK makes of a value
comes from outside, and `Documented` says what is used of it. A row of
another contract goes by another name and adds nothing
(`rowDelta_other`); one of the vault adds what the event said
(`delta_eq`).

# What is compared

A pledge is announced when it is made, also under a lien that is yet to
be confirmed, so what the events imply counts pending units too. The
other side of the comparison is the sum of active pledges on file, of
which nothing is assumed here.
-/
import Ballast.PledgeVault.Proofs.Events
import Ballast.Reconcile.Basic

namespace Ballast.Reconcile

open Soroban Machine Js Indexer PledgeVault

variable {sdk : StellarSdk} {a : Address} {row : ChainEvent Value}
  {event : PledgeVault.Event} {rows : List (ChainEvent Value)}

-- ================================================================ one row

/-- What a row adds to an asset's sum. -/
def rowDelta (contractC : String) (e : ChainEvent Value) : Call Int :=
  if pledgeTopics.contains e.topic && names contractC e then do
    let units ← unitsField e
    return topicDelta e.topic units
  else return 0

theorem tupleOf_records (h : Records sdk event row) :
    ∃ rest, tupleOf row = some (.string (sdk.strkey (assetOf event))
      :: .string (String.ofList (bigintText (unitsOf event))) :: rest) := by
  obtain ⟨rest, hrest⟩ := h.data
  exact ⟨rest, by rw [tupleOf, hrest]⟩

/-- A row about a vault event is one for its own asset, whatever string
that is compared with. -/
theorem rowDelta_records (h : Records sdk event row) (contractC : String) :
    rowDelta contractC row
      = .ok (if sdk.strkey (assetOf event) = contractC then
          topicDelta (topicOf event) (unitsOf event) else 0) := by
  obtain ⟨rest, hrest⟩ := tupleOf_records h
  have hnames : names contractC row
      = decide (sdk.strkey (assetOf event) = contractC) := by
    simp only [names, hrest]
  have hunits : unitsField row = .ok (unitsOf event) := by
    simp only [unitsField, hrest, bigIntOf_text]
  unfold rowDelta
  rw [h.topic, hnames, hunits]
  by_cases ha : sdk.strkey (assetOf event) = contractC
  · cases event <;> simp [topicOf, pledgeTopics, topicDelta, ha]
  · simp [ha]

/-- Which is what the event says. -/
theorem delta_eq (event : PledgeVault.Event) (a : Address) :
    event.delta a = if assetOf event = a then
      topicDelta (topicOf event) (unitsOf event) else 0 := by
  cases event <;> simp [Event.delta, assetOf, topicOf, unitsOf, topicDelta]

/-- A row with another name adds nothing. -/
theorem rowDelta_other (h : row.topic ∉ pledgeTopics) (contractC : String) :
    rowDelta contractC row = .ok 0 := by
  have hnot : pledgeTopics.contains row.topic = false := by
    simpa [List.contains_iff_mem] using h
  simp only [rowDelta, hnot, Bool.false_and, Bool.false_eq_true, if_false,
    pure_ok]

-- =============================================================== all rows

/-- The same, as a number. -/
def rowUnits (contractC : String) (e : ChainEvent Value) : Int :=
  match rowDelta contractC e with
  | .ok units => units
  | .error _ => 0

/-- Rows that can be read add up one by one. -/
theorem sumUnits_eq {contractC : String}
    (h : ∀ e ∈ rows, rowDelta contractC e = .ok (rowUnits contractC e))
    (sum : Int) :
    sumUnits (relevantEvents contractC rows) sum
      = .ok (sum + (rows.map (rowUnits contractC)).sum) := by
  induction rows generalizing sum with
  | nil => simp [relevantEvents, sumUnits, pure_ok]
  | cons e rows ih =>
      have hrest := ih fun e' he' => h e' (List.mem_cons_of_mem e he')
      have he := h e List.mem_cons_self
      unfold relevantEvents at hrest ⊢
      rw [List.map_cons, List.sum_cons]
      unfold rowDelta at he
      by_cases hrel : (pledgeTopics.contains e.topic && names contractC e)
          = true
      · rw [if_pos hrel] at he
        simp only [bind_ok, pure_ok] at he
        obtain ⟨units, hunits, hdelta⟩ := he
        rw [List.filter_cons, if_pos hrel]
        simp only [sumUnits, bind_ok]
        refine ⟨units, hunits, ?_⟩
        rw [hrest, hdelta]
        congr 1
        omega
      · rw [if_neg hrel, pure_ok] at he
        rw [List.filter_cons, if_neg hrel, hrest, ← he, zero_add]

/-- `published` is the event as the RPC returns it. -/
def Publishes (event : PledgeVault.Event) (published : RpcEvent ScVal) :
    Prop :=
  published.topic = (publishedAs event).topic
    ∧ published.value = (publishedAs event).value

/-- `chain_event` holds a row of each vault event, once, as the indexer
stores it, and otherwise rows of events that go by other names. -/
def Mirrors (sdk : StellarSdk) (events : List PledgeVault.Event)
    (rows : List (ChainEvent Value)) : Prop :=
  ∃ published others, List.Forall₂ Publishes events published
    ∧ rows.Perm (published.map (rowOf (stellarDecoder sdk)) ++ others)
    ∧ ∀ row ∈ others, row.topic ∉ pledgeTopics

/-- A row that can be read is read as its units. -/
theorem rowUnits_ok {contractC : String} {units : Int}
    (h : rowDelta contractC row = .ok units) :
    rowDelta contractC row = .ok (rowUnits contractC row)
      ∧ rowUnits contractC row = units := by
  have hunits : rowUnits contractC row = units := by
    rw [rowUnits, h]
  exact ⟨by rw [hunits, h], hunits⟩

/-- The rows of the vault's events add up to its log. -/
theorem sum_published (hsdk : sdk.Documented)
    {events : List PledgeVault.Event} {published : List (RpcEvent ScVal)}
    (h : List.Forall₂ Publishes events published) (a : Address) :
    ((published.map (rowOf (stellarDecoder sdk))).map
        (rowUnits (sdk.strkey a))).sum
      = (events.map (Event.delta a)).sum := by
  induction h with
  | nil => rfl
  | @cons event e _ _ hhead _ ih =>
      have hrow := rowDelta_records (rowOf_records hsdk hhead.1 hhead.2)
        (sdk.strkey a)
      simp only [hsdk.strkey_injective.eq_iff, ← delta_eq] at hrow
      simp only [List.map_cons, List.sum_cons, ih, (rowUnits_ok hrow).2]

theorem mem_published {events : List PledgeVault.Event}
    {published : List (RpcEvent ScVal)}
    (h : List.Forall₂ Publishes events published) {e : RpcEvent ScVal}
    (he : e ∈ published) : ∃ event, Publishes event e := by
  induction h with
  | nil => cases he
  | cons hhead _ ih =>
      rcases List.mem_cons.mp he with rfl | he
      · exact ⟨_, hhead⟩
      · exact ih he

/-- In any order, every string's rows can be read and add up. -/
theorem chainUnits_ok (hsdk : sdk.Documented)
    {events : List PledgeVault.Event} (h : Mirrors sdk events rows)
    (contractC : String) :
    chainUnits contractC rows
      = .ok (rows.map (rowUnits contractC)).sum := by
  obtain ⟨published, others, hpub, hperm, hothers⟩ := h
  rw [chainUnits, sumUnits_eq, zero_add]
  intro e he
  rcases List.mem_append.mp (hperm.mem_iff.mp he) with he | he
  · obtain ⟨p, hp, rfl⟩ := List.mem_map.mp he
    obtain ⟨event, hevent⟩ := mem_published hpub hp
    exact (rowUnits_ok (rowDelta_records
      (rowOf_records hsdk hevent.1 hevent.2) contractC)).1
  · exact (rowUnits_ok (rowDelta_other (hothers e he) contractC)).1

/-- An asset's rows add up to the log. -/
theorem chainUnits_eq (hsdk : sdk.Documented)
    {events : List PledgeVault.Event} (h : Mirrors sdk events rows)
    (a : Address) :
    chainUnits (sdk.strkey a) rows
      = .ok (events.map (Event.delta a)).sum := by
  rw [chainUnits_ok hsdk h]
  obtain ⟨published, others, hpub, hperm, hothers⟩ := h
  have hother : ∀ row ∈ others, rowUnits (sdk.strkey a) row = 0 :=
    fun row hrow => (rowUnits_ok (rowDelta_other (hothers row hrow) _)).2
  rw [(hperm.map _).sum_eq, List.map_append, List.sum_append,
    sum_published hsdk hpub, List.map_eq_replicate_iff.mpr hother]
  simp

-- ================================================================ the run

variable {t : Tables}

/-- An asset is compared whenever its events can be read, and reported
when the two sides are too far apart. -/
theorem compareAsset_eq {asset : AssetRow} {chain : Int}
    (h : chainUnits asset.contractC t.chainEvent = .ok chain) :
    ∃ found, compareAsset t asset = .ok found
      ∧ (∀ m ∈ found, m.assetId = asset.id)
      ∧ (found.isSome
        ↔ toleranceUnits < |pgUnits asset.id t.pledge - chain|) := by
  refine ⟨_, by simp only [compareAsset, h, bind_ok, pure_ok]; exact
    ⟨chain, rfl, rfl⟩, ?_, ?_⟩
  · intro m hm
    split_ifs at hm
    · injection hm with hm
      rw [← hm]
    · cases hm
  · split_ifs with hfar
    · simp [hfar]
    · simp [hfar]

/-- The report has a mismatch of an asset exactly when comparing it found
one. -/
theorem compareAssets_mem (assets : List AssetRow)
    (hread : ∀ contractC, ∃ chain,
      chainUnits contractC t.chainEvent = .ok chain) :
    ∃ mismatches, compareAssets t assets = .ok mismatches
      ∧ ∀ id, (∃ m ∈ mismatches, m.assetId = id)
        ↔ ∃ asset ∈ assets, asset.id = id
          ∧ ∃ chain, chainUnits asset.contractC t.chainEvent = .ok chain
            ∧ toleranceUnits < |pgUnits id t.pledge - chain| := by
  induction assets with
  | nil => exact ⟨[], rfl, fun id => by simp⟩
  | cons asset assets ih =>
      obtain ⟨chain, hchain⟩ := hread asset.contractC
      obtain ⟨found, hfound, hid, hfar⟩ := compareAsset_eq hchain
      obtain ⟨rest, hrest, hmem⟩ := ih
      refine ⟨found.toList ++ rest, ?_, ?_⟩
      · simp only [compareAssets, bind_ok, pure_ok]
        exact ⟨found, hfound, rest, hrest, rfl⟩
      · intro id
        constructor
        · rintro ⟨m, hm, rfl⟩
          rcases List.mem_append.mp hm with hm | hm
          · have hsome := Option.mem_toList.mp hm
            have hasset := hid m hsome
            refine ⟨asset, List.mem_cons_self, hasset.symm, chain, hchain, ?_⟩
            rw [hasset]
            exact hfar.mp (Option.isSome_of_mem hsome)
          · obtain ⟨b, hb, hrest⟩ := (hmem m.assetId).mp ⟨m, hm, rfl⟩
            exact ⟨b, List.mem_cons_of_mem asset hb, hrest⟩
        · rintro ⟨b, hb, rfl, c, hc, hdiff⟩
          rcases List.mem_cons.mp hb with rfl | hb
          · rw [hchain] at hc
            injection hc with hc
            subst hc
            obtain ⟨m, hm⟩ := Option.isSome_iff_exists.mp (hfar.mpr hdiff)
            exact ⟨m, List.mem_append_left _ (Option.mem_toList.mpr hm),
              hid m hm⟩
          · obtain ⟨m, hm, hmid⟩ := (hmem b.id).mpr ⟨b, hb, rfl, c, hc, hdiff⟩
            exact ⟨m, List.mem_append_right _ hm, hmid⟩

/-- The vault after a run. -/
def vaultAfter {κ : Type} (net : CreditLineInterface κ) (self : Address)
    (peers : κ) (txs : List (Tx κ)) : Scene κ :=
  (machine net self peers).run (machine net self peers).init txs

/-- For every run of the vault whose events `chain_event` holds, the
units the reconciliation implies for an asset are what all lines hold of
it, counted and pending, which in a run without liens the vault's balance
covers; so an asset is reported exactly when its active pledges on file
are more than the tolerance away from that. -/
theorem replay_is_vault {κ : Type} (net : CreditLineInterface κ)
    (self : Address) (peers : κ) (txs : List (Tx κ)) (sdk : StellarSdk)
    (t : Tables) (hsdk : sdk.Documented)
    (hmirrors : Mirrors sdk (vaultAfter net self peers txs).vault.events
      t.chainEvent) :
    (∀ a, chainUnits (sdk.strkey a) t.chainEvent
      = .ok (heldUnits (vaultAfter net self peers txs).vault a))
    ∧ ((machine net self peers).Allowed EscrowOnly
        (machine net self peers).init txs →
      (machine net self peers).Allowed (NoOutsideDebit self)
        (machine net self peers).init txs →
      ∀ a, heldUnits (vaultAfter net self peers txs).vault a
        ≤ (vaultAfter net self peers txs).tokens.balance a self)
    ∧ ((t.asset.map (·.id)).Nodup →
      ∃ outcome t', runReconciliation t = .ok (outcome, t')
        ∧ ∀ asset ∈ t.asset, ∀ a, asset.contractC = sdk.strkey a →
          ((∃ m ∈ outcome.report.mismatches, m.assetId = asset.id)
            ↔ toleranceUnits < |pgUnits asset.id t.pledge
              - heldUnits (vaultAfter net self peers txs).vault a|)) := by
  have hchain : ∀ a, chainUnits (sdk.strkey a) t.chainEvent
      = .ok (heldUnits (vaultAfter net self peers txs).vault a) := by
    intro a
    rw [chainUnits_eq hsdk hmirrors a]
    exact congrArg Except.ok (held_run net self peers txs a).symm
  refine ⟨hchain, ?_, ?_⟩
  · intro hescrow hdebit a
    exact held_le_balance hescrow hdebit a
  · intro hnodup
    obtain ⟨mismatches, hmismatches, hmem⟩ := compareAssets_mem t.asset
      fun contractC => ⟨_, chainUnits_ok hsdk hmirrors contractC⟩
    refine ⟨_, _, by
      simp only [runReconciliation, hmismatches, bind_ok, pure_ok]
      exact ⟨_, rfl, rfl⟩, ?_⟩
    intro asset hasset a ha
    rw [hmem asset.id]
    constructor
    · rintro ⟨b, hb, hid, c, hc, hdiff⟩
      rw [List.inj_on_of_nodup_map hnodup hb hasset hid, ha, hchain a] at hc
      injection hc with hc
      rw [hc]
      exact hdiff
    · intro hdiff
      exact ⟨asset, hasset, rfl, _, by rw [ha, hchain a], hdiff⟩

namespace Demo

/-- An address as text. -/
def strkey (a : Address) : String := String.ofList (bigintText a.id)

mutual

/-- The SDK's values, as its documentation has them. -/
def native : ScVal → Value
  | .symbol s => .string s
  | .u64 n => .bigint n
  | .i128 n => .bigint n
  | .address a => .string (strkey a)
  | .bytes _ => .object []
  | .vec xs => .array (natives xs)

def natives : List ScVal → List Value
  | [] => []
  | x :: xs => native x :: natives xs

end

def stellar : StellarSdk where
  scValToNative v := .ok (native v)
  strkey := strkey
  raw _ := ""

theorem mapM_native (xs : List ScVal) :
    xs.mapM stellar.scValToNative = .ok (natives xs) := by
  induction xs with
  | nil => rfl
  | cons x xs ih =>
      rw [List.mapM_cons, ih]
      rfl

theorem strkey_injective : Function.Injective strkey := by
  intro a b h
  have hread := congrArg bigIntOf h
  unfold strkey at hread
  rw [bigIntOf_text, bigIntOf_text] at hread
  injection hread with hid
  cases a
  cases b
  simp_all

theorem documented : stellar.Documented where
  symbol _ := rfl
  u64 _ := rfl
  i128 _ := rfl
  address _ := rfl
  bytes _ := ⟨_, rfl⟩
  vec xs vs h := by
    rw [mapM_native] at h
    injection h with h
    rw [← h]
    rfl
  strkey_injective := strkey_injective

/-- The vault's events after its escrow run, as the RPC returns them. -/
def published : List (RpcEvent ScVal) :=
  [⟨1, 10, "t1", "V", [.symbol "pledged", .u64 0],
      .vec [.address PledgeVault.Demo.asset, .i128 300]⟩,
   ⟨2, 11, "t2", "V", [.symbol "released", .u64 0],
      .vec [.address PledgeVault.Demo.asset, .i128 100]⟩]

/-- Stored in the other order, against 50 active units on file. -/
def tables : Tables where
  journalEntry := []
  asset := [⟨6, "EUTBL", strkey PledgeVault.Demo.asset⟩]
  pledge := [⟨7, 6, 50, .active⟩, ⟨7, 6, 25, .pending⟩]
  chainEvent := (published.map (rowOf (stellarDecoder stellar))).reverse
  reconciliationRun := []
  alerts := []

theorem mirrors : Mirrors stellar (vaultAfter PledgeVault.Demo.line
    PledgeVault.Demo.self () PledgeVault.Demo.escrowRun).vault.events
    tables.chainEvent := by
  have hevents : (vaultAfter PledgeVault.Demo.line PledgeVault.Demo.self ()
      PledgeVault.Demo.escrowRun).vault.events
      = [.pledged 0 PledgeVault.Demo.asset 300,
        .released 0 PledgeVault.Demo.asset 100] := by
    decide +kernel
  rw [hevents]
  refine ⟨published, [], ?_, ?_, by simp⟩
  · exact .cons ⟨rfl, rfl⟩ (.cons ⟨rfl, rfl⟩ .nil)
  · rw [List.append_nil]
    exact List.reverse_perm _

end Demo

/-- 300 pledged and 100 released, read back in the other order: 200 held
against 50 on file is a break. -/
theorem replay_is_vault_demo :
    chainUnits (Demo.strkey PledgeVault.Demo.asset) Demo.tables.chainEvent
      = .ok 200
    ∧ heldUnits (vaultAfter PledgeVault.Demo.line PledgeVault.Demo.self ()
        PledgeVault.Demo.escrowRun).vault PledgeVault.Demo.asset
      ≤ (vaultAfter PledgeVault.Demo.line PledgeVault.Demo.self ()
        PledgeVault.Demo.escrowRun).tokens.balance PledgeVault.Demo.asset
          PledgeVault.Demo.self
    ∧ ∃ outcome t', runReconciliation Demo.tables = .ok (outcome, t')
      ∧ ∃ m ∈ outcome.report.mismatches, m.assetId = 6 := by
  obtain ⟨hchain, hescrow, hrun⟩ := replay_is_vault PledgeVault.Demo.line
    PledgeVault.Demo.self () PledgeVault.Demo.escrowRun Demo.stellar Demo.tables
    Demo.documented Demo.mirrors
  have hevents : (vaultAfter PledgeVault.Demo.line PledgeVault.Demo.self ()
      PledgeVault.Demo.escrowRun).vault.events
      = [.pledged 0 PledgeVault.Demo.asset 300,
        .released 0 PledgeVault.Demo.asset 100] := by
    decide +kernel
  have hheld : heldUnits (vaultAfter PledgeVault.Demo.line
      PledgeVault.Demo.self () PledgeVault.Demo.escrowRun).vault
      PledgeVault.Demo.asset = 200 := by
    rw [vaultAfter, held_run, ← vaultAfter, hevents]
    decide
  refine ⟨by rw [← hheld]; exact hchain _, ?_, ?_⟩
  · refine hescrow ⟨trivial, rfl, trivial, trivial, trivial, trivial⟩
      ⟨trivial, trivial, ?_, trivial, trivial, trivial⟩ _
    intro a
    show (0 : Int) ≤ _
    simp [Ledger.credit, Ledger.empty, PledgeVault.Demo.self,
      PledgeVault.Demo.borrower]
  obtain ⟨outcome, t', hok, hbreak⟩ := hrun (by decide)
  refine ⟨outcome, t', hok, (hbreak _ List.mem_cons_self
    PledgeVault.Demo.asset rfl).mpr ?_⟩
  rw [hheld]
  decide

end Ballast.Reconcile
