/-
Which intent holds a pledge row to its status.

`Pinned` is the standing of the rows: each has the status the one intent
that pins it says, and a row waiting for its release has one. A request
pins a row that is new or that was active, so nothing pinned it before; a
settlement lets go of the row it writes, or, for a release, holds it as
released for good.

# Files

`PledgeFiled` is what the rest rests on: which intents there are about
the line's rows, of which kinds, and what their transactions did when
they landed. It holds in every run. `Pinned` needs the condition of the
theorem in one place, where a release is recorded for a row that has to
be active still.
-/
import Ballast.Api.Proofs.Pledges

namespace Ballast.Api

open Soroban Machine

variable {d : Deployed} {start : Chain} {db₀ : Db} {r : RowId} {line : Nat}
  {asset : Address} {s s' : System Chain} {a : Act ChainTx}

-- =========================================================== what is on file

/-- What is on file about the line's pledges, on both sides. -/
structure PledgeFiled (d : Deployed) (start : Chain) (db₀ : Db) (r : RowId)
    (line : Nat) (asset : Address) (s : System Chain) : Prop where
  filed : Filed (network d start) db₀ PledgeGood s
  rows : LineRows r line s
  escrow : Escrowing s.chain line asset
  escrows : ∀ h x, s.landed.get h = some x → Escrowing x.before line asset
  drafts : ∀ id dr, s.drafts.get id = some dr → PledgeDraft r line s.db dr
  about : ∀ h i, s.db.txIntent.get h = some i → ofPledge i.kind = true →
    ∃ row, s.db.pledge.get i.refId = some row
      ∧ (row.creditLineId = r → (s.envelopes.get h).isSome)
  made : ∀ h e i row, s.envelopes.get h = some e →
    s.db.txIntent.get h = some i → ofPledge i.kind = true →
    s.db.pledge.get i.refId = some row → UnitsOf r line e i.kind row

/-- Nothing new is recorded: the rows and intents of before, in what does
not change of them. -/
theorem PledgeFiled.carry (hp : PledgeFiled d start db₀ r line asset s)
    (hkept : PledgesKept s.db s'.db)
    (hintents : ∀ h j, s'.db.txIntent.get h = some j →
      ∃ i, s.db.txIntent.get h = some i ∧ Alike i j)
    (henv : s'.envelopes = s.envelopes) :
    (∀ h i, s'.db.txIntent.get h = some i → ofPledge i.kind = true →
      ∃ row, s'.db.pledge.get i.refId = some row
        ∧ (row.creditLineId = r → (s'.envelopes.get h).isSome))
    ∧ (∀ h e i row, s'.envelopes.get h = some e →
      s'.db.txIntent.get h = some i → ofPledge i.kind = true →
      s'.db.pledge.get i.refId = some row → UnitsOf r line e i.kind row) := by
  constructor
  · intro h j hj hkind
    obtain ⟨i, hi, halike⟩ := hintents h j hj
    rw [← halike.kind] at hkind
    obtain ⟨row, hrow, hown⟩ := hp.about h i hi hkind
    obtain ⟨st, hrow'⟩ := hkept _ row hrow
    rw [← halike.refId, henv]
    exact ⟨_, hrow', hown⟩
  · intro h e j row' he hj hkind hrow'
    obtain ⟨i, hi, halike⟩ := hintents h j hj
    rw [← halike.kind] at hkind ⊢
    rw [← halike.refId] at hrow'
    obtain ⟨row, hrow, -⟩ := hp.about h i hi hkind
    obtain ⟨st, hrow''⟩ := hkept _ row hrow
    rw [hrow'] at hrow''
    injection hrow'' with hrow''
    subst hrow''
    rw [henv] at he
    exact hp.made h e i row he hi hkind hrow

/-- A request is recorded. -/
theorem PledgeFiled.recorded (hp : PledgeFiled d start db₀ r line asset s)
    {id : Nat} {h : TxHash} {row now : Nat} {dr : Draft} {db : Db}
    (hdr : s.drafts.get id = some dr)
    (hdb : record s.db h dr row now = .ok db)
    (hs' : s' = { s with
      db := db
      drafts := s.drafts.remove id
      envelopes := s.envelopes.set h dr.envelope }) :
    (∀ h i, s'.db.txIntent.get h = some i → ofPledge i.kind = true →
      ∃ row, s'.db.pledge.get i.refId = some row
        ∧ (row.creditLineId = r → (s'.envelopes.get h).isSome))
    ∧ (∀ h e i row, s'.envelopes.get h = some e →
      s'.db.txIntent.get h = some i → ofPledge i.kind = true →
      s'.db.pledge.get i.refId = some row → UnitsOf r line e i.kind row) := by
  subst hs'
  have hdraft := hp.drafts id dr hdr
  have hwrite := record_pledge hdb
  have hkept := hwrite.kept
  obtain ⟨db₁, -, hnew, rfl⟩ := record_ok hdb
  have hpledge : ofPledge dr.kind = true →
      ∃ prow, db₁.pledge.get (dr.refId.getD row) = some prow
        ∧ UnitsOf r line dr.envelope dr.kind prow := by
    intro hkind
    simp only [ofPledge, decide_eq_true_eq] at hkind
    rcases hkind with hkind | hkind
    · obtain ⟨href, prow, hins, -, hunits⟩ := hdraft.create hkind
      refine ⟨prow, ?_, hunits⟩
      rw [href]
      cases hwrite with
      | insert hw _ hdb₁ =>
          rw [hins] at hw
          injection hw with hw
          subst hw
          exact (congrArg (·.get row) hdb₁).trans (Store.get_set_self _ _ _)
      | release hw => rw [hins] at hw; cases hw
      | other hw => exact absurd hins (hw prow)
    · obtain ⟨p, prow, href, -, hrow, hunits⟩ := hdraft.release hkind
      obtain ⟨st, hrow'⟩ := hkept p prow hrow
      rw [href]
      exact ⟨_, hrow', hunits⟩
  constructor
  · intro k i hi hkind
    rw [Store.get_set]
    have hi' : (s.db.txIntent.set h (dr.asIntent h row now)).get k
        = some i := hi
    rw [Store.get_set] at hi'
    split at hi'
    · next hk =>
      injection hi' with hi'
      subst hi'
      obtain ⟨prow, hrow, -⟩ := hpledge hkind
      exact ⟨prow, hrow, fun _ => by rw [if_pos hk]; rfl⟩
    · next hk =>
      obtain ⟨prow, hrow, hown⟩ := hp.about k i hi' hkind
      obtain ⟨st, hrow'⟩ := hkept _ prow hrow
      exact ⟨_, hrow', fun hof => by rw [if_neg hk]; exact hown hof⟩
  · intro k e i prow' he hi hkind hrow'
    have hi' : (s.db.txIntent.set h (dr.asIntent h row now)).get k
        = some i := hi
    have he' : (s.envelopes.set h dr.envelope).get k = some e := he
    rw [Store.get_set] at hi' he'
    split at hi'
    · next hk =>
      rw [if_pos hk] at he'
      injection hi' with hi'
      injection he' with he'
      subst hi'
      subst he'
      obtain ⟨prow, hrow, hunits⟩ := hpledge hkind
      have hsame : prow = prow' := Option.some.inj (hrow.symm.trans hrow')
      rw [← hsame]
      exact hunits
    · next hk =>
      rw [if_neg hk] at he'
      obtain ⟨prow, hrow, -⟩ := hp.about k i hi' hkind
      obtain ⟨st, hrow''⟩ := hkept _ prow hrow
      have hsame := Option.some.inj (hrow''.symm.trans hrow')
      subst hsame
      exact hp.made k e i prow he' hi' hkind hrow

/-- No step takes a pledge row away. -/
theorem pledges_kept (hdid : Did (network d start) s s' a) :
    PledgesKept s.db s'.db := by
  cases hdid with
  | outside _ hs' => subst hs'; exact .of_eq rfl
  | started _ hs' => subst hs'; exact .of_eq rfl
  | recorded _ hdb hs' => subst hs'; exact (record_pledge hdb).kept
  | lapsed hdb hs' =>
      subst hs'
      obtain ⟨quotes, rfl⟩ := lapseQuote_ok hdb
      exact .of_eq rfl
  | landed _ _ _ hs' => subst hs'; exact .of_eq rfl
  | moved _ _ hs' => subst hs'; exact .of_eq rfl
  | settled _ _ hrun _ hs' =>
      subst hs'
      obtain ⟨row, -, -, happ⟩ := runWithDb_some hrun
      have hbooked := applyOutcome_pledge happ
      exact bookPledge_kept hbooked
  | writtenOff _ _ hexp hs' =>
      subst hs'
      obtain ⟨row, -, -, happ⟩ := expire_outcome hexp
      have hbooked := applyOutcome_pledge (happ s.chain.contracts)
      exact bookPledge_kept hbooked
  | erred _ _ hs' => subst hs'; exact .of_eq rfl

theorem PledgeFiled.escrow_step
    (hp : PledgeFiled d start db₀ r line asset s)
    (hdid : Did (network d start) s s' a)
    (hthrough : PledgesThroughApi line asset a s) :
    Escrowing s'.chain line asset
      ∧ ∀ h x, s'.landed.get h = some x → Escrowing x.before line asset := by
  cases hdid with
  | outside happ hs' =>
      subst hs'
      exact ⟨(held_step hp.escrow hthrough.2 happ).2, hp.escrows⟩
  | landed he _ hlands hs' =>
      subst hs'
      obtain ⟨i, -, hgood⟩ := hp.filed.handed _ _ he
      refine ⟨hlands.escrowing hp.escrow (hgood.keeps asset), ?_⟩
      intro h x hx
      rw [Store.get_set] at hx
      split at hx
      · injection hx with hx
        subst hx
        rw [hlands.before]
        exact hp.escrow
      · exact hp.escrows h x hx
  | started _ hs' => subst hs'; exact ⟨hp.escrow, hp.escrows⟩
  | recorded _ _ hs' => subst hs'; exact ⟨hp.escrow, hp.escrows⟩
  | lapsed _ hs' => subst hs'; exact ⟨hp.escrow, hp.escrows⟩
  | moved _ _ hs' => subst hs'; exact ⟨hp.escrow, hp.escrows⟩
  | settled _ _ _ _ hs' => subst hs'; exact ⟨hp.escrow, hp.escrows⟩
  | writtenOff _ _ _ hs' => subst hs'; exact ⟨hp.escrow, hp.escrows⟩
  | erred _ _ hs' => subst hs'; exact ⟨hp.escrow, hp.escrows⟩

theorem PledgeFiled.drafts_step
    (hp : PledgeFiled d start db₀ r line asset s)
    (hdid : Did (network d start) s s' a) :
    ∀ id dr, s'.drafts.get id = some dr → PledgeDraft r line s'.db dr := by
  have hkept := pledges_kept hdid
  have hold : ∀ id dr, s.drafts.get id = some dr →
      PledgeDraft r line s'.db dr :=
    fun id dr hdr => (hp.drafts id dr hdr).kept hkept
  cases hdid with
  | started hd hs' =>
      subst hs'
      intro id dr hdr
      rw [Store.get_set] at hdr
      split at hdr
      · injection hdr with hdr
        subst hdr
        exact (route_drafted hd).pledgeDraft hp.rows.row hp.rows.only
      · exact hold id dr hdr
  | recorded _ _ hs' =>
      subst hs'
      intro id dr hdr
      rw [Store.get_remove] at hdr
      split at hdr
      · cases hdr
      · exact hold id dr hdr
  | outside _ hs' => subst hs'; exact hold
  | lapsed _ hs' => subst hs'; exact hold
  | landed _ _ _ hs' => subst hs'; exact hold
  | moved _ _ hs' => subst hs'; exact hold
  | settled _ _ _ _ hs' => subst hs'; exact hold
  | writtenOff _ _ _ hs' => subst hs'; exact hold
  | erred _ _ hs' => subst hs'; exact hold

/-- Every step keeps the line's pledge files in order. -/
theorem pledgeFiled_step (hp : PledgeFiled d start db₀ r line asset s)
    (hdid : Did (network d start) s s' a)
    (hthrough : PledgesThroughApi line asset a s) (hord : Orderly a s) :
    PledgeFiled d start db₀ r line asset s' := by
  obtain ⟨hesc, hescs⟩ := hp.escrow_step hdid hthrough
  obtain ⟨habout, hmade⟩ :
      (∀ h i, s'.db.txIntent.get h = some i → ofPledge i.kind = true →
        ∃ row, s'.db.pledge.get i.refId = some row
          ∧ (row.creditLineId = r → (s'.envelopes.get h).isSome))
      ∧ (∀ h e i row, s'.envelopes.get h = some e →
        s'.db.txIntent.get h = some i → ofPledge i.kind = true →
        s'.db.pledge.get i.refId = some row →
        UnitsOf r line e i.kind row) := by
    by_cases hrecords : ∃ id h row now, a = .commitDraft id h row now
    · obtain ⟨id, h, row, now, rfl⟩ := hrecords
      cases hdid with
      | recorded hdr hdb hs' => exact hp.recorded hdr hdb hs'
      | moved _ hm hs' =>
          subst hs'
          exact hp.carry (.of_eq rfl) (fun h j hj => ⟨j, hj, Alike.rfl⟩) rfl
    · obtain ⟨hintents, henv⟩ := intents_kept hp.filed hdid
        fun id h row now ha => hrecords ⟨id, h, row, now, ha⟩
      exact hp.carry (pledges_kept hdid) hintents henv
  refine ⟨?_, ?_, hesc, hescs, hp.drafts_step hdid, habout, hmade⟩
  · refine filed_step hp.filed hdid ?_
    intro id h row now dr _ hdr
    exact (hp.drafts id dr hdr).good _
  · exact lineRows_step hp.rows hp.filed
      (fun _ _ _ _ hgood => hgood.opened) hdid hord

-- ============================================================== the pins

/-- Each row of the line has the status the one intent that pins it says;
a row waiting for its release has one. -/
structure Pinned (r : RowId) (s : System Chain) : Prop where
  pinned : ∀ h i row st, s.db.txIntent.get h = some i → i.pins = some st →
    s.db.pledge.get i.refId = some row → row.creditLineId = r →
    row.status = st
  single : ∀ h h' i i' row, s.db.txIntent.get h = some i →
    s.db.txIntent.get h' = some i' → i.pins.isSome → i'.pins.isSome →
    i'.refId = i.refId → s.db.pledge.get i.refId = some row →
    row.creditLineId = r → h' = h
  awaits : ∀ p row, s.db.pledge.get p = some row → row.creditLineId = r →
    row.status = .pendingRelease →
    ∃ h i, s.db.txIntent.get h = some i ∧ i.kind = .pledgeRelease
      ∧ i.refId = p ∧ i.status = .pending

theorem ofPledge_of_pins {i : TxIntent} (h : i.pins.isSome) :
    ofPledge i.kind = true := by
  unfold TxIntent.pins at h
  split at h
  · next hkind _ => simp [ofPledge, hkind]
  · next hkind _ => simp [ofPledge, hkind]
  · next hkind _ => simp [ofPledge, hkind]
  · cases h

/-- A pending intent about a row pins it. -/
theorem pins_of_pending {i : TxIntent} (hkind : ofPledge i.kind = true)
    (hpending : i.status = .pending) : i.pins.isSome := by
  simp only [ofPledge, decide_eq_true_eq] at hkind
  rcases hkind with hkind | hkind <;> simp [TxIntent.pins, hkind, hpending]

/-- What settles a pledge or a release, and only that, writes a row. -/
theorem bookedStatus_isSome {kind : IntentKind} (outcome : Outcome) :
    (bookedStatus kind outcome).isSome ↔ ofPledge kind = true := by
  cases kind <;> cases outcome <;> simp [bookedStatus, ofPledge]

/-- No row is pinned as active. -/
theorem pins_ne_active {i : TxIntent} : i.pins ≠ some .active := by
  unfold TxIntent.pins
  split <;> simp

theorem Pinned.congr (hp : Pinned r s)
    (hintent : s'.db.txIntent = s.db.txIntent)
    (hpledge : s'.db.pledge = s.db.pledge) : Pinned r s' := by
  constructor
  · rw [hintent, hpledge]; exact hp.pinned
  · rw [hintent, hpledge]; exact hp.single
  · rw [hintent, hpledge]; exact hp.awaits

/-- An error is recorded on a pending intent. -/
theorem Pinned.erred (hp : Pinned r s) {k : TxHash} {i j : TxIntent}
    (hi : s.db.txIntent.get k = some i) (href : j.refId = i.refId)
    (hkind : j.kind = i.kind) (hstatus : j.status = i.status)
    (hdb : s'.db.txIntent = s.db.txIntent.set k j)
    (hpledge : s'.db.pledge = s.db.pledge) : Pinned r s' := by
  have hpins : j.pins = i.pins := by
    rw [TxIntent.pins, hkind, hstatus]
    rfl
  have hback : ∀ h j', s'.db.txIntent.get h = some j' →
      ∃ i', s.db.txIntent.get h = some i' ∧ i'.refId = j'.refId
        ∧ i'.pins = j'.pins := by
    intro h j' hj'
    rw [hdb, Store.get_set] at hj'
    split at hj'
    · next hk =>
      injection hj' with hj'
      subst hj'
      exact ⟨i, by rw [hk, hi], href.symm, hpins.symm⟩
    · exact ⟨j', hj', rfl, rfl⟩
  constructor
  · intro h j' row st hj' hst hrow hof
    obtain ⟨i', hi', href', hpins'⟩ := hback h j' hj'
    rw [hpledge, ← href'] at hrow
    exact hp.pinned h i' row st hi' (hpins'.trans hst) hrow hof
  · intro h h' j₁ j₂ row hj₁ hj₂ hp₁ hp₂ href' hrow hof
    obtain ⟨i₁, hi₁, href₁, hpins₁⟩ := hback h j₁ hj₁
    obtain ⟨i₂, hi₂, href₂, hpins₂⟩ := hback h' j₂ hj₂
    rw [hpledge, ← href₁] at hrow
    rw [← hpins₁] at hp₁
    rw [← hpins₂] at hp₂
    exact hp.single h h' i₁ i₂ row hi₁ hi₂ hp₁ hp₂
      (href₂.trans (href'.trans href₁.symm)) hrow hof
  · intro p row hrow hof hst
    rw [hpledge] at hrow
    obtain ⟨h, i', hi', hkind', href', hpending⟩ := hp.awaits p row hrow hof hst
    by_cases hk : h = k
    · subst hk
      rw [hi] at hi'
      injection hi' with hi'
      subst hi'
      refine ⟨h, j, ?_, hkind.trans hkind', href.trans href',
        hstatus.trans hpending⟩
      rw [hdb, Store.get_set_self]
    · exact ⟨h, i', by rw [hdb, Store.get_set_ne _ _ hk, hi'], hkind', href',
        hpending⟩

/-- A pending intent is settled or written off. -/
theorem Pinned.claimed (hp : Pinned r s) {k : TxHash}
    {i j intent : TxIntent} {outcome : Outcome}
    (hi : s.db.txIntent.get k = some i) (hpending : i.status = .pending)
    (halike : Alike i intent) (halike' : Alike i j)
    (hdone : j.status ≠ .pending)
    (hsettled : j.status = .settled → ∃ ledger v,
      outcome = .success ledger v)
    (hdb : s'.db.txIntent = s.db.txIntent.set k j)
    (hpledge : s'.db.pledge = bookPledge s.db.pledge intent outcome) :
    Pinned r s' := by
  -- what is written to a row the intent pins, and to any other
  have hrows : ∀ p row', s'.db.pledge.get p = some row' →
      ∃ row, s.db.pledge.get p = some row
        ∧ row'.creditLineId = row.creditLineId
        ∧ (ofPledge i.kind = true ∧ i.refId = p
            ∧ bookedStatus i.kind outcome = some row'.status
          ∨ ¬ (ofPledge i.kind = true ∧ i.refId = p) ∧ row' = row) := by
    intro p row' hrow'
    have hkind : intent.kind = i.kind := halike.kind.symm
    have href : intent.refId = i.refId := halike.refId.symm
    rw [hpledge, bookPledge, hkind, href] at hrow'
    cases hst : bookedStatus i.kind outcome with
    | none =>
        rw [hst] at hrow'
        refine ⟨row', hrow', rfl, .inr ⟨?_, rfl⟩⟩
        rintro ⟨hof, -⟩
        have hsome := (bookedStatus_isSome outcome).mpr hof
        rw [hst] at hsome
        cases hsome
    | some st =>
        have hof : ofPledge i.kind = true :=
          (bookedStatus_isSome outcome).mp (by rw [hst]; rfl)
        rw [hst] at hrow'
        simp only [Store.get_adjust] at hrow'
        split at hrow'
        · next hp' =>
          subst hp'
          rw [Option.map_eq_some_iff] at hrow'
          obtain ⟨row, hrow, rfl⟩ := hrow'
          exact ⟨row, hrow, rfl, .inl ⟨hof, rfl, rfl⟩⟩
        · next hp' =>
          exact ⟨row', hrow', rfl, .inr ⟨fun h => hp' h.2.symm, rfl⟩⟩
  have hpinned : ofPledge i.kind = true → i.pins.isSome :=
    fun hof => pins_of_pending hof hpending
  -- whatever pins now pinned before: claiming an intent pins nothing new
  have hback : ∀ h j', s'.db.txIntent.get h = some j' → j'.pins.isSome →
      ∃ i', s.db.txIntent.get h = some i' ∧ i'.refId = j'.refId
        ∧ i'.pins.isSome := by
    intro h j' hj' hsome
    rw [hdb, Store.get_set] at hj'
    split at hj'
    · next hk =>
      injection hj' with hj'
      subst hj'
      have hof := ofPledge_of_pins hsome
      rw [← halike'.kind] at hof
      exact ⟨i, by rw [hk, hi], halike'.refId, hpinned hof⟩
    · exact ⟨j', hj', rfl, hsome⟩
  constructor
  case pinned =>
    intro h j' row' st hj' hst hrow' hof
    obtain ⟨row, hrow, hline, hcase⟩ := hrows _ row' hrow'
    rw [hline] at hof
    obtain ⟨i', hi', href', hsome'⟩ := hback h j' hj' (by rw [hst]; rfl)
    rcases hcase with ⟨hofi, href, hbooked⟩ | ⟨hnot, rfl⟩
    · -- the row is the claimed intent's: no other intent pins it
      have hk : h = k :=
        hp.single k h i i' row hi hi' (hpinned hofi) hsome'
          (href'.trans href.symm) (by rw [href]; exact hrow) hof
      rw [hdb, hk, Store.get_set_self] at hj'
      injection hj' with hj'
      subst hj'
      unfold TxIntent.pins at hst
      split at hst
      · next hs => exact absurd hs hdone
      · next hs => exact absurd hs hdone
      · next hkind hs =>
        obtain ⟨ledger, v, rfl⟩ := hsettled hs
        rw [halike'.kind, hkind] at hbooked
        injection hbooked with hbooked
        injection hst with hst
        rw [← hbooked, hst]
      · cases hst
    · by_cases hk : h = k
      · subst hk
        rw [hdb, Store.get_set_self] at hj'
        injection hj' with hj'
        subst hj'
        have hofj : ofPledge j.kind = true :=
          ofPledge_of_pins (by rw [hst]; rfl)
        rw [← halike'.kind] at hofj
        exact absurd ⟨hofj, halike'.refId⟩ hnot
      · rw [hdb, Store.get_set_ne _ _ hk] at hj'
        exact hp.pinned h j' row' st hj' hst hrow hof
  case single =>
    intro h h' j₁ j₂ row' hj₁ hj₂ hp₁ hp₂ href' hrow' hof
    obtain ⟨row, hrow, hline, -⟩ := hrows _ row' hrow'
    rw [hline] at hof
    obtain ⟨i₁, hi₁, href₁, hsome₁⟩ := hback h j₁ hj₁ hp₁
    obtain ⟨i₂, hi₂, href₂, hsome₂⟩ := hback h' j₂ hj₂ hp₂
    rw [← href₁] at hrow
    exact hp.single h h' i₁ i₂ row hi₁ hi₂ hsome₁ hsome₂
      (href₂.trans (href'.trans href₁.symm)) hrow hof
  -- a release is booked as done or as undone, so a row still waiting is not
  -- the one that was written
  case awaits =>
    intro p row' hrow' hof hst
    obtain ⟨row, hrow, hline, hcase⟩ := hrows p row' hrow'
    rw [hline] at hof
    rcases hcase with ⟨-, -, hbooked⟩ | ⟨hnot, rfl⟩
    · rw [hst] at hbooked
      unfold bookedStatus at hbooked
      split at hbooked <;> cases hbooked
    · obtain ⟨h, i', hi', hkind', href', hpending'⟩ :=
        hp.awaits p row' hrow hof hst
      have hk : h ≠ k := by
        rintro rfl
        rw [hi] at hi'
        injection hi' with hi'
        subst hi'
        exact hnot ⟨by simp [ofPledge, hkind'], href'⟩
      exact ⟨h, i', by rw [hdb, Store.get_set_ne _ _ hk, hi'], hkind', href',
        hpending'⟩

/-- Whatever a request about to be recorded will pin, nothing else does:
the row is new, or active and so pinned by nothing. -/
theorem Pinned.free (hp : Pinned r s)
    (hfiled : PledgeFiled d start db₀ r line asset s) {id : Nat}
    {h : TxHash} {row now : Nat} {dr : Draft} {db : Db}
    (hdr : s.drafts.get id = some dr)
    (hwrite : PledgeWrite s.db db row dr.write)
    (hactive : ReleasesActive r (.commitDraft id h row now) s)
    {k : TxHash} {i : TxIntent} {prow : PledgeRow}
    (hi : s.db.txIntent.get k = some i) (hsome : i.pins.isSome)
    (hnew : (dr.asIntent h row now).pins.isSome)
    (href : i.refId = dr.refId.getD row)
    (hprow : db.pledge.get i.refId = some prow) :
    prow.creditLineId ≠ r := by
  intro hof
  have hdraft := hfiled.drafts id dr hdr
  have hkind : ofPledge dr.kind = true := ofPledge_of_pins hnew
  obtain ⟨old, hold, -⟩ := hfiled.about k i hi (ofPledge_of_pins hsome)
  simp only [ofPledge, decide_eq_true_eq] at hkind
  rcases hkind with hkind | hkind
  · obtain ⟨hnone, prow', hins, -⟩ := hdraft.create hkind
    rw [href, hnone] at hold
    cases hwrite with
    | insert _ hget => rw [Option.getD_none, hget] at hold; cases hold
    | release hw => rw [hins] at hw; cases hw
    | other hw => exact hw prow' hins
  · obtain ⟨p, prow', href', hrel, -⟩ := hdraft.release hkind
    rw [href, href'] at hold hprow
    obtain ⟨st, hprow'⟩ := hwrite.kept p old hold
    have hsame := Option.some.inj (hprow'.symm.trans hprow)
    subst hsame
    have hst : old.status = .active :=
      hactive dr hdr p (by rw [hrel]; rfl) old hold hof
    rw [Option.isSome_iff_exists] at hsome
    obtain ⟨st', hpins⟩ := hsome
    have hpinned := hp.pinned k i old st' hi hpins
      (by rw [href, href']; exact hold) hof
    rw [hst] at hpinned
    rw [← hpinned] at hpins
    exact pins_ne_active hpins

/-- A row after a request was recorded is as it was, or the one the new
intent pins, with the status it pins. -/
theorem PledgeWrite.rows {db db' : Db} {row : RowId} {dr : Draft}
    (hwrite : PledgeWrite db db' row dr.write)
    (hdraft : PledgeDraft r line db dr) (h : TxHash) (now : Nat)
    {p : RowId} {prow : PledgeRow} (hprow : db'.pledge.get p = some prow) :
    db.pledge.get p = some prow
        ∧ ¬ (p = dr.refId.getD row ∧ (dr.asIntent h row now).pins.isSome)
      ∨ p = dr.refId.getD row
        ∧ (dr.asIntent h row now).pins = some prow.status := by
  cases hwrite with
  | @insert prow' hw hnone hset =>
      obtain ⟨hkind, href, hst, -⟩ := hdraft.of_insert hw
      rw [hset, Store.get_set] at hprow
      split at hprow
      · next hid =>
        injection hprow with hprow
        subst hprow
        refine .inr ⟨by rw [href]; exact hid, ?_⟩
        simp [TxIntent.pins, Draft.asIntent, hkind, hst]
      · next hid =>
        refine .inl ⟨hprow, fun hc => hid ?_⟩
        rw [hc.1, href]
        rfl
  | @release q hw hadjust =>
      obtain ⟨hkind, href, -⟩ := hdraft.of_release hw
      rw [hadjust, Store.get_adjust] at hprow
      split at hprow
      · next hp' =>
        rw [Option.map_eq_some_iff] at hprow
        obtain ⟨old, -, rfl⟩ := hprow
        refine .inr ⟨by rw [href]; exact hp', ?_⟩
        simp [TxIntent.pins, Draft.asIntent, hkind]
      · next hp' =>
        refine .inl ⟨hprow, fun hc => hp' ?_⟩
        rw [hc.1, href]
        rfl
  | other hins hrel hsame =>
      rw [hsame] at hprow
      refine .inl ⟨hprow, fun hc => ?_⟩
      have hkind : ofPledge dr.kind = true := ofPledge_of_pins hc.2
      simp only [ofPledge, decide_eq_true_eq] at hkind
      rcases hkind with hkind | hkind
      · obtain ⟨-, prow', hw, -⟩ := hdraft.create hkind
        exact hins prow' hw
      · obtain ⟨q, _, -, hw, -⟩ := hdraft.release hkind
        rw [hw] at hrel
        cases hrel

/-- A request is recorded. -/
theorem Pinned.recorded (hp : Pinned r s)
    (hfiled : PledgeFiled d start db₀ r line asset s) {id : Nat}
    {h : TxHash} {row now : Nat} {dr : Draft}
    (hdr : s.drafts.get id = some dr)
    (hdb : record s.db h dr row now = .ok s'.db)
    (hactive : ReleasesActive r (.commitDraft id h row now) s) :
    Pinned r s' := by
  have hdraft := hfiled.drafts id dr hdr
  have hwrite := record_pledge hdb
  obtain ⟨hnew, htx⟩ : s.db.txIntent.get h = none
      ∧ s'.db.txIntent = s.db.txIntent.set h (dr.asIntent h row now) := by
    obtain ⟨db₁, -, hnew, hdb'⟩ := record_ok hdb
    exact ⟨hnew, by rw [hdb']⟩
  -- an intent is the new one or an old one
  have hget : ∀ k i, s'.db.txIntent.get k = some i →
      k = h ∧ i = dr.asIntent h row now
        ∨ k ≠ h ∧ s.db.txIntent.get k = some i := by
    intro k i hi
    rw [htx, Store.get_set] at hi
    split at hi
    · next hk =>
      injection hi with hi
      exact .inl ⟨hk, hi.symm⟩
    · next hk => exact .inr ⟨hk, hi⟩
  constructor
  case pinned =>
    intro k i prow st hi hst hprow hof
    rcases hget k i hi with ⟨-, rfl⟩ | ⟨-, hi'⟩
    · rcases hwrite.rows hdraft h now hprow with ⟨-, hnot⟩ | ⟨-, hpins⟩
      · exact absurd ⟨rfl, by rw [hst]; rfl⟩ hnot
      · rw [hst] at hpins
        injection hpins with hpins
        exact hpins.symm
    · rcases hwrite.rows hdraft h now hprow with ⟨hold, -⟩ | ⟨href, hpins⟩
      · exact hp.pinned k i prow st hi' hst hold hof
      · exact absurd hof (hp.free hfiled hdr hwrite hactive hi'
          (by rw [hst]; rfl) (by rw [hpins]; rfl) href hprow)
  case single =>
    intro k k' i i' prow hi hi' hsome hsome' href hprow hof
    rcases hget k i hi with ⟨rfl, rfl⟩ | ⟨hk, hold⟩
    · rcases hget k' i' hi' with ⟨rfl, -⟩ | ⟨-, hold'⟩
      · rfl
      -- the new intent shares its row with no intent that pins it
      · exact absurd hof (hp.free hfiled hdr hwrite hactive hold' hsome'
          hsome href (by rw [href]; exact hprow))
    · rcases hget k' i' hi' with ⟨rfl, rfl⟩ | ⟨-, hold'⟩
      · exact absurd hof (hp.free hfiled hdr hwrite hactive hold hsome hsome'
          href.symm hprow)
      · obtain ⟨old, hget', -⟩ :=
          hfiled.about k i hold (ofPledge_of_pins hsome)
        obtain ⟨st, hkept⟩ := hwrite.kept _ old hget'
        have hsame := Option.some.inj (hkept.symm.trans hprow)
        subst hsame
        exact hp.single k k' i i' old hold hold' hsome hsome' href hget' hof
  case awaits =>
    intro p prow hprow hof hst
    rcases hwrite.rows hdraft h now hprow with ⟨hold, -⟩ | ⟨rfl, hpins⟩
    · obtain ⟨k, i, hi, hkind, href, hpending⟩ :=
        hp.awaits p prow hold hof hst
      refine ⟨k, i, ?_, hkind, href, hpending⟩
      rw [htx, Store.get_set_ne, hi]
      rintro rfl
      rw [hnew] at hi
      cases hi
    -- the row waits for the release that was just recorded
    · refine ⟨h, dr.asIntent h row now, ?_, ?_, rfl, rfl⟩
      · rw [htx, Store.get_set_self]
      · rw [hst] at hpins
        unfold TxIntent.pins at hpins
        split at hpins
        · cases hpins
        · next hkind _ => exact hkind
        · cases hpins
        · cases hpins

theorem pinned_step (hp : Pinned r s)
    (hfiled : PledgeFiled d start db₀ r line asset s)
    (hdid : Did (network d start) s s' a) (hord : Orderly a s)
    (hactive : ReleasesActive r a s) : Pinned r s' := by
  cases hdid with
  | outside _ hs' => subst hs'; exact hp.congr rfl rfl
  | started _ hs' => subst hs'; exact hp.congr rfl rfl
  | recorded hdr hdb hs' =>
      subst hs'
      exact hp.recorded hfiled hdr hdb hactive
  | lapsed hdb hs' =>
      subst hs'
      obtain ⟨quotes, rfl⟩ := lapseQuote_ok hdb
      exact hp.congr rfl rfl
  | landed _ _ _ hs' => subst hs'; exact hp.congr rfl rfl
  | moved _ _ hs' => subst hs'; exact hp.congr rfl rfl
  | @settled w now delivery k outcome read db p hk hphase hrun _ hs' =>
      subst hs'
      obtain ⟨i, hi, hpending, happ⟩ := runWithDb_some hrun
      obtain ⟨i', hi', halike⟩ := hfiled.filed.workers w k hk
      rw [hi] at hi'
      injection hi' with hi'
      subst hi'
      have hbooked := applyOutcome_pledge happ
      refine hp.claimed hi hpending halike (j := settledRow i outcome now)
        ⟨rfl, rfl, rfl, rfl⟩ outcome.next_ne_pending ?_
        (applyOutcome_txIntent happ) hbooked
      intro hst
      cases outcome with
      | success ledger v => exact ⟨ledger, v, rfl⟩
      | failed ledger => cases hst
  | @writtenOff w now delivery k db hk habsent hexp hs' =>
      subst hs'
      obtain ⟨i, hi, hpending, happ⟩ := expire_outcome hexp
      have happ' := happ s.chain.contracts
      obtain ⟨i', hi', halike⟩ := hfiled.filed.workers w k hk
      rw [hi] at hi'
      injection hi' with hi'
      subst hi'
      have hbooked := applyOutcome_pledge happ'
      exact hp.claimed hi hpending halike
        (j := { i with status := .expired, settledAt := some now })
        ⟨rfl, rfl, rfl, rfl⟩ (by simp) (by simp)
        (applyOutcome_txIntent happ') hbooked
  | @erred w k err hk hphase hs' =>
      subst hs'
      obtain ⟨i, hi, -⟩ := hfiled.filed.workers w k hk
      refine hp.erred hi (j := { i with status := .pending, error := some err })
        rfl rfl (hord k hk i hi).symm ?_ rfl
      simp [moveTo, recordSettleError, Store.adjust_some _ hi]

end Ballast.Api
