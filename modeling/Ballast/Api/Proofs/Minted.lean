/-
Which row a contract id belongs to.

A contract mints its ids, each once, and a row learns its id when the
transaction that minted it is settled, from what that transaction
returned. So of the rows on file only one names a given id, and the name
is never rewritten (`Named`): a transaction the API builds from that row
is about that id, and nothing it builds from another row is.

The argument is the same for credit lines and for repo trades; it is made
once, for a column of ids (`IdColumn`) and what it relies on (`Minting`).
-/
import Ballast.Api.Chain
import Ballast.Api.Proofs.Routes
import Ballast.Api.Proofs.Unbooked

namespace Ballast.Api

open Soroban Machine

-- ============================================================== the column

/-- A column of contract ids: the intents whose settlement writes it, the
invocations behind them, and the contract's counter. `wellFormed` is
what the contract's storage satisfies, `fits` what a request in flight
does. -/
structure IdColumn where
  read : Db → RowId → Option Nat
  opener : IntentKind
  mints : Envelope → Prop
  next : Chain → Nat
  wellFormed : Chain → Prop
  fits : Draft → Prop

/-- What a column of contract ids relies on: only the settlement of an
opener writes it, to its own row, the row of an opener is a new one, and
the contract's counter only goes up. -/
structure Minting (d : Deployed) (start : Chain) (C : IdColumn) :
    Prop where
  congr : ∀ {db db' : Db}, db'.creditLine = db.creditLine →
    db'.repoTrade = db.repoTrade → ∀ r, C.read db' r = C.read db r
  booked : ∀ {db db' : Db} {contracts : Contracts} {intent : TxIntent}
    {outcome : Outcome} {read : ContractState} {now : Nat},
    applyOutcome db contracts intent outcome read now = .ok db' →
    ∀ r, C.read db' r = C.read db r
      ∨ intent.kind = C.opener ∧ intent.refId = r
        ∧ ∃ ledger v, outcome = .success ledger v
          ∧ C.read db' r = some v.toNat
  drafted : ∀ {db : Db} {dr : Draft}, Drafted db dr → C.fits dr
  recorded : ∀ {db db' : Db} {h : TxHash} {dr : Draft} {row : RowId}
    {now : Nat}, C.fits dr → record db h dr row now = .ok db' →
    (∀ r, C.read db' r = C.read db r)
      ∧ (dr.kind = C.opener → dr.refId = none ∧ C.read db row = none)
  grows : ∀ {c c' : Chain} {tx : ChainTx}, C.wellFormed c →
    (chainMachine d start).apply tx c = .ok c' →
    C.wellFormed c' ∧ C.next c ≤ C.next c'
  returns : ∀ {env : Env} {e : Envelope} {c : Chain} {x : Landing Chain}
    {ledger : Nat} {v : Int}, C.mints e →
    Lands (network d start) env e c x → x.outcome = .success ledger v →
    v = C.next c

/-- Row `r`, and no other, is about the contract's `id`. -/
structure Named (C : IdColumn) (r : RowId) (id : Nat) (s : System Chain) :
    Prop where
  row : C.read s.db r = some id
  only : ∀ r', C.read s.db r' = some id → r' = r
  opens : ∀ h i, s.db.txIntent.get h = some i → i.kind = C.opener →
    i.refId = r → i.status ≠ .pending
  drafts : ∀ k dr, s.drafts.get k = some dr → C.fits dr
  wellFormed : C.wellFormed s.chain
  minted : id < C.next s.chain
  before : ∀ h x, s.landed.get h = some x → id < C.next x.before

-- =============================================================== a step

section

variable {d : Deployed} {start : Chain} {C : IdColumn} {db₀ : Db}
  {Good : Envelope → IntentKind → RowId → Option Int → Prop}
  {r : RowId} {id : Nat} {s s' : System Chain} {a : Act ChainTx}

/-- The rows after an outcome was booked on a pending intent. -/
theorem Named.booked (hC : Minting d start C) (hn : Named C r id s)
    (hgood : ∀ e kind refId amount, Good e kind refId amount →
      kind = C.opener → C.mints e)
    {k row : TxIntent} {contracts : Contracts} {outcome : Outcome}
    {read : ContractState} {now : Nat} {db₁ db' : Db}
    (halike : Alike row k) (hpending : row.status = .pending)
    (hrow : s.db.txIntent.get k.txHash = some row)
    (happ : applyOutcome db₁ contracts k outcome read now = .ok db')
    (hbase : ∀ r', C.read db₁ r' = C.read s.db r')
    (hout : ∀ ledger v, outcome = .success ledger v →
      ∃ x e env, s.landed.get k.txHash = some x ∧ x.outcome = outcome
        ∧ s.envelopes.get k.txHash = some e
        ∧ Lands (network d start) env e x.before x
        ∧ Good e k.kind k.refId k.amount) :
    C.read db' r = some id ∧ ∀ r', C.read db' r' = some id → r' = r := by
  constructor
  · rcases hC.booked happ r with hkeep | ⟨hkind, href, -⟩
    · rw [hkeep, hbase, hn.row]
    · exact absurd hpending (hn.opens _ row hrow
        (halike.kind.trans hkind) (halike.refId.trans href))
  · intro r' hr'
    rcases hC.booked happ r' with
      hkeep | ⟨hkind, href, ledger, v, hout', hid⟩
    · rw [hkeep, hbase] at hr'
      exact hn.only r' hr'
    · -- the id is one the contract minted later
      obtain ⟨x, e, env, hx, hxo, -, hlands, hg⟩ := hout ledger v hout'
      have hv := hC.returns (hgood _ _ _ _ hg hkind) hlands
        (hxo.trans hout')
      have hlt := hn.before _ x hx
      rw [hid] at hr'
      injection hr' with hr'
      omega

theorem named_step (hC : Minting d start C) (hn : Named C r id s)
    (hf : Filed (network d start) db₀ Good s)
    (hgood : ∀ e kind refId amount, Good e kind refId amount →
      kind = C.opener → C.mints e)
    (hdid : Did (network d start) s s' a) (hord : Orderly a s) :
    Named C r id s' := by
  have hopens : ∀ (k : TxHash) (row : TxIntent),
      (row.kind = C.opener → row.refId = r → row.status ≠ .pending) →
      ∀ h i, (s.db.txIntent.set k row).get h = some i →
        i.kind = C.opener → i.refId = r → i.status ≠ .pending := by
    intro k row hrow h i hi
    rw [Store.get_set] at hi
    split at hi
    · injection hi with hi
      subst hi
      exact hrow
    · exact hn.opens h i hi
  cases hdid with
  | outside happ hs' =>
      subst hs'
      obtain ⟨hwf, hnext⟩ := hC.grows hn.wellFormed happ
      exact ⟨hn.row, hn.only, hn.opens, hn.drafts, hwf,
        hn.minted.trans_le hnext, hn.before⟩
  | started hd hs' =>
      subst hs'
      refine ⟨hn.row, hn.only, hn.opens, ?_, hn.wellFormed, hn.minted,
        hn.before⟩
      intro k dr hdr
      rw [Store.get_set] at hdr
      split at hdr
      · injection hdr with hdr
        subst hdr
        exact hC.drafted (route_drafted hd)
      · exact hn.drafts k dr hdr
  | @recorded k h row now dr db₁ hdr hdb hs' =>
      subst hs'
      obtain ⟨hkeep, hnew⟩ := hC.recorded (hn.drafts k dr hdr) hdb
      refine ⟨(hkeep r).trans hn.row, ?_, ?_, ?_, hn.wellFormed, hn.minted,
        hn.before⟩
      · intro r' hr'
        exact hn.only r' ((hkeep r').symm.trans hr')
      · have hrow := hn.row
        obtain ⟨db₂, -, -, rfl⟩ := record_ok hdb
        refine hopens h (dr.asIntent h row now) ?_
        -- the row of an opener is not one that was there
        intro hkind href
        obtain ⟨hnone, hblank⟩ := hnew hkind
        have href' : row = r := by
          simpa [Draft.asIntent, hnone] using href
        rw [← href', hblank] at hrow
        cases hrow
      · intro k' dr' hdr'
        rw [Store.get_remove] at hdr'
        split at hdr'
        · cases hdr'
        · exact hn.drafts k' dr' hdr'
  | @lapsed quote now db hdb hs' =>
      subst hs'
      obtain ⟨quotes, rfl⟩ := lapseQuote_ok hdb
      have hsame : ∀ r, C.read { s.db with exitQuote := quotes } r
          = C.read s.db r := hC.congr rfl rfl
      refine ⟨(hsame r).trans hn.row, ?_, hn.opens, hn.drafts,
        hn.wellFormed, hn.minted, hn.before⟩
      intro r' hr'
      exact hn.only r' ((hsame r').symm.trans hr')
  | @landed h env e x he hnew hlands hs' =>
      subst hs'
      have hafter : C.wellFormed x.after
          ∧ C.next s.chain ≤ C.next x.after := by
        cases hlands with
        | success happ => exact hC.grows hn.wellFormed happ
        | failed => exact ⟨hn.wellFormed, le_rfl⟩
      refine ⟨hn.row, hn.only, hn.opens, hn.drafts, hafter.1,
        hn.minted.trans_le hafter.2, ?_⟩
      intro k y hy
      rw [Store.get_set] at hy
      split at hy
      · injection hy with hy
        subst hy
        rw [hlands.before]
        exact hn.minted
      · exact hn.before k y hy
  | moved _ _ hs' =>
      subst hs'
      exact ⟨hn.row, hn.only, hn.opens, hn.drafts, hn.wellFormed, hn.minted,
        hn.before⟩
  | @settled w now delivery k outcome read db' p hk hphase hrun hp hs' =>
      subst hs'
      obtain ⟨row, hrow, hpending, happ⟩ := runWithDb_some hrun
      obtain ⟨i, hi, halike⟩ := hf.workers w k hk
      rw [hrow] at hi
      injection hi with hi
      subst hi
      obtain ⟨hrow', honly⟩ := hn.booked hC hgood halike hpending hrow happ
        (hC.congr rfl rfl) fun ledger v hout => by
          obtain ⟨x, e, env, hx, hxo, he, hlands, hg⟩ :=
            hf.told_of hk (by rw [hphase]; rfl)
          exact ⟨x, e, env, hx, hxo, he, hlands, hg⟩
      refine ⟨hrow', honly, ?_, hn.drafts, hn.wellFormed, hn.minted,
        hn.before⟩
      show ∀ h i, db'.txIntent.get h = some i → _
      rw [applyOutcome_txIntent happ]
      exact hopens _ _ fun _ _ => outcome.next_ne_pending
  | @writtenOff w now delivery k db' hk habsent hexp hs' =>
      subst hs'
      obtain ⟨row, hrow, hpending, happ⟩ := expire_outcome hexp
      have happ' := happ s.chain.contracts
      obtain ⟨i, hi, halike⟩ := hf.workers w k hk
      rw [hrow] at hi
      injection hi with hi
      subst hi
      obtain ⟨hrow', honly⟩ := hn.booked hC hgood halike hpending hrow happ'
        (hC.congr rfl rfl) (by simp)
      refine ⟨hrow', honly, ?_, hn.drafts, hn.wellFormed, hn.minted,
        hn.before⟩
      show ∀ h i, db'.txIntent.get h = some i → _
      rw [applyOutcome_txIntent happ']
      exact hopens _ _ (by simp)
  | @erred w k err hk hphase hs' =>
      subst hs'
      obtain ⟨row, hrow, -⟩ := hf.workers w k hk
      have hsame : ∀ r, C.read (recordSettleError s.db k.intent err) r
          = C.read s.db r := hC.congr rfl rfl
      refine ⟨(hsame r).trans hn.row, ?_, ?_, hn.drafts, hn.wellFormed,
        hn.minted, hn.before⟩
      · intro r' hr'
        exact hn.only r' ((hsame r').symm.trans hr')
      show ∀ h i, (s.db.txIntent.adjust _ _).get h = some i → _
      rw [Store.adjust_some _ hrow]
      refine hopens _ _ fun hkind href => ?_
      exact absurd (hord k hk row hrow) (hn.opens _ row hrow hkind href)

end

end Ballast.Api
