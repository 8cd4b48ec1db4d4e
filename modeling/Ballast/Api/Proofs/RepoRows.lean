/-
A row of the trade table, and the trade it is about.

A row copies what its transactions did to its trade: the status when an
accept or an unwind is settled, the units when a top-up is, from a read
of the contract made before the settling transaction. The copy is of the
row's own trade only if the envelope was about it: an accept or unwind
request may name any trade, and is then about that one (`NamesOwn`). And
a read may be older than one already copied, so a top-up settled late
takes the units back (`BooksForward`).

While requests name their own trade, a step is one of four things for the
row and what took effect on the chain (`RepoMove`).
-/
import Ballast.Api.Proofs.Trades

namespace Ballast.Api

open Soroban Machine

-- ============================================================== the trade

/-- The status of trade `id`. -/
def statusOn (c : Chain) (id : Nat) : Option RepoDvp.RepoStatus :=
  RepoDvp.statusOf c.repo id

/-- The units of trade `id`. -/
def unitsOn (c : Chain) (id : Nat) : Int :=
  (c.repo.trades.get id).elim 0 (·.units)

/-- Trade `id` has been settled: it is, or it was and has ended since. -/
def HasSettled (c : Chain) (id : Nat) : Prop :=
  statusOn c id = some .settled ∨ statusOn c id = some .unwound
    ∨ statusOn c id = some .defaulted

instance (c : Chain) (id : Nat) : Decidable (HasSettled c id) :=
  inferInstanceAs (Decidable (_ ∨ _ ∨ _))

/-- The status of row `t`. -/
def rowStatus (db : Db) (t : RowId) : Option TradeStatus :=
  (db.repoTrade.get t).map (·.status)

/-- The units of row `t`. -/
def rowUnits (db : Db) (t : RowId) : Option Int :=
  (db.repoTrade.get t).map (·.units)

-- ========================================================== the conditions

/-- Collateral is added to trade `c` through the API alone. -/
def ToppedUpThroughApi (c : Nat) (a : Act ChainTx) (_s : System Chain) :
    Prop :=
  match a with
  | .outside tx => tx.topsUp ≠ some c
  | _ => True

/-- A request to accept or unwind row `t` names its own trade `c`, or
none. -/
def NamesOwn (t : RowId) (c : Nat) (a : Act ChainTx) (_s : System Chain) :
    Prop :=
  match a with
  | .start _ (.accept _ trade id) _ => trade = t → ∀ x ∈ id, x = c
  | .start _ (.unwind _ trade id) _ => trade = t → ∀ x ∈ id, x = c
  | _ => True

/-- The trade a caller has read for a transaction that succeeded. -/
def Phase.readTrade : Phase → Option RepoDvp.RepoTrade
  | .ready (.success _ _) read => read.trade
  | _ => none

/-- A top-up of row `t` is booked from a read that shows no less than the
row does. -/
def BooksForward (t : RowId) (a : Act ChainTx) (s : System Chain) : Prop :=
  match a with
  | .commit w delivery _ => delivery ≠ .rolledBack →
      ∀ k ∈ s.workers.get w, k.intent.kind = .repoTopUp →
        k.intent.refId = t →
        statusOf s k.intent.txHash = some .pending →
        ∀ u ∈ rowUnits s.db t, ∀ x ∈ k.phase.readTrade, u ≤ x.units
  | _ => True

instance (c : Nat) (a : Act ChainTx) (s : System Chain) :
    Decidable (ToppedUpThroughApi c a s) :=
  match a with
  | .outside tx => inferInstanceAs (Decidable (tx.topsUp ≠ some c))
  | .start .. | .commitDraft .. | .lapseQuote .. | .land .. | .pick ..
  | .ask .. | .readContracts .. | .commit .. | .reread .. | .recordError ..
  | .writeOff .. => isTrue trivial

instance (t : RowId) (c : Nat) (a : Act ChainTx) (s : System Chain) :
    Decidable (NamesOwn t c a s) :=
  match a with
  | .start _ (.accept _ trade id) _ =>
      inferInstanceAs (Decidable (trade = t → ∀ x ∈ id, x = c))
  | .start _ (.unwind _ trade id) _ =>
      inferInstanceAs (Decidable (trade = t → ∀ x ∈ id, x = c))
  | .start _ (.openLine ..) _ | .start _ (.fund ..) _
  | .start _ (.withdrawUndrawn ..) _ | .start _ (.withdrawInterest ..) _
  | .start _ (.closeLiquidation ..) _ | .start _ (.pledge ..) _
  | .start _ (.release ..) _ | .start _ (.draw ..) _
  | .start _ (.repay ..) _ | .start _ (.executeExit ..) _
  | .start _ (.propose ..) _ | .start _ (.topUp ..) _ | .outside _
  | .commitDraft .. | .lapseQuote .. | .land .. | .pick .. | .ask ..
  | .readContracts .. | .commit .. | .reread .. | .recordError ..
  | .writeOff .. => isTrue trivial

instance (t : RowId) (a : Act ChainTx) (s : System Chain) :
    Decidable (BooksForward t a s) :=
  match a with
  | .commit w delivery _ => inferInstanceAs (Decidable
      (delivery ≠ .rolledBack → ∀ k ∈ s.workers.get w,
        k.intent.kind = .repoTopUp → k.intent.refId = t →
        statusOf s k.intent.txHash = some .pending →
        ∀ u ∈ rowUnits s.db t, ∀ x ∈ k.phase.readTrade, u ≤ x.units))
  | .outside _ | .start .. | .commitDraft .. | .lapseQuote .. | .land ..
  | .pick .. | .ask .. | .readContracts .. | .reread .. | .recordError ..
  | .writeOff .. => isTrue trivial

-- ============================================================== the files

/-- What an envelope has to do with its intent: about row `t` only trade
`c` is accepted, unwound or topped up, and trade `c` is topped up for row
`t` alone. -/
structure RepoGood (t : RowId) (c : Nat) (e : Envelope) (kind : IntentKind)
    (refId : RowId) (_amount : Option Int) : Prop where
  proposes : kind = .repoPropose →
    ∃ lender borrower asset units cash rate repo maturity hash,
      e = .repoDvp (.propose lender borrower asset units cash rate repo
        maturity hash)
  accepts : kind = .repoAccept → refId = t →
    ∃ b, e = .repoDvp (.acceptAndSettle b c)
  unwinds : kind = .repoUnwind → refId = t →
    ∃ b, e = .repoDvp (.unwind b c)
  topsUp : kind = .repoTopUp → refId = t →
    ∃ b n, e = .repoDvp (.topUp b c n)
  only : ∀ b n, e = .repoDvp (.topUp b c n) →
    kind = .repoTopUp ∧ refId = t

/-- The files of row `t` and trade `c` are in order. -/
structure RepoFiled (d : Deployed) (start : Chain) (db₀ : Db) (t : RowId)
    (c : Nat) (s : System Chain) : Prop where
  filed : Filed (network d start) db₀ (RepoGood t c) s
  named : Named (tradeColumn d) t c s
  drafts : ∀ id dr, s.drafts.get id = some dr → ∀ row,
    RepoGood t c dr.envelope dr.kind (dr.refId.getD row) dr.amount
  stored : ∃ x, s.chain.repo.trades.get c = some x

section

variable {d : Deployed} {start : Chain} {db₀ : Db} {t : RowId} {c : Nat}
  {s s' : System Chain} {a : Act ChainTx}

/-- An intent on another row, or of another kind, and no top-up. -/
theorem RepoGood.of_other {e : Envelope} {kind : IntentKind}
    {refId : RowId} {amount : Option Int} (hpropose : kind ≠ .repoPropose)
    (htopUp : ∀ b n, e ≠ .repoDvp (.topUp b c n))
    (hother : refId = t → kind ≠ .repoAccept ∧ kind ≠ .repoUnwind
      ∧ kind ≠ .repoTopUp) : RepoGood t c e kind refId amount :=
  ⟨fun h => absurd h hpropose, fun h ht => absurd h (hother ht).1,
    fun h ht => absurd h (hother ht).2.1,
    fun h ht => absurd h (hother ht).2.2,
    fun b n h => absurd h (htopUp b n)⟩

/-- The trade an accept or an unwind is about: the one the request names,
or else the row's own. -/
theorem named_or_own {db : Db} {trade : RowId} {row : RepoTradeRow}
    {body : Option Nat} {id : Nat}
    (hown : contractTrade db t = some c)
    (hnames : trade = t → ∀ x ∈ body, x = c)
    (hrow : db.repoTrade.get trade = some row)
    (hid : body.or row.contractTradeId = some id) :
    trade = t → id = c := by
  intro ht
  cases body with
  | some x =>
      have hx : x = id := Option.some.inj hid
      rw [← hx]
      exact hnames ht x rfl
  | none =>
      subst ht
      rw [contractTrade, hrow] at hown
      have hid' : row.contractTradeId = some id := hid
      exact Option.some.inj (hid'.symm.trans hown)

/-- What a request that names its own trade is about. -/
theorem route_repoGood {db : Db} {req : Request} {dr : Draft} {id : Nat}
    {env : Env} (hd : route db req = .ok dr)
    (hnames : NamesOwn t c (.start id req env) s)
    (hown : contractTrade db t = some c)
    (honly : ∀ r, contractTrade db r = some c → r = t) (row : RowId) :
    RepoGood t c dr.envelope dr.kind (dr.refId.getD row) dr.amount := by
  have hdraft := route_drafted hd
  cases req with
  | accept party trade body =>
      simp only [route, routeAccept, bind_ok, expect_ok, ensure_ok, pure_ok,
        exists_const] at hd
      obtain ⟨r, hr, -, -, account, -, k, hk, rfl⟩ := hd
      have hc := named_or_own hown hnames hr hk
      exact ⟨by simp, fun _ ht => ⟨account, by rw [hc ht]⟩, by simp,
        by simp, by simp⟩
  | unwind party trade body =>
      simp only [route, routeUnwind, bind_ok, expect_ok, ensure_ok, pure_ok,
        exists_const] at hd
      obtain ⟨r, hr, -, -, account, -, k, hk, rfl⟩ := hd
      have hc := named_or_own hown hnames hr hk
      exact ⟨by simp, by simp, fun _ ht => ⟨account, by rw [hc ht]⟩,
        by simp, by simp⟩
  | topUp party trade units =>
      simp only [route, routeTopUp, bind_ok, expect_ok, ensure_ok, pure_ok,
        exists_const] at hd
      obtain ⟨_, -, r, hr, -, -, k, hk, account, -, rfl⟩ := hd
      have hk' : contractTrade db trade = some k := by
        rw [contractTrade, hr]
        exact hk
      refine ⟨by simp, by simp, by simp, ?_, ?_⟩
      · intro _ ht
        have htrade : trade = t := ht
        rw [htrade, hown] at hk'
        exact ⟨account, units, by rw [Option.some.inj hk']⟩
      · intro b n he
        injection he with he
        injection he with _ he
        rw [he] at hk'
        exact ⟨rfl, honly trade hk'⟩
  | _ =>
      have hkind := route_kind hd
      cases hdraft with
      | propose => exact ⟨fun _ => ⟨_, _, _, _, _, _, _, _, _, rfl⟩, by simp,
          by simp, by simp, by simp⟩
      | accept => cases hkind
      | unwind => cases hkind
      | topUp => cases hkind
      | lender he =>
          rcases he with ⟨rfl, -⟩ | ⟨rfl, -⟩ | ⟨rfl, -⟩ <;>
            exact .of_other (by simp) (by simp) (by simp)
      | _ => exact .of_other (by simp) (by simp) (by simp)

/-- Row `t` is there. -/
theorem RepoFiled.row (hfiled : RepoFiled d start db₀ t c s) :
    ∃ row, s.db.repoTrade.get t = some row := by
  have hrow : contractTrade s.db t = some c := hfiled.named.row
  unfold contractTrade at hrow
  obtain ⟨row, hr, -⟩ := Option.bind_eq_some_iff.mp hrow
  exact ⟨row, hr⟩

/-- A trade that is there stays. -/
theorem stored_step (hok : RepoDvp.TradesOk d.repo s.chain.repo)
    (hstored : ∃ x, s.chain.repo.trades.get c = some x)
    (hdid : Did (network d start) s s' a) :
    ∃ x, s'.chain.repo.trades.get c = some x := by
  obtain ⟨x, hx⟩ := hstored
  cases hdid with
  | outside happ hs' =>
      subst hs'
      obtain ⟨x', hx', -⟩ := trade_move hok hx happ
      exact ⟨x', hx'⟩
  | landed _ _ hlands hs' =>
      subst hs'
      cases hlands with
      | success happ =>
          obtain ⟨x', hx', -⟩ := trade_move hok hx happ
          exact ⟨x', hx'⟩
      | failed => exact ⟨x, hx⟩
  | started _ hs' => subst hs'; exact ⟨x, hx⟩
  | recorded _ _ hs' => subst hs'; exact ⟨x, hx⟩
  | lapsed _ hs' => subst hs'; exact ⟨x, hx⟩
  | moved _ _ hs' => subst hs'; exact ⟨x, hx⟩
  | settled _ _ _ _ hs' => subst hs'; exact ⟨x, hx⟩
  | writtenOff _ _ _ hs' => subst hs'; exact ⟨x, hx⟩
  | erred _ _ hs' => subst hs'; exact ⟨x, hx⟩

/-- The requests in flight stay about what their rows are about. -/
theorem repoDrafts_step
    (hfiled : RepoFiled d start db₀ t c s)
    (hdid : Did (network d start) s s' a) (hown : NamesOwn t c a s) :
    ∀ id dr, s'.drafts.get id = some dr → ∀ row,
      RepoGood t c dr.envelope dr.kind (dr.refId.getD row) dr.amount := by
  cases hdid with
  | @started k req env dr' hd hs' =>
      subst hs'
      intro id dr hdr row
      rw [Store.get_set] at hdr
      split at hdr
      · injection hdr with hdr
        subst hdr
        exact route_repoGood hd hown hfiled.named.row hfiled.named.only row
      · exact hfiled.drafts id dr hdr row
  | @recorded k h row now dr' db hdr' hdb hs' =>
      subst hs'
      intro id dr hdr
      rw [Store.get_remove] at hdr
      split at hdr
      · cases hdr
      · exact hfiled.drafts id dr hdr
  | outside _ hs' => subst hs'; exact hfiled.drafts
  | landed _ _ _ hs' => subst hs'; exact hfiled.drafts
  | lapsed _ hs' => subst hs'; exact hfiled.drafts
  | moved _ _ hs' => subst hs'; exact hfiled.drafts
  | settled _ _ _ _ hs' => subst hs'; exact hfiled.drafts
  | writtenOff _ _ _ hs' => subst hs'; exact hfiled.drafts
  | erred _ _ hs' => subst hs'; exact hfiled.drafts

theorem repoFiled_step (hfiled : RepoFiled d start db₀ t c s)
    (hdid : Did (network d start) s s' a) (hown : NamesOwn t c a s)
    (hord : Orderly a s) : RepoFiled d start db₀ t c s' where
  filed := filed_step hfiled.filed hdid
    fun id _ row _ dr _ hdr => hfiled.drafts id dr hdr row
  named := named_step (tradeMinting d start) hfiled.named hfiled.filed
    (fun _ _ _ _ hg => hg.proposes) hdid hord
  drafts := repoDrafts_step hfiled hdid hown
  stored := stored_step hfiled.named.wellFormed hfiled.stored hdid

-- ============================================================ what a step is

/-- A transaction of ours that is `P` took effect under `h`. -/
def Took (P : Envelope → Prop) (s : System Chain) (h : TxHash) : Prop :=
  (∃ e, s.envelopes.get h = some e ∧ P e)
    ∧ ∃ x, s.landed.get h = some x ∧ x.outcome.next = .settled

/-- The accepts, the unwinds and the top-ups of trade `c`. -/
def Accepts (c : Nat) (e : Envelope) : Prop :=
  ∃ b, e = .repoDvp (.acceptAndSettle b c)

def Unwinds (c : Nat) (e : Envelope) : Prop :=
  ∃ b, e = .repoDvp (.unwind b c)

def TopsUp (c : Nat) (e : Envelope) : Prop :=
  ∃ b n, e = .repoDvp (.topUp b c n)

/-- What booking the transaction `h` that took effect does to row `t`. -/
inductive RowBooked (t : RowId) (c : Nat) (s s' : System Chain)
    (k : Worker) : Prop
  | other : ¬ Took (TopsUp c) s k.intent.txHash →
      s'.db.repoTrade.get t = s.db.repoTrade.get t → RowBooked t c s s' k
  | accepted : Took (Accepts c) s k.intent.txHash →
      rowStatus s'.db t = some .settled →
      rowUnits s'.db t = rowUnits s.db t → RowBooked t c s s' k
  | unwound : Took (Unwinds c) s k.intent.txHash →
      k.intent.kind = .repoUnwind → k.intent.refId = t →
      rowStatus s'.db t = some .unwound →
      rowUnits s'.db t = rowUnits s.db t → RowBooked t c s s' k
  | toppedUp {x : RepoDvp.RepoTrade} :
      Took (TopsUp c) s k.intent.txHash → k.intent.kind = .repoTopUp →
      k.intent.refId = t → k.phase.readTrade = some x →
      rowStatus s'.db t = rowStatus s.db t →
      rowUnits s'.db t = some x.units → RowBooked t c s s' k

/-- What a step is, as far as row `t` and what took effect go: nothing,
a transaction on the chain, of ours or not, or the booking of one of ours
that took effect. -/
inductive RepoMove (d : Deployed) (start : Chain) (t : RowId) (c : Nat)
    (s s' : System Chain) (a : Act ChainTx) : Prop
  | still : s'.chain = s.chain →
      s'.db.repoTrade.get t = s.db.repoTrade.get t →
      (∀ P h, Took P s' h ↔ Took P s h) →
      (∀ h x, s.landed.get h = some x → s'.landed.get h = some x) →
      (∀ P h, Took P s h → statusOf s' h = statusOf s h) →
      RepoMove d start t c s s' a
  | outside {tx : ChainTx} : a = .outside tx →
      (chainMachine d start).apply tx s.chain = .ok s'.chain →
      s' = { s with chain := s'.chain } → RepoMove d start t c s s' a
  | landed {h : TxHash} {env : Env} {e : Envelope} {x : Landing Chain} :
      s.envelopes.get h = some e → s.landed.get h = none →
      statusOf s h = some .pending →
      (chainMachine d start).apply (e.invoke env) s.chain = .ok x.after →
      x.outcome.next = .settled →
      s' = { s with
        chain := x.after
        landed := s.landed.set h x } → RepoMove d start t c s s' a
  | booked {w now : Nat} {delivery : Delivery} {k : Worker} :
      a = .commit w delivery now → s.workers.get w = some k →
      statusOf s k.intent.txHash = some .pending →
      (∀ h, statusOf s' h
        = if h = k.intent.txHash then some .settled else statusOf s h) →
      s'.chain = s.chain → s'.landed = s.landed →
      s'.envelopes = s.envelopes → RowBooked t c s s' k →
      RepoMove d start t c s s' a

/-- What the callers that are about to book a top-up of row `t` have
read: the trade, after their top-up landed. -/
structure TradeReads (t : RowId) (c : Nat) (s : System Chain) : Prop where
  below : ∀ h y, s.landed.get h = some y →
    unitsOn y.after c ≤ unitsOn s.chain c
  reads : ∀ w k, s.workers.get w = some k → k.intent.kind = .repoTopUp →
    k.intent.refId = t → ∀ ledger v read,
    k.phase = .ready (.success ledger v) read →
    ∃ x, read.trade = some x ∧ x.units ≤ unitsOn s.chain c
      ∧ ∀ y, s.landed.get k.intent.txHash = some y →
        unitsOn y.after c ≤ x.units

/-- Nothing was booked on row `t` that changes it. -/
theorem RepoMove.of_still (hchain : s'.chain = s.chain)
    (hrow : s'.db.repoTrade.get t = s.db.repoTrade.get t)
    (henv : s'.envelopes = s.envelopes) (hland : s'.landed = s.landed)
    (hst : ∀ P h, Took P s h → statusOf s' h = statusOf s h) :
    RepoMove d start t c s s' a := by
  refine .still hchain hrow ?_ ?_ hst
  · intro P h
    rw [Took, henv, hland, Took]
  · intro h x hx
    rw [hland, hx]

/-- A transaction that failed, or was written off, leaves row `t`. -/
theorem RepoFiled.failed (hfiled : RepoFiled d start db₀ t c s)
    {k i : TxIntent} {contracts : Contracts} {read : ContractState}
    {now ledger : Nat} {db₁ db' : Db}
    (happ : applyOutcome db₁ contracts k (.failed ledger) read now
      = .ok db') (hrow : s.db.txIntent.get k.txHash = some i)
    (hpending : i.status = .pending) (halike : Alike i k)
    (hsame : db₁.repoTrade = s.db.repoTrade) :
    db'.repoTrade.get t = s.db.repoTrade.get t := by
  obtain ⟨units, -, hget⟩ := applyOutcome_repoTrade happ
  rw [hget, hsame]
  by_cases ht : t = k.refId
  · -- the row's proposal is not pending any more
    have hkind : k.kind ≠ .repoPropose := by
      intro hkind
      exact hfiled.named.opens _ i hrow (halike.kind.trans hkind)
        (halike.refId.trans ht.symm) hpending
    have hid : ∀ row, bookTrade k (.failed ledger) units row = row := by
      intro row
      unfold bookTrade
      cases hk : k.kind <;> first | rfl | exact absurd hk hkind
    simp [ht, hid]
  · simp [ht]

/-- What a transaction that took effect is booked as. -/
theorem RepoFiled.row_booked (hfiled : RepoFiled d start db₀ t c s)
    (hreads : TradeReads t c s) {w ledger now : Nat} {v : Int} {k : Worker}
    {i : TxIntent} {read : ContractState} {contracts : Contracts}
    {db₁ : Db} (hk : s.workers.get w = some k)
    (hphase : k.phase = .ready (.success ledger v) read)
    (hrow : s.db.txIntent.get k.intent.txHash = some i)
    (hpending : i.status = .pending)
    (happ : applyOutcome db₁ contracts k.intent (.success ledger v) read now
      = .ok s'.db) (hsame : db₁.repoTrade = s.db.repoTrade) :
    RowBooked t c s s' k := by
  obtain ⟨units, hbooks, hget⟩ := applyOutcome_repoTrade happ
  obtain ⟨x, e, env, hx, hxo, he, -, hgood⟩ :=
    hfiled.filed.told_of hk (o := .success ledger v) (by rw [hphase]; rfl)
  have htook : ∀ P : Envelope → Prop, P e → Took P s k.intent.txHash :=
    fun P hP => ⟨⟨e, he, hP⟩, x, hx, by rw [hxo]; rfl⟩
  -- a top-up of the trade is what an intent of that kind on that row is for
  have hnot : k.intent.kind ≠ .repoTopUp ∨ k.intent.refId ≠ t →
      ¬ Took (TopsUp c) s k.intent.txHash := by
    rintro hother ⟨⟨e', he', b, n, htop⟩, -⟩
    rw [he] at he'
    injection he' with he'
    obtain ⟨hkind, href⟩ := hgood.only b n (he'.trans htop)
    rcases hother with hother | hother
    · exact hother hkind
    · exact hother href
  have hget' := hget t
  rw [hsame] at hget'
  by_cases href : k.intent.refId = t
  case neg =>
    refine .other (hnot (.inr href)) ?_
    rw [hget']
    simp [Ne.symm href]
  simp only [if_pos href.symm] at hget'
  obtain ⟨row, hr⟩ := hfiled.row
  rw [hr, Option.map_some] at hget'
  have hfrom : ∀ f : RepoTradeRow → RepoTradeRow,
      bookTrade k.intent (.success ledger v) units row = f row →
      rowStatus s'.db t = some (f row).status
        ∧ rowUnits s'.db t = some (f row).units := by
    intro f hf
    rw [rowStatus, rowUnits, hget', hf]
    exact ⟨rfl, rfl⟩
  have hsame' : rowStatus s.db t = some row.status
      ∧ rowUnits s.db t = some row.units := by
    rw [rowStatus, rowUnits, hr]
    exact ⟨rfl, rfl⟩
  cases hkind : k.intent.kind
  case repoPropose =>
    obtain ⟨i', hi', halike⟩ := hfiled.filed.workers w k hk
    rw [hrow] at hi'
    injection hi' with hi'
    subst hi'
    -- the proposal has been settled already: the row has its id
    exact absurd hpending (hfiled.named.opens _ i hrow
      (halike.kind.trans hkind) (halike.refId.trans href))
  case repoAccept =>
    obtain ⟨hst, hu⟩ := hfrom (fun row =>
      { row with
        status := .settled
        leg1Tx := some k.intent.txHash
        startLedger := ledger }) (by simp [bookTrade, hkind])
    exact .accepted (htook _ (hgood.accepts hkind href)) hst
      (hu.trans hsame'.2.symm)
  case repoUnwind =>
    obtain ⟨hst, hu⟩ := hfrom (fun row =>
      { row with status := .unwound, leg2Tx := some k.intent.txHash })
      (by simp [bookTrade, hkind])
    exact .unwound (htook _ (hgood.unwinds hkind href)) hkind href hst
      (hu.trans hsame'.2.symm)
  case repoTopUp =>
    obtain ⟨y, hy, -, -⟩ := hreads.reads w k hk hkind href ledger v read hphase
    obtain ⟨y', hy', hunits⟩ := hbooks hkind rfl
    rw [hy] at hy'
    injection hy' with hy'
    subst hy'
    obtain ⟨hst, hu⟩ := hfrom (fun row => { row with units := units })
      (by simp [bookTrade, hkind])
    refine .toppedUp (htook _ (hgood.topsUp hkind href)) hkind href ?_
      (hst.trans hsame'.1.symm) (hu.trans (by rw [hunits]))
    rw [hphase]
    exact hy
  all_goals
    refine .other (hnot (.inl (by simp [hkind]))) ?_
    rw [hget', hr]
    simp [bookTrade, hkind]

theorem repo_move (hfiled : RepoFiled d start db₀ t c s)
    (hreads : TradeReads t c s) (hdid : Did (network d start) s s' a)
    (hord : Orderly a s) : RepoMove d start t c s s' a := by
  -- an intent is rewritten without a change of its status
  have hstatus : ∀ {k : TxHash} {j : TxIntent},
      s'.db.txIntent = s.db.txIntent.set k j →
      (∀ P, Took P s k → some j.status = statusOf s k) →
      ∀ P h, Took P s h → statusOf s' h = statusOf s h := by
    intro k j hdb hk P h htook
    rw [statusOf_set hdb]
    split
    · next heq =>
      rw [heq] at htook ⊢
      exact hk P htook
    · rfl
  cases hdid with
  | outside happ hs' => subst hs'; exact .outside rfl happ rfl
  | started _ hs' =>
      subst hs'
      exact .of_still rfl rfl rfl rfl fun _ _ _ => rfl
  -- the hash is new, so nothing has landed under it
  | @recorded id h row now dr db hdr hdb hs' =>
      subst hs'
      obtain ⟨db₁, -, hnew, rfl⟩ := record_ok hdb
      have hnone := hfiled.filed.not_landed hnew
      have hrow := hfiled.named.row
      refine .still rfl ?_ ?_ (fun _ _ hx => hx) ?_
      · rcases record_repoTrade (r := t) hdb with hsame | ⟨-, hno, -⟩
        · exact hsame
        · have hrow' : contractTrade s.db t = some c := hrow
          rw [contractTrade, hno] at hrow'
          cases hrow'
      · intro P k
        by_cases hk : k = h
        · subst hk
          constructor
          · rintro ⟨-, x, hx, -⟩
            rw [show s.landed.get k = some x from hx] at hnone
            cases hnone
          · rintro ⟨-, x, hx, -⟩
            rw [hx] at hnone
            cases hnone
        · simp [Took, Store.get_set_ne _ _ hk]
      · refine hstatus (k := h) (j := dr.asIntent h row now) rfl ?_
        rintro P ⟨-, x, hx, -⟩
        rw [hx] at hnone
        cases hnone
  | lapsed hdb hs' =>
      subst hs'
      obtain ⟨quotes, rfl⟩ := lapseQuote_ok hdb
      exact .of_still rfl rfl rfl rfl fun _ _ _ => rfl
  -- an orderly landing is of an intent that is still pending
  | @landed h env e x he hnew hlands hs' =>
      subst hs'
      cases hlands with
      | @success chain' happ =>
          obtain ⟨i, hi, -⟩ := hfiled.filed.handed h e he
          have hpending := hfiled.filed.land_pending hord he hnew hi
          exact .landed (x := ⟨.success env.sequence _, s.chain, chain'⟩) he
            hnew (by simp [statusOf, hi, hpending]) happ rfl rfl
      | failed =>
          refine .still rfl rfl ?_ ?_ fun _ _ _ => rfl
          · intro P k
            by_cases hk : k = h
            · subst hk
              simp [Took, hnew, Outcome.next]
            · simp [Took, Store.get_set_ne _ _ hk]
          · intro k y hy
            show (s.landed.set h _).get k = _
            rw [Store.get_set_ne, hy]
            intro hk
            rw [hk, hnew] at hy
            cases hy
  | moved _ _ hs' =>
      subst hs'
      exact .of_still rfl rfl rfl rfl fun _ _ _ => rfl
  -- the caller was told what landed
  | @settled w now delivery k outcome read db p hk hphase hrun _ hs' =>
      subst hs'
      obtain ⟨i, hi, hpending, happ⟩ := runWithDb_some hrun
      obtain ⟨i', hi', halike⟩ := hfiled.filed.workers w k hk
      rw [hi] at hi'
      injection hi' with hi'
      subst hi'
      have htx := applyOutcome_txIntent happ
      obtain ⟨x, hx, hxo⟩ :=
        hfiled.filed.told w k outcome hk (by rw [hphase]; rfl)
      cases hout : outcome with
      | failed ledger =>
          rw [hout] at happ
          have hrow := hfiled.failed happ hi hpending halike rfl
          refine .of_still rfl hrow rfl rfl ?_
          refine hstatus (k := k.intent.txHash)
            (j := settledRow i outcome now) htx ?_
          rintro P ⟨-, y, hy, hnext⟩
          rw [hx] at hy
          injection hy with hy
          rw [← hy, hxo, hout] at hnext
          cases hnext
      | success ledger v =>
          rw [hout] at happ hphase
          refine .booked rfl hk (by simp [statusOf, hi, hpending]) ?_ rfl rfl
            rfl (hfiled.row_booked hreads hk hphase hi hpending happ rfl)
          intro h
          rw [statusOf_set (htx : db.txIntent = _)]
          simp [settledRow, hout, Outcome.next]
  -- an orderly write-off is of what has not landed
  | @writtenOff w now delivery k db hk habsent hexp hs' =>
      subst hs'
      obtain ⟨i, hi, hpending, happ⟩ := expire_outcome hexp
      have happ' := happ s.chain.contracts
      obtain ⟨i', hi', halike⟩ := hfiled.filed.workers w k hk
      rw [hi] at hi'
      injection hi' with hi'
      subst hi'
      have hrow := hfiled.failed happ' hi hpending halike rfl
      refine .of_still rfl hrow rfl rfl ?_
      refine hstatus (j :=
        { i with status := .expired, settledAt := some now })
        (applyOutcome_txIntent happ') ?_
      rintro P ⟨-, x, hx, -⟩
      have hnone := hord k hk
      rw [hx] at hnone
      cases hnone
  | @erred w k err hk hphase hs' =>
      subst hs'
      obtain ⟨i, hi, -⟩ := hfiled.filed.workers w k hk
      refine .of_still rfl rfl rfl rfl ?_
      refine hstatus (k := k.intent.txHash)
        (j := { i with status := .pending, error := some err })
        (by simp [moveTo, recordSettleError, Store.adjust_some _ hi]) ?_
      rintro P -
      simp [statusOf, hi, hord k hk i hi]

end

end Ballast.Api
