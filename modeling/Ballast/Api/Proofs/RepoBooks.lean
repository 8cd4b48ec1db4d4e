/-
Repo books follow their own trade.

An accept of the trade takes effect once, and the row leaves `proposed`
when it is booked, so the row's status is behind the trade's and never
goes back (`StatusFollows`). The row's units go up to what the last
booked top-up read, which is no less than what that top-up left
(`UnitsFollow`); once all of them are booked the row shows the trade's.

# What may go wrong

A row and a trade are tied together by the id on file, and a request may
bring an id of its own, which is what `NamesOwn` is about. A settlement
of a top-up writes the units it has read, and a caller that has read
early and commits late writes an old figure over a new one, which is
what `BooksForward` is about. The two halves of the counterexample are
the two conditions left out.
-/
import Ballast.Api.Proofs.RepoRows

namespace Ballast.Api

open Soroban Machine

section

variable {d : Deployed} {start : Chain} {db₀ : Db} {t : RowId} {c : Nat}
  {s s' : System Chain} {a : Act ChainTx}

-- =============================================================== the chain

theorem statusOn_some {chain : Chain} {x : RepoDvp.RepoTrade}
    (hx : chain.repo.trades.get c = some x) :
    statusOn chain c = some x.status := by
  rw [statusOn, RepoDvp.statusOf, hx]
  rfl

theorem unitsOn_some {chain : Chain} {x : RepoDvp.RepoTrade}
    (hx : chain.repo.trades.get c = some x) :
    unitsOn chain c = x.units := by
  rw [unitsOn, hx]
  rfl

/-- What a transaction does to the status and the units of trade `c`. -/
theorem chain_follows {tx : ChainTx} {chain chain' : Chain}
    (hok : RepoDvp.TradesOk d.repo chain.repo)
    (hstored : ∃ x, chain.repo.trades.get c = some x)
    (happ : (chainMachine d start).apply tx chain = .ok chain') :
    (HasSettled chain c → HasSettled chain' c)
      ∧ (statusOn chain c = some .unwound →
        statusOn chain' c = some .unwound)
      ∧ unitsOn chain c ≤ unitsOn chain' c
      ∧ (tx.topsUp ≠ some c → unitsOn chain' c = unitsOn chain c) := by
  obtain ⟨x, hx⟩ := hstored
  obtain ⟨x', hx', hmove⟩ := trade_move hok hx happ
  have hst := statusOn_some hx
  have hst' := statusOn_some hx'
  have hu := unitsOn_some hx
  have hu' := unitsOn_some hx'
  have hfollows := hmove.follows
  rw [← hst, ← hst'] at hfollows
  refine ⟨?_, ?_, ?_, ?_⟩
  · intro hsettled
    rcases hsettled with hs | hs | hs
    · rw [hs] at hfollows
      unfold HasSettled
      generalize statusOn chain' c = st at hfollows ⊢
      cases hfollows with
      | stay => exact .inl rfl
      | unwind => exact .inr (.inl rfl)
      | default => exact .inr (.inr rfl)
    · exact .inr (.inl (hfollows.final hs (.inr (.inl rfl))))
    · exact .inr (.inr (hfollows.final hs (.inr (.inr rfl))))
  · intro hs
    exact hfollows.final hs (.inr (.inl rfl))
  · rw [hu, hu']
    exact hmove.grows
  · rw [hu, hu']
    exact hmove.kept

/-- What a transaction of ours does to trade `c` by being an accept, an
unwind or a top-up of it. -/
theorem envelope_follows {env : Env} {e : Envelope} {chain chain' : Chain}
    (hok : RepoDvp.TradesOk d.repo chain.repo)
    (hstored : ∃ x, chain.repo.trades.get c = some x)
    (happ : (chainMachine d start).apply (e.invoke env) chain
      = .ok chain') :
    (Accepts c e → ¬ HasSettled chain c ∧ HasSettled chain' c)
      ∧ (Unwinds c e → statusOn chain' c = some .unwound)
      ∧ (¬ TopsUp c e → unitsOn chain' c = unitsOn chain c) := by
  have hkept := (chain_follows hok hstored happ).2.2.2
  obtain ⟨x, hx⟩ := hstored
  obtain ⟨x', hx', hmove⟩ := trade_move hok hx happ
  have hst := statusOn_some hx
  have hst' := statusOn_some hx'
  refine ⟨?_, ?_, ?_⟩
  · rintro ⟨b, rfl⟩
    obtain ⟨hfrom, hto⟩ := hmove.accepts env b rfl
    refine ⟨?_, .inl (by rw [hst', hto])⟩
    rw [HasSettled, hst, hfrom]
    simp
  · rintro ⟨b, rfl⟩
    rw [hst', hmove.unwinds env b rfl]
  · intro hnot
    apply hkept
    intro htx
    apply hnot
    unfold Envelope.invoke at htx
    split at htx
    · cases htx
    · cases htx
    · cases htx
    · next e =>
      cases e with
      | topUp b id n => exact ⟨b, n, by rw [Option.some.inj htx]⟩
      | _ => cases htx

-- ============================================================== the callers

theorem TradeReads.mono (hr : TradeReads t c s)
    (hchain : unitsOn s.chain c ≤ unitsOn s'.chain c)
    (hland : ∀ h y, s'.landed.get h = some y →
      s.landed.get h = some y ∨ s.landed.get h = none
        ∧ unitsOn y.after c ≤ unitsOn s'.chain c)
    (htold : ∀ w k, s.workers.get w = some k → ∀ o, k.phase.outcome = some o →
      (s.landed.get k.intent.txHash).isSome)
    (hwork : s'.workers = s.workers) : TradeReads t c s' := by
  constructor
  · intro h y hy
    rcases hland h y hy with hold | ⟨-, hle⟩
    · exact (hr.below h y hold).trans hchain
    · exact hle
  · intro w k hk hkind href ledger v read hphase
    rw [hwork] at hk
    obtain ⟨x, hx, hle, hfloor⟩ :=
      hr.reads w k hk hkind href ledger v read hphase
    refine ⟨x, hx, hle.trans hchain, ?_⟩
    intro y hy
    rcases hland _ y hy with hold | ⟨hnone, -⟩
    · exact hfloor y hold
    · have hsome := htold w k hk (.success ledger v) (by rw [hphase]; rfl)
      rw [hnone] at hsome
      cases hsome

/-- A caller moves to a phase it has nothing to book in. -/
theorem TradeReads.rest (hr : TradeReads t c s) {w : Nat}
    {i : TxIntent} {p : Phase} {s' : System Chain}
    (hp : ∀ ledger v read, p ≠ .ready (.success ledger v) read)
    (hchain : s'.chain = s.chain) (hland : s'.landed = s.landed)
    (hwork : s'.workers = s.workers.set w ⟨i, p⟩) : TradeReads t c s' := by
  constructor
  · rw [hland, hchain]
    exact hr.below
  · intro w' k hk hkind href ledger v read hphase
    rw [hland, hchain]
    rw [hwork, Store.get_set] at hk
    split at hk
    · injection hk with hk
      subst hk
      exact absurd hphase (hp ledger v read)
    · exact hr.reads w' k hk hkind href ledger v read hphase

/-- What a caller reads before it books a top-up of row `t`. -/
theorem RepoFiled.preRead_topUp (hfiled : RepoFiled d start db₀ t c s)
    {intent : TxIntent} {ledger : Nat} {v : Int} {read : ContractState}
    (hkind : intent.kind = .repoTopUp) (href : intent.refId = t)
    (hread : preRead s.db s.chain.contracts intent (.success ledger v)
      = .ok read) :
    ∃ x, read.trade = some x ∧ x.units = unitsOn s.chain c := by
  have hrow : (s.db.repoTrade.get t).bind (·.contractTradeId) = some c :=
    hfiled.named.row
  simp only [preRead, hkind, href, hrow, bind_ok, pure_ok] at hread
  obtain ⟨x, hx, rfl⟩ := hread
  refine ⟨x, rfl, ?_⟩
  have hx' : RepoDvp.readTrade s.chain.repo c = .ok x := hx
  rw [RepoDvp.readTrade, expect_ok] at hx'
  exact (unitsOn_some hx').symm

theorem tradeReads_step (hr : TradeReads t c s)
    (hfiled : RepoFiled d start db₀ t c s)
    (hdid : Did (network d start) s s' a) : TradeReads t c s' := by
  have htold : ∀ w k, s.workers.get w = some k → ∀ o,
      k.phase.outcome = some o → (s.landed.get k.intent.txHash).isSome := by
    intro w k hk o ho
    obtain ⟨x, hx, -⟩ := hfiled.filed.told w k o hk ho
    rw [hx]
    rfl
  cases hdid with
  | outside happ hs' =>
      subst hs'
      -- units only grow, so what was read stays below
      have hgrows := (chain_follows hfiled.named.wellFormed hfiled.stored
        happ).2.2.1
      exact hr.mono hgrows (fun h y hy => .inl hy) htold rfl
  | @landed h env e x he hnew hlands hs' =>
      subst hs'
      have hgrows : unitsOn s.chain c ≤ unitsOn x.after c := by
        cases hlands with
        | success happ =>
            exact (chain_follows hfiled.named.wellFormed hfiled.stored
              happ).2.2.1
        | failed => exact le_rfl
      refine hr.mono hgrows ?_ htold rfl
      intro k y hy
      rw [Store.get_set] at hy
      split at hy
      · next hk =>
        injection hy with hy
        subst hy
        exact .inr ⟨by rw [hk, hnew], le_rfl⟩
      · exact .inl hy
  | moved hnot hm hs' =>
      subst hs'
      cases hm with
      | @read k outcome read hk hphase hread =>
          refine ⟨hr.below, ?_⟩
          intro w' k' hk' hkind href ledger v read' hphase'
          rw [moveTo, Store.get_set] at hk'
          split at hk'
          · injection hk' with hk'
            subst hk'
            injection hphase' with hout hread'
            subst hout hread'
            -- the read is of now, and every landed top-up left no more than
            -- now
            obtain ⟨x, hx, hunits⟩ := hfiled.preRead_topUp hkind href hread
            refine ⟨x, hx, hunits.le, ?_⟩
            intro y hy
            rw [hunits]
            exact hr.below _ y hy
          · exact hr.reads w' k' hk' hkind href ledger v read' hphase'
      | _ => exact hr.rest (by simp) rfl rfl rfl
  | settled _ _ _ hp hs' =>
      subst hs'
      rcases hp with rfl | ⟨err, rfl⟩
      · exact hr.rest (by simp) rfl rfl rfl
      · exact hr.rest (by simp) rfl rfl rfl
  | started _ hs' => subst hs'; exact ⟨hr.below, hr.reads⟩
  | recorded _ _ hs' => subst hs'; exact ⟨hr.below, hr.reads⟩
  | lapsed _ hs' => subst hs'; exact ⟨hr.below, hr.reads⟩
  | writtenOff _ _ _ hs' =>
      subst hs'
      exact hr.rest (p := .holding) (by simp) rfl rfl rfl
  | erred _ _ hs' =>
      subst hs'
      exact hr.rest (p := .holding) (by simp) rfl rfl rfl

-- ============================================================ the statuses

/-- An unwind of row `t` is asked for once the row has left `proposed`. -/
structure UnwindsLater (t : RowId) (s : System Chain) : Prop where
  drafts : ∀ id dr, s.drafts.get id = some dr → dr.kind = .repoUnwind →
    ∀ row, dr.refId.getD row = t → rowStatus s.db t ≠ some .proposed
  intents : ∀ h i, s.db.txIntent.get h = some i → i.kind = .repoUnwind →
    i.refId = t → (s.envelopes.get h).isSome →
    rowStatus s.db t ≠ some .proposed

/-- A row's status, and what took effect on the chain. -/
structure StatusFollows (t : RowId) (c : Nat) (s : System Chain) :
    Prop where
  accepted : ∀ h, Took (Accepts c) s h → HasSettled s.chain c
  once : ∀ h h', Took (Accepts c) s h → Took (Accepts c) s h' → h' = h
  unwound : ∀ h, Took (Unwinds c) s h → statusOn s.chain c = some .unwound
  left : rowStatus s.db t ≠ some .proposed →
    ∃ h, Took (Accepts c) s h ∧ statusOf s h = some .settled
  rowUnwound : rowStatus s.db t = some .unwound →
    statusOn s.chain c = some .unwound

/-- A row that is not `proposed` has been settled on the chain. -/
theorem StatusFollows.settled (hf : StatusFollows t c s)
    (hst : rowStatus s.db t ≠ some .proposed) : HasSettled s.chain c := by
  obtain ⟨h, htook, -⟩ := hf.left hst
  exact hf.accepted h htook

/-- An accept is booked on a row that is still `proposed`. -/
theorem StatusFollows.first (hf : StatusFollows t c s) {h : TxHash}
    (htook : Took (Accepts c) s h) (hpending : statusOf s h = some .pending) :
    rowStatus s.db t = some .proposed := by
  by_contra hst
  obtain ⟨h', htook', hsettled⟩ := hf.left hst
  have heq := hf.once h h' htook htook'
  rw [heq, hpending] at hsettled
  cases hsettled

/-- A row that has left `proposed` does not come back to it. -/
theorem RepoMove.leaves (hmove : RepoMove d start t c s s' a)
    (hst : rowStatus s.db t ≠ some .proposed) :
    rowStatus s'.db t ≠ some .proposed := by
  cases hmove with
  | still _ hrow =>
      rw [rowStatus, hrow]
      exact hst
  | outside _ _ hs' =>
      rw [hs']
      exact hst
  | landed _ _ _ _ _ hs' =>
      rw [hs']
      exact hst
  | booked _ _ _ _ _ _ _ hbooked =>
      cases hbooked with
      | other _ hrow =>
          rw [rowStatus, hrow]
          exact hst
      | accepted _ hst' => simp [hst']
      | unwound _ _ _ hst' => simp [hst']
      | toppedUp _ _ _ _ hst' =>
          rw [hst']
          exact hst

/-- The intents and the requests are what they were. -/
theorem UnwindsLater.kept (hu : UnwindsLater t s)
    (hmove : RepoMove d start t c s s' a)
    (hdrafts : s'.drafts = s.drafts) (henv : s'.envelopes = s.envelopes)
    (hintents : ∀ h j, s'.db.txIntent.get h = some j →
      ∃ i, s.db.txIntent.get h = some i ∧ Alike i j) :
    UnwindsLater t s' := by
  constructor
  · intro id dr hdr hkind row href
    rw [hdrafts] at hdr
    exact hmove.leaves (hu.drafts id dr hdr hkind row href)
  · intro h j hj hkind href hsome
    rw [henv] at hsome
    obtain ⟨i, hi, hij⟩ := hintents h j hj
    exact hmove.leaves (hu.intents h i hi (hij.kind.trans hkind)
      (hij.refId.trans href) hsome)

theorem unwindsLater_step (hu : UnwindsLater t s)
    (hfiled : RepoFiled d start db₀ t c s)
    (hdid : Did (network d start) s s' a)
    (hmove : RepoMove d start t c s s' a) : UnwindsLater t s' := by
  have hkept := intents_kept hfiled.filed hdid
  cases hdid with
  | @started id req env dr hd hs' =>
      subst hs'
      refine ⟨?_, hu.intents⟩
      intro id' dr' hdr' hkind row href
      rw [Store.get_set] at hdr'
      split at hdr'
      · injection hdr' with hdr'
        subst hdr'
        cases route_drafted hd with
        | @unwind party trade r body k account hr hst _ =>
            have ht : trade = t := href
            subst ht
            show (s.db.repoTrade.get trade).map _ ≠ _
            rw [hr, Option.map_some, hst]
            simp
        | lender he =>
            rcases he with ⟨rfl, -⟩ | ⟨rfl, -⟩ | ⟨rfl, -⟩ <;> cases hkind
        | _ => cases hkind
      · exact hu.drafts id' dr' hdr' hkind row href
  | @recorded id h row now dr db hdr hdb hs' =>
      constructor
      · intro id' dr' hdr' hkind row' href
        subst hs'
        rw [Store.get_remove] at hdr'
        split at hdr'
        · cases hdr'
        · exact hmove.leaves (hu.drafts id' dr' hdr' hkind row' href)
      · intro k i hi hkind href hsome
        apply hmove.leaves
        subst hs'
        obtain ⟨db₁, -, hnew, rfl⟩ := record_ok hdb
        rw [Store.get_set] at hi hsome
        split at hi
        · injection hi with hi
          subst hi
          exact hu.drafts id dr hdr hkind row href
        · next hk =>
          rw [if_neg hk] at hsome
          exact hu.intents k i hi hkind href hsome
  | moved _ _ hs' =>
      subst hs'
      exact ⟨hu.drafts, hu.intents⟩
  | outside _ hs' =>
      subst hs'
      exact ⟨hu.drafts, hu.intents⟩
  | lapsed _ hs' => subst hs'; exact hu.kept hmove rfl rfl (hkept (by simp)).1
  | landed _ _ _ hs' => subst hs'; exact ⟨hu.drafts, hu.intents⟩
  | settled _ _ _ _ hs' =>
      subst hs'
      exact hu.kept hmove rfl rfl (hkept (by simp)).1
  | writtenOff _ _ _ hs' =>
      subst hs'
      exact hu.kept hmove rfl rfl (hkept (by simp)).1
  | erred _ _ hs' =>
      subst hs'
      exact hu.kept hmove rfl rfl (hkept (by simp)).1

/-- What took effect, once a transaction of ours has. -/
theorem took_landed {P : Envelope → Prop} {h k : TxHash} {e : Envelope}
    {x : Landing Chain} {chain : Chain}
    (he : s.envelopes.get h = some e) (hnew : s.landed.get h = none)
    (hout : x.outcome.next = .settled)
    (hs' : s' = { s with chain := chain, landed := s.landed.set h x }) :
    Took P s' k ↔ Took P s k ∨ k = h ∧ P e := by
  subst hs'
  by_cases hk : k = h
  · subst hk
    simp [Took, he, hnew, hout]
  · simp [Took, hk]

theorem statusFollows_step (hf : StatusFollows t c s)
    (hu : UnwindsLater t s) (hfiled : RepoFiled d start db₀ t c s)
    (hmove : RepoMove d start t c s s' a) : StatusFollows t c s' := by
  cases hmove with
  | still hchain hrow htook _ hst =>
      constructor
      · intro h hh
        rw [hchain]
        exact hf.accepted h ((htook _ h).mp hh)
      · intro h h' hh hh'
        exact hf.once h h' ((htook _ h).mp hh) ((htook _ h').mp hh')
      · intro h hh
        rw [hchain]
        exact hf.unwound h ((htook _ h).mp hh)
      · intro hne
        rw [rowStatus, hrow] at hne
        obtain ⟨h, hh, hs⟩ := hf.left hne
        exact ⟨h, (htook _ h).mpr hh, (hst _ h hh).trans hs⟩
      · intro hun
        rw [rowStatus, hrow] at hun
        rw [hchain]
        exact hf.rowUnwound hun
  -- what others do may settle or unwind the trade, never take it back
  | outside _ happ hs' =>
      obtain ⟨hsettled, hunwound, -, -⟩ :=
        chain_follows hfiled.named.wellFormed hfiled.stored happ
      rw [hs']
      exact ⟨fun h hh => hsettled (hf.accepted h hh), hf.once,
        fun h hh => hunwound (hf.unwound h hh), hf.left,
        fun hun => hunwound (hf.rowUnwound hun)⟩
  | @landed h env e x he hnew hpending happ hout hs' =>
      obtain ⟨hsettled, hunwound, -, -⟩ :=
        chain_follows hfiled.named.wellFormed hfiled.stored happ
      obtain ⟨haccept, hunwind, -⟩ :=
        envelope_follows hfiled.named.wellFormed hfiled.stored happ
      have htook : ∀ P k, Took P s' k ↔ Took P s k ∨ k = h ∧ P e :=
        fun P k => took_landed he hnew hout hs'
      have hchain : s'.chain = x.after := by rw [hs']
      have hdb : s'.db = s.db := by rw [hs']
      constructor
      · intro k hk
        rw [hchain]
        rcases (htook _ k).mp hk with hold | ⟨-, hP⟩
        · exact hsettled (hf.accepted k hold)
        · exact (haccept hP).2
      · intro k k' hk hk'
        rcases (htook _ k).mp hk with hold | ⟨heq, hP⟩ <;>
          rcases (htook _ k').mp hk' with hold' | ⟨heq', hP'⟩
        · exact hf.once k k' hold hold'
        · exact absurd (hf.accepted k hold) (haccept hP').1
        · exact absurd (hf.accepted k' hold') (haccept hP).1
        · rw [heq, heq']
      · intro k hk
        rw [hchain]
        rcases (htook _ k).mp hk with hold | ⟨-, hP⟩
        · exact hunwound (hf.unwound k hold)
        · exact hunwind hP
      · intro hne
        rw [hdb] at hne
        obtain ⟨k, hk, hs⟩ := hf.left hne
        refine ⟨k, (htook _ k).mpr (.inl hk), ?_⟩
        rw [statusOf, hdb]
        exact hs
      · intro hun
        rw [hdb] at hun
        rw [hchain]
        exact hunwound (hf.rowUnwound hun)
  | @booked w now delivery k _ hk hpending hst hchain hland henv hbooked =>
      have htook : ∀ P h, Took P s' h ↔ Took P s h := by
        intro P h
        rw [Took, henv, hland, Took]
      have hkeep : (∃ h, Took (Accepts c) s h ∧ statusOf s h = some .settled) →
          ∃ h, Took (Accepts c) s' h ∧ statusOf s' h = some .settled := by
        rintro ⟨h, hh, hs⟩
        refine ⟨h, (htook _ h).mpr hh, ?_⟩
        rw [hst, hs]
        simp
      refine ⟨?_, ?_, ?_, ?_, ?_⟩
      · intro h hh
        rw [hchain]
        exact hf.accepted h ((htook _ h).mp hh)
      · intro h h' hh hh'
        exact hf.once h h' ((htook _ h).mp hh) ((htook _ h').mp hh')
      · intro h hh
        rw [hchain]
        exact hf.unwound h ((htook _ h).mp hh)
      · intro hne
        cases hbooked with
        | other _ hrow =>
            rw [rowStatus, hrow] at hne
            exact hkeep (hf.left hne)
        | accepted htook' _ _ =>
            refine ⟨_, (htook _ _).mpr htook', ?_⟩
            rw [hst, if_pos rfl]
        | unwound htook' hkind href _ _ =>
            obtain ⟨i, hi, halike⟩ := hfiled.filed.workers w k hk
            obtain ⟨⟨e, he, -⟩, -⟩ := htook'
            exact hkeep (hf.left (hu.intents _ i hi
              (halike.kind.trans hkind) (halike.refId.trans href)
              (by rw [he]; rfl)))
        | toppedUp _ _ _ _ hst' _ =>
            rw [hst'] at hne
            exact hkeep (hf.left hne)
      · intro hun
        rw [hchain]
        cases hbooked with
        | other _ hrow =>
            rw [rowStatus, hrow] at hun
            exact hf.rowUnwound hun
        | accepted _ hst' _ =>
            rw [hst'] at hun
            cases hun
        | unwound htook' _ _ _ _ => exact hf.unwound _ htook'
        | toppedUp _ _ _ _ hst' _ =>
            rw [hst'] at hun
            exact hf.rowUnwound hun

/-- A row that shows its trade unwound shows it from then on. -/
theorem StatusFollows.stays (hf : StatusFollows t c s)
    (hmove : RepoMove d start t c s s' a)
    (hun : rowStatus s.db t = some .unwound) :
    rowStatus s'.db t = some .unwound := by
  cases hmove with
  | still _ hrow =>
      rw [rowStatus, hrow]
      exact hun
  | outside _ _ hs' =>
      rw [hs']
      exact hun
  | landed _ _ _ _ _ hs' =>
      rw [hs']
      exact hun
  | booked _ _ hpending _ _ _ _ hbooked =>
      cases hbooked with
      | other _ hrow =>
          rw [rowStatus, hrow]
          exact hun
      | accepted htook _ _ =>
          have hfirst := hf.first htook hpending
          rw [hun] at hfirst
          cases hfirst
      | unwound _ _ _ hst' => exact hst'
      | toppedUp _ _ _ _ hst' => exact hst'.trans hun

-- =============================================================== the units

/-- A row's units, and the trade's. -/
structure UnitsFollow (t : RowId) (c : Nat) (s : System Chain) : Prop where
  low : ∀ u, rowUnits s.db t = some u → u ≤ unitsOn s.chain c
  booked : ∀ h y, Took (TopsUp c) s h → s.landed.get h = some y →
    statusOf s h = some .settled → ∀ u, rowUnits s.db t = some u →
    unitsOn y.after c ≤ u
  last : rowUnits s.db t = some (unitsOn s.chain c)
    ∨ ∃ h y, Took (TopsUp c) s h ∧ s.landed.get h = some y
      ∧ unitsOn y.after c = unitsOn s.chain c

theorem unitsFollow_step (hf : UnitsFollow t c s)
    (hr : TradeReads t c s) (hfiled : RepoFiled d start db₀ t c s)
    (hmove : RepoMove d start t c s s' a)
    (hthrough : ToppedUpThroughApi c a s)
    (hforward : ∀ w delivery now, a = .commit w delivery now →
      delivery ≠ .rolledBack ∧ BooksForward t a s) :
    UnitsFollow t c s' := by
  cases hmove with
  | still hchain hrow htook hland hst =>
      have hback : ∀ h y, Took (TopsUp c) s' h → s'.landed.get h = some y →
          Took (TopsUp c) s h ∧ s.landed.get h = some y := by
        intro h y hh hy
        have hold := (htook _ h).mp hh
        obtain ⟨-, x, hx, -⟩ := id hold
        rw [hland h x hx] at hy
        injection hy with hy
        subst hy
        exact ⟨hold, hx⟩
      constructor
      · intro u hu
        rw [rowUnits, hrow] at hu
        rw [hchain]
        exact hf.low u hu
      · intro h y hh hy hs u hu
        rw [rowUnits, hrow] at hu
        obtain ⟨hold, hx⟩ := hback h y hh hy
        rw [hst _ h hold] at hs
        exact hf.booked h y hold hx hs u hu
      · rw [rowUnits, hrow, hchain]
        rcases hf.last with heq | ⟨h, y, hh, hy, hunits⟩
        · exact .inl heq
        · exact .inr ⟨h, y, (htook _ h).mpr hh, hland h y hy, hunits⟩
  -- collateral comes in through the API alone, so this leaves the units
  | @outside tx ha happ hs' =>
      subst ha
      have hkept : unitsOn s'.chain c = unitsOn s.chain c :=
        (chain_follows hfiled.named.wellFormed hfiled.stored happ).2.2.2
          hthrough
      rw [hs']
      refine ⟨?_, hf.booked, ?_⟩
      · show ∀ u, rowUnits s.db t = some u → u ≤ unitsOn s'.chain c
        rw [hkept]
        exact hf.low
      · show rowUnits s.db t = some (unitsOn s'.chain c) ∨ _
        rw [hkept]
        exact hf.last
  | @landed h env e x he hnew hpending happ hout hs' =>
      have hgrows := (chain_follows hfiled.named.wellFormed hfiled.stored
        happ).2.2.1
      have hkept := (envelope_follows hfiled.named.wellFormed hfiled.stored
        happ).2.2
      have htook : ∀ P k, Took P s' k ↔ Took P s k ∨ k = h ∧ P e :=
        fun P k => took_landed he hnew hout hs'
      have hold : ∀ k y, s.landed.get k = some y →
          s'.landed.get k = some y := by
        intro k y hy
        rw [hs', Store.get_set_ne, hy]
        intro hk
        rw [hk, hnew] at hy
        cases hy
      have hchain : s'.chain = x.after := by rw [hs']
      have hdb : s'.db = s.db := by rw [hs']
      constructor
      · intro u hu
        rw [hdb] at hu
        rw [hchain]
        exact (hf.low u hu).trans hgrows
      · intro k y hk hy hs u hu
        rw [hdb] at hu
        rw [statusOf, hdb] at hs
        rcases (htook _ k).mp hk with hk | ⟨rfl, -⟩
        · obtain ⟨-, z, hz, -⟩ := id hk
          rw [hold k z hz] at hy
          injection hy with hy
          subst hy
          exact hf.booked k z hk hz hs u hu
        -- the one that just landed is not settled yet
        · rw [← statusOf, hpending] at hs
          cases hs
      · rw [hdb, hchain]
        -- a top-up is now the last to have taken effect, and not yet on the
        -- row
        by_cases htop : TopsUp c e
        · exact .inr ⟨h, x, (htook _ h).mpr (.inr ⟨rfl, htop⟩),
            by rw [hs', Store.get_set_self], rfl⟩
        · rw [hkept htop]
          rcases hf.last with heq | ⟨k, y, hk, hy, hunits⟩
          · exact .inl heq
          · exact .inr ⟨k, y, (htook _ k).mpr (.inl hk), hold k y hy, hunits⟩
  | @booked w now delivery k ha hk hpending hst hchain hland henv hbooked =>
      have htook : ∀ P h, Took P s' h ↔ Took P s h := by
        intro P h
        rw [Took, henv, hland, Took]
      -- the top-ups booked before, with the row as it was
      have hearlier : ∀ h y, h ≠ k.intent.txHash → Took (TopsUp c) s' h →
          s'.landed.get h = some y → statusOf s' h = some .settled →
          ∀ u, rowUnits s.db t = some u → unitsOn y.after c ≤ u := by
        intro h y hne hh hy hs u hu
        rw [hst, if_neg hne] at hs
        rw [hland] at hy
        exact hf.booked h y ((htook _ h).mp hh) hy hs u hu
      have hlast : rowUnits s.db t = some (unitsOn s.chain c) ∨
          ∃ h y, Took (TopsUp c) s' h ∧ s'.landed.get h = some y
            ∧ unitsOn y.after c = unitsOn s'.chain c := by
        rcases hf.last with heq | ⟨h, y, hh, hy, hunits⟩
        · exact .inl heq
        · refine .inr ⟨h, y, (htook _ h).mpr hh, ?_, ?_⟩
          · rw [hland, hy]
          · rw [hchain, hunits]
      -- what books anything but a top-up leaves the row's units
      have hsame : rowUnits s'.db t = rowUnits s.db t →
          ¬ Took (TopsUp c) s k.intent.txHash → UnitsFollow t c s' := by
        intro hrow hnot
        refine ⟨?_, ?_, ?_⟩
        · rw [hrow, hchain]
          exact hf.low
        · intro h y hh hy hs u hu
          rw [hrow] at hu
          by_cases hne : h = k.intent.txHash
          · rw [hne] at hh
            exact absurd ((htook _ _).mp hh) hnot
          · exact hearlier h y hne hh hy hs u hu
        · rw [hrow, hchain]
          rw [hchain] at hlast
          exact hlast
      cases hbooked with
      | other hnot hrow => exact hsame (by rw [rowUnits, hrow, rowUnits]) hnot
      | accepted htook' _ hrow =>
          refine hsame hrow ?_
          rintro ⟨⟨e', he', b', n', rfl⟩, -⟩
          obtain ⟨⟨e, he, b, rfl⟩, -⟩ := htook'
          rw [he] at he'
          cases he'
      | unwound htook' _ _ _ hrow =>
          refine hsame hrow ?_
          rintro ⟨⟨e', he', b', n', rfl⟩, -⟩
          obtain ⟨⟨e, he, b, rfl⟩, -⟩ := htook'
          rw [he] at he'
          cases he'
      | @toppedUp x htook' hkind href hx _ hrow =>
          obtain ⟨hrolled, hfwd⟩ := hforward w delivery now ha
          subst ha
          -- forwards: what is written is no less than what was there
          have hup : ∀ u, rowUnits s.db t = some u → u ≤ x.units :=
            fun u hu => hfwd hrolled k hk hkind href hpending u hu x hx
          obtain ⟨ledger, v, read, hphase, hread⟩ :
              ∃ ledger v read, k.phase = .ready (.success ledger v) read
                ∧ read.trade = some x := by
            cases hp : k.phase with
            | ready o read =>
                cases o with
                | success ledger v =>
                    rw [hp] at hx
                    exact ⟨ledger, v, read, rfl, hx⟩
                | failed => rw [hp] at hx; cases hx
            | _ => rw [hp] at hx; cases hx
          obtain ⟨x', hx', hle, hfloor⟩ :=
            -- and what was read is between what this top-up left and the
            -- present
            hr.reads w k hk hkind href ledger v read hphase
          rw [hread] at hx'
          injection hx' with hx'
          subst hx'
          refine ⟨?_, ?_, ?_⟩
          · intro u hu
            rw [hrow] at hu
            injection hu with hu
            rw [hchain, ← hu]
            exact hle
          · intro h y hh hy hs u hu
            rw [hrow] at hu
            injection hu with hu
            rw [← hu]
            by_cases hne : h = k.intent.txHash
            · rw [hland, hne] at hy
              exact hfloor y hy
            · obtain ⟨row, hr'⟩ := hfiled.row
              have hu₀ : rowUnits s.db t = some row.units := by
                rw [rowUnits, hr']
                rfl
              exact (hearlier h y hne hh hy hs _ hu₀).trans (hup _ hu₀)
          · rcases hlast with heq | hlast
            · left
              rw [hrow, hchain, Option.some.injEq]
              exact le_antisymm hle (hup _ heq)
            · exact .inr hlast

end

-- ================================================================= the run

/-- A proposal has just been settled: row `t` has the id of its trade,
with the trade's units, and is `proposed`. -/
structure ProposalSettled (d : Deployed) (db : Db) (start : Chain)
    (t : RowId) (c : Nat) : Prop where
  reached : ∃ txs, start.repo = ((RepoDvp.machine d.repo).run
    (RepoDvp.machine d.repo).init txs).store
  row : contractTrade db t = some c
  only : ∀ r, contractTrade db r = some c → r = t
  status : rowStatus db t = some .proposed
  stored : ∃ x, start.repo.trades.get c = some x
  units : rowUnits db t = some (unitsOn start c)
  filed : ∀ h i, db.txIntent.get h = some i → i.txHash = h
  proposed : ∀ h i, db.txIntent.get h = some i → i.kind = .repoPropose →
    i.refId = t → i.status ≠ .pending

/-- An intent about a trade row. -/
def ofTrade (kind : IntentKind) : Bool :=
  kind = .repoPropose ∨ kind = .repoAccept ∨ kind = .repoUnwind
    ∨ kind = .repoTopUp

/-- No intent about row `t` is pending. -/
def TradeQuiet (db : Db) (t : RowId) : Prop :=
  ∀ h i, db.txIntent.get h = some i → ofTrade i.kind = true →
    i.refId = t → i.status ≠ .pending

/-- What the books of row `t` keep of trade `c` at every moment. -/
structure RepoBooks (d : Deployed) (start : Chain) (db₀ : Db) (t : RowId)
    (c : Nat) (s : System Chain) : Prop where
  filed : RepoFiled d start db₀ t c s
  ended : Ended s
  reads : TradeReads t c s
  unwinds : UnwindsLater t s
  status : StatusFollows t c s
  units : UnitsFollow t c s

section

variable {d : Deployed} {start : Chain} {db : Db} {t : RowId} {c : Nat}
  {s s' : System Chain} {a : Act ChainTx}

theorem ProposalSettled.repoBooks (hnew : ProposalSettled d db start t c) :
    RepoBooks d start db t c (machine (network d start) db).init := by
  obtain ⟨txs, hreached⟩ := hnew.reached
  have hok : RepoDvp.TradesOk d.repo start.repo := by
    rw [hreached]
    exact RepoDvp.tradesOk_run d.repo txs
  have hminted : c < start.repo.nextId := by
    by_contra hle
    obtain ⟨x, hx⟩ := hnew.stored
    rw [hok.fresh c (by omega)] at hx
    cases hx
  have hnone : ∀ P h, ¬ Took P (machine (network d start) db).init h := by
    rintro P h ⟨⟨e, he, -⟩, -⟩
    cases he
  have hstatus : StatusFollows t c (machine (network d start) db).init := by
    refine ⟨fun h hh => absurd hh (hnone _ h),
      fun h _ hh => absurd hh (hnone _ h), fun h hh => absurd hh (hnone _ h),
      fun hne => absurd hnew.status hne, ?_⟩
    intro hun
    have hst : rowStatus db t = some .unwound := hun
    rw [hnew.status] at hst
    cases hst
  have hunits : UnitsFollow t c (machine (network d start) db).init := by
    refine ⟨?_, fun h _ hh => absurd hh (hnone _ h), .inl hnew.units⟩
    intro u hu
    have hu' : rowUnits db t = some u := hu
    rw [hnew.units] at hu'
    injection hu' with hu'
    exact hu'.ge
  refine ⟨⟨filed_init hnew.filed, ⟨hnew.row, hnew.only, hnew.proposed, ?_,
    hok, hminted, ?_⟩, ?_, hnew.stored⟩, ?_, ⟨?_, ?_⟩, ⟨?_, ?_⟩, hstatus,
    hunits⟩
  case refine_4 =>
    intro h i x ledger v _ hx
    cases hx
  all_goals
    intros
    contradiction

theorem repoBooks_step (hb : RepoBooks d start db t c s)
    (happ : step (network d start) a s = .ok s')
    (hthrough : ToppedUpThroughApi c a s) (hord : Orderly a s)
    (hown : NamesOwn t c a s) (hforward : BooksForward t a s) :
    RepoBooks d start db t c s' := by
  have hdid := step_did happ
  have hmove := repo_move hb.filed hb.reads hdid hord
  have hunits : UnitsFollow t c s' := by
    by_cases hrolled : ∃ w now, a = .commit w .rolledBack now
    · obtain ⟨w, now, rfl⟩ := hrolled
      have hcommit : commit (network d start) w .rolledBack now s = .ok s' :=
        happ
      obtain ⟨i, p, rfl⟩ := commit_rolledBack hcommit
      exact ⟨hb.units.low, hb.units.booked, hb.units.last⟩
    · refine unitsFollow_step hb.units hb.reads hb.filed hmove hthrough ?_
      intro w delivery now ha
      refine ⟨?_, hforward⟩
      rintro rfl
      exact hrolled ⟨w, now, ha⟩
  exact {
    filed := repoFiled_step hb.filed hdid hown hord
    ended := ended_step hb.filed.filed hb.ended hdid hord
    reads := tradeReads_step hb.reads hb.filed hdid
    unwinds := unwindsLater_step hb.unwinds hb.filed hdid hmove
    status := statusFollows_step hb.status hb.unwinds hb.filed hmove
    units := hunits }

/-- Nothing pending, every top-up that took effect is booked. -/
theorem RepoBooks.quiet (hb : RepoBooks d start db t c s)
    (hquiet : TradeQuiet s.db t) :
    rowUnits s.db t = some (unitsOn s.chain c) := by
  rcases hb.units.last with heq | ⟨h, y, htook, hy, hlast⟩
  · exact heq
  obtain ⟨row, hr⟩ := hb.filed.row
  have hu : rowUnits s.db t = some row.units := by
    rw [rowUnits, hr]
    rfl
  obtain ⟨⟨e, he, b, n, rfl⟩, z, hz, hout⟩ := id htook
  obtain ⟨i, hi, hgood⟩ := hb.filed.filed.handed h _ he
  obtain ⟨hkind, href⟩ := hgood.only b n rfl
  have hsettled : i.status = .settled := by
    have hnot := hquiet h i hi (by simp [ofTrade, hkind]) href
    cases hzo : z.outcome with
    | failed => rw [hzo] at hout; cases hout
    | success ledger v =>
        exact (hb.ended h i z ledger v hi hz hzo).resolve_left hnot
  have hlow := hb.units.low _ hu
  have hhigh := hb.units.booked h y htook hy
    (by simp [statusOf, hi, hsettled]) _ hu
  rw [hlast] at hhigh
  rw [hu, Option.some.injEq]
  exact le_antisymm hlow hhigh

end

/-- In every run in which requests about row `t` name its own trade, or
none, and top-ups are booked in the order they are read, the books of the
row follow trade `c`. -/
theorem repo_books_follow (d : Deployed) (start : Chain) (db : Db)
    (t : RowId) (c : Nat) (acts : List (Act ChainTx))
    (hnew : ProposalSettled d db start t c)
    (hdomain : (machine (network d start) db).Allowed
      (fun a s => ToppedUpThroughApi c a s ∧ Orderly a s)
      (machine (network d start) db).init acts)
    (hholds : (machine (network d start) db).Allowed
      (fun a s => NamesOwn t c a s ∧ BooksForward t a s)
      (machine (network d start) db).init acts) :
    let M := machine (network d start) db
    let s := M.run M.init acts
    (rowStatus s.db t = some .settled → HasSettled s.chain c)
    ∧ (rowStatus s.db t = some .unwound →
      statusOn s.chain c = some .unwound)
    ∧ (TradeQuiet s.db t → rowUnits s.db t = some (unitsOn s.chain c))
    ∧ ∀ pre post, acts = pre ++ post →
      rowStatus (M.run M.init pre).db t = some .unwound →
      rowStatus s.db t = some .unwound := by
  intro M s
  have hstep : ∀ s a s', RepoBooks d start db t c s →
      ((ToppedUpThroughApi c a s ∧ Orderly a s)
        ∧ NamesOwn t c a s ∧ BooksForward t a s) →
      M.apply a s = .ok s' → RepoBooks d start db t c s' := by
    rintro s a s' hb ⟨⟨hthrough, hord⟩, hown, hforward⟩ happ
    exact repoBooks_step hb happ hthrough hord hown hforward
  have hallowed := hdomain.and hholds
  have hb : RepoBooks d start db t c s :=
    run_induction hstep hnew.repoBooks hallowed
  refine ⟨?_, hb.status.rowUnwound, hb.quiet, ?_⟩
  · intro hst
    exact hb.status.settled (by simp [hst])
  · rintro pre post rfl hun
    obtain ⟨hpre, hpost⟩ := Allowed.append.mp hallowed
    have hbpre : RepoBooks d start db t c (M.run M.init pre) :=
      run_induction hstep hnew.repoBooks hpre
    suffices hboth : RepoBooks d start db t c s
        ∧ rowStatus s.db t = some .unwound from hboth.2
    show RepoBooks d start db t c (M.run M.init (pre ++ post)) ∧ _
    rw [show s = M.run (M.run M.init pre) post from run_append _ _ _,
      run_append]
    refine run_induction (P := fun s => RepoBooks d start db t c s
      ∧ rowStatus s.db t = some .unwound) ?_ ⟨hbpre, hun⟩ hpost
    rintro s a s' ⟨hb, hun⟩ hok happ
    refine ⟨hstep s a s' hb hok happ, ?_⟩
    exact hb.status.stays
      (repo_move hb.filed hb.reads (step_did happ) hok.1.2) hun

-- ============================================================= three runs

namespace Demo

/-- 100 USDC offered against 200 units, twice, to the same borrower. -/
def offers : List RepoDvp.Tx :=
  RepoDvp.Demo.setup ++ List.replicate 2
    (.call (RepoDvp.Demo.env 0 2) (.propose RepoDvp.Demo.lender
      RepoDvp.Demo.borrower RepoDvp.Demo.asset 200 100 0 .term 1000
      (Vector.replicate 32 0)))

def repoDeployed : Deployed := { deployed with repo := RepoDvp.Demo.self }

def offered : Chain :=
  let w := (RepoDvp.machine repoDeployed.repo).run
    (RepoDvp.machine repoDeployed.repo).init offers
  { Chain.empty with tokens := w.tokens, repo := w.store }

/-- Row 7 is about trade 0. -/
def repoBooks : Db :=
  { Db.empty with
    partyAccount := (Store.empty.set 2 RepoDvp.Demo.lender).set 3
      RepoDvp.Demo.borrower
    repoTrade := Store.empty.set 7
      ⟨2, 3, 5, 200, 0, .proposed, some 0, none, none⟩ }

/-- Row 7 is accepted, by a request that names the trade `body`. -/
def accepted (body : Option Nat) : List (Act ChainTx) :=
  hand 0 50 (.accept 3 7 body) ++ [.land 50 (env 0 3)] ++ settles 1 50

/-- It is topped up by 100, and unwound at its maturity. -/
def unwound : List (Act ChainTx) :=
  accepted none ++ hand 1 51 (.topUp 3 7 100) ++ [.land 51 (env 0 4)]
    ++ settles 1 51 ++ [.start 2 (.unwind 3 7 none) (env 1000 5),
      .commitDraft 2 52 2 0, .land 52 (env 1000 6)] ++ settles 1 52

/-- Two top-ups, the second asked for once the first has landed; the
caller that settles the first read the trade before the second landed, and
commits after it was settled. -/
def overtaken : List (Act ChainTx) :=
  accepted none ++ hand 1 51 (.topUp 3 7 100) ++ [.land 51 (env 0 4)]
    ++ approach 1 51 ++ hand 2 52 (.topUp 3 7 50) ++ [.land 52 (env 0 5)]
    ++ settles 2 52 ++ [.commit 1 .acknowledged 1]

theorem proposalSettled :
    ProposalSettled repoDeployed repoBooks offered 7 0 := by
  have hnone : ∀ h i, repoBooks.txIntent.get h ≠ some i := by
    intro h i hi
    cases hi
  have hstored : (offered.repo.trades.get 0).isSome = true := by
    decide +kernel
  refine ⟨⟨offers, rfl⟩, rfl, ?_, rfl, Option.isSome_iff_exists.mp hstored,
    by decide +kernel, fun h i hi => absurd hi (hnone h i),
    fun h i hi => absurd hi (hnone h i)⟩
  intro r hr
  by_contra hne
  simp [contractTrade, repoBooks, Store.get_set_ne _ _ hne, Db.empty] at hr

end Demo

/-- Accepted, topped up and unwound, the row follows its trade. -/
theorem repo_books_follow_unwound :
    let M := machine (network Demo.repoDeployed Demo.offered) Demo.repoBooks
    let s := M.run M.init Demo.unwound
    (rowStatus s.db 7 = some .settled → HasSettled s.chain 0)
    ∧ (rowStatus s.db 7 = some .unwound →
      statusOn s.chain 0 = some .unwound)
    ∧ (TradeQuiet s.db 7 → rowUnits s.db 7 = some (unitsOn s.chain 0))
    ∧ ∀ pre post, Demo.unwound = pre ++ post →
      rowStatus (M.run M.init pre).db 7 = some .unwound →
      rowStatus s.db 7 = some .unwound :=
  repo_books_follow Demo.repoDeployed Demo.offered Demo.repoBooks 7 0
    Demo.unwound Demo.proposalSettled (by decide +kernel) (by decide +kernel)

/-- Accepted with the other trade's id, the row is settled and its own
trade only proposed; topped up twice, the row shows 300 units and its
trade has 350, with nothing pending. -/
theorem repo_books_stray :
    let M := machine (network Demo.repoDeployed Demo.offered) Demo.repoBooks
    let s := M.run M.init (Demo.accepted (some 1))
    let s' := M.run M.init Demo.overtaken
    (M.Allowed (fun a s => ToppedUpThroughApi 0 a s ∧ Orderly a s) M.init
        (Demo.accepted (some 1))
      ∧ rowStatus s.db 7 = some .settled
      ∧ statusOn s.chain 0 = some .proposed)
    ∧ M.Allowed (fun a s => ToppedUpThroughApi 0 a s ∧ Orderly a s) M.init
        Demo.overtaken
      ∧ (∀ h ∈ s'.db.txIntent.keys, statusOf s' h = some .settled)
      ∧ rowUnits s'.db 7 = some 300 ∧ unitsOn s'.chain 0 = 350 := by
  decide +kernel

end Ballast.Api
