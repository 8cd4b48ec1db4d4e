/-
Leg 2 of a repo is paid at most once by the keeper, and what the job books
of a trade is what the chain has of it, for good.

A trade leaves `Settled` once, so of all the `unwind`s of a trade that any
number of processes have in flight one at most succeeds (`one_leg_two`). A
turn books a status it read, or the success of the transaction it sent;
neither can be undone by what lands in between, since the statuses it
books are final (`books_true`). A turn that was cut short anywhere is made
up for by the next one over the row (`turn_closes_iff`).

# What stands, what is tracked

Two invariants carry the two results. `Standing` is about the chain and
the submissions: whatever landed successfully left its trade unwound,
and no second submission for that trade has. Its step lemma needs
nothing but the inversion of one contract call, since a trade whose
status is final admits no further `unwind` (`EndedAs.step`). `Tracked`
adds the rows: a row that the job has marked names a trade that ended
so, and each turn knows, stage by stage, what it has read or sent
(`Tracks`).

# A whole turn

A turn without a fault is a fixed list of actions, and its outcome is
computed by following them one by one. For each action there is a lemma
for when it applies (`exec_take`, `exec_send` and so on) and one for
when it is stuck and leaves the system alone (`exec_send_stuck`).
`turn_closes_iff` puts them together by the cases of what the turn
finds.
-/
import Ballast.Keeper.RepoUnwind
import Ballast.RepoDvp.Proofs.Escrow

namespace Ballast.Keeper.RepoUnwind

open Soroban RepoDvp
open Api (TxHash RowId)

/-- The chain has ended trade `c` as a row of status `status` says. -/
def EndedAs (chain : World RepoDvp.State) (c : Nat) : TradeStatus → Prop
  | .unwound => statusOf chain.store c = some .unwound
  | .defaulted => statusOf chain.store c = some .defaulted
  | _ => False

/-- Row `r` is for trade `c`. -/
def Pinned (s : System) (r : RowId) (c : Nat) : Prop :=
  ∃ t, s.repoTrade.get r = some t ∧ t.contractTradeId = some c

variable {self keeper : Address} {s s' : System} {a : Act}

-- ================================================================ the steps

/-- A turn goes from one stage to the next. -/
inductive Goes (s : System) : Option Turn → Turn → Prop
  | taken {r : RowId} {c : Nat} : Pinned s r c → Goes s none (.taken r c)
  | building {r : RowId} {c : Nat} :
      Goes s (some (.taken r c)) (.building r c)
  | ended {r : RowId} {c : Nat} {status : TradeStatus} :
      EndedAs s.chain c status →
      Goes s (some (.taken r c)) (.ended r c status)
  | paid {r : RowId} {c : Nat} {h : TxHash} : s.landed.get h = some true →
      Goes s (some (.polling r c h)) (.paid r c h)

/-- What a turn books: a status the chain has, or what it has paid. -/
inductive Books (r : RowId) (c : Nat) :
    Turn → (RepoTradeRow → RepoTradeRow) → Prop
  | ended {status : TradeStatus} :
      Books r c (.ended r c status) fun t => { t with status := status }
  | paid {h : TxHash} :
      Books r c (.paid r c h) fun t =>
        { t with status := .unwound, leg2Tx := some h }

/-- What a committed step did. -/
inductive Did (self keeper : Address) (s s' : System) : Act → Prop
  | tx {tx : RepoDvp.Tx} {chain : World RepoDvp.State} :
      (RepoDvp.machine self).apply tx s.chain = .ok chain →
      s' = { s with chain := chain } → Did self keeper s s' (.tx tx)
  | rows {repoTrade : Store RowId RepoTradeRow} :
      s' = { s with repoTrade := repoTrade } →
      Did self keeper s s' (.rows repoTrade)
  | moved {w : Nat} {turn : Turn} {a : Act} : Goes s (s.turns.get w) turn →
      s' = moveTo s w turn → Did self keeper s s' a
  | left {w : Nat} {a : Act} : s' = leave s w → Did self keeper s s' a
  | sent {w : Nat} {h : TxHash} {env : Env} {r : RowId} {c : Nat} :
      s.turns.get w = some (.building r c) →
      (∀ c', s.sent.get h = some c' → c' = c) →
      s' = moveTo { s with sent := s.sent.set h c } w (.polling r c h) →
      Did self keeper s s' (.send w h env)
  | landed {h : TxHash} {env : Env} {c : Nat}
      {chain : World RepoDvp.State} :
      s.sent.get h = some c → s.landed.get h = none →
      (RepoDvp.machine self).apply (.call env (.unwind keeper c)) s.chain
        = .ok chain →
      s' = { s with chain := chain, landed := s.landed.set h true } →
      Did self keeper s s' (.land h env)
  | refused {h : TxHash} {env : Env} {c : Nat} :
      s.sent.get h = some c → s.landed.get h = none →
      s' = { s with landed := s.landed.set h false } →
      Did self keeper s s' (.land h env)
  | booked {w : Nat} {turn : Turn} {r : RowId} {c : Nat}
      {f : RepoTradeRow → RepoTradeRow} :
      s.turns.get w = some turn → Books r c turn f →
      s' = leave { s with repoTrade := s.repoTrade.adjust r f } w →
      Did self keeper s s' (.write w)

/-- Taking a row, as a case of `Did`. -/
theorem take_did {w : Nat} {r : RowId} {now : Nat}
    (h : take w r now s = .ok s') : Did self keeper s s' (.take w r now) := by
  simp only [take, bind_ok, ensure_ok, expect_ok, pure_ok,
    Option.isNone_iff_eq_none] at h
  obtain ⟨-, hfree, t, ht, -, -, -, -, c, hc, rfl⟩ := h
  exact .moved (hfree ▸ .taken ⟨t, ht, hc⟩) rfl

/-- The reading of the trade, by what it finds: still settled, ended by
somebody else, or not readable. -/
theorem read_did {w : Nat} (h : read w s = .ok s') :
    Did self keeper s s' (.read w) := by
  simp only [read, turnAt, bind_ok, expect_ok] at h
  obtain ⟨turn, hw, h⟩ := h
  split at h
  · next r c =>
    simp only [bind_ok, readTrade, expect_ok] at h
    obtain ⟨t, ht, h⟩ := h
    have hst : statusOf s.chain.store c = some t.status := by
      rw [statusOf, ht]
      rfl
    split at h
    · exact .moved (hw ▸ .building) (pure_ok.mp h).symm
    · next hunwound =>
      rw [hunwound] at hst
      exact .moved (hw ▸ .ended hst) (pure_ok.mp h).symm
    · next hdefaulted =>
      rw [hdefaulted] at hst
      exact .moved (hw ▸ .ended hst) (pure_ok.mp h).symm
    · exact .left (pure_ok.mp h).symm
  · cases h

/-- A submission under a fresh hash, for the trade the turn is about. -/
theorem send_did {w : Nat} {h : TxHash} {env : Env}
    (hok : send self keeper w h env s = .ok s') :
    Did self keeper s s' (.send w h env) := by
  simp only [send, turnAt, bind_ok, expect_ok] at hok
  obtain ⟨turn, hw, hok⟩ := hok
  split at hok
  · next r c =>
    simp only [bind_ok, ensure_ok, pure_ok] at hok
    obtain ⟨-, hhash, -, -, rfl⟩ := hok
    refine .sent hw (fun c' hc' => ?_) rfl
    simpa [hc'] using hhash
  · cases hok

/-- A landing changes the chain if the call succeeds, and is noted either
way. -/
theorem land_did {h : TxHash} {env : Env}
    (hok : land self keeper h env s = .ok s') :
    Did self keeper s s' (.land h env) := by
  simp only [land, bind_ok, expect_ok, ensure_ok, Option.isNone_iff_eq_none]
    at hok
  obtain ⟨c, hsent, -, hnone, hok⟩ := hok
  split at hok
  · next chain hcall =>
    exact .landed hsent hnone hcall (pure_ok.mp hok).symm
  · exact .refused hsent hnone (pure_ok.mp hok).symm

/-- A turn sees the success of the transaction it polls. -/
theorem confirm_did {w : Nat} (h : confirm w s = .ok s') :
    Did self keeper s s' (.confirm w) := by
  simp only [confirm, turnAt, bind_ok, expect_ok] at h
  obtain ⟨turn, hw, h⟩ := h
  split at h
  · next r c hash =>
    simp only [bind_ok, ensure_ok, pure_ok] at h
    obtain ⟨-, hlanded, rfl⟩ := h
    exact .moved (hw ▸ .paid hlanded) rfl
  · cases h

/-- The write books what the turn has seen, and ends the turn. -/
theorem write_did {w : Nat} (h : write w s = .ok s') :
    ∃ turn r c f, s.turns.get w = some turn ∧ Books r c turn f
      ∧ s' = leave { s with repoTrade := s.repoTrade.adjust r f } w := by
  simp only [write, turnAt, bind_ok, expect_ok] at h
  obtain ⟨turn, hw, h⟩ := h
  split at h
  · next r c status =>
    exact ⟨_, r, c, _, hw, .ended, (pure_ok.mp h).symm⟩
  · next r c hash =>
    exact ⟨_, r, c, _, hw, .paid, (pure_ok.mp h).symm⟩
  · cases h

/-- Every committed step did one of these. -/
theorem step_did (h : step self keeper a s = .ok s') :
    Did self keeper s s' a := by
  cases a with
  | tx tx =>
      simp only [step, bind_ok, pure_ok] at h
      obtain ⟨chain, happ, rfl⟩ := h
      exact .tx happ rfl
  | rows repoTrade => exact .rows (pure_ok.mp h).symm
  | take w r now => exact take_did h
  | read w => exact read_did h
  | send w h env => exact send_did ‹_›
  | land h env => exact land_did ‹_›
  | confirm w => exact confirm_did h
  | write w =>
      obtain ⟨turn, r, c, f, hw, hbooks, rfl⟩ := write_did h
      exact .booked hw hbooks rfl
  | stop w => exact .left (pure_ok.mp h).symm

-- ================================================================ the chain

/-- A final status is final: no call of the contract, and no token
activity elsewhere, changes it. -/
theorem EndedAs.step {tx : RepoDvp.Tx} {w w' : World RepoDvp.State} {c : Nat}
    {status : TradeStatus} (hok : TradesOk self w.store)
    (happ : (RepoDvp.machine self).apply tx w = .ok w')
    (h : EndedAs w c status) : EndedAs w' c status := by
  have hkeep : ∀ {st : RepoStatus}, st.IsFinal →
      statusOf w.store c = some st → statusOf w'.store c = some st := by
    intro st hfinal hst
    cases tx with
    | call env e =>
        exact ((call_settlement hok happ).follows c).final hst hfinal
    | outside tokens =>
        injection happ with happ
        subst happ
        exact hst
  cases status with
  | unwound => exact hkeep (.inr (.inl rfl)) h
  | defaulted => exact hkeep (.inr (.inr rfl)) h
  | _ => exact h

/-- An `unwind` that succeeds finds the trade settled and ends it. -/
theorem unwind_status {env : Env} {c : Nat} {w w' : World RepoDvp.State}
    (hok : TradesOk self w.store)
    (happ : (RepoDvp.machine self).apply (.call env (.unwind keeper c)) w
      = .ok w') :
    statusOf w.store c = some .settled
      ∧ statusOf w'.store c = some .unwound := by
  have hcall : call (env.at self) (.unwind keeper c) w = .ok w' := happ
  cases call_effect hok.keyed hcall with
  | setup hsetup => cases hsetup
  | unwind ht hst _ _ _ _ _ hrep _ =>
      constructor
      · rw [statusOf, ht, Option.map_some, hst]
      · rw [statusOf_set hrep.trades, if_pos rfl]

-- ============================================================ at most once

/-- What any run leaves: only what was sent lands, and of a trade's
`unwind`s one at most has succeeded, which ended it. -/
structure Standing (addr : Address) (s : System) : Prop where
  trades : TradesOk addr s.chain.store
  sent : ∀ h, s.sent.get h = none → s.landed.get h = none
  unwound : ∀ h c, s.sent.get h = some c → s.landed.get h = some true →
    EndedAs s.chain c .unwound
  once : ∀ h h' c, s.sent.get h = some c → s.sent.get h' = some c →
    s.landed.get h = some true → s.landed.get h' = some true → h = h'

/-- What stands depends on the chain, the submissions and the landings
alone. -/
theorem Standing.same (hs : Standing self s) (hchain : s'.chain = s.chain)
    (hsent : s'.sent = s.sent) (hlanded : s'.landed = s.landed) :
    Standing self s' := by
  refine ⟨hchain ▸ hs.trades, ?_, ?_, ?_⟩
  · rw [hsent, hlanded]
    exact hs.sent
  · rw [hsent, hlanded, hchain]
    exact hs.unwound
  · rw [hsent, hlanded]
    exact hs.once

/-- A transaction of anybody's leaves what the job's have ended. -/
theorem Standing.tx {tx : RepoDvp.Tx} {chain : World RepoDvp.State}
    (hs : Standing self s)
    (happ : (RepoDvp.machine self).apply tx s.chain = .ok chain) :
    Standing self { s with chain := chain } :=
  ⟨tradesOk_step hs.trades happ, hs.sent,
    fun h c hsent hlanded =>
      (hs.unwound h c hsent hlanded).step hs.trades happ,
    hs.once⟩

/-- One more submission in flight changes nothing that landed. -/
theorem Standing.send {h : TxHash} {c : Nat} (hs : Standing self s)
    (hhash : ∀ c', s.sent.get h = some c' → c' = c) :
    Standing self { s with sent := s.sent.set h c } := by
  -- a hash that was sent before keeps its trade
  have hold : ∀ {k : TxHash} {c' : Nat},
      (s.sent.set h c).get k = some c' → s.landed.get k = some true →
      s.sent.get k = some c' := by
    intro k c' hk hlanded
    by_cases hkh : k = h
    · subst hkh
      obtain rfl : c = c' := by simpa using hk
      cases hsent : s.sent.get k with
      | none =>
          rw [hs.sent k hsent] at hlanded
          cases hlanded
      | some c' => rw [hhash c' hsent]
    · rwa [Store.get_set_ne _ _ hkh] at hk
  refine ⟨hs.trades, fun k hk => ?_, fun k c' hk hlanded => ?_,
    fun k k' c' hk hk' hlanded hlanded' => ?_⟩
  · by_cases hkh : k = h
    · subst hkh
      simp at hk
    · exact hs.sent k (by rwa [Store.get_set_ne _ _ hkh] at hk)
  · exact hs.unwound k c' (hold hk hlanded) hlanded
  · exact hs.once k k' c' (hold hk hlanded) (hold hk' hlanded') hlanded
      hlanded'

/-- A landing that fails adds nothing. One that succeeds has left its
trade unwound, and no other submission for that trade has landed. -/
theorem Standing.land {h : TxHash} {c : Nat} {b : Bool}
    (hs : Standing self s) (hsent : s.sent.get h = some c)
    (hnew : b = true → EndedAs s.chain c .unwound
      ∧ ∀ k, s.sent.get k = some c → s.landed.get k = some true → k = h) :
    Standing self { s with landed := s.landed.set h b } := by
  refine ⟨hs.trades, fun k hk => ?_, fun k c' hk hlanded => ?_,
    fun k k' c' hk hk' hlanded hlanded' => ?_⟩
  · have hkh : k ≠ h := by
      rintro rfl
      rw [hsent] at hk
      cases hk
    show (s.landed.set h b).get k = none
    rw [Store.get_set_ne _ _ hkh]
    exact hs.sent k hk
  · by_cases hkh : k = h
    · subst hkh
      obtain rfl : c = c' := Option.some.inj (hsent.symm.trans hk)
      exact (hnew (by simpa using hlanded)).1
    · exact hs.unwound k c' hk (by simpa [hkh] using hlanded)
  · by_cases hkh : k = h <;> by_cases hkh' : k' = h
    · rw [hkh, hkh']
    · subst hkh
      obtain rfl : c = c' := Option.some.inj (hsent.symm.trans hk)
      exact ((hnew (by simpa using hlanded)).2 k' hk'
        (by simpa [hkh'] using hlanded')).symm
    · subst hkh'
      obtain rfl : c = c' := Option.some.inj (hsent.symm.trans hk')
      exact (hnew (by simpa using hlanded')).2 k hk
        (by simpa [hkh] using hlanded)
    · exact hs.once k k' c' hk hk' (by simpa [hkh] using hlanded)
        (by simpa [hkh'] using hlanded')

/-- Every action of the system, the chain's own included, keeps what
stands. -/
theorem Standing.step (hs : Standing self s)
    (h : step self keeper a s = .ok s') : Standing self s' := by
  cases step_did h with
  | tx happ hs' =>
      subst hs'
      exact hs.tx happ
  | rows hs' | left hs' =>
      subst hs'
      exact hs.same rfl rfl rfl
  | moved _ hs' | booked _ _ hs' =>
      subst hs'
      exact hs.same rfl rfl rfl
  | sent _ hhash hs' =>
      subst hs'
      exact (hs.send hhash).same rfl rfl rfl
  | @landed h env c chain hsent _ happ hs' =>
      subst hs'
      obtain ⟨hsettled, hunwound⟩ := unwind_status hs.trades happ
      refine (hs.tx happ).land hsent fun _ => ⟨hunwound, ?_⟩
      -- one that had succeeded before would have ended the trade
      intro k hk hlanded
      have hended : statusOf s.chain.store c = some .unwound :=
        hs.unwound k c hk hlanded
      rw [hsettled] at hended
      cases hended
  | refused hsent _ hs' =>
      subst hs'
      exact hs.land hsent fun h => nomatch h

/-- From the start, over any run. -/
theorem standing_run (txs : List RepoDvp.Tx)
    (repoTrade : Store RowId RepoTradeRow) (as : List Act) :
    Standing self ((machine self keeper txs repoTrade).run
      (machine self keeper txs repoTrade).init as) := by
  refine Machine.run_induction (P := Standing self)
    (fun s a s' hs _ h => hs.step h) ?_ (Machine.allowed_true _ as)
  refine ⟨tradesOk_run self txs, fun _ _ => rfl, ?_, ?_⟩
  · intro h c hsent
    cases hsent
  · intro h h' c hsent
    cases hsent

/-- Leg 2 is paid at most once: of all the `unwind`s of a trade the
keeper's processes ever send, one succeeds, and it ends the trade. -/
theorem one_leg_two (self keeper : Address) (txs : List RepoDvp.Tx)
    (repoTrade : Store RowId RepoTradeRow) (as : List Act)
    {h h' : TxHash} {c : Nat} :
    let s := (machine self keeper txs repoTrade).run
      (machine self keeper txs repoTrade).init as
    s.sent.get h = some c → s.sent.get h' = some c →
    s.landed.get h = some true → s.landed.get h' = some true →
    h = h' ∧ statusOf s.chain.store c = some .unwound := by
  intro s hsent hsent' hlanded hlanded'
  have hs : Standing self s := standing_run txs repoTrade as
  exact ⟨hs.once h h' c hsent hsent' hlanded hlanded',
    hs.unwound h c hsent hlanded⟩

/-- Two processes send an `unwind` each, and both land. -/
theorem one_leg_two_demo :
    statusOf ((machine RepoDvp.Demo.self Demo.operator Demo.lent
        Demo.rows).run
      (machine RepoDvp.Demo.self Demo.operator Demo.lent Demo.rows).init
      Demo.raced).chain.store 0 = some .unwound := by
  have hsent : ((machine RepoDvp.Demo.self Demo.operator Demo.lent
        Demo.rows).run
      (machine RepoDvp.Demo.self Demo.operator Demo.lent Demo.rows).init
      Demo.raced).sent.get 20 = some 0 := by decide +kernel
  have hlanded : ((machine RepoDvp.Demo.self Demo.operator Demo.lent
        Demo.rows).run
      (machine RepoDvp.Demo.self Demo.operator Demo.lent Demo.rows).init
      Demo.raced).landed.get 20 = some true := by decide +kernel
  exact (one_leg_two RepoDvp.Demo.self Demo.operator Demo.lent Demo.rows
    Demo.raced hsent hsent hlanded hlanded).2

-- ============================================================ what is booked

/-- What a turn rests on. -/
def Tracks (s : System) : Turn → Prop
  | .taken r c => Pinned s r c
  | .ended r c status => Pinned s r c ∧ EndedAs s.chain c status
  | .building r c => Pinned s r c
  | .polling r c h => Pinned s r c ∧ s.sent.get h = some c
  | .paid r c h => Pinned s r c ∧ s.sent.get h = some c
      ∧ s.landed.get h = some true

/-- What no step takes back. -/
structure Grows (s s' : System) : Prop where
  pinned : ∀ {r c}, Pinned s r c → Pinned s' r c
  ended : ∀ {c status}, EndedAs s.chain c status →
    EndedAs s'.chain c status
  sent : ∀ {h c}, s.sent.get h = some c → s'.sent.get h = some c
  landed : ∀ {h}, s.landed.get h = some true → s'.landed.get h = some true

/-- What a turn has seen stays true while statuses only become final and
landings only accumulate. -/
theorem Tracks.grows {turn : Turn} (ht : Tracks s turn) (h : Grows s s') :
    Tracks s' turn := by
  cases turn with
  | taken r c => exact h.pinned ht
  | ended r c status => exact ⟨h.pinned ht.1, h.ended ht.2⟩
  | building r c => exact h.pinned ht
  | polling r c hash => exact ⟨h.pinned ht.1, h.sent ht.2⟩
  | paid r c hash =>
      exact ⟨h.pinned ht.1, h.sent ht.2.1, h.landed ht.2.2⟩

/-- The job writes statuses and hashes; it never repoints a row. -/
theorem Books.contractTradeId {r : RowId} {c : Nat} {turn : Turn}
    {f : RepoTradeRow → RepoTradeRow} (h : Books r c turn f)
    (t : RepoTradeRow) : (f t).contractTradeId = t.contractTradeId := by
  cases h <;> rfl

/-- Hence a row stays pinned to its trade under any of its writes. -/
theorem Pinned.adjust {r r' : RowId} {c : Nat}
    {f : RepoTradeRow → RepoTradeRow}
    (hf : ∀ t, (f t).contractTradeId = t.contractTradeId)
    (h : Pinned s r c) :
    Pinned { s with repoTrade := s.repoTrade.adjust r' f } r c := by
  obtain ⟨t, ht, hc⟩ := h
  by_cases hr : r = r'
  · subst hr
    refine ⟨f t, ?_, (hf t).trans hc⟩
    simp [Store.get_adjust, ht]
  · exact ⟨t, by simp [Store.get_adjust, hr, ht], hc⟩

/-- No action takes back a landing, a final status or the trade a row
names. -/
theorem Did.grows (hs : Standing self s) (hok : KeepsIds a s)
    (h : Did self keeper s s' a) : Grows s s' := by
  cases h with
  | tx happ hs' =>
      subst hs'
      exact ⟨id, fun h => h.step hs.trades happ, id, id⟩
  | rows hs' =>
      subst hs'
      exact ⟨fun ⟨t, ht, hc⟩ => hok _ t _ ht hc, id, id, id⟩
  | moved _ hs' | left hs' =>
      subst hs'
      exact ⟨id, id, id, id⟩
  | @sent w h env r c _ hhash hs' =>
      subst hs'
      refine ⟨id, id, fun {k c'} hk => ?_, id⟩
      show (s.sent.set h c).get k = some c'
      rw [Store.get_set]
      split
      · next hkh =>
        subst hkh
        rw [hhash c' hk]
      · exact hk
  | @landed h env c chain _ hnone happ hs' =>
      subst hs'
      refine ⟨id, fun h => h.step hs.trades happ, id, fun {k} hk => ?_⟩
      show (s.landed.set h true).get k = some true
      rw [Store.get_set]
      split
      · rfl
      · exact hk
  | @refused h env c _ hnone hs' =>
      subst hs'
      refine ⟨id, id, id, fun {k} hk => ?_⟩
      show (s.landed.set h false).get k = some true
      rw [Store.get_set]
      split
      · next hkh =>
        subst hkh
        rw [hnone] at hk
        cases hk
      · exact hk
  | booked _ hbooks hs' =>
      subst hs'
      exact ⟨fun h => h.adjust hbooks.contractTradeId, id, id, id⟩

/-- A turn that moves on knows what its new stage claims, from what it
knew before and from what the move reads. -/
theorem Goes.tracks {from? : Option Turn} {turn : Turn}
    (h : Goes s from? turn) (hs : ∀ t, from? = some t → Tracks s t) :
    Tracks s turn := by
  cases h with
  | taken hpinned => exact hpinned
  | building =>
      have htaken := hs _ rfl
      exact htaken
  | ended hended =>
      have htaken := hs _ rfl
      exact ⟨htaken, hended⟩
  | paid hlanded =>
      obtain ⟨hpinned, hsent⟩ := hs _ rfl
      exact ⟨hpinned, hsent, hlanded⟩

/-- The job's turns, each resting on what it has to. -/
structure Tracked (addr : Address) (s : System) : Prop where
  standing : Standing addr s
  turns : ∀ w turn, s.turns.get w = some turn → Tracks s turn

/-- A turn moves, the others stay. -/
theorem tracks_set {w : Nat} {turn : Turn}
    (hturns : ∀ v turn, s.turns.get v = some turn → Tracks s turn)
    (hnew : Tracks s turn) (v : Nat) (t : Turn)
    (hv : (s.turns.set w turn).get v = some t) : Tracks s t := by
  rw [Store.get_set] at hv
  split at hv
  · injection hv with hv
    exact hv ▸ hnew
  · exact hturns v t hv

/-- A turn that is dropped leaves the knowledge of the others alone. -/
theorem tracks_remove {w : Nat}
    (hturns : ∀ v turn, s.turns.get v = some turn → Tracks s turn)
    (v : Nat) (t : Turn)
    (hv : (s.turns.remove w).get v = some t) : Tracks s t := by
  rw [Store.get_remove] at hv
  split at hv
  · cases hv
  · exact hturns v t hv

/-- Rows, turns and chain stay in agreement over one action. -/
theorem Tracked.step (ht : Tracked self s) (hok : KeepsIds a s)
    (h : step self keeper a s = .ok s') : Tracked self s' := by
  have hdid := step_did h
  have hgrows := hdid.grows ht.standing hok
  refine ⟨ht.standing.step h, fun v turn hv => ?_⟩
  suffices hbefore : Tracks s turn ∨ ∃ w r c hash,
      s' = moveTo { s with sent := s.sent.set hash c } w
        (.polling r c hash) ∧ Pinned s r c ∧ turn = .polling r c hash by
    rcases hbefore with hbefore | ⟨w, r, c, hash, rfl, hpinned, rfl⟩
    · exact hbefore.grows hgrows
    · exact ⟨hpinned, Store.get_set_self _ _ _⟩
  cases hdid with
  | tx _ hs' | rows hs' =>
      subst hs'
      exact .inl (ht.turns v turn hv)
  | @moved w new _ hgoes hs' =>
      subst hs'
      exact .inl (tracks_set ht.turns (hgoes.tracks (ht.turns w)) v turn hv)
  | left hs' | booked _ _ hs' =>
      subst hs'
      exact .inl (tracks_remove ht.turns v turn hv)
  | @sent w hash env r c hw hhash hs' =>
      subst hs'
      replace hv : (s.turns.set w (.polling r c hash)).get v = some turn := hv
      rw [Store.get_set] at hv
      split at hv
      · injection hv with hv
        exact .inr ⟨w, r, c, hash, rfl, ht.turns w _ hw, hv.symm⟩
      · exact .inl (ht.turns v turn hv)
  | landed _ _ _ hs' | refused _ _ hs' =>
      subst hs'
      exact .inl (ht.turns v turn hv)

/-- From the start, over every run in which nobody repoints a row. -/
theorem tracked_run {txs : List RepoDvp.Tx}
    {repoTrade : Store RowId RepoTradeRow} {as : List Act}
    (has : (machine self keeper txs repoTrade).Allowed KeepsIds
      (machine self keeper txs repoTrade).init as) :
    Tracked self ((machine self keeper txs repoTrade).run
      (machine self keeper txs repoTrade).init as) := by
  refine Machine.run_induction (P := Tracked self)
    (fun s a s' ht hok h => ht.step hok h) ?_ has
  refine ⟨standing_run txs repoTrade [], fun w turn hw => ?_⟩
  cases hw

/-- What the chain has ended stays ended. -/
theorem ended_run {txs : List RepoDvp.Tx}
    {repoTrade : Store RowId RepoTradeRow} {c : Nat} {status : TradeStatus}
    (hs : Standing self s) (hended : EndedAs s.chain c status)
    (as : List Act) :
    EndedAs ((machine self keeper txs repoTrade).run s as).chain c
      status := by
  have hboth := Machine.run_induction (M := machine self keeper txs repoTrade)
    (P := fun t => Standing self t ∧ EndedAs t.chain c status)
    (fun t a t' ht _ h => ?_) ⟨hs, hended⟩ (Machine.allowed_true s as)
  · exact hboth.2
  · refine ⟨ht.1.step h, ?_⟩
    cases step_did h with
    | tx happ hs' | landed _ _ happ hs' =>
        subst hs'
        exact ht.2.step ht.1.trades happ
    | rows hs' | left hs' | moved _ hs' | sent _ _ hs' | refused _ _ hs'
    | booked _ _ hs' =>
        subst hs'
        exact ht.2

/-- A write of the job: row `r`, for trade `c`, goes from `t` to `t'`. -/
structure Writes (s s' : System) (r : RowId) (c : Nat)
    (t t' : RepoTradeRow) : Prop where
  before : s.repoTrade.get r = some t
  after : s'.repoTrade.get r = some t'
  pinned : t'.contractTradeId = some c
  others : ∀ r', r' ≠ r → s'.repoTrade.get r' = s.repoTrade.get r'
  /-- the hash it books is of its own `unwind`, which succeeded -/
  leg2Tx : t'.leg2Tx = t.leg2Tx ∨ ∃ h, t'.leg2Tx = some h
    ∧ s.sent.get h = some c ∧ s.landed.get h = some true

/-- Whatever lands while a turn is under way, and whatever happens after,
the chain has the trade of a row the job books in the status it books. -/
theorem books_true (self keeper : Address) (txs : List RepoDvp.Tx)
    (repoTrade : Store RowId RepoTradeRow) (as : List Act)
    (has : (machine self keeper txs repoTrade).Allowed KeepsIds
      (machine self keeper txs repoTrade).init as)
    {w : Nat} {s' : System}
    (hwrite : (machine self keeper txs repoTrade).apply (.write w)
      ((machine self keeper txs repoTrade).run
        (machine self keeper txs repoTrade).init as) = .ok s') :
    ∃ r c t t', Writes ((machine self keeper txs repoTrade).run
        (machine self keeper txs repoTrade).init as) s' r c t t'
      ∧ ∀ bs, EndedAs ((machine self keeper txs repoTrade).run s' bs).chain
          c t'.status := by
  have ht := tracked_run has
  replace hwrite : step self keeper (.write w)
    ((machine self keeper txs repoTrade).run
      (machine self keeper txs repoTrade).init as) = .ok s' := hwrite
  generalize (machine self keeper txs repoTrade).run
    (machine self keeper txs repoTrade).init as = s at hwrite ht ⊢
  have hstanding := ht.standing.step hwrite
  obtain ⟨turn, r, c, f, hw, hbooks, rfl⟩ := write_did hwrite
  have hpinned : Pinned s r c := by
    cases hbooks with
    | ended => exact (ht.turns w _ hw).1
    | paid => exact (ht.turns w _ hw).1
  obtain ⟨t, hrow, hc⟩ := hpinned
  refine ⟨r, c, t, f t, ⟨hrow, ?_, (hbooks.contractTradeId t).trans hc, ?_,
    ?_⟩, fun bs => ended_run hstanding ?_ bs⟩
  · simp [leave, Store.get_adjust, hrow]
  · intro r' hr
    simp [leave, Store.get_adjust, hr]
  · cases hbooks with
    | ended => exact .inl rfl
    | @paid h =>
        obtain ⟨-, hsent, hlanded⟩ := ht.turns w _ hw
        exact .inr ⟨h, rfl, hsent, hlanded⟩
  · cases hbooks with
    | ended => exact (ht.turns w _ hw).2
    | @paid h =>
        obtain ⟨-, hsent, hlanded⟩ := ht.turns w _ hw
        exact hstanding.unwound h c hsent hlanded

/-- The `unwind` that succeeded is booked, and the trade stays unwound. -/
theorem books_true_demo :
    let M := machine RepoDvp.Demo.self Demo.operator Demo.lent Demo.rows
    ∃ r c t t', Writes (M.run M.init Demo.raced)
        (M.run M.init (Demo.raced ++ [.write 0])) r c t t'
      ∧ ∀ bs, EndedAs (M.run (M.run M.init (Demo.raced ++ [.write 0]))
          bs).chain c t'.status := by
  intro M
  have hids : M.Allowed KeepsIds M.init Demo.raced := by
    simp [Demo.raced, Machine.Allowed, KeepsIds]
  have hwrite : (M.apply (.write 0) (M.run M.init Demo.raced)).isOk
      = true := by decide +kernel
  exact books_true RepoDvp.Demo.self Demo.operator Demo.lent Demo.rows
    Demo.raced hids (Machine.apply_of_isOk hwrite)

-- ============================================================== a whole turn

/-- Row `r` is settled no more. -/
def Closed (s : System) (r : RowId) : Prop :=
  ∃ t, s.repoTrade.get r = some t ∧ t.status ≠ .settled

variable {txs : List RepoDvp.Tx} {repoTrade : Store RowId RepoTradeRow}
  {w c now : Nat} {r : RowId} {h : TxHash} {env env' : Env}
  {t : RepoTradeRow}

/-- A turn after its read: what it sends at `env` lands at `env'`. -/
def rest (w : Nat) (h : TxHash) (env env' : Env) : List Act :=
  [.send w h env, .land h env', .confirm w, .write w]

/-- A turn with nothing in between. -/
def turn (w : Nat) (r : RowId) (now : Nat) (h : TxHash) (env env' : Env) :
    List Act :=
  .take w r now :: .read w :: rest w h env env'

/-- An action that is not possible leaves the system as it is. -/
theorem exec_stuck {a : Act} (h : ∀ s', step self keeper a s ≠ .ok s') :
    (machine self keeper txs repoTrade).exec s a = s := by
  rcases (machine self keeper txs repoTrade).exec_cases s a with hok | hsame
  · exact absurd hok (h _)
  · exact hsame

/-- A due row that is still settled is taken. -/
theorem exec_take (hfree : s.turns.get w = none)
    (hrow : s.repoTrade.get r = some t) (hsettled : t.status = .settled)
    (hdue : t.maturityAt ≤ now) (hid : t.contractTradeId = some c) :
    (machine self keeper txs repoTrade).exec s (.take w r now)
      = moveTo s w (.taken r c) := by
  apply Machine.exec_of_ok
  simp [machine, step, take, hfree, hrow, hsettled, hdue, hid,
    -bind_pure_comp]

/-- The call simulates, and the submission goes out under a fresh hash. -/
theorem exec_send (hw : s.turns.get w = some (.building r c))
    (hfresh : s.sent.get h = none)
    (hcall : (call (env.at self) (.unwind keeper c) s.chain).isOk = true) :
    (machine self keeper txs repoTrade).exec s (.send w h env)
      = moveTo { s with sent := s.sent.set h c } w (.polling r c h) := by
  obtain ⟨_, hok⟩ := isOk_iff.mp hcall
  apply Machine.exec_of_ok
  simp [machine, step, send, turnAt, hw, hfresh, hok]

/-- A turn whose call does not simulate sends nothing, and the action is
spent. -/
theorem exec_send_stuck
    (hw : ∀ r c, s.turns.get w = some (.building r c) →
      (call (env.at self) (.unwind keeper c) s.chain).isOk = false) :
    (machine self keeper txs repoTrade).exec s (.send w h env) = s := by
  refine exec_stuck fun s' hok => ?_
  simp only [step, send, turnAt, bind_ok, expect_ok] at hok
  obtain ⟨turn, hturn, hok⟩ := hok
  split at hok
  · next r c =>
    obtain ⟨_, -, hok⟩ := bind_ok.mp hok
    obtain ⟨chain, hcall, -⟩ := bind_ok.mp hok
    have hfailed := hw r c hturn
    rw [hcall] at hfailed
    cases hfailed
  · cases hok

/-- A submission lands and succeeds. -/
theorem exec_land (hsent : s.sent.get h = some c)
    (hnever : s.landed.get h = none) {chain : World RepoDvp.State}
    (hok : call (env.at self) (.unwind keeper c) s.chain = .ok chain) :
    (machine self keeper txs repoTrade).exec s (.land h env)
      = { s with chain := chain, landed := s.landed.set h true } := by
  apply Machine.exec_of_ok
  simp [machine, step, land, hsent, hnever, hok]

/-- A submission lands and fails: the chain stays as it is. -/
theorem exec_land_failed (hsent : s.sent.get h = some c)
    (hnever : s.landed.get h = none) {e : String}
    (herror : call (env.at self) (.unwind keeper c) s.chain = .error e) :
    (machine self keeper txs repoTrade).exec s (.land h env)
      = { s with landed := s.landed.set h false } := by
  apply Machine.exec_of_ok
  simp [machine, step, land, hsent, hnever, herror]

/-- What was never sent never lands. -/
theorem exec_land_unsent (hfresh : s.sent.get h = none) :
    (machine self keeper txs repoTrade).exec s (.land h env) = s :=
  exec_stuck fun s' hok => by simp [step, land, hfresh] at hok

/-- The poll of a landed success is answered. -/
theorem exec_confirm (hw : s.turns.get w = some (.polling r c h))
    (hlanded : s.landed.get h = some true) :
    (machine self keeper txs repoTrade).exec s (.confirm w)
      = moveTo s w (.paid r c h) := by
  apply Machine.exec_of_ok
  simp [machine, step, confirm, turnAt, hw, hlanded, -bind_pure_comp]

/-- Without a success there is nothing to confirm. -/
theorem exec_confirm_stuck
    (hw : ∀ r c h, s.turns.get w = some (.polling r c h) →
      s.landed.get h ≠ some true) :
    (machine self keeper txs repoTrade).exec s (.confirm w) = s := by
  refine exec_stuck fun s' hok => ?_
  simp only [step, confirm, turnAt, bind_ok, expect_ok] at hok
  obtain ⟨turn, hturn, hok⟩ := hok
  split at hok
  · next r c h =>
    obtain ⟨_, hlanded, -⟩ := bind_ok.mp hok
    exact hw r c h hturn (ensure_ok.mp hlanded)
  · cases hok

/-- The turn books and is over. -/
theorem exec_write {turn : Turn} {f : RepoTradeRow → RepoTradeRow}
    (hw : s.turns.get w = some turn) (hbooks : Books r c turn f) :
    (machine self keeper txs repoTrade).exec s (.write w)
      = leave { s with repoTrade := s.repoTrade.adjust r f } w := by
  apply Machine.exec_of_ok
  cases hbooks <;> simp [machine, step, write, turnAt, hw]

/-- A turn that has nothing to book writes nothing. -/
theorem exec_write_stuck
    (hw : ∀ turn r c f, s.turns.get w = some turn → ¬ Books r c turn f) :
    (machine self keeper txs repoTrade).exec s (.write w) = s := by
  refine exec_stuck fun s' hok => ?_
  obtain ⟨turn, r, c, f, hturn, hbooks, -⟩ := write_did hok
  exact hw turn r c f hturn hbooks

/-- A trade the chain has ended is booked as the chain has it. -/
theorem rest_ended {status : TradeStatus} (hstatus : status ≠ .settled)
    (hw : s.turns.get w = some (.ended r c status))
    (hrow : s.repoTrade.get r = some t) (hfresh : s.sent.get h = none) :
    Closed ((machine self keeper txs repoTrade).run s
      (rest w h env env')) r := by
  have hnoSend : ∀ r' c', s.turns.get w ≠ some (.building r' c') := by
    simp [hw]
  have hnoPoll : ∀ r' c' h', s.turns.get w ≠ some (.polling r' c' h') := by
    simp [hw]
  simp only [rest, Machine.run_cons, Machine.run_nil]
  rw [exec_send_stuck fun r' c' hturn => absurd hturn (hnoSend r' c'),
    exec_land_unsent hfresh,
    exec_confirm_stuck fun r' c' h' hturn => absurd hturn (hnoPoll r' c' h'),
    exec_write hw .ended]
  exact ⟨{ t with status := status },
    by simp [leave, Store.get_adjust, hrow], hstatus⟩

/-- One that sends nothing books nothing. -/
theorem rest_unsent (hrow : s.repoTrade.get r = some t)
    (hsettled : t.status = .settled) (hfresh : s.sent.get h = none)
    (hw : s.turns.get w = none ∨ s.turns.get w = some (.taken r c)
      ∨ s.turns.get w = some (.building r c)
        ∧ (call (env.at self) (.unwind keeper c) s.chain).isOk = false) :
    ¬ Closed ((machine self keeper txs repoTrade).run s
      (rest w h env env')) r := by
  have hnoSend : ∀ r' c', s.turns.get w = some (.building r' c') →
      (call (env.at self) (.unwind keeper c') s.chain).isOk = false := by
    intro r' c' hturn
    rcases hw with hw | hw | ⟨hw, hcall⟩ <;> rw [hw] at hturn
    · cases hturn
    · cases hturn
    · cases hturn
      exact hcall
  have hnoPoll : ∀ r' c' h', s.turns.get w ≠ some (.polling r' c' h') := by
    rcases hw with hw | hw | ⟨hw, -⟩ <;> simp [hw]
  have hnoBook : ∀ turn r' c' f, s.turns.get w = some turn →
      ¬ Books r' c' turn f := by
    intro turn r' c' f hturn hbooks
    rcases hw with hw | hw | ⟨hw, -⟩ <;> rw [hw] at hturn <;> cases hturn <;>
      cases hbooks
  simp only [rest, Machine.run_cons, Machine.run_nil]
  rw [exec_send_stuck hnoSend, exec_land_unsent hfresh,
    exec_confirm_stuck fun r' c' h' hturn => absurd hturn (hnoPoll r' c' h'),
    exec_write_stuck hnoBook]
  rintro ⟨t', ht', hopen⟩
  rw [hrow] at ht'
  injection ht' with ht'
  exact hopen (ht' ▸ hsettled)

/-- What was sent is booked if it succeeds when it lands. -/
theorem polling_closes (hrow : s.repoTrade.get r = some t)
    (hsettled : t.status = .settled) (hsent : s.sent.get h = some c)
    (hnever : s.landed.get h = none)
    (hw : s.turns.get w = some (.polling r c h)) :
    Closed ((machine self keeper txs repoTrade).run s
        [.land h env, .confirm w, .write w]) r
      ↔ (call (env.at self) (.unwind keeper c) s.chain).isOk = true := by
  simp only [Machine.run_cons, Machine.run_nil]
  cases hland : call (env.at self) (.unwind keeper c) s.chain with
  | ok chain =>
      have hconfirm : (machine self keeper txs repoTrade).exec
          { s with chain := chain, landed := s.landed.set h true }
          (.confirm w)
        = moveTo { s with chain := chain, landed := s.landed.set h true } w
            (.paid r c h) :=
        exec_confirm hw (Store.get_set_self _ _ _)
      have hunwound : TradeStatus.unwound ≠ .settled := by decide
      rw [exec_land hsent hnever hland, hconfirm,
        exec_write (Store.get_set_self _ _ _) .paid]
      refine ⟨fun _ => rfl, fun _ =>
        ⟨{ t with status := .unwound, leg2Tx := some h }, ?_, hunwound⟩⟩
      simp [leave, moveTo, Store.get_adjust, hrow]
  | error e =>
      have hconfirm : (machine self keeper txs repoTrade).exec
          { s with landed := s.landed.set h false } (.confirm w)
        = { s with landed := s.landed.set h false } := by
        refine exec_confirm_stuck fun r' c' h' hturn => ?_
        have hsame : Turn.polling r c h = .polling r' c' h' :=
          Option.some.inj (hw.symm.trans hturn)
        injection hsame with _ _ hh
        simp [hh]
      have hwrite : (machine self keeper txs repoTrade).exec
          { s with landed := s.landed.set h false } (.write w)
        = { s with landed := s.landed.set h false } := by
        refine exec_write_stuck fun turn r' c' f hturn hbooks => ?_
        obtain rfl : Turn.polling r c h = turn :=
          Option.some.inj (hw.symm.trans hturn)
        cases hbooks
      rw [exec_land_failed hsent hnever hland, hconfirm, hwrite]
      constructor
      · rintro ⟨t', ht', hopen⟩
        obtain rfl : t = t' := Option.some.inj (hrow.symm.trans ht')
        exact absurd hsettled hopen
      · intro hok
        cases hok

/-- One that sends its `unwind` books it if it lands. -/
theorem rest_sent (hrow : s.repoTrade.get r = some t)
    (hsettled : t.status = .settled) (hfresh : s.sent.get h = none)
    (hnever : s.landed.get h = none)
    (hw : s.turns.get w = some (.building r c))
    (hcall : (call (env.at self) (.unwind keeper c) s.chain).isOk = true) :
    Closed ((machine self keeper txs repoTrade).run s
        (rest w h env env')) r
      ↔ (call (env'.at self) (.unwind keeper c) s.chain).isOk = true := by
  rw [rest, Machine.run_cons, exec_send hw hfresh hcall]
  exact polling_closes hrow hsettled (Store.get_set_self _ _ _) hnever
    (Store.get_set_self _ _ _)

/-- Where a turn stands once it has read the trade. -/
def afterRead (s : System) (w : Nat) (r : RowId) (c : Nat) : System :=
  match statusOf s.chain.store c with
  | some .settled => moveTo s w (.building r c)
  | some .unwound => moveTo s w (.ended r c .unwound)
  | some .defaulted => moveTo s w (.ended r c .defaulted)
  | some _ => leave s w
  | none => s

/-- The reading of the trade decides where the turn goes. -/
theorem exec_read (hw : s.turns.get w = some (.taken r c)) :
    (machine self keeper txs repoTrade).exec s (.read w)
      = afterRead s w r c := by
  cases htrade : s.chain.store.trades.get c with
  | none =>
      simp [Machine.exec, machine, step, read, turnAt, readTrade, expect, hw,
        htrade, afterRead, statusOf, bind, Except.bind]
  | some x =>
      cases hst : x.status <;>
        simp [Machine.exec, machine, step, read, turnAt, readTrade, expect,
          hw, htrade, hst, afterRead, statusOf, bind, Except.bind, pure,
          Except.pure]

/-- A crash is made up for: whatever was cut short before, whatever is
still in flight, a turn over a due row closes it exactly if the chain has
ended the trade, or `unwind` succeeds both when it is simulated and when
it lands. -/
theorem turn_closes_iff (self keeper : Address) (txs : List RepoDvp.Tx)
    (repoTrade : Store RowId RepoTradeRow) (as : List Act) {w now c : Nat}
    {r : RowId} {h : TxHash} {env env' : Env} {t : RepoTradeRow} :
    let M := machine self keeper txs repoTrade
    let s := M.run M.init as
    s.turns.get w = none → s.sent.get h = none →
    s.repoTrade.get r = some t → t.status = .settled →
    t.maturityAt ≤ now → t.contractTradeId = some c →
    (Closed (M.run s (turn w r now h env env')) r
      ↔ EndedAs s.chain c .unwound ∨ EndedAs s.chain c .defaulted
        ∨ (call (env.at self) (.unwind keeper c) s.chain).isOk = true
          ∧ (call (env'.at self) (.unwind keeper c) s.chain).isOk
            = true) := by
  intro M s hfree hfresh hrow hsettled hdue hid
  have hs : Standing self s := standing_run txs repoTrade as
  have hnever := hs.sent h hfresh
  have htake : M.exec s (.take w r now) = moveTo s w (.taken r c) :=
    exec_take hfree hrow hsettled hdue hid
  have hread : M.exec (moveTo s w (.taken r c)) (.read w)
      = afterRead (moveTo s w (.taken r c)) w r c :=
    exec_read (Store.get_set_self _ _ _)
  have hstatus : statusOf (moveTo s w (.taken r c)).chain.store c
      = statusOf s.chain.store c := rfl
  rw [turn, Machine.run_cons, Machine.run_cons, htake, hread, afterRead,
    hstatus]
  -- a trade that is not settled cannot be unwound
  have hopen : ∀ {st : Option RepoStatus} {env : Env},
      statusOf s.chain.store c = st → st ≠ some .settled →
      (call (env.at self) (.unwind keeper c) s.chain).isOk ≠ true := by
    intro st env hst hne hcall
    obtain ⟨chain, hok⟩ := isOk_iff.mp hcall
    exact hne (hst ▸ (unwind_status hs.trades hok).1)
  cases hst : statusOf s.chain.store c with
  | none =>
      have hnot : ¬ Closed (M.run (moveTo s w (.taken r c))
          (rest w h env env')) r :=
        rest_unsent hrow hsettled hfresh (.inr (.inl
          (Store.get_set_self _ _ _)))
      simp [hnot, EndedAs, hst, hopen hst (by decide)]
  | some st =>
      cases st with
      | unwound =>
          have hclosed : Closed (M.run (moveTo (moveTo s w (.taken r c)) w
              (.ended r c .unwound)) (rest w h env env')) r :=
            rest_ended (by decide : TradeStatus.unwound ≠ .settled)
              (Store.get_set_self _ _ _) hrow hfresh
          simp [hclosed, EndedAs, hst]
      | defaulted =>
          have hclosed : Closed (M.run (moveTo (moveTo s w (.taken r c)) w
              (.ended r c .defaulted)) (rest w h env env')) r :=
            rest_ended (by decide : TradeStatus.defaulted ≠ .settled)
              (Store.get_set_self _ _ _) hrow hfresh
          simp [hclosed, EndedAs, hst]
      | proposed | cancelled =>
          have hnot : ¬ Closed (M.run (leave (moveTo s w (.taken r c)) w)
              (rest w h env env')) r :=
            rest_unsent (c := c) hrow hsettled hfresh (.inl
              (Store.get_remove_self _ _))
          simp [hnot, EndedAs, hst, hopen hst (by decide)]
      | settled =>
          have hw : (moveTo (moveTo s w (.taken r c)) w
              (.building r c)).turns.get w = some (.building r c) :=
            Store.get_set_self _ _ _
          by_cases hcall :
              (call (env.at self) (.unwind keeper c) s.chain).isOk = true
          · have hiff : Closed (M.run (moveTo (moveTo s w (.taken r c)) w
                (.building r c)) (rest w h env env')) r
                  ↔ (call (env'.at self) (.unwind keeper c) s.chain).isOk
                    = true :=
              rest_sent hrow hsettled hfresh hnever hw hcall
            simp [EndedAs, hst, hcall, hiff]
          · have hnot : ¬ Closed (M.run (moveTo (moveTo s w (.taken r c)) w
                (.building r c)) (rest w h env env')) r :=
              rest_unsent hrow hsettled hfresh (.inr (.inr
                ⟨hw, Bool.eq_false_of_not_eq_true hcall⟩))
            simp [EndedAs, hst, hcall, hnot]

/-- The keeper sent its `unwind` and crashed; the next turn finds the trade
unwound and closes the row. -/
theorem turn_closes_iff_demo :
    let M := machine RepoDvp.Demo.self Demo.operator Demo.lent Demo.rows
    let s := M.run M.init Demo.crashed
    Closed (M.run s (turn 1 7 1000000 21 Demo.due Demo.due)) 7 := by
  intro M s
  have hfree : s.turns.get 1 = none := by decide +kernel
  have hfresh : s.sent.get 21 = none := by decide +kernel
  have hrow : s.repoTrade.get 7 = some ⟨some 0, 1000000, .settled, none⟩ := by
    decide +kernel
  have hunwound : statusOf s.chain.store 0 = some .unwound := by
    decide +kernel
  exact (turn_closes_iff RepoDvp.Demo.self Demo.operator Demo.lent Demo.rows
    Demo.crashed hfree hfresh hrow rfl (le_refl _) rfl).mpr (.inl hunwound)

end Ballast.Keeper.RepoUnwind
