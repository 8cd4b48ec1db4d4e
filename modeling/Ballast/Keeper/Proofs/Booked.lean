/-
The books of a trade's margin call, in runs that book in time.

`call_margin` takes effect on the chain before the job has written
anything, and the job decides what to write from what it finds on the
chain: once the flag and the band agree again, it does not come back. So
a change of the flag has to be booked by whoever made it, before anything
else changes the trade's call. `InTime` says so step by step, and the
invariant (`Booked`) says what the books owe in between: nothing is owed
while no run stands between the landing of its `call_margin` and its
write, except to a top-up that has cleared the call and is not settled.
-/
import Ballast.Keeper.Proofs.Filed

namespace Ballast.Keeper

open Soroban RepoDvp
open Api (TxHash RowId IntentStatus RepoMarginCallRow cureCalls)

-- ============================================================ the property

/-- When the open calls of row `r` are due. -/
def openDues (calls : List RepoMarginCallRow) (r : RowId) : List Nat :=
  (calls.filter fun k => k.tradeId = r ∧ k.curedAt.isNone).map (·.dueAt)

/-- One open call, due at the trade's deadline, while its call is open on
the chain, and none otherwise. -/
def Agrees (r : RowId) (c : Nat) (s : System) : Prop :=
  openDues s.db.repoMarginCall r = (due s.chain c).toList.map (· * 1000)

instance (r : RowId) (c : Nat) (s : System) : Decidable (Agrees r c s) :=
  inferInstanceAs (Decidable (_ = _))

-- =========================================================== the condition

/-- A run polls a `call_margin` of row `r` sent under `h`. -/
def Stage.waits (r : RowId) (h : TxHash) : Stage → Bool
  | .polling row _ close k => row = r ∧ close = false ∧ k = h
  | _ => false

/-- It has one that landed, and has not written it. -/
def Stage.owes (r : RowId) (landed : Store TxHash Bool) : Stage → Bool
  | .polling row _ close h =>
      row = r ∧ close = false ∧ landed.get h = some true
  | .called row _ => row = r
  | .booking row _ => row = r
  | _ => false

/-- It has read the trade and is about to write. -/
def Stage.writes (r : RowId) : Stage → Bool
  | .booking row _ => row = r
  | _ => false

def System.waits (s : System) (r : RowId) (h : TxHash) : Bool :=
  s.run.any fun run => run.stage.waits r h

def System.owes (s : System) (r : RowId) : Bool :=
  s.run.any fun run => run.stage.owes r s.landed

def System.writes (s : System) (r : RowId) : Bool :=
  s.run.any fun run => run.stage.writes r

/-- A top-up of row `r` has landed and is not settled. -/
def Unsettled (r : RowId) (s : System) : Prop :=
  ∃ h ∈ s.db.txIntent.keys,
    ((s.db.txIntent.get h).any fun i =>
      i.refId = r ∧ i.status = .pending) = true
    ∧ s.landed.get h = some true

instance (r : RowId) (s : System) : Decidable (Unsettled r s) :=
  inferInstanceAs (Decidable (∃ h ∈ _, _))

def System.isTopUp (s : System) (h : TxHash) : Bool :=
  match s.sent.get h with
  | some (.topUp ..) => true
  | _ => false

/-- The chain after `h` has landed, if it succeeds. -/
def afterLanding (self : Address) (h : TxHash) (env : Env) (s : System) :
    Option (World RepoDvp.State) :=
  match s.sent.get h with
  | some e =>
      match call (env.at self) e s.chain with
      | .ok chain => some chain
      | .error _ => none
  | none => none

/-- A landing that leaves the books time to follow:
- a call moves for a run that waits for the `call_margin`, or for a
  top-up;
- a `call_margin` a run waits for does not find an open call still in the
  band;
- no call is opened over a top-up that is not settled;
- no top-up clears a call that is about to be written. -/
structure LandsInTime (r : RowId) (c : Nat) (h : TxHash) (s : System)
    (chain : World RepoDvp.State) : Prop where
  waited : due chain c ≠ due s.chain c →
    s.waits r h = true ∨ s.isTopUp h = true
  cleared : s.waits r h = true → due s.chain c ≠ none → due chain c = none
  settled : due s.chain c = none → due chain c ≠ none → ¬ Unsettled r s
  written : s.isTopUp h = true → due chain c ≠ due s.chain c →
    s.writes r = false

instance (r : RowId) (c : Nat) (h : TxHash) (s : System)
    (chain : World RepoDvp.State) : Decidable (LandsInTime r c h s chain) :=
  decidable_of_iff
    ((due chain c ≠ due s.chain c →
        s.waits r h = true ∨ s.isTopUp h = true)
      ∧ (s.waits r h = true → due s.chain c ≠ none → due chain c = none)
      ∧ (due s.chain c = none → due chain c ≠ none → ¬ Unsettled r s)
      ∧ (s.isTopUp h = true → due chain c ≠ due s.chain c →
        s.writes r = false))
    ⟨fun ⟨h₁, h₂, h₃, h₄⟩ => ⟨h₁, h₂, h₃, h₄⟩,
      fun ⟨h₁, h₂, h₃, h₄⟩ => ⟨h₁, h₂, h₃, h₄⟩⟩

/-- The chain after a transaction from elsewhere, if it commits. -/
def afterOutside (self : Address) (tx : RepoDvp.Tx) (s : System) :
    Option (World RepoDvp.State) :=
  ((RepoDvp.machine self).apply tx s.chain).toOption

/-- The call of trade `c` is not moved past the keeper and the API (calls
that abort move nothing, and are free), and a change of it is booked
before the next: the run that made it is not interrupted, and landings
leave it the time. -/
def InTime (self : Address) (r : RowId) (c : Nat) (a : Act) (s : System) :
    Prop :=
  match a with
  | .outside tx => ∀ chain ∈ afterOutside self tx s,
      due chain c = due s.chain c
  | .land h env => ∀ chain ∈ afterLanding self h env s,
      LandsInTime r c h s chain
  | .fail => s.owes r = false
  | .stop => s.owes r = false
  | _ => True

instance (self : Address) (r : RowId) (c : Nat) (a : Act) (s : System) :
    Decidable (InTime self r c a s) := by
  unfold InTime
  split <;> infer_instance

-- ============================================================== open calls

variable {self keeper : Address} {r : RowId} {c : Nat} {s s' : System}
  {a : Act}

theorem openDues_cure (calls : List RepoMarginCallRow) (k : RowId)
    (now : Nat) : openDues (cureCalls calls k now) r
      = if k = r then [] else openDues calls r := by
  induction calls with
  | nil => simp [openDues, cureCalls]
  | cons x calls ih =>
      simp only [openDues, cureCalls] at ih
      simp only [openDues, cureCalls, List.map_cons, List.filter_cons]
      by_cases hx : x.tradeId = k ∧ x.curedAt.isNone = true
      · rw [if_pos hx]
        simp only [Option.isNone_some, Bool.false_eq_true, and_false,
          decide_false, if_false]
        rw [ih]
        by_cases hk : k = r
        · rw [if_pos hk, if_pos hk]
        · rw [if_neg hk, if_neg hk, if_neg]
          simp [hx.1, hk]
      · rw [if_neg hx]
        by_cases hk : k = r
        · subst hk
          rw [if_pos rfl] at ih ⊢
          rw [if_neg (by simpa using hx), ih]
        · rw [if_neg hk] at ih ⊢
          split
          · rw [List.map_cons, List.map_cons, ih]
          · exact ih

/-- The job's write, for the row it is about and for the others. -/
theorem openDues_bookCall (db : Db) (k : RowId) (after : RepoTrade)
    (now : Nat) :
    openDues (bookCall db k after now).repoMarginCall r
      = if k = r then
          match dueOf after with
          | some d => openDues db.repoMarginCall r ++ [d * 1000]
          | none => []
        else openDues db.repoMarginCall r := by
  unfold bookCall
  split
  · next d hp hd =>
    rw [dueOf, hp, hd]
    simp only [openDues, List.filter_append, List.map_append, if_true]
    by_cases hk : k = r
    · simp [hk]
    · simp [hk]
  · next hno =>
    have hnone : dueOf after = none := by
      unfold dueOf
      cases hp : after.pendingMarginCall with
      | false => rfl
      | true =>
          cases hd : after.cureDeadline with
          | none => rfl
          | some d => exact (hno d hp hd).elim
    rw [hnone]
    exact openDues_cure _ k now

theorem openDues_bookTopUp (db : Db) (h : TxHash) (intent : TopUpIntent)
    (onChain : RepoTrade) (now : Nat) :
    openDues (bookTopUp db h intent onChain now).repoMarginCall r
      = if onChain.pendingMarginCall = false ∧ intent.refId = r then []
        else openDues db.repoMarginCall r := by
  unfold bookTopUp
  cases hp : onChain.pendingMarginCall with
  | true => simp [Db.updateTrade]
  | false =>
      simp only [Bool.false_eq_true, if_false, true_and]
      exact openDues_cure _ intent.refId now

-- ============================================================ the invariant

/-- A top-up of row `r` has cleared the call, and everyone who has read
the trade for it knows. -/
def Curing (r : RowId) (s : System) : Prop :=
  ∃ h intent, s.db.txIntent.get h = some intent ∧ intent.refId = r
    ∧ intent.status = .pending ∧ s.landed.get h = some true
    ∧ ∀ w t, s.readers.get w = some (h, t) → t.pendingMarginCall = false

structure Booked (r : RowId) (c : Nat) (s : System) : Prop where
  settled : s.owes r = false →
    Agrees r c s ∨ due s.chain c = none ∧ Curing r s
  owed : s.owes r = true → due s.chain c ≠ none →
    openDues s.db.repoMarginCall r = []
  writing : ∀ run after, s.run = some run →
    run.stage = .booking r after → dueOf after = due s.chain c
  held : ∀ w h t intent, s.readers.get w = some (h, t) →
    s.db.txIntent.get h = some intent → intent.refId = r →
    intent.status = .pending → t.pendingMarginCall = false →
    due s.chain c = none

theorem unsettled_of {h : TxHash} {intent : TopUpIntent}
    (hintent : s.db.txIntent.get h = some intent)
    (hrow : intent.refId = r) (hpending : intent.status = .pending)
    (hlanded : s.landed.get h = some true) : Unsettled r s := by
  refine ⟨h, ?_, by simp [hintent, hrow, hpending], hlanded⟩
  by_contra hkey
  rw [Store.not_mem_keys.mp hkey] at hintent
  cases hintent

theorem Curing.unsettled (h : Curing r s) : Unsettled r s := by
  obtain ⟨k, intent, hintent, hrow, hpending, hlanded, -⟩ := h
  exact unsettled_of hintent hrow hpending hlanded

/-- A run that owes nothing may go anywhere it owes nothing. -/
theorem Booked.ofRun (hb : Booked r c s) (hold : s.owes r = false)
    {run' : Option Run} (hnew : ({ s with run := run' }).owes r = false)
    (hwrite : ∀ run after, run' = some run →
      run.stage ≠ .booking r after) :
    Booked r c { s with run := run' } where
  settled _ := hb.settled hold
  owed howes := by
    rw [hnew] at howes
    cases howes
  writing run after hrun hstage := absurd hstage (hwrite run after hrun)
  held := hb.held

theorem owes_of_stage {run : Run} (hrun : s.run = some run) :
    s.owes r = run.stage.owes r s.landed := by
  simp [System.owes, hrun]

theorem Booked.toIdle (hb : Booked r c s) (hold : s.owes r = false)
    (run : Run) : Booked r c (moveTo s run .idle) :=
  hb.ofRun hold rfl fun run' after hrun' hstage => by
    injection hrun' with hrun'
    subst hrun'
    cases hstage

-- ============================================================= the landings

/-- A transaction that landed was not among the ones known to. -/
theorem landed_set {landed : Store TxHash Bool} {h k : TxHash}
    (hnone : landed.get h = none) (success : Bool)
    (hk : landed.get k = some true) :
    (landed.set h success).get k = some true := by
  rw [Store.get_set, if_neg]
  · exact hk
  · rintro rfl
    rw [hnone] at hk
    cases hk

/-- A landing no run waits for, which leaves the call as it is. -/
theorem Booked.land (hb : Booked r c s) {h : TxHash}
    (hnone : s.landed.get h = none) {chain : World RepoDvp.State}
    (hdue : due chain c = due s.chain c) {success : Bool}
    (howes : ({ s with
      chain := chain
      landed := s.landed.set h success }).owes r = s.owes r) :
    Booked r c
      { s with chain := chain, landed := s.landed.set h success } where
  settled hno := by
    rw [howes] at hno
    rcases hb.settled hno with hagree | ⟨hclear, k, i, hi, hrow, hpending,
      hlanded, hreaders⟩
    · refine .inl ?_
      show openDues s.db.repoMarginCall r = (due chain c).toList.map _
      rw [hdue]
      exact hagree
    · exact .inr ⟨hdue.trans hclear, k, i, hi, hrow, hpending,
        landed_set hnone success hlanded, hreaders⟩
  owed hyes := by
    rw [howes] at hyes
    show due chain c ≠ none → _
    rw [hdue]
    exact hb.owed hyes
  writing run after hrun hstage :=
    (hb.writing run after hrun hstage).trans hdue.symm
  held w k t i hreader hi hrow hpending hclosed :=
    hdue.trans (hb.held w k t i hreader hi hrow hpending hclosed)

theorem owes_landed {h : TxHash} {success : Bool}
    {chain : World RepoDvp.State}
    (hwaits : s.waits r h = false ∨ success = false)
    (hnone : s.landed.get h = none) :
    ({ s with
      chain := chain
      landed := s.landed.set h success }).owes r = s.owes r := by
  cases hrun : s.run with
  | none => simp [System.owes, hrun]
  | some run =>
      simp only [System.owes, System.waits, hrun, Option.any_some]
        at hwaits ⊢
      cases hstage : run.stage with
      | polling row id close k =>
          rw [hstage] at hwaits
          simp only [Stage.owes, Stage.waits, decide_eq_false_iff_not]
            at hwaits ⊢
          rw [Store.get_set]
          by_cases hk : k = h
          · subst hk
            rw [hnone]
            rcases hwaits with hwaits | rfl
            · rw [decide_eq_false fun h => hwaits ⟨h.1, h.2.1, rfl⟩,
                decide_eq_false fun h => hwaits ⟨h.1, h.2.1, rfl⟩]
            · simp
          · simp [hk]
      | _ => rfl

/-- The `call_margin` a run waits for. -/
theorem Booked.landWaited (hf : Filed self keeper r c s)
    (hb : Booked r c s) {h : TxHash} (hnone : s.landed.get h = none)
    {chain : World RepoDvp.State} (htime : LandsInTime r c h s chain)
    (hwaits : s.waits r h = true) :
    Booked r c { s with chain := chain, landed := s.landed.set h true } := by
  obtain ⟨run, id, hrun, hstage⟩ : ∃ run id, s.run = some run
      ∧ run.stage = .polling r id false h := by
    cases hrun : s.run with
    | none => simp [System.waits, hrun] at hwaits
    | some run =>
        simp only [System.waits, hrun, Option.any_some] at hwaits
        cases hstage : run.stage with
        | polling row id close k =>
            rw [hstage] at hwaits
            simp only [Stage.waits, decide_eq_true_eq] at hwaits
            obtain ⟨rfl, rfl, rfl⟩ := hwaits
            exact ⟨run, id, rfl, hstage⟩
        | _ =>
            rw [hstage] at hwaits
            cases hwaits
  have hbefore : s.owes r = false := by
    rw [owes_of_stage hrun, hstage]
    simp [Stage.owes, hnone]
  have hafter : ({ s with
      chain := chain
      landed := s.landed.set h true } : System).owes r = true := by
    simp [System.owes, hrun, hstage, Stage.owes, Store.get_set]
  refine ⟨?_, ?_, ?_, ?_⟩
  · intro hno
    rw [hafter] at hno
    cases hno
  · intro _ hopen
    replace hopen : due chain c ≠ none := hopen
    -- it has opened the call, over books that showed none
    have hold : due s.chain c = none := by
      by_contra hold
      exact hopen (htime.cleared hwaits hold)
    rcases hb.settled hbefore with hagree | ⟨-, hcuring⟩
    · rw [Agrees, hold] at hagree
      exact hagree
    · exact (htime.settled hold hopen hcuring.unsettled).elim
  · intro run' after hrun' hstage'
    obtain rfl : run = run' := Option.some.inj (hrun.symm.trans hrun')
    rw [hstage] at hstage'
    cases hstage'
  · intro w k t i hreader hi hrow hpending hclosed
    show due chain c = none
    have hold := hb.held w k t i hreader hi hrow hpending hclosed
    by_contra hopen
    exact htime.settled hold hopen
      (unsettled_of hi hrow hpending (hf.readers w k t hreader))

/-- A top-up that clears the call. -/
theorem booked_landTopUp (hf : Filed self keeper r c s) {h : TxHash}
    (hnone : s.landed.get h = none)
    {chain : World RepoDvp.State} (hclear : due chain c = none)
    {b : Address} {x : Int} (hsent : s.sent.get h = some (.topUp b c x))
    (hwrites : s.writes r = false) :
    Booked r c { s with chain := chain, landed := s.landed.set h true } := by
  obtain ⟨i, hi, hrow, hpending⟩ := hf.topUps h b x hsent
  refine ⟨fun _ => ?_, fun _ hopen => (hopen hclear).elim, ?_, ?_⟩
  · refine .inr ⟨hclear, h, i, hi, hrow, hpending hnone, ?_, ?_⟩
    · show (s.landed.set h true).get h = some true
      rw [Store.get_set, if_pos rfl]
    · intro w t hreader
      have hlanded := hf.readers w h t hreader
      rw [hnone] at hlanded
      cases hlanded
  · intro run after hrun hstage
    replace hrun : s.run = some run := hrun
    simp [System.writes, hrun, hstage, Stage.writes] at hwrites
  · exact fun _ _ _ _ _ _ _ _ _ => hclear

theorem Booked.lands (hf : Filed self keeper r c s) (hb : Booked r c s)
    {h : TxHash} {env : Env} {e : Entry} {chain : World RepoDvp.State}
    (hsent : s.sent.get h = some e) (hnone : s.landed.get h = none)
    (hcall : call (env.at self) e s.chain = .ok chain)
    (htime : LandsInTime r c h s chain) :
    Booked r c { s with chain := chain, landed := s.landed.set h true } := by
  by_cases hwaits : s.waits r h = true
  · exact hb.landWaited hf hnone htime hwaits
  rw [Bool.not_eq_true] at hwaits
  by_cases hmoved : due chain c = due s.chain c
  · exact hb.land hnone hmoved (owes_landed (.inl hwaits) hnone)
  -- only a top-up may move the call, and it clears it
  have htopUp : s.isTopUp h = true := by
    rcases htime.waited hmoved with hw | ht
    · rw [hwaits] at hw
      cases hw
    · exact ht
  have happ : (RepoDvp.machine self).apply (.call env e) s.chain
      = .ok chain := hcall
  have hmove := (due_move hf.chain hf.dated happ).1
  generalize hd : due s.chain c = d at hmove hmoved
  generalize hd' : due chain c = d' at hmove hmoved
  cases hmove with
  | kept => exact (hmoved rfl).elim
  | opened hwho =>
      obtain ⟨_, _, hwho⟩ := hwho
      injection hwho with _ he
      subst he
      simp [System.isTopUp, hsent] at htopUp
  | cleared hwho =>
      rcases hwho with ⟨_, _, hwho⟩ | ⟨_, b, x, hwho⟩
      · injection hwho with _ he
        subst he
        simp [System.isTopUp, hsent] at htopUp
      · injection hwho with _ he
        subst he
        refine booked_landTopUp hf hnone hd' hsent (htime.written htopUp ?_)
        rw [hd, hd']
        simp

-- ============================================================= the API

/-- A settlement reads the trade. -/
theorem Booked.read (hf : Filed self keeper r c s) (hb : Booked r c s)
    {w : Nat} {h : TxHash} {intent : TopUpIntent} {row : RepoTradeRow}
    {id : Nat} {onChain : RepoTrade}
    (hintent : s.db.txIntent.get h = some intent)
    (hmem : row ∈ s.db.repoTrade) (hrow : row.id = intent.refId)
    (hid : row.contractTradeId = some id)
    (hread : readTrade s.chain.store id = .ok onChain) :
    Booked r c { s with readers := s.readers.set w (h, onChain) } := by
  -- for row `r` it is trade `c` that is read
  have hown : intent.refId = r →
      (due s.chain c = none ↔ onChain.pendingMarginCall = false) := by
    intro hr
    have hc := (hf.rows row hmem).mpr (hrow.trans hr)
    rw [hid] at hc
    injection hc with hc
    subst hc
    exact hf.dated.due_eq_none (expect_ok.mp hread)
  refine ⟨fun hno => ?_, hb.owed, hb.writing, ?_⟩
  · refine (hb.settled hno).imp_right ?_
    rintro ⟨hclear, k, i, hi, hir, hpending, hlanded, hreaders⟩
    refine ⟨hclear, k, i, hi, hir, hpending, hlanded, ?_⟩
    intro v t hv
    replace hv : (s.readers.set w (h, onChain)).get v = some (k, t) := hv
    rw [Store.get_set] at hv
    split at hv
    · injection hv with hv
      injection hv with hk ht
      subst hk ht
      rw [hintent] at hi
      injection hi with hi
      subst hi
      exact (hown hir).mp hclear
    · exact hreaders v t hv
  · intro v k t i hv hi hir hpending hclosed
    replace hv : (s.readers.set w (h, onChain)).get v = some (k, t) := hv
    rw [Store.get_set] at hv
    split at hv
    · injection hv with hv
      injection hv with hk ht
      subst hk ht
      replace hi : s.db.txIntent.get h = some i := hi
      rw [hintent] at hi
      injection hi with hi
      subst hi
      exact (hown hir).mpr hclosed
    · exact hb.held v k t i hv hi hir hpending hclosed

/-- A settlement ends without booking. -/
theorem Booked.dropReader (hb : Booked r c s) (w : Nat) :
    Booked r c { s with readers := s.readers.remove w } := by
  have hsub : ∀ v p, (s.readers.remove w).get v = some p →
      s.readers.get v = some p := by
    intro v p hv
    rw [Store.get_remove] at hv
    split at hv
    · cases hv
    · exact hv
  refine ⟨fun hno => ?_, hb.owed, hb.writing, ?_⟩
  · refine (hb.settled hno).imp_right ?_
    rintro ⟨hclear, k, i, hi, hir, hpending, hlanded, hreaders⟩
    exact ⟨hclear, k, i, hi, hir, hpending, hlanded,
      fun v t hv => hreaders v t (hsub v _ hv)⟩
  · exact fun v k t i hv => hb.held v k t i (hsub v _ hv)

/-- A settlement books its top-up. What it has read as clear is clear. -/
theorem Booked.settle (hb : Booked r c s) {w now : Nat} {h : TxHash}
    {onChain : RepoTrade} {intent : TopUpIntent}
    (hreader : s.readers.get w = some (h, onChain))
    (hintent : s.db.txIntent.get h = some intent)
    (hpending : intent.status = .pending) :
    Booked r c { s with
      readers := s.readers.remove w
      db := bookTopUp s.db h intent onChain now } := by
  have hdrop := hb.dropReader w
  have hdues := openDues_bookTopUp (r := r) s.db h intent onChain now
  have hget : ∀ k i, (bookTopUp s.db h intent onChain now).txIntent.get k
      = some i → i.status = .pending →
      k ≠ h ∧ s.db.txIntent.get k = some i := by
    intro k i hi hip
    rw [bookTopUp_txIntent, Store.get_set] at hi
    split at hi
    · injection hi with hi
      subst hi
      cases hip
    · next hne => exact ⟨hne, hi⟩
  have hheld : ∀ v k t i, (s.readers.remove w).get v = some (k, t) →
      (bookTopUp s.db h intent onChain now).txIntent.get k = some i →
      i.refId = r → i.status = .pending → t.pendingMarginCall = false →
      due s.chain c = none :=
    fun v k t i hv hi hir hip => hdrop.held v k t i hv (hget k i hi hip).2
      hir hip
  -- a settlement cures the row's call if the trade it read had none
  by_cases hcure : onChain.pendingMarginCall = false ∧ intent.refId = r
  · rw [if_pos hcure] at hdues
    -- what was read is still so: no call has been opened since
    have hclear := hb.held w h onChain intent hreader hintent hcure.2
      hpending hcure.1
    refine ⟨fun _ => .inl ?_, fun _ hopen => (hopen hclear).elim,
      hb.writing, hheld⟩
    show openDues (bookTopUp s.db h intent onChain now).repoMarginCall r
      = (due s.chain c).toList.map _
    rw [hdues, hclear]
    rfl
  · rw [if_neg hcure] at hdues
    refine ⟨fun hno => ?_, fun hyes hopen => ?_, hb.writing, hheld⟩
    · rcases hb.settled hno with hagree | ⟨hclear, k, i, hi, hir, hip,
        hlanded, hreaders⟩
      · refine .inl ?_
        show openDues (bookTopUp s.db h intent onChain now).repoMarginCall r
          = _
        rw [hdues]
        exact hagree
      · -- the top-up that cleared the call is another one
        have hne : k ≠ h := by
          rintro rfl
          rw [hintent] at hi
          injection hi with hi
          subst hi
          exact hcure ⟨hreaders w onChain hreader, hir⟩
        refine .inr ⟨hclear, k, i, ?_, hir, hip, hlanded, ?_⟩
        · show (bookTopUp s.db h intent onChain now).txIntent.get k = some i
          rw [bookTopUp_txIntent, Store.get_set, if_neg hne]
          exact hi
        · intro v t hv
          replace hv : (s.readers.remove w).get v = some (k, t) := hv
          rw [Store.get_remove] at hv
          split at hv
          · cases hv
          · exact hreaders v t hv
    · show openDues (bookTopUp s.db h intent onChain now).repoMarginCall r
        = []
      rw [hdues]
      exact hb.owed hyes hopen

/-- A top-up is handed out. -/
theorem Booked.ask (hf : Filed self keeper r c s) (hb : Booked r c s)
    {h : TxHash} {row : RowId} {e : Entry} (hfresh : s.fresh h) :
    Booked r c { s with
      sent := s.sent.set h e
      db := { s.db with
        txIntent := s.db.txIntent.set h ⟨row, .pending⟩ } } := by
  obtain ⟨-, hlanded, hintent⟩ := hfresh
  refine ⟨fun hno => ?_, hb.owed, hb.writing, ?_⟩
  · refine (hb.settled hno).imp_right ?_
    rintro ⟨hclear, k, i, hi, hir, hpending, hk, hreaders⟩
    refine ⟨hclear, k, i, ?_, hir, hpending, hk, hreaders⟩
    show (s.db.txIntent.set h ⟨row, .pending⟩).get k = some i
    rw [Store.get_set, if_neg]
    · exact hi
    · rintro rfl
      rw [hintent] at hi
      cases hi
  · intro v k t i hv hi hir hpending hclosed
    replace hi : (s.db.txIntent.set h ⟨row, .pending⟩).get k = some i := hi
    rw [Store.get_set, if_neg] at hi
    · exact hb.held v k t i hv hi hir hpending hclosed
    · rintro rfl
      have hk := hf.readers v k t hv
      rw [hlanded] at hk
      cases hk

-- ============================================================== the job

/-- A run that owes a write goes on owing it. -/
theorem Booked.onwards (hb : Booked r c s) {run : Run}
    (hold : s.owes r = true) {stage : Stage}
    (hnew : stage.owes r s.landed = true)
    (hwrite : ∀ after, stage = .booking r after →
      dueOf after = due s.chain c) :
    Booked r c (moveTo s run stage) where
  settled hno := by
    change stage.owes r s.landed = false at hno
    rw [hnew] at hno
    cases hno
  owed _ := hb.owed hold
  writing run' after hrun' hstage := by
    injection hrun' with hrun'
    subst hrun'
    exact hwrite after hstage
  held := hb.held

/-- One that owes none goes on owing none. -/
theorem Booked.apart (hb : Booked r c s) {run : Run}
    (hold : s.owes r = false) {stage : Stage}
    (hnew : stage.owes r s.landed = false)
    (hwrite : ∀ after, stage ≠ .booking r after) :
    Booked r c (moveTo s run stage) :=
  hb.ofRun hold hnew fun run' after hrun' hstage => by
    injection hrun' with hrun'
    subst hrun'
    exact hwrite after hstage

theorem Booked.goes (hf : Filed self keeper r c s) (hb : Booked r c s)
    {run : Run} {stage : Stage} (hrun : s.run = some run)
    (hgoes : Goes s run.stage stage) : Booked r c (moveTo s run stage) := by
  have howes := owes_of_stage (r := r) hrun
  have habout := hf.about run
  generalize run.stage = old at hgoes howes habout
  cases hgoes with
  | held => exact hb.apart howes rfl (by simp)
  | defaulted => exact hb.apart howes rfl (by simp)
  | ended => exact hb.apart howes rfl (by simp)
  | building => exact hb.apart howes rfl (by simp)
  | left => exact hb.apart howes rfl (by simp)
  | closed =>
      refine hb.apart (howes.trans ?_) rfl (by simp)
      simp [Stage.owes]
  | @called row id h hlanded =>
      by_cases hr : row = r
      · refine hb.onwards (howes.trans ?_) ?_ (by simp)
        · simp [Stage.owes, hr, hlanded]
        · simp [Stage.owes, hr]
      · refine hb.apart (howes.trans ?_) ?_ (by simp)
        · simp [Stage.owes, hr]
        · simp [Stage.owes, hr]
  | @booking row id after hafter =>
      by_cases hr : row = r
      · refine hb.onwards (howes.trans ?_) ?_ ?_
        · simp [Stage.owes, hr]
        · simp [Stage.owes, hr]
        · intro after' heq
          injection heq with _ heq
          subst heq
          have hc := (habout row id hrun rfl).mpr hr
          subst hc
          exact (due_of_stored (expect_ok.mp hafter)).symm
      · refine hb.apart (howes.trans ?_) ?_ ?_
        · simp [Stage.owes, hr]
        · simp [Stage.owes, hr]
        · intro after' heq
          injection heq with heq
          exact hr heq

/-- The job writes what the chain shows. -/
theorem Booked.book (hb : Booked r c s) {run : Run} {row : RowId}
    {after : RepoTrade} (hrun : s.run = some run)
    (hstage : run.stage = .booking row after) :
    Booked r c (moveTo { s with db := bookCall s.db row after run.now } run
      .idle) := by
  have howes := owes_of_stage (r := r) hrun
  rw [hstage] at howes
  have hdues := openDues_bookCall (r := r) s.db row after run.now
  have hintents : ∀ k, (bookCall s.db row after run.now).txIntent.get k
      = s.db.txIntent.get k := by
    intro k
    rw [bookCall_txIntent]
  have hidle : ∀ run' x, some { run with stage := Stage.idle } = some run' →
      run'.stage = .booking r x → dueOf x = due s.chain c := by
    intro run' x hrun' hstage'
    injection hrun' with hrun'
    subst hrun'
    cases hstage'
  have hheld : ∀ w h t i, s.readers.get w = some (h, t) →
      (bookCall s.db row after run.now).txIntent.get h = some i →
      i.refId = r → i.status = .pending → t.pendingMarginCall = false →
      due s.chain c = none :=
    fun w h t i hv hi => hb.held w h t i hv (hintents h ▸ hi)
  refine ⟨fun _ => ?_, fun hyes => (by cases hyes), hidle, hheld⟩
  by_cases hr : row = r
  · subst hr
    rw [if_pos rfl] at hdues
    have hafter := hb.writing run after hrun hstage
    refine .inl ?_
    show openDues (bookCall s.db row after run.now).repoMarginCall row
      = (due s.chain c).toList.map _
    rw [hdues, ← hafter]
    cases hd : dueOf after with
    | none => rfl
    | some d =>
        have hempty := hb.owed (howes.trans (by simp [Stage.owes]))
          (by rw [← hafter, hd]; simp)
        simp [hempty]
  · rw [if_neg hr] at hdues
    rcases hb.settled (howes.trans (by simp [Stage.owes, hr])) with hagree |
      ⟨hclear, k, i, hi, hir, hpending, hlanded, hreaders⟩
    · refine .inl ?_
      show openDues (bookCall s.db row after run.now).repoMarginCall r = _
      rw [hdues]
      exact hagree
    · exact .inr ⟨hclear, k, i, (hintents k).trans hi, hir, hpending,
        hlanded, hreaders⟩

theorem booked_step (hf : Filed self keeper r c s) (hb : Booked r c s)
    (hdid : Did self keeper s s' a) (htime : InTime self r c a s) :
    Booked r c s' := by
  cases hdid with
  -- the condition: what others commit leaves the due as it is
  | @outside tx chain happ hs' =>
      subst hs'
      have hdue : due chain c = due s.chain c :=
        htime chain (by simp [afterOutside, happ, Except.toOption])
      refine ⟨fun hno => ?_, ?_, ?_, ?_⟩
      · show openDues s.db.repoMarginCall r = (due chain c).toList.map _
          ∨ due chain c = none ∧ _
        rw [hdue]
        exact hb.settled hno
      · show _ → due chain c ≠ none → _
        rw [hdue]
        exact hb.owed
      · exact fun run after hrun hstage =>
          (hb.writing run after hrun hstage).trans hdue.symm
      · exact fun w h t i hv hi hir hip hclosed =>
          hdue.trans (hb.held w h t i hv hi hir hip hclosed)
  -- a landing opens or clears the call, and from here on somebody owes the
  -- books
  | @landed h env e chain hsent hnone hcall hs' =>
      subst hs'
      have hafter : chain ∈ afterLanding self h env s := by
        simp [afterLanding, hsent, hcall]
      exact hb.lands hf hsent hnone hcall (htime chain hafter)
  | refused hnone hs' =>
      subst hs'
      exact hb.land hnone rfl (owes_landed (.inr rfl) hnone)
  | asked hmem hid hfresh hs' =>
      subst hs'
      exact hb.ask hf hfresh
  | read hintent _ hmem hrow hid hread hs' =>
      subst hs'
      exact hb.read hf hintent hmem hrow hid hread
  | settled hreader hintent hpending hs' =>
      subst hs'
      exact hb.settle hreader hintent hpending
  | lost hs' =>
      subst hs'
      exact hb.dropReader _
  | began hnone hs' =>
      subst hs'
      refine hb.ofRun (by simp [System.owes, hnone]) rfl ?_
      intro run after hrun hstage
      injection hrun with hrun
      subst hrun
      cases hstage
  | @took run row todo stage hrun hidle htodo hstage hs' =>
      subst hs'
      have hold := owes_of_stage (r := r) hrun
      rw [hidle] at hold
      refine hb.ofRun hold ?_ ?_
      · rcases hstage with rfl | ⟨id, -, rfl⟩
        · rfl
        · rfl
      · intro run' after hrun' hstage'
        injection hrun' with hrun'
        subst hrun'
        rcases hstage with rfl | ⟨id, -, rfl⟩
        · cases hstage'
        · cases hstage'
  | finished hrun hidle hs' =>
      subst hs'
      have hold := owes_of_stage (r := r) hrun
      rw [hidle] at hold
      exact hb.ofRun hold rfl fun _ _ h => by cases h
  | moved hrun hgoes _ hs' =>
      subst hs'
      exact hb.goes hf hrun hgoes
  | @sent run row id close h env hrun hstage hfresh hs' =>
      subst hs'
      have hold := owes_of_stage (r := r) hrun
      rw [hstage] at hold
      have hsent : Booked r c { s with
          sent := s.sent.set h (submission keeper id close) } :=
        ⟨hb.settled, hb.owed, hb.writing, hb.held⟩
      refine hsent.apart hold ?_ (by simp)
      simp [Stage.owes, hfresh.2.1]
  | booked hrun hstage hs' =>
      subst hs'
      exact hb.book hrun hstage
  | @closed run row hrun hstage hs' =>
      subst hs'
      have hold := owes_of_stage (r := r) hrun
      rw [hstage] at hold
      have hclosed : Booked r c { s with
          db := s.db.updateTrade row fun t =>
            { t with status := .defaulted } } :=
        ⟨hb.settled, hb.owed, hb.writing, hb.held⟩
      exact hclosed.toIdle hold run
  -- the condition again: a run does not stop while it owes a write
  | @failed run hrun hs' =>
      subst hs'
      exact hb.toIdle htime run
  | stopped hs' =>
      subst hs'
      exact hb.ofRun htime rfl fun _ _ h => by cases h

end Ballast.Keeper
