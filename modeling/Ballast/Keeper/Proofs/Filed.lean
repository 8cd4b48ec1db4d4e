/-
What is in order in every run of the keeper's system, whatever fails:
row `r` and no other is about trade `c`, in the table, among the trades a
run has still to take and in its stage; what a run polls is what it sent;
a top-up of trade `c` has an intent on row `r`; and nothing is read for a
top-up before it landed.

# The step

The proof goes over what a committed step did, and most of it shows that
a step writes nothing that the invariant reads: a landing writes one
hash, a booking writes rows of a table and keeps their ids, a run moves
on with what it has. Where something is written under a new hash, the
hash is fresh, so nothing that was on file under it is lost.
-/
import Ballast.Keeper.Proofs.Due
import Ballast.Keeper.Proofs.Steps

namespace Ballast.Keeper

open Soroban RepoDvp
open Api (TxHash RowId IntentStatus)

-- ================================================================ the rows

/-- Row `r` and no other is about trade `c`. -/
def OneRow (r : RowId) (c : Nat) (rows : List RepoTradeRow) : Prop :=
  ∀ row ∈ rows, row.contractTradeId = some c ↔ row.id = r

variable {r : RowId} {c : Nat} {db : Db}

theorem oneRow_update {k : RowId} {f : RepoTradeRow → RepoTradeRow}
    (hid : ∀ t, (f t).id = t.id)
    (hcontract : ∀ t, (f t).contractTradeId = t.contractTradeId)
    (h : OneRow r c db.repoTrade) :
    OneRow r c (db.updateTrade k f).repoTrade := by
  intro row hrow
  obtain ⟨t, ht, rfl⟩ := List.mem_map.mp hrow
  by_cases hk : t.id = k
  · rw [if_pos hk, hid, hcontract]
    exact h t ht
  · rw [if_neg hk]
    exact h t ht

@[simp] theorem bookCall_repoTrade (k : RowId) (after : RepoTrade)
    (now : Nat) : (bookCall db k after now).repoTrade = db.repoTrade := by
  unfold bookCall
  split <;> rfl

@[simp] theorem bookCall_txIntent (k : RowId) (after : RepoTrade)
    (now : Nat) : (bookCall db k after now).txIntent = db.txIntent := by
  unfold bookCall
  split <;> rfl

theorem bookTopUp_repoTrade (h : TxHash) (intent : TopUpIntent)
    (onChain : RepoTrade) (now : Nat) :
    (bookTopUp db h intent onChain now).repoTrade
      = (db.updateTrade intent.refId fun t =>
          { t with units := onChain.units }).repoTrade := by
  unfold bookTopUp
  split <;> rfl

theorem bookTopUp_txIntent (h : TxHash) (intent : TopUpIntent)
    (onChain : RepoTrade) (now : Nat) :
    (bookTopUp db h intent onChain now).txIntent
      = db.txIntent.set h { intent with status := .settled } := by
  unfold bookTopUp
  split <;> rfl

-- ================================================================ the files

/-- The row and the trade a stage is about. -/
def Stage.about : Stage → Option (RowId × Nat)
  | .taken row id => some (row, id)
  | .held row id _ => some (row, id)
  | .building row id _ => some (row, id)
  | .polling row id _ _ => some (row, id)
  | .called row id => some (row, id)
  | _ => none

theorem Goes.about {s : System} {st st' : Stage} {row : RowId} {id : Nat}
    (h : Goes s st st') (habout : st'.about = some (row, id)) :
    st.about = some (row, id) := by
  cases h with
  | held => exact habout
  | building => exact habout
  | called => exact habout
  | defaulted => cases habout
  | ended => cases habout
  | left => cases habout
  | closed => cases habout
  | booking => cases habout

theorem Goes.not_polling {s : System} {st : Stage} {row : RowId} {id : Nat}
    {close : Bool} {h : TxHash} : ¬ Goes s st (.polling row id close h) := by
  intro hgoes
  cases hgoes

structure Filed (addr keeper : Address) (r : RowId) (c : Nat)
    (s : System) : Prop where
  chain : TradesOk addr s.chain.store
  dated : Dated s.chain c
  rows : OneRow r c s.db.repoTrade
  todo : ∀ run, s.run = some run → OneRow r c run.todo
  about : ∀ run row id, s.run = some run →
    run.stage.about = some (row, id) → (id = c ↔ row = r)
  polled : ∀ run row id close h, s.run = some run →
    run.stage = .polling row id close h →
    s.sent.get h = some (submission keeper id close)
  topUps : ∀ h b x, s.sent.get h = some (.topUp b c x) →
    ∃ intent, s.db.txIntent.get h = some intent ∧ intent.refId = r
      ∧ (s.landed.get h = none → intent.status = .pending)
  readers : ∀ w h t, s.readers.get w = some (h, t) →
    s.landed.get h = some true

variable {self keeper : Address} {s s' : System} {a : Act}

/-- The run moves on and everything else is as it was. -/
theorem Filed.ofRun (hf : Filed self keeper r c s) {run' : Run}
    (htodo : OneRow r c run'.todo)
    (habout : ∀ row id, run'.stage.about = some (row, id) →
      (id = c ↔ row = r))
    (hpoll : ∀ row id close h, run'.stage ≠ .polling row id close h) :
    Filed self keeper r c { s with run := some run' } :=
  { hf with
    todo := fun run hrun => by
      injection hrun with hrun
      exact hrun ▸ htodo
    about := fun run row id hrun => by
      injection hrun with hrun
      exact hrun ▸ habout row id
    polled := fun run row id close h hrun hstage => by
      injection hrun with hrun
      exact absurd (hrun ▸ hstage) (hpoll row id close h) }

theorem Filed.noRun (hf : Filed self keeper r c s) :
    Filed self keeper r c { s with run := none } :=
  { hf with
    todo := fun _ hrun => by cases hrun
    about := fun _ _ _ hrun => by cases hrun
    polled := fun _ _ _ _ _ hrun => by cases hrun }

theorem Filed.toIdle (hf : Filed self keeper r c s) {run : Run}
    (hrun : s.run = some run) :
    Filed self keeper r c (moveTo s run .idle) :=
  hf.ofRun (hf.todo run hrun) (fun _ _ h => by cases h)
    fun _ _ _ _ h => by cases h

/-- A transaction lands under `h`, the chain keeping its own order. -/
theorem Filed.land (hf : Filed self keeper r c s)
    {h : TxHash} (hnone : s.landed.get h = none)
    {chain : World RepoDvp.State} (hok : TradesOk self chain.store)
    (hd : Dated chain c) (success : Bool) :
    Filed self keeper r c
      { s with chain := chain, landed := s.landed.set h success } :=
  { hf with
    chain := hok
    dated := hd
    topUps := fun k b x hsent => by
      obtain ⟨intent, hintent, hrow, hpending⟩ := hf.topUps k b x hsent
      refine ⟨intent, hintent, hrow, fun hk => hpending ?_⟩
      rw [Store.get_set] at hk
      split at hk
      · cases hk
      · exact hk
    readers := fun w k t hreader => by
      have hk := hf.readers w k t hreader
      show (s.landed.set h success).get k = some true
      rw [Store.get_set, if_neg]
      · exact hk
      · rintro rfl
        rw [hnone] at hk
        cases hk }

theorem filed_step (hf : Filed self keeper r c s)
    (hdid : Did self keeper s s' a) : Filed self keeper r c s' := by
  cases hdid with
  | outside happ hs' =>
      subst hs'
      exact { hf with
        chain := tradesOk_step hf.chain happ
        dated := (due_move hf.chain hf.dated happ).2 }
  | landed hsent hnone hcall hs' =>
      subst hs'
      have happ : (RepoDvp.machine self).apply (.call _ _) s.chain = .ok _ :=
        hcall
      exact hf.land hnone (tradesOk_step hf.chain happ)
        (due_move hf.chain hf.dated happ).2 true
  | refused hnone hs' =>
      subst hs'
      exact hf.land hnone hf.chain hf.dated false
  -- a fresh hash: nothing polled and no intent on file is under it
  | @asked h row id borrower units env hmem hid hfresh hs' =>
      subst hs'
      obtain ⟨hsent, -, hintent⟩ := hfresh
      refine { hf with polled := ?_, topUps := ?_ }
      · intro run row' id' close k hrun hstage
        have hk := hf.polled run row' id' close k hrun hstage
        show (s.sent.set h _).get k = _
        rw [Store.get_set, if_neg]
        · exact hk
        · rintro rfl
          rw [hsent] at hk
          cases hk
      · intro k b x hk
        replace hk : (s.sent.set h (.topUp borrower id units)).get k = _ := hk
        show ∃ intent, (s.db.txIntent.set h ⟨row.id, .pending⟩).get k = _ ∧ _
        rw [Store.get_set] at hk ⊢
        split
        · next heq =>
          rw [if_pos heq] at hk
          injection hk with hk
          injection hk with _ hc
          subst hc
          -- it is a top-up of trade `c` only for the row that names `c`
          exact ⟨_, rfl, (hf.rows row hmem).mp hid, fun _ => rfl⟩
        · next hne =>
          rw [if_neg hne] at hk
          exact hf.topUps k b x hk
  -- a reader is only ever added for a hash that has landed
  | @read w h intent row id onChain hintent hlanded hmem hrow hid hread hs' =>
      subst hs'
      refine { hf with readers := ?_ }
      intro v k t hv
      replace hv : (s.readers.set w (h, onChain)).get v = some (k, t) := hv
      rw [Store.get_set] at hv
      split at hv
      · injection hv with hv
        injection hv with hk _
        exact hk ▸ hlanded
      · exact hf.readers v k t hv
  -- the intent is settled, which is allowed of one that has landed
  | @settled w now h onChain intent hreader hintent hpending hs' =>
      subst hs'
      have hlanded := hf.readers w h onChain hreader
      refine { hf with rows := ?_, topUps := ?_, readers := ?_ }
      · show OneRow r c (bookTopUp s.db h intent onChain now).repoTrade
        rw [bookTopUp_repoTrade]
        exact oneRow_update (fun _ => rfl) (fun _ => rfl) hf.rows
      · intro k b x hk
        show ∃ i, (bookTopUp s.db h intent onChain now).txIntent.get k = _ ∧ _
        obtain ⟨i, hi, hrow, hstill⟩ := hf.topUps k b x hk
        rw [bookTopUp_txIntent, Store.get_set]
        split
        · next heq =>
          subst heq
          rw [hintent] at hi
          injection hi with hi
          subst hi
          refine ⟨_, rfl, hrow, fun hno => ?_⟩
          rw [hlanded] at hno
          cases hno
        · exact ⟨i, hi, hrow, hstill⟩
      · intro v k t hv
        replace hv : (s.readers.remove w).get v = some (k, t) := hv
        rw [Store.get_remove] at hv
        split at hv
        · cases hv
        · exact hf.readers v k t hv
  | @lost w now hs' =>
      subst hs'
      refine { hf with readers := ?_ }
      intro v k t hv
      replace hv : (s.readers.remove w).get v = some (k, t) := hv
      rw [Store.get_remove] at hv
      split at hv
      · cases hv
      · exact hf.readers v k t hv
  | began hnone hs' =>
      subst hs'
      refine hf.ofRun ?_ (fun _ _ h => by cases h) fun _ _ _ _ h => by cases h
      exact fun row hrow => hf.rows row (List.mem_of_mem_filter hrow)
  -- the row comes from the head of the list, so it names its own trade
  | @took run row todo stage hrun hidle htodo hstage hs' =>
      subst hs'
      have hall := hf.todo run hrun
      rw [htodo] at hall
      have htail : OneRow r c todo :=
        fun x hx => hall x (List.mem_cons_of_mem row hx)
      refine hf.ofRun htail ?_ ?_
      · intro row' id' habout
        rcases hstage with rfl | ⟨id, hid, rfl⟩
        · cases habout
        · injection habout with habout
          injection habout with hrow' hid'
          subst hrow' hid'
          have hone := hall row List.mem_cons_self
          rw [hid, Option.some.injEq] at hone
          exact hone
      · rintro row' id' close h rfl
        rcases hstage with hstage | ⟨id, -, hstage⟩
        · cases hstage
        · cases hstage
  | finished _ _ hs' =>
      subst hs'
      exact hf.noRun
  -- moving on keeps row and trade together, and polls nothing
  | @moved run stage _ hrun hgoes _ hs' =>
      subst hs'
      refine hf.ofRun (hf.todo run hrun) ?_ ?_
      · intro row id habout
        exact hf.about run row id hrun (hgoes.about habout)
      · rintro row id close h rfl
        exact hgoes.not_polling
  -- what is polled from here on is what is sent in this very step
  | @sent run row id close h env hrun hstage hfresh hs' =>
      subst hs'
      have hbuild := hf.about run row id hrun (by rw [hstage]; rfl)
      refine { hf with todo := ?_, about := ?_, polled := ?_, topUps := ?_ }
      · intro run' hrun'
        injection hrun' with hrun'
        exact hrun' ▸ hf.todo run hrun
      · intro run' row' id' hrun' habout
        injection hrun' with hrun'
        subst hrun'
        injection habout with habout
        injection habout with hrow hid
        exact hrow ▸ hid ▸ hbuild
      · intro run' row' id' close' k hrun' hstage'
        injection hrun' with hrun'
        subst hrun'
        injection hstage' with _ hid hclose hk
        subst hid hclose hk
        show (s.sent.set h _).get h = _
        rw [Store.get_set, if_pos rfl]
      · intro k b x hk
        replace hk : (s.sent.set h (submission keeper id close)).get k
          = some (.topUp b c x) := hk
        rw [Store.get_set] at hk
        split at hk
        -- neither a call nor a closing is a top-up
        · cases close with
          | true => cases hk
          | false => cases hk
        · exact hf.topUps k b x hk
  | @booked run row after hrun hstage hs' =>
      subst hs'
      have hidle := hf.toIdle hrun
      exact { hidle with
        rows := by
          show OneRow r c (bookCall s.db row after run.now).repoTrade
          rw [bookCall_repoTrade]
          exact hf.rows
        topUps := fun k b x hk => by
          show ∃ i, (bookCall s.db row after run.now).txIntent.get k = _ ∧ _
          rw [bookCall_txIntent]
          exact hf.topUps k b x hk }
  | @closed run row hrun hstage hs' =>
      subst hs'
      have hidle := hf.toIdle hrun
      exact { hidle with
        rows := oneRow_update (fun _ => rfl) (fun _ => rfl) hf.rows }
  | failed hrun hs' =>
      subst hs'
      exact hf.toIdle hrun
  | stopped hs' =>
      subst hs'
      exact hf.noRun

end Ballast.Keeper
