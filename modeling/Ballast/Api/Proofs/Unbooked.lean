/-
What has landed and is not on the books yet.

Between landing and settlement a transaction's effect is on the chain
alone. `unbooked sort f` adds up a quantity `f` of the landed
transactions whose intent, one of `sort`, is still pending. In an orderly
run it grows when such a transaction lands, shrinks by as much when it
is settled, and is moved by nothing else; so a book and a contract that
agree up to what is unbooked agree once nothing is pending.

The quantity is read off the landing as it was recorded, the chain
before it and after, and not off the chain as it is by now. So nothing
that happens later moves what is unbooked but a settlement, and two
quantities over one sort of intents may be compared term by term.
-/
import Ballast.Api.Proofs.Filed

namespace Ballast.Api

open Soroban Machine

variable {χ τ : Type} {net : Network χ τ} {db₀ : Db}
  {Good : Envelope → IntentKind → RowId → Option Int → Prop}
  {s s' : System χ} {sort : TxIntent → Bool} {f : Landing χ → Int}
  {h : TxHash}

/-- An intent of this kind on row `r`. -/
def onRow (kind : IntentKind) (r : RowId) (i : TxIntent) : Bool :=
  i.kind = kind ∧ i.refId = r

theorem onRow_iff {kind : IntentKind} {r : RowId} {i : TxIntent} :
    onRow kind r i = true ↔ i.kind = kind ∧ i.refId = r := by
  simp [onRow]

theorem Alike.onRow {i j : TxIntent} (h : Alike i j) (kind : IntentKind)
    (r : RowId) : onRow kind r i = onRow kind r j := by
  simp [Api.onRow, h.kind, h.refId]

/-- An intent of this sort is pending under `h`. -/
def Waits (sort : TxIntent → Bool) (db : Db) (h : TxHash) : Bool :=
  (db.txIntent.get h).any fun i => sort i ∧ i.status = .pending

/-- `f`, over the landed transactions whose intent of this sort waits to
be settled. -/
def unbooked (sort : TxIntent → Bool) (f : Landing χ → Int)
    (s : System χ) : Int :=
  s.landed.total fun h x => if Waits sort s.db h then f x else 0

theorem waits_iff {db : Db} : Waits sort db h = true ↔
    ∃ i, db.txIntent.get h = some i ∧ sort i = true
      ∧ i.status = .pending := by
  unfold Waits
  cases db.txIntent.get h with
  | none => simp
  | some i => simp

/-- The intents under `h` wait alike. -/
theorem waits_congr {db db' : Db}
    (hdb : db'.txIntent.get h = db.txIntent.get h) :
    Waits sort db' h = Waits sort db h := by
  rw [Waits, hdb, Waits]

/-- Nothing of this sort is pending, so nothing is unbooked. -/
theorem unbooked_quiet (hquiet : ∀ h, Waits sort s.db h = false) :
    unbooked sort f s = 0 := by
  apply Finset.sum_eq_zero
  intro h _
  unfold Store.part
  split
  · simp [hquiet h]
  · rfl

/-- What is unbooked depends on what has landed and on what waits. -/
theorem unbooked_congr (hland : s'.landed = s.landed)
    (hwaits : ∀ h x, s.landed.get h = some x →
      Waits sort s'.db h = Waits sort s.db h) :
    unbooked sort f s' = unbooked sort f s := by
  unfold unbooked
  rw [hland]
  apply Store.total_congr
  intro h
  cases hx : s.landed.get h with
  | none => rw [Store.part_none _ hx, Store.part_none _ hx]
  | some x =>
      rw [Store.part_some _ hx, Store.part_some _ hx, hwaits h x hx]

/-- A transaction nothing has landed under is recorded. -/
theorem unbooked_recorded {row : TxIntent} (hnew : s.landed.get h = none)
    (hdb : s'.db.txIntent = s.db.txIntent.set h row)
    (hland : s'.landed = s.landed) :
    unbooked sort f s' = unbooked sort f s := by
  apply unbooked_congr hland
  intro k x hx
  apply waits_congr
  rw [hdb, Store.get_set_ne]
  intro hk
  rw [hk, hnew] at hx
  cases hx

/-- A pending intent is written to and stays pending. -/
theorem unbooked_kept {i j : TxIntent}
    (hrow : s.db.txIntent.get h = some i) (hsort : sort j = sort i)
    (hstatus : j.status = i.status)
    (hdb : s'.db.txIntent = s.db.txIntent.set h j)
    (hland : s'.landed = s.landed) :
    unbooked sort f s' = unbooked sort f s := by
  apply unbooked_congr hland
  intro k x _
  by_cases hk : k = h
  · subst hk
    simp [Waits, hdb, hrow, hsort, hstatus]
  · apply waits_congr
    rw [hdb, Store.get_set_ne _ _ hk]

/-- A pending intent's transaction lands. -/
theorem unbooked_landed {i : TxIntent} {x : Landing χ}
    (hrow : s.db.txIntent.get h = some i)
    (hpending : i.status = .pending) (hnew : s.landed.get h = none)
    (hdb : s'.db.txIntent = s.db.txIntent)
    (hland : s'.landed = s.landed.set h x) :
    unbooked sort f s'
      = unbooked sort f s + if sort i then f x else 0 := by
  have hwaits : ∀ k, Waits sort s'.db k = Waits sort s.db k :=
    fun k => waits_congr (by rw [hdb])
  unfold unbooked
  simp only [hwaits, hland]
  rw [Store.total_set, Store.part_none _ hnew]
  simp [Waits, hrow, hpending]

/-- A pending intent is settled, or written off. -/
theorem unbooked_claimed {i j : TxIntent}
    (hrow : s.db.txIntent.get h = some i)
    (hpending : i.status = .pending) (hdone : j.status ≠ .pending)
    (hdb : s'.db.txIntent = s.db.txIntent.set h j)
    (hland : s'.landed = s.landed) :
    unbooked sort f s' = unbooked sort f s
      - if sort i then (s.landed.get h).elim 0 f else 0 := by
  have hrest : ∀ k, k ≠ h →
      s'.landed.part (fun k x => if Waits sort s'.db k then f x else 0) k
        = s.landed.part
          (fun k x => if Waits sort s.db k then f x else 0) k := by
    intro k hk
    have hwaits : Waits sort s'.db k = Waits sort s.db k :=
      waits_congr (by rw [hdb, Store.get_set_ne _ _ hk])
    simp only [Store.part, hland, hwaits]
  have hbefore : s.landed.part
      (fun k x => if Waits sort s.db k then f x else 0) h
        = if sort i then (s.landed.get h).elim 0 f else 0 := by
    cases hx : s.landed.get h with
    | none => simp [Store.part_none _ hx]
    | some x => simp [Store.part_some _ hx, Waits, hrow, hpending]
  have hafter : s'.landed.part
      (fun k x => if Waits sort s'.db k then f x else 0) h = 0 := by
    cases hx : s'.landed.get h with
    | none => exact Store.part_none _ hx
    | some x => simp [Store.part_some _ hx, Waits, hdb, hdone]
  unfold unbooked
  rw [Store.total_update h hrest, hbefore, hafter]
  omega

/-- What a hash that is not on file lands as: nothing. -/
theorem Filed.not_landed (hf : Filed net db₀ Good s)
    (hnew : s.db.txIntent.get h = none) : s.landed.get h = none := by
  cases hx : s.landed.get h with
  | none => rfl
  | some x =>
      obtain ⟨e, env, he, -⟩ := hf.landed h x hx
      obtain ⟨i, hi, -⟩ := hf.handed h e he
      rw [hnew] at hi
      cases hi

end Ballast.Api
