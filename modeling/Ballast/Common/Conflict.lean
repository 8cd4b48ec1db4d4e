/-
Inserts into a table with a unique key, `on conflict do nothing`.

A table is the list of its rows in the order they came. A row whose key
is on file is dropped, also when the row before it in the same statement
brought the key.

Nothing is assumed of what the rows hold besides their key: two rows
with one key may differ, and then the one that came first stays. So an
insert that is sent again does no harm, and a statement whose
acknowledgement was lost may simply be repeated.
-/
import Mathlib.Data.List.Nodup

namespace Ballast.Conflict

variable {κ ρ : Type} [DecidableEq κ] (key : ρ → κ)

def insertRow (rows : List ρ) (row : ρ) : List ρ :=
  if key row ∈ rows.map key then rows else rows ++ [row]

/-- `insert … values (new) on conflict (key) do nothing`. -/
def insertRows (rows new : List ρ) : List ρ :=
  new.foldl (insertRow key) rows

@[simp] theorem insertRows_nil (rows : List ρ) :
    insertRows key rows [] = rows := rfl

@[simp] theorem insertRows_cons (rows : List ρ) (row : ρ) (new : List ρ) :
    insertRows key rows (row :: new)
      = insertRows key (insertRow key rows row) new := rfl

variable {key}

theorem prefix_insertRow (rows : List ρ) (row : ρ) :
    rows <+: insertRow key rows row := by
  unfold insertRow
  split
  · exact List.prefix_rfl
  · exact List.prefix_append _ _

/-- Rows stay. -/
theorem prefix_insertRows (rows new : List ρ) :
    rows <+: insertRows key rows new := by
  induction new generalizing rows with
  | nil => exact List.prefix_rfl
  | cons row new ih => exact (prefix_insertRow rows row).trans (ih _)

theorem nodup_insertRow {rows : List ρ} (h : (rows.map key).Nodup)
    (row : ρ) : ((insertRow key rows row).map key).Nodup := by
  unfold insertRow
  split
  · exact h
  next hnew =>
    rw [List.map_append]
    exact h.append (List.nodup_singleton _)
      (List.disjoint_singleton.mpr hnew)

/-- Keys stay unique. -/
theorem nodup_insertRows {rows : List ρ} (h : (rows.map key).Nodup)
    (new : List ρ) : ((insertRows key rows new).map key).Nodup := by
  induction new generalizing rows with
  | nil => exact h
  | cons row new ih => exact ih (nodup_insertRow h row)

theorem mem_insertRow {rows : List ρ} {row r : ρ}
    (h : r ∈ insertRow key rows row) : r ∈ rows ∨ r = row := by
  unfold insertRow at h
  split at h
  · exact Or.inl h
  · simpa using h

/-- A row on file was there, or came now. -/
theorem mem_insertRows {rows new : List ρ} {r : ρ}
    (h : r ∈ insertRows key rows new) : r ∈ rows ∨ r ∈ new := by
  induction new generalizing rows with
  | nil => exact Or.inl h
  | cons row new ih =>
      rcases ih h with h | h
      · rcases mem_insertRow h with h | rfl
        · exact Or.inl h
        · exact Or.inr List.mem_cons_self
      · exact Or.inr (List.mem_cons_of_mem _ h)

theorem key_mem_insertRow (rows : List ρ) (row : ρ) :
    key row ∈ (insertRow key rows row).map key := by
  unfold insertRow
  split
  next h => exact h
  · simp

/-- A key that came is on file. -/
theorem key_mem_insertRows {rows new : List ρ} {r : ρ} (h : r ∈ new) :
    key r ∈ (insertRows key rows new).map key := by
  induction new generalizing rows with
  | nil => cases h
  | cons row new ih =>
      rcases List.mem_cons.mp h with rfl | h
      · exact ((prefix_insertRows _ new).map key).subset
          (key_mem_insertRow rows r)
      · exact ih h

/-- With unique keys a row on file is the one of its key. -/
theorem filter_key_eq {rows : List ρ} (hnodup : (rows.map key).Nodup)
    {r : ρ} (h : r ∈ rows) :
    rows.filter (fun x => key x = key r) = [r] := by
  induction rows with
  | nil => cases h
  | cons row rows ih =>
      rw [List.map_cons, List.nodup_cons] at hnodup
      obtain ⟨hfresh, hnodup⟩ := hnodup
      rcases List.mem_cons.mp h with rfl | h
      · have hnone : rows.filter (fun x => key x = key r) = [] := by
          rw [List.filter_eq_nil_iff]
          intro x hx hkey
          exact hfresh (of_decide_eq_true hkey ▸ List.mem_map_of_mem hx)
        rw [List.filter_cons_of_pos (by simp), hnone]
      · have hne : key row ≠ key r := fun heq =>
          hfresh (heq ▸ List.mem_map_of_mem h)
        rw [List.filter_cons_of_neg (by simpa using hne), ih hnodup h]

end Ballast.Conflict
