/-
Rows that go by a key: looking one up, updating the one of a key.

A table is a list of rows, and a key is any function of a row. Nothing
here asks for the key to be unique: `find` takes the first row of a key
and `lookup` the last, as a query and a JS map do, and which of them a
program uses can matter when a key comes twice. An update writes all
rows of its key.
-/
import Mathlib.Data.List.Nodup

namespace Ballast.Table

variable {κ ρ β : Type} [DecidableEq κ] (key : ρ → κ)

/-- `select … where key = k limit 1`. -/
def find (rows : List ρ) (k : κ) : Option ρ :=
  rows.find? fun r => key r = k

/-- `new Map(rows.map(r => [key, r])).get(k)`: of two rows of a key, the
last. -/
def lookup (rows : List ρ) (k : κ) : Option ρ :=
  find key rows.reverse k

/-- `update … set … where key = k`. -/
def update (rows : List ρ) (k : κ) (f : ρ → ρ) : List ρ :=
  rows.map fun r => if key r = k then f r else r

variable {key}

theorem find_some {rows : List ρ} {k : κ} {r : ρ}
    (h : find key rows k = some r) : r ∈ rows ∧ key r = k := by
  have hkey := List.find?_some h
  exact ⟨List.mem_of_find?_eq_some h, of_decide_eq_true hkey⟩

/-- A row whose key is its own is the one found. -/
theorem find_of_mem {rows : List ρ} (hnodup : (rows.map key).Nodup)
    {r : ρ} (h : r ∈ rows) : find key rows (key r) = some r := by
  cases hfind : find key rows (key r) with
  | none =>
      have hne := List.find?_eq_none.mp hfind r h
      simp at hne
  | some r' =>
      obtain ⟨hmem, hkey⟩ := find_some hfind
      rw [List.inj_on_of_nodup_map hnodup hmem h hkey]

/-- A row after an update: as it was, or the one of the key, updated. -/
theorem mem_update {rows : List ρ} {k : κ} {f : ρ → ρ} {r : ρ}
    (h : r ∈ update key rows k f) :
    (r ∈ rows ∧ key r ≠ k) ∨ ∃ old ∈ rows, key old = k ∧ r = f old := by
  obtain ⟨old, hold, rfl⟩ := List.mem_map.mp h
  split
  next hk => exact Or.inr ⟨old, hold, hk, rfl⟩
  next hk => exact Or.inl ⟨hold, hk⟩

theorem update_mem {rows : List ρ} {k : κ} {f : ρ → ρ} {r : ρ}
    (h : r ∈ rows) (hk : key r = k) : f r ∈ update key rows k f :=
  List.mem_map.mpr ⟨r, h, if_pos hk⟩

theorem update_mem_of_ne {rows : List ρ} {k : κ} {f : ρ → ρ} {r : ρ}
    (h : r ∈ rows) (hk : key r ≠ k) : r ∈ update key rows k f :=
  List.mem_map.mpr ⟨r, h, if_neg hk⟩

/-- A column the update leaves alone. -/
theorem map_update {rows : List ρ} {k : κ} {f : ρ → ρ} {g : ρ → β}
    (hg : ∀ r, g (f r) = g r) :
    (update key rows k f).map g = rows.map g := by
  rw [update, List.map_map]
  apply List.map_congr_left
  intro r _
  show g (if key r = k then f r else r) = g r
  split
  · exact hg r
  · rfl

end Ballast.Table
