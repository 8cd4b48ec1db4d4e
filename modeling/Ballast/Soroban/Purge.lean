/-
Calls a view cannot tell.

A view is what somebody sees of a state. A call is `Unseen` when it leaves
the view as it is, and `Blind` when what it does to the view, whether it
commits included, depends on the view alone. Leave the unseen calls out of
a run whose other calls are blind, and the view at its end is the same
(`run_purge`): whoever makes those calls has no say in what is in view.

# The two properties of a call

`Unseen` and `Blind` are stated of one call and every state it may find,
so that a contract proves them once for each of its entry points.
`map_bind_congr` is the rule for proving `Blind`: an entry point is a
`do` block, and two runs of it from states that look the same take the
same steps as long as each step reads nothing that is out of view. For a
contract with tokens, the view of a world is the ledger as it is and the
storage through a view of its own (`World.seen`), and calls that write
to storage alone are blind if the storage write is (`seen_congr`).
-/
import Ballast.Soroban.Machine
import Ballast.Soroban.Token

namespace Ballast.Soroban

variable {α β γ : Type}

/-- The same call, and rests that look the same. -/
theorem map_bind_congr {x : Call α} {f g : α → Call β} {view : β → γ}
    (h : ∀ a, (f a).map view = (g a).map view) :
    (x >>= f).map view = (x >>= g).map view := by
  cases x with
  | error e => rfl
  | ok a => exact h a

/-- One view after another. -/
theorem map_map {δ : Type} (x : Call β) (f : β → γ) (g : γ → δ) :
    (x.map f).map g = x.map fun b => g (f b) := by
  cases x with
  | error e => rfl
  | ok a => rfl

-- ================================================================= worlds

section

variable {σ τ : Type} {view : σ → τ} {w w' : World σ}

/-- A world whose storage is seen through `view`. Tokens are in plain
sight. -/
def World.seen (view : σ → τ) (w : World σ) : World τ :=
  ⟨w.tokens, view w.store⟩

/-- Worlds that look the same have the same tokens, and storages that look
the same. -/
theorem World.seen_inj (h : w.seen view = w'.seen view) :
    w.tokens = w'.tokens ∧ view w.store = view w'.store := by
  simpa only [seen, World.mk.injEq] using h

/-- Calls that write to storage alone, and write what looks the same. -/
theorem seen_congr {r r' : Call σ} (h : r.map view = r'.map view)
    (tokens : Ledger) :
    (r.map fun s => (⟨tokens, s⟩ : World σ)).map (World.seen view)
      = (r'.map fun s => (⟨tokens, s⟩ : World σ)).map
          (World.seen view) := by
  have hmap := congrArg (fun r => r.map (World.mk tokens)) h
  simp only [map_map] at hmap
  rw [map_map, map_map]
  exact hmap

end

namespace Machine

variable {σ τ : Type} {M : Machine σ α} {view : σ → τ} {a : α} {s t : σ}

/-- The call leaves the view as it is. -/
def Unseen (M : Machine σ α) (view : σ → τ) (a : α) : Prop :=
  ∀ s s', M.apply a s = .ok s' → view s' = view s

/-- What the call does to the view depends on the view alone. -/
def Blind (M : Machine σ α) (view : σ → τ) (a : α) : Prop :=
  ∀ s t, view s = view t →
    (M.apply a s).map view = (M.apply a t).map view

/-- An unseen call leaves what is seen, whether it commits or not. -/
theorem Unseen.exec (h : M.Unseen view a) :
    view (M.exec s a) = view s := by
  rcases M.exec_cases s a with happ | hsame
  · exact h s _ happ
  · rw [hsame]

/-- From states that look the same, a blind call leads to states that do. -/
theorem Blind.exec (h : M.Blind view a) (hst : view s = view t) :
    view (M.exec s a) = view (M.exec t a) := by
  have hmap := h s t hst
  unfold Machine.exec
  cases hs : M.apply a s with
  | error e =>
      cases ht : M.apply a t with
      | error e' => exact hst
      | ok t' =>
          rw [hs, ht] at hmap
          cases hmap
  | ok s' =>
      cases ht : M.apply a t with
      | error e' =>
          rw [hs, ht] at hmap
          cases hmap
      | ok t' =>
          rw [hs, ht] at hmap
          exact Except.ok.inj hmap

/-- A run, and the same run without the calls that are hidden. -/
theorem run_purge (hidden : α → Bool) {as : List α}
    (hunseen : ∀ a ∈ as, hidden a = true → M.Unseen view a)
    (hblind : ∀ a ∈ as, hidden a = false → M.Blind view a)
    (hst : view s = view t) :
    view (M.run s as)
      = view (M.run t (as.filter fun a => !hidden a)) := by
  induction as generalizing s t with
  | nil => exact hst
  | cons a as ih =>
      have hunseen' := fun b hb => hunseen b (List.mem_cons_of_mem _ hb)
      have hblind' := fun b hb => hblind b (List.mem_cons_of_mem _ hb)
      cases ha : hidden a with
      | true =>
          rw [List.filter_cons_of_neg (by simp [ha]), run_cons]
          apply ih hunseen' hblind'
          rw [(hunseen a List.mem_cons_self ha).exec]
          exact hst
      | false =>
          rw [List.filter_cons_of_pos (by simp [ha]), run_cons, run_cons]
          exact ih hunseen' hblind'
            ((hblind a List.mem_cons_self ha).exec hst)

end Machine

end Ballast.Soroban
