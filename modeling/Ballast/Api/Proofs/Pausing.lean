/-
Pausing cannot move funds. The pauser's calls, and those that lift a
pause, can be left out of any stretch of the chain's life in which nobody
settles a repo or exits: every balance, line, position, trade, due and
inventory comes out the same, and so does whether each call commits.

The credit line and the vault read flags nobody can set in them, so their
draws and pledges need no exception.

# The comparison

Two chains that differ in the flags, the queued unpauses and the events
of the two desks look the same (`unflagged`), and a transaction that
neither asks a flag nor sets one takes chains that look the same to
chains that look the same (`chain_blind`). Leaving the pausing ones out
step by step is then an induction on the run. To queue an unpause is not
among them: it draws an id from the counter that numbers the trades.
-/
import Ballast.Api.Chain
import Ballast.ExitDesk.Proofs.Blind
import Ballast.RepoDvp.Proofs.Blind

namespace Ballast.Api

open Soroban

/-- The chain without what pausing writes. -/
def unflagged (c : Chain) : Chain :=
  { c with
    repo := c.repo.unflagged
    desk := c.desk.unflagged }

/-- Sets a flag, or lifts one. -/
def ChainTx.pauses : ChainTx → Bool
  | .repo (.call _ (.pause ..)) => true
  | .repo (.call _ (.cancelUnpause ..)) => true
  | .repo (.call _ (.executeUnpause ..)) => true
  | .desk (.call _ (.pause ..)) => true
  | .desk (.call _ (.cancelUnpause ..)) => true
  | .desk (.call _ (.executeUnpause ..)) => true
  | _ => false

/-- Asks a flag that somebody can set. -/
def ChainTx.gated : ChainTx → Bool
  | .repo (.call _ (.acceptAndSettle ..)) => true
  | .desk (.call _ (.exit ..)) => true
  | _ => false

variable {d : Deployed} {start c c' : Chain} {env : Env}

-- ============================================================ what is seen

theorem tokens_of_unflagged (h : unflagged c = unflagged c') :
    c.tokens = c'.tokens := by
  have htokens : (unflagged c).tokens = (unflagged c').tokens :=
    congrArg Chain.tokens h
  exact htokens

theorem repo_of_unflagged (h : unflagged c = unflagged c') :
    RepoDvp.unflagged ⟨c.tokens, c.repo⟩
      = RepoDvp.unflagged ⟨c'.tokens, c'.repo⟩ := by
  have hrepo : (unflagged c).repo = (unflagged c').repo :=
    congrArg Chain.repo h
  rw [tokens_of_unflagged h]
  exact congrArg (World.mk c'.tokens) hrepo

theorem desk_of_unflagged (h : unflagged c = unflagged c') :
    ExitDesk.unflagged ⟨c.tokens, c.desk⟩
      = ExitDesk.unflagged ⟨c'.tokens, c'.desk⟩ := by
  have hdesk : (unflagged c).desk = (unflagged c').desk :=
    congrArg Chain.desk h
  rw [tokens_of_unflagged h]
  exact congrArg (World.mk c'.tokens) hdesk

/-- The chain with the repo desk as it is seen. -/
def Chain.withRepo (c : Chain) (w : World RepoDvp.State) : Chain :=
  { c with tokens := w.tokens, repo := w.store }

/-- The chain with the exit desk as it is seen. -/
def Chain.withDesk (c : Chain) (w : World ExitDesk.State) : Chain :=
  { c with tokens := w.tokens, desk := w.store }

-- ============================================================ the contracts

theorem lending_blind (tx : Wired.Tx) :
    (chainMachine d start).Blind unflagged (.lending tx) := by
  intro c c' h
  have htokens := tokens_of_unflagged h
  have hlending : (unflagged c).lending = (unflagged c').lending :=
    congrArg Chain.lending h
  have hrest : ∀ w : World Wired.State,
      unflagged { c with tokens := w.tokens, lending := w.store }
        = unflagged { c' with tokens := w.tokens, lending := w.store } := by
    intro w
    exact congrArg
      (fun v : Chain => { v with tokens := w.tokens, lending := w.store }) h
  have hworld : (⟨c.tokens, c.lending⟩ : World Wired.State)
      = ⟨c'.tokens, c'.lending⟩ := by
    rw [htokens]
    exact congrArg (World.mk c'.tokens) hlending
  simp only [chainMachine, map_map]
  rw [hworld]
  congr 1
  funext w
  exact hrest w

theorem repo_blind (h : unflagged c = unflagged c')
    {x y : Call (World RepoDvp.State)}
    (hxy : x.map RepoDvp.unflagged = y.map RepoDvp.unflagged) :
    (x.map c.withRepo).map unflagged = (y.map c'.withRepo).map unflagged := by
  have hseen : ∀ w, unflagged (c'.withRepo w)
      = (unflagged c').withRepo (RepoDvp.unflagged w) := fun _ => rfl
  have hseen' : ∀ w, unflagged (c.withRepo w)
      = (unflagged c').withRepo (RepoDvp.unflagged w) := by
    intro w
    rw [← h]
    rfl
  simp only [map_map, hseen, hseen']
  rw [← map_map x RepoDvp.unflagged (unflagged c').withRepo, hxy, map_map]

theorem desk_blind (h : unflagged c = unflagged c')
    {x y : Call (World ExitDesk.State)}
    (hxy : x.map ExitDesk.unflagged = y.map ExitDesk.unflagged) :
    (x.map c.withDesk).map unflagged = (y.map c'.withDesk).map unflagged := by
  have hseen : ∀ w, unflagged (c'.withDesk w)
      = (unflagged c').withDesk (ExitDesk.unflagged w) := fun _ => rfl
  have hseen' : ∀ w, unflagged (c.withDesk w)
      = (unflagged c').withDesk (ExitDesk.unflagged w) := by
    intro w
    rw [← h]
    rfl
  simp only [map_map, hseen, hseen']
  rw [← map_map x ExitDesk.unflagged (unflagged c').withDesk, hxy, map_map]

/-- What neither asks a flag nor sets one cannot tell. -/
theorem chain_blind (tx : ChainTx) (hgated : tx.gated = false)
    (hpauses : tx.pauses = false) :
    (chainMachine d start).Blind unflagged tx := by
  cases tx with
  | lending tx => exact lending_blind tx
  | repo tx =>
      intro c c' h
      refine repo_blind h ?_
      have hrepo := repo_of_unflagged h
      cases tx with
      | outside tokens =>
          have hstore : (RepoDvp.unflagged ⟨c.tokens, c.repo⟩).store
              = (RepoDvp.unflagged ⟨c'.tokens, c'.repo⟩).store :=
            congrArg World.store hrepo
          exact congrArg
            (fun s => (.ok ⟨tokens, s⟩ : Call (World RepoDvp.State))) hstore
      | call env e =>
          have hflagged := RepoDvp.flagged_of_unflagged hrepo.symm
          show (RepoDvp.call _ e ⟨c.tokens, c.repo⟩).map _
            = (RepoDvp.call _ e ⟨c'.tokens, c'.repo⟩).map _
          rw [hflagged]
          apply RepoDvp.call_blind
          · rintro borrower id rfl
            cases hgated
          · rintro pauser scope rfl
            cases hpauses
          · rintro admin id rfl
            cases hpauses
          · rintro id rfl
            cases hpauses
  | desk tx =>
      intro c c' h
      refine desk_blind h ?_
      have hdesk := desk_of_unflagged h
      cases tx with
      | outside tokens =>
          have hstore : (ExitDesk.unflagged ⟨c.tokens, c.desk⟩).store
              = (ExitDesk.unflagged ⟨c'.tokens, c'.desk⟩).store :=
            congrArg World.store hdesk
          exact congrArg
            (fun s => (.ok ⟨tokens, s⟩ : Call (World ExitDesk.State))) hstore
      | call env e =>
          have hflagged := ExitDesk.flagged_of_unflagged hdesk.symm
          show (ExitDesk.call _ e ⟨c.tokens, c.desk⟩).map _
            = (ExitDesk.call _ e ⟨c'.tokens, c'.desk⟩).map _
          rw [hflagged]
          apply ExitDesk.call_blind
          · rintro holder asset units minUsdcOut payTo rfl
            cases hgated
          · rintro pauser scope rfl
            cases hpauses
          · rintro admin id rfl
            cases hpauses
          · rintro id rfl
            cases hpauses

/-- What pauses, or lifts a pause, moves nothing. -/
theorem chain_unseen (tx : ChainTx) (hpauses : tx.pauses = true) :
    (chainMachine d start).Unseen unflagged tx := by
  intro c c' h
  cases tx with
  | lending tx => cases hpauses
  | repo tx =>
      obtain ⟨w, hw, rfl⟩ := map_ok.mp h
      cases tx with
      | outside tokens => cases hpauses
      | call env e =>
          have hsame : RepoDvp.unflagged w
              = RepoDvp.unflagged ⟨c.tokens, c.repo⟩ := by
            refine RepoDvp.pausing_unseen ?_ hw
            cases e with
            | pause pauser scope => exact .inl ⟨_, _, rfl⟩
            | cancelUnpause admin id => exact .inr (.inl ⟨_, _, rfl⟩)
            | executeUnpause id => exact .inr (.inr ⟨_, rfl⟩)
            | _ => cases hpauses
          exact congrArg (unflagged c).withRepo hsame
  | desk tx =>
      obtain ⟨w, hw, rfl⟩ := map_ok.mp h
      cases tx with
      | outside tokens => cases hpauses
      | call env e =>
          have hsame : ExitDesk.unflagged w
              = ExitDesk.unflagged ⟨c.tokens, c.desk⟩ := by
            refine ExitDesk.pausing_unseen ?_ hw
            cases e with
            | pause pauser scope => exact .inl ⟨_, _, rfl⟩
            | cancelUnpause admin id => exact .inr (.inl ⟨_, _, rfl⟩)
            | executeUnpause id => exact .inr (.inr ⟨_, rfl⟩)
            | _ => cases hpauses
          exact congrArg (unflagged c).withDesk hsame

/-- From any state on, as long as nobody settles a repo or exits: pause
what you like and lift it again, the chain comes out as if you had not. -/
theorem pausing_moves_nothing (d : Deployed) (start c : Chain)
    (txs : List ChainTx) (hno : ∀ tx ∈ txs, tx.gated = false) :
    unflagged ((chainMachine d start).run c txs)
      = unflagged ((chainMachine d start).run c
        (txs.filter fun tx => !tx.pauses)) :=
  Machine.run_purge ChainTx.pauses
    (fun tx _ hpauses => chain_unseen tx hpauses)
    (fun tx htx hpauses => chain_blind tx (hno tx htx) hpauses) rfl

/-- At a line with 5000 units pledged and 1000 to draw: the repo desk is
set up and paused, 600 are drawn while it is, and two days later the pause
is lifted. -/
def Demo.pausing : List ChainTx :=
  [.repo (.call (Demo.env 0 5) (.initContract ⟨1⟩ ⟨1⟩ ⟨1⟩ ⟨1⟩ ⟨1⟩)),
   .repo (.call (Demo.env 0 5) (.pause ⟨1⟩ .all)),
   .repo (.call (Demo.env 0 5) (.queueUnpause ⟨1⟩ .all)),
   .lending (.creditLine (Demo.env 0 6)
     (.draw Wired.Demo.borrower 0 600 Wired.Demo.borrower)),
   .repo (.call (Demo.env 172800 7) (.executeUnpause 0))]

/-- The same without the pause and its lifting. -/
def Demo.unpaused : List ChainTx :=
  [.repo (.call (Demo.env 0 5) (.initContract ⟨1⟩ ⟨1⟩ ⟨1⟩ ⟨1⟩ ⟨1⟩)),
   .repo (.call (Demo.env 0 5) (.queueUnpause ⟨1⟩ .all)),
   .lending (.creditLine (Demo.env 0 6)
     (.draw Wired.Demo.borrower 0 600 Wired.Demo.borrower))]

/-- The flag is set and lifted, and the draw pays its 600 either way. -/
theorem pausing_moves_nothing_demo :
    let M := chainMachine Demo.deployed Demo.funded
    (isPaused (M.run Demo.funded (Demo.pausing.take 4)).repo.paused .repos
        = true
      ∧ isPaused (M.run Demo.funded Demo.pausing).repo.paused .repos = false
      ∧ (M.run Demo.funded Demo.pausing).tokens.balance Wired.Demo.usdc
        Wired.Demo.borrower = 600)
    ∧ unflagged (M.run Demo.funded Demo.pausing)
      = unflagged (M.run Demo.funded Demo.unpaused) :=
  ⟨by decide +kernel,
    pausing_moves_nothing Demo.deployed Demo.funded Demo.funded Demo.pausing
      (by simp [Demo.pausing, ChainTx.gated])⟩

end Ballast.Api
