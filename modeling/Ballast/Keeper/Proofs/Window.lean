/-
The cure window: what the keeper and the monitor had read of a line by the
time the keeper's transaction freezes it.

# The monitor's readings

The monitor's events of a line are the log of changes of its readings
(`Noted`), so what the keeper counts the window from, the oldest event of
the unbroken unhealthy stretch, was a reading, and every reading from it
until the keeper looked was unhealthy too (`Noted.waitedOut`). Looking back
at only so many events may find a later start, and never an earlier one.

# The keeper's reads

A turn reads at its awaits, each in a state of its own, and anything may
have happened since by the time its transaction lands. So each part of
`Warranted` is about the state in which that part was read: an entry of
the run's trace (`At`), in the order of the awaits.

`Sound` carries this along a run: a turn, and a transaction it has sent,
is good for the reads it rests on, whatever becomes of the turn. The trace
only grows, so what has been read stays read.
-/
import Ballast.Common.Changes
import Ballast.Keeper.Proofs.Turns
import Ballast.Webhooks.Proofs.Cured

namespace Ballast.Keeper.CureTurns

open Soroban
open Api (Chain ChainTx Deployed RowId TxHash CreditLineRow)
open Changes (changes changes_snoc note since_noted oldest_passing)
open CureExpiry (unhealthy recentEvents breachStart held)
open MarginMonitor (MarginEvent)
open Webhooks (history)

variable {d : Deployed} {keeper : Address} {s s' : System} {a : Act}
  {t t' : CureExpiry.System} {r : RowId}

-- ============================================================== the readings

/-- What the monitor read of a line. -/
structure Reading where
  line : RowId
  state : MarginState
  time : Nat
  deriving DecidableEq, Repr

/-- What an action of the monitor reads, when the contract answers. -/
def reads (d : Deployed) (a : Act) (s : System) : List Reading :=
  match a with
  | .recompute r env now =>
      match (s.around.api.db.creditLine.get r).bind (·.contractLineId) with
      | some id => match CureExpiry.readLtv d env id s.around with
        | .ok view => [⟨r, view.state, now⟩]
        | .error _ => []
      | none => []
  | _ => []

/-- A run, as its committed steps. -/
abbrev Trace := List (Machine.Committed System Act)

/-- Every reading of a run. -/
def readings (d : Deployed) (tr : Trace) : List Reading :=
  tr.flatMap fun x => reads d x.call x.before

def ofEvent (e : MarginEvent) : Reading :=
  ⟨e.creditLineId, e.toState, e.createdAt⟩

/-- The readings of one line. -/
def ofLine (seen : List Reading) (r : RowId) : List Reading :=
  seen.filter (·.line = r)

/-- The events of every line are the changes of its readings. -/
structure Noted (t : CureExpiry.System) (seen : List Reading) : Prop where
  recorded : Webhooks.Recorded t.monitor
  noted : ∀ r, (history t.monitor r).map ofEvent
    = changes (·.state) (ofLine seen r)

/-- All readings of the line since some time, a window ago or more, were
unhealthy, and one was taken at that time. -/
def WaitedOut (seen : List Reading) (windowS now : Nat) : Prop :=
  ∃ before first after, seen = before ++ first :: after
    ∧ (∀ x ∈ first :: after, unhealthy x.state = true)
    ∧ first.time + windowS * 1000 ≤ now

-- ============================================================ the monitor

/-- The state the log ends in is the one the monitor compares with. -/
theorem readLine_state (t : CureExpiry.System) (r : RowId)
    (ht : Webhooks.Recorded t.monitor) :
    ((history t.monitor r).map ofEvent).getLast?.map (·.state)
      = (MarginMonitor.newest (·.createdAt)
          (history t.monitor r)).map (·.toState) := by
  rw [Webhooks.newest_history ht.sorted, List.getLast?_map,
    Option.map_map]
  rfl

/-- A recompute notes its reading in the log of its line, if it differs
from the last, and leaves the logs of the other lines. -/
theorem Noted.recompute {seen : List Reading} (h : Noted s.around seen)
    {env : Env} {now : Nat}
    (hstep : CureExpiry.recompute d r env now s.around = .ok t') :
    Noted t' (seen ++ reads d (.recompute r env now) s) := by
  simp only [CureExpiry.recompute, bind_ok, pure_ok, expect_ok] at hstep
  obtain ⟨row, hrow, id, hid, monitor, hmonitor, rfl⟩ := hstep
  refine ⟨Webhooks.recorded_step h.recorded hmonitor, fun k => ?_⟩
  simp only [MarginMonitor.step, MarginMonitor.recomputeLine, bind_ok,
    ensure_ok, pure_ok, decide_eq_true_eq, map_ok] at hmonitor
  obtain ⟨-, -, ⟨result, m⟩, ⟨_, ⟨view, hview, rfl⟩, hm⟩, rfl⟩ := hmonitor
  have hreads : reads d (.recompute r env now) s
      = [⟨r, view.state, now⟩] := by
    simp only [reads, hrow, Option.bind_some, hid, hview]
  rw [hreads, ofLine, List.filter_append]
  by_cases hk : r = k
  · subst hk
    have hlast := readLine_state s.around r h.recorded
    rw [h.noted r] at hlast
    rw [List.filter_cons_of_pos (by simp), List.filter_nil, changes_snoc,
      note, ← ofLine, hlast]
    split at hm
    next hchanged =>
      -- the monitor inserts an event, and the log grows by it
      have hnew : ((MarginMonitor.newest (·.createdAt)
          (history s.around.monitor r)).map (·.toState))
            ≠ some view.state := hchanged
      injection hm with hm
      injection hm with _ hm
      subst hm
      rw [if_neg hnew, ← h.noted r]
      simp [history, List.filter_append, ofEvent]
    next hchanged =>
      have hsame : ((MarginMonitor.newest (·.createdAt)
          (history s.around.monitor r)).map (·.toState))
            = some view.state := not_not.mp hchanged
      injection hm with hm
      injection hm with _ hm
      subst hm
      rw [if_pos hsame]
      exact h.noted r
  · rw [List.filter_cons_of_neg (by simpa using hk), List.filter_nil,
      List.append_nil, ← ofLine, ← h.noted k]
    unfold history
    split at hm <;> injection hm with hm <;> injection hm with _ hm <;>
      subst hm
    · simp [List.filter_append, hk]
    · rfl

/-- No other step is seen by the monitor, and none changes the terms of the
lines. -/
theorem Did.monitor (h : Did d keeper s a s') :
    s'.around.cureWindowS = s.around.cureWindowS
      ∧ ((∀ row env now, a ≠ .recompute row env now) →
        s'.around.monitor = s.around.monitor) := by
  cases h with
  | api h =>
      simp only [CureExpiry.step, bind_ok, pure_ok] at h
      obtain ⟨api, -, rfl⟩ := h
      exact ⟨rfl, fun _ => rfl⟩
  | recomputed h =>
      simp only [CureExpiry.step, CureExpiry.recompute, bind_ok,
        pure_ok] at h
      obtain ⟨-, -, -, -, monitor, -, rfl⟩ := h
      exact ⟨rfl, fun hno => absurd rfl (hno _ _ _)⟩
  | landed _ hsubmit =>
      obtain ⟨chain, rfl⟩ := CureExpiry.submit_onChain hsubmit
      exact ⟨rfl, fun _ => rfl⟩
  | selected | goes | ended | sent | failed | booked =>
      exact ⟨rfl, fun _ => rfl⟩

/-- A reading of the monitor is noted, and nothing else writes an event. -/
theorem Noted.step {seen : List Reading} (h : Noted s.around seen)
    (hstep : step d keeper a s = .ok s') :
    Noted s'.around (seen ++ reads d a s) := by
  by_cases ha : ∃ row env now, a = .recompute row env now
  · obtain ⟨row, env, now, rfl⟩ := ha
    simp only [CureTurns.step, CureExpiry.step, bind_ok, pure_ok] at hstep
    obtain ⟨around, hstep, rfl⟩ := hstep
    exact h.recompute hstep
  · push Not at ha
    have hnone : reads d a s = [] := by
      cases a with
      | recompute row env now => exact absurd rfl (ha row env now)
      | _ => rfl
    obtain ⟨-, hmonitor⟩ := (did_of_step hstep).monitor
    rw [hnone, List.append_nil]
    exact ⟨hmonitor ha ▸ h.recorded, hmonitor ha ▸ h.noted⟩

/-- The events of a line are the changes of its readings, at the end of
every run. -/
theorem noted_run (d : Deployed) (keeper : Address) (start : Chain)
    (db : Api.Db) (cureWindowS : RowId → Nat) (as : List Act) :
    let M := machine d keeper start db cureWindowS
    Noted (M.run M.init as).around (readings d (M.trace M.init as)) := by
  have hinit : Noted (machine d keeper start db cureWindowS).init.around
      (readings d []) := ⟨Webhooks.recorded_run [], fun _ => rfl⟩
  refine Machine.trace_induction
    (P := fun s tr => Noted s.around (readings d tr)) hinit ?_
    (Machine.allowed_true _ as)
  intro s tr a s' h _ happ
  have hreadings : readings d (tr ++ [⟨a, s, s'⟩])
      = readings d tr ++ reads d a s := by
    simp [readings]
  rw [hreadings]
  exact h.step happ

/-- The window counted by the keeper has run out in the readings too. -/
theorem Noted.waitedOut {seen : List Reading} (h : Noted t seen)
    {windowS now : Nat}
    (hevent : (recentEvents t r).head?.any (unhealthy ·.toState) = true)
    (hnow : breachStart (recentEvents t r) + windowS * 1000 ≤ now) :
    WaitedOut (ofLine seen r) windowS now := by
  obtain ⟨latest, hlatest, hbad⟩ := (Option.any_eq_true _ _).mp hevent
  have hne : (recentEvents t r).takeWhile (unhealthy ·.toState) ≠ [] := by
    obtain ⟨rest, hrest⟩ := List.head?_eq_some_iff.mp hlatest
    rw [hrest, List.takeWhile_cons_of_pos
      (p := fun e : MarginEvent => unhealthy e.toState) hbad]
    exact List.cons_ne_nil _ _
  have hstart : ∃ e, ((recentEvents t r).takeWhile
      (unhealthy ·.toState)).getLast? = some e :=
    ⟨_, List.getLast?_eq_some_getLast hne⟩
  obtain ⟨e, he⟩ := hstart
  rw [breachStart, he] at hnow
  -- The entry the keeper counts from, found again among the readings.
  obtain ⟨pre, post, hlog, hall⟩ := oldest_passing he
  have hnoted := h.noted r
  rw [history, hlog, List.map_append, List.map_cons] at hnoted
  obtain ⟨before, after, hseen, hafter⟩ := since_noted hnoted.symm
  refine ⟨before, ofEvent e, after, hseen, ?_, hnow⟩
  intro x hx
  rcases List.mem_cons.mp hx with rfl | hx
  · exact hall e List.mem_cons_self
  · obtain ⟨y, hy, hkey⟩ := hafter x hx
    rw [← List.map_cons (f := ofEvent)] at hy
    obtain ⟨e', he', rfl⟩ := List.mem_map.mp hy
    rw [← hkey]
    exact hall e' he'

-- ================================================================= the reads

variable {tr : Trace} {w : Nat} {sub : Subject} {l : CreditLine.Line}

/-- Entry `n` of the trace is this call, made in a state of which `P`
holds. -/
def At (tr : Trace) (n : Nat) (call : Act) (P : System → Prop) : Prop :=
  ∃ x, tr[n]? = some x ∧ x.call = call ∧ P x.before

/-- An entry of the trace stays where it is as the trace grows. -/
theorem At.snoc {n : Nat} {call : Act} {P : System → Prop}
    (h : At tr n call P) (y : Machine.Committed System Act) :
    At (tr ++ [y]) n call P := by
  obtain ⟨x, hx, hfacts⟩ := h
  have hlt := (List.getElem?_eq_some_iff.mp hx).1
  exact ⟨x, by rw [List.getElem?_append_left hlt, hx], hfacts⟩

/-- And is within it. -/
theorem At.lt {n : Nat} {call : Act} {P : System → Prop}
    (h : At tr n call P) : n < tr.length := by
  obtain ⟨x, hx, -⟩ := h
  exact (List.getElem?_eq_some_iff.mp hx).1

/-- The call that is being made. -/
theorem At.now {P : System → Prop} (hs : P s) (tr : Trace) (a : Act)
    (s' : System) : At (tr ++ [⟨a, s, s'⟩]) tr.length a P :=
  ⟨⟨a, s, s'⟩, List.getElem?_concat_length, rfl, hs⟩

/-- The row as the turn found it, open. -/
def Selected (w : Nat) (row : RowId) (line : CreditLineRow)
    (windowS : Nat) (tr : Trace) (b : Nat) : Prop :=
  At tr b (.select w row) fun s =>
    s.around.api.db.creditLine.get row = some line
      ∧ line.status = .opened ∧ windowS = s.around.cureWindowS row

/-- What the two selects found: the open row, and at `e` its events, the
latest of them unhealthy. -/
structure Noticed (tr : Trace) (w : Nat) (sub : Subject) (e : Nat) :
    Prop where
  selected : ∃ b < e, Selected w sub.row sub.line sub.cureWindowS tr b
  onChain : sub.line.contractLineId = some sub.contractLine
  events : At tr e (.selectEvents w) fun s =>
    sub.events = recentEvents s.around sub.row
  unhealthy : sub.events.head?.any (unhealthy ·.toState) = true

/-- The contract answered `ltv` at `v`. -/
def LtvRead (d : Deployed) (tr : Trace) (w : Nat) (sub : Subject)
    (view : CreditLine.LtvView) (v : Nat) : Prop :=
  ∃ env, At tr v (.readLtv w env) fun s =>
    CureExpiry.readLtv d env sub.contractLine s.around = .ok view

/-- And `line` at `n`. -/
def LineRead (tr : Trace) (w : Nat) (sub : Subject) (l : CreditLine.Line)
    (n : Nat) : Prop :=
  At tr n (.readLine w) fun s => lineAt s.around sub.contractLine = some l

/-- What the turn had read when it concluded, at `c`, that the line is
due: the events at `e`, then the two reads of the contract. -/
structure Judged (d : Deployed) (tr : Trace) (w : Nat) (sub : Subject)
    (l : CreditLine.Line) (e c : Nat) : Prop where
  noticed : Noticed tr w sub e
  confirmed : ∃ v view, e < v ∧ v < c ∧ LtvRead d tr w sub view v
    ∧ view.state = .liquidation ∧ view.priceStatus = .ok
  line : ∃ n, e < n ∧ n < c ∧ LineRead tr w sub l n
  armed : l.breachLedger ≠ none
  window : ∃ now, At tr c (.conclude w now) (fun _ => True)
    ∧ breachStart sub.events + sub.cureWindowS * 1000 ≤ now

/-- And the vault's balance, read after that, is what the line had
recorded. -/
def Weighed (d : Deployed) (tr : Trace) (sub : Subject)
    (l : CreditLine.Line) : Prop :=
  ∃ w e c u, Judged d tr w sub l e c ∧ c < u
    ∧ At tr u (.positionUnits w) fun s =>
      held s.around sub.contractLine l.asset = l.pledgedUnits

/-- So what a turn noticed, it has noticed. -/
theorem Noticed.snoc {e : Nat} (h : Noticed tr w sub e)
    (y : Machine.Committed System Act) : Noticed (tr ++ [y]) w sub e where
  selected := by
    obtain ⟨b, hb, hrow⟩ := h.selected
    exact ⟨b, hb, hrow.snoc y⟩
  onChain := h.onChain
  events := h.events.snoc y
  unhealthy := h.unhealthy

/-- The ratio it read, it has read. -/
theorem LtvRead.snoc {view : CreditLine.LtvView} {v : Nat}
    (h : LtvRead d tr w sub view v) (y : Machine.Committed System Act) :
    LtvRead d (tr ++ [y]) w sub view v := by
  obtain ⟨env, hview⟩ := h
  exact ⟨env, hview.snoc y⟩

/-- What it concluded, it has concluded. -/
theorem Judged.snoc {e c : Nat} (h : Judged d tr w sub l e c)
    (y : Machine.Committed System Act) : Judged d (tr ++ [y]) w sub l e c
    where
  noticed := h.noticed.snoc y
  confirmed := by
    obtain ⟨v, view, hev, hvc, hview, hbad⟩ := h.confirmed
    exact ⟨v, view, hev, hvc, hview.snoc y, hbad⟩
  line := by
    obtain ⟨n, hen, hnc, hl⟩ := h.line
    exact ⟨n, hen, hnc, At.snoc hl y⟩
  armed := h.armed
  window := by
    obtain ⟨now, hnow, hwindow⟩ := h.window
    exact ⟨now, hnow.snoc y, hwindow⟩

/-- What it weighed in the vault, it has weighed. -/
theorem Weighed.snoc (h : Weighed d tr sub l)
    (y : Machine.Committed System Act) : Weighed d (tr ++ [y]) sub l := by
  obtain ⟨w, e, c, u, hjudged, hcu, hheld⟩ := h
  exact ⟨w, e, c, u, hjudged.snoc y, hcu, hheld.snoc y⟩

-- ============================================================= the invariant

/-- A submission rests on the reads of its turn. -/
def TxSound (d : Deployed) (tr : Trace) : Submission → Prop
  | .liquidate sub l _ _ => Weighed d tr sub l
  | .poke _ | .move .. => True

/-- What the turn `w` has read where it stands. -/
def TurnSound (d : Deployed) (tr : Trace) (w : Nat) : Turn → Prop
  | .selected row line windowS => ∃ b, Selected w row line windowS tr b
  | .reading sub view l => ∃ e, Noticed tr w sub e
      ∧ (∀ x ∈ view, ∃ v, e < v ∧ LtvRead d tr w sub x v)
      ∧ ∀ x ∈ l, ∃ n, e < n ∧ LineRead tr w sub x n
  | .due sub l already | .accounted sub l already _ =>
      already = false → ∃ e c, Judged d tr w sub l e c
  | .sending tx | .polling tx _ => TxSound d tr tx
  | .counting .. | .booking .. => True

/-- Every turn, and whatever was sent, rests on what was read. -/
structure Sound (d : Deployed) (s : System) (tr : Trace) : Prop where
  turns : ∀ w t, s.turns.get w = some t → TurnSound d tr w t
  sent : ∀ h tx, s.sent.get h = some tx → TxSound d tr tx

/-- A transaction stays good for the reads it rests on. -/
theorem TxSound.snoc {tx : Submission} (h : TxSound d tr tx)
    (y : Machine.Committed System Act) : TxSound d (tr ++ [y]) tx := by
  cases tx with
  | liquidate sub l units account => exact Weighed.snoc h y
  | poke | move => trivial

/-- So does a turn. -/
theorem TurnSound.snoc {t : Turn} (h : TurnSound d tr w t)
    (y : Machine.Committed System Act) : TurnSound d (tr ++ [y]) w t := by
  cases t with
  | selected row line windowS =>
      obtain ⟨b, hb⟩ := h
      exact ⟨b, At.snoc hb y⟩
  | reading sub view l =>
      obtain ⟨e, hnoticed, hview, hl⟩ := h
      refine ⟨e, hnoticed.snoc y, fun x hx => ?_, fun x hx => ?_⟩
      · obtain ⟨v, hev, hread⟩ := hview x hx
        exact ⟨v, hev, hread.snoc y⟩
      · obtain ⟨n, hen, hread⟩ := hl x hx
        exact ⟨n, hen, At.snoc hread y⟩
  | due sub l already | accounted sub l already account =>
      intro halready
      obtain ⟨e, c, hjudged⟩ := h halready
      exact ⟨e, c, hjudged.snoc y⟩
  | sending tx | polling tx h' => exact TxSound.snoc h y
  | counting | booking => trivial

/-- A turn on its way to the vault rests on nothing more. -/
theorem moving_sound {units : Int} {account : Address} {already : Bool}
    {hashes : List TxHash} :
    TurnSound d tr w (moving sub l units account already hashes) := by
  unfold moving
  split <;> trivial

/-- An await adds what it was answered, in the state that answered it, to
what the turn had read. -/
theorem Goes.sound {t t' : Turn} (h : Goes d s w a t t')
    (ht : TurnSound d tr w t) (s' : System) :
    TurnSound d (tr ++ [⟨a, s, s'⟩]) w t' := by
  cases h with
  | @events row line windowS id hid hbad =>
      obtain ⟨b, hb⟩ := ht
      refine ⟨tr.length, ⟨⟨b, hb.lt, At.snoc hb _⟩, hid, ?_, hbad⟩, nofun,
        nofun⟩
      exact .now (P := fun t => recentEvents s.around row
        = recentEvents t.around row) rfl tr _ s'
  | @ltv sub l env view hview =>
      obtain ⟨e, hnoticed, -, hl⟩ := ht
      have hlt := hnoticed.events.lt
      refine ⟨e, hnoticed.snoc _, ?_, ?_⟩
      · rintro x ⟨⟩
        exact ⟨tr.length, hlt, env, .now (P := fun t =>
          CureExpiry.readLtv d env sub.contractLine t.around = .ok view)
          hview tr _ s'⟩
      · intro x hx
        obtain ⟨n, hen, hread⟩ := hl x hx
        exact ⟨n, hen, At.snoc hread _⟩
  | @line sub view l hl =>
      obtain ⟨e, hnoticed, hview, -⟩ := ht
      have hlt := hnoticed.events.lt
      refine ⟨e, hnoticed.snoc _, ?_, ?_⟩
      · intro x hx
        obtain ⟨v, hev, hread⟩ := hview x hx
        exact ⟨v, hev, hread.snoc _⟩
      · rintro x ⟨⟩
        exact ⟨tr.length, hlt, .now (P := fun t =>
          lineAt t.around sub.contractLine = some l) hl tr _ s'⟩
  | resumed hliq => exact nofun
  | arming => trivial
  | @due sub view l now hnot hstate hprice harmed hnow =>
      intro _
      obtain ⟨e, hnoticed, hview, hl⟩ := ht
      obtain ⟨v, hev, hview⟩ := hview view rfl
      obtain ⟨n, hen, hl⟩ := hl l rfl
      -- both reads were answered before this call
      have hvc : v < tr.length := by
        obtain ⟨env, hview⟩ := hview
        exact hview.lt
      exact ⟨e, tr.length, hnoticed.snoc _,
        ⟨v, view, hev, hvc, hview.snoc _, hstate, hprice⟩,
        ⟨n, hen, At.lt hl, At.snoc hl _⟩, harmed,
        now, .now trivial tr _ s', hnow⟩
  | account => exact TurnSound.snoc ht _
  | found => exact moving_sound
  | @agreed sub l account hheld =>
      obtain ⟨e, c, hjudged⟩ := ht rfl
      have hlt : c < tr.length := by
        obtain ⟨now, hnow, -⟩ := hjudged.window
        exact hnow.lt
      exact ⟨w, e, c, tr.length, hjudged.snoc _, hlt,
        .now (P := fun t => held t.around sub.contractLine l.asset
          = l.pledgedUnits) hheld tr _ s'⟩
  | seized => exact moving_sound
  | moved | counted => trivial

/-- Only the turn that is moved is another one after a step. -/
theorem turns_moveTo {w v : Nat} {t t' : Turn}
    (h : (moveTo s w t).turns.get v = some t') :
    v = w ∧ t' = t ∨ s.turns.get v = some t' := by
  unfold moveTo at h
  by_cases hv : v = w
  · subst hv
    rw [Store.get_set_self] at h
    exact Or.inl ⟨rfl, (Option.some.inj h).symm⟩
  · rw [Store.get_set_ne _ _ hv] at h
    exact Or.inr h

/-- The turns that stay are as they were. -/
theorem turns_leave {w v : Nat} {t : Turn}
    (h : (leave s w).turns.get v = some t) : s.turns.get v = some t := by
  unfold leave at h
  rw [Store.get_remove] at h
  split at h
  · cases h
  · exact h

/-- Every step keeps the invariant. -/
theorem Did.sound (h : Did d keeper s a s') (hs : Sound d s tr) :
    Sound d s' (tr ++ [⟨a, s, s'⟩]) := by
  have hkeep : Sound d s (tr ++ [⟨a, s, s'⟩]) :=
    ⟨fun v t ht => (hs.turns v t ht).snoc _,
      fun h' tx htx => (hs.sent h' tx htx).snoc _⟩
  cases h with
  | api | recomputed | landed | failed => exact ⟨hkeep.turns, hkeep.sent⟩
  | @selected w row line hrow hopen =>
      refine ⟨fun v t ht => ?_, hkeep.sent⟩
      rcases turns_moveTo ht with ⟨rfl, rfl⟩ | ht
      · exact ⟨tr.length, .now (P := fun t =>
          t.around.api.db.creditLine.get row = some line
            ∧ line.status = .opened
            ∧ s.around.cureWindowS row = t.around.cureWindowS row)
          ⟨hrow, hopen, rfl⟩ tr _ _⟩
      · exact hkeep.turns v t ht
  | @goes a w t t' ht hgoes =>
      refine ⟨fun v t₁ ht₁ => ?_, hkeep.sent⟩
      rcases turns_moveTo ht₁ with ⟨rfl, rfl⟩ | ht₁
      · exact hgoes.sound (hs.turns v t ht) _
      · exact hkeep.turns v t₁ ht₁
  | ended => exact ⟨fun v t ht => hkeep.turns v t (turns_leave ht), hkeep.sent⟩
  | @sent w h' env tx ht =>
      have htx : TxSound d (tr ++ [⟨.send w h' env, s,
          moveTo { s with sent := s.sent.set h' tx } w (.polling tx h')⟩])
          tx := hkeep.turns w _ ht
      refine ⟨fun v t₁ ht₁ => ?_, fun k tx' htx' => ?_⟩
      · rcases turns_moveTo ht₁ with ⟨rfl, rfl⟩ | ht₁
        · exact htx
        · exact hkeep.turns v t₁ ht₁
      · change (s.sent.set h' tx).get k = some tx' at htx'
        by_cases hk : k = h'
        · subst hk
          rw [Store.get_set_self] at htx'
          injection htx' with htx'
          exact htx' ▸ htx
        · rw [Store.get_set_ne _ _ hk] at htx'
          exact hkeep.sent k tx' htx'
  | booked => exact ⟨fun v t ht => hkeep.turns v t (turns_leave ht), hkeep.sent⟩

variable {start : Chain} {db : Api.Db} {cureWindowS : RowId → Nat}

/-- Over every run, each turn and each transaction rests on the reads it
claims. -/
theorem sound_run (as : List Act) :
    let M := machine d keeper start db cureWindowS
    Sound d (M.run M.init as) (M.trace M.init as) := by
  have hinit : Sound d (machine d keeper start db cureWindowS).init [] :=
    ⟨fun _ _ ht => (by cases ht), fun _ _ htx => (by cases htx)⟩
  refine Machine.trace_induction (P := fun s tr => Sound d s tr) hinit ?_
    (Machine.allowed_true _ as)
  intro s tr a s' hs _ happ
  exact (did_of_step happ).sound hs

/-- The terms of the lines are what they were. -/
theorem windowS_run (as : List Act) :
    let M := machine d keeper start db cureWindowS
    (M.run M.init as).around.cureWindowS = cureWindowS := by
  refine Machine.run_induction
    (P := fun s : System => s.around.cureWindowS = cureWindowS) ?_ rfl
    (Machine.allowed_true _ as)
  intro s a s' hs _ happ
  exact (did_of_step happ).monitor.1.trans hs

-- ================================================================ the window

/-- What the keeper's job had read of a line, and when, before it sent the
transaction that freezes it: `e`, `c` and `u` are the entries of the trace
in which the turn `w` read the events, concluded, and read the vault. -/
structure Warranted (d : Deployed) (cureWindowS : RowId → Nat) (tr : Trace)
    (sub : Subject) (l : CreditLine.Line) (w e c u : Nat) : Prop where
  judged : Judged d tr w sub l e c
  /-- by the readings of the monitor up to `e`, and the clock at `c` -/
  window : ∃ now, At tr c (.conclude w now) (fun _ => True)
    ∧ WaitedOut (ofLine (readings d (tr.take e)) sub.row)
      (cureWindowS sub.row) now
  after : c < u
  agreed : At tr u (.positionUnits w) fun s =>
    held s.around sub.contractLine l.asset = l.pledgedUnits

/-- An entry of a run's trace, back in the run. -/
theorem at_run {as : List Act} {n : Nat} {call : Act} {P : System → Prop}
    (h : At ((machine d keeper start db cureWindowS).trace
      (machine d keeper start db cureWindowS).init as) n call P) :
    let M := machine d keeper start db cureWindowS
    ∃ pre, P (M.run M.init pre)
      ∧ M.trace M.init pre = (M.trace M.init as).take n := by
  intro M
  obtain ⟨x, hx, -, hP⟩ := h
  obtain ⟨hlt, hx⟩ := List.getElem?_eq_some_iff.mp hx
  have hsplit : M.trace M.init as = (M.trace M.init as).take n
      ++ x :: (M.trace M.init as).drop (n + 1) := by
    rw [← hx, ← List.drop_eq_getElem_cons hlt, List.take_append_drop]
  obtain ⟨pre, post, -, hbefore, -, hpre, -⟩ := Machine.trace_split hsplit
  exact ⟨pre, hbefore ▸ hP, hpre⟩

/-- The readings the monitor had taken when the turn read the events bear
its window out. -/
theorem Judged.waitedOut {as : List Act} {e c : Nat}
    (h : Judged d ((machine d keeper start db cureWindowS).trace
      (machine d keeper start db cureWindowS).init as) w sub l e c) :
    let M := machine d keeper start db cureWindowS
    let tr := M.trace M.init as
    ∃ now, At tr c (.conclude w now) (fun _ => True)
      ∧ WaitedOut (ofLine (readings d (tr.take e)) sub.row)
        (cureWindowS sub.row) now := by
  intro M tr
  obtain ⟨now, hnow, hwindow⟩ := h.window
  obtain ⟨b, -, hselected⟩ := h.noticed.selected
  obtain ⟨pre₀, ⟨-, -, hterms⟩, -⟩ := at_run hselected
  rw [windowS_run pre₀] at hterms
  obtain ⟨pre, hevents, htake⟩ := at_run h.noticed.events
  have hunhealthy := h.noticed.unhealthy
  rw [hevents] at hunhealthy hwindow
  rw [hterms] at hwindow
  have hnoted := noted_run d keeper start db cureWindowS pre
  refine ⟨now, hnow, ?_⟩
  show WaitedOut (ofLine (readings d ((M.trace M.init as).take e)) sub.row)
    (cureWindowS sub.row) now
  rw [← htake]
  exact hnoted.waitedOut hunhealthy hwindow

namespace Demo

/-- The keeper's job over the lent line, with a cure window of a second. -/
def job : Machine System Act :=
  machine Api.Demo.deployed CureExpiry.Demo.keeper CureExpiry.Demo.start
    CureExpiry.Demo.books fun _ => 1

/-- At 0.20 the line is at liquidation level. -/
def fallen (sequence : Nat) : Env := Wired.Demo.env 0 sequence 2000000

/-- The price falls, the monitor notes it, and a turn arms the breach. A
second later another turn reads the events; the price is back for a moment
and the monitor notes that too, then the turn reads the contract, and what
it sends rests on all this. -/
def raced : List Act :=
  [.recompute 7 (fallen 4) 1,
   .select 0 7, .selectEvents 0, .readLtv 0 (fallen 5), .readLine 0,
   .conclude 0 5, .send 0 60 (fallen 5), .land 60 (fallen 5), .confirm 0,
   .select 1 7, .selectEvents 1,
   .recompute 7 (Wired.Demo.env 0 6 10000000) 900,
   .readLine 1, .readLtv 1 (fallen 6), .conclude 1 1001, .selectAccount 1,
   .positionUnits 1, .send 1 61 (fallen 6)]

end Demo

end Ballast.Keeper.CureTurns
