/-
The mirror is complete: from the first completed poll on, every event is
on file once or its ledger is recorded as skipped, and no poll starts
beyond what is.

A ledger is `Covered` when a poll drained it or a gap has it. The cursor
row, the memory and the highest ledger on file each stand for a covered
stretch; what they owe begins with the first completed poll, or, as long
as there is none, above the highest ledger on file (`Owed`). That is the
invariant (`Mirrored`), and it needs `Resumes`: once a poll has completed,
a poll that does not get the cursor row must find a highest ledger that
was drained. Both failures of the cursor row are caught in the source, so
a run can break it: by a second cold start (`cold_start_skips`), or by
starting above a ledger of which only the first page is on file.

# How a poll keeps the invariant

A poll goes phase by phase, and `Knows` says of each phase what the poll
has established by then: where it may start (`Ready`), that the gap
below its start is on file (`Spanned`), what the pages gathered so far
contain, and in the end that its stretch is drained. Each phase has one
lemma (`Mirrored.selectCursor`, `Mirrored.getEvents` and the rest),
which takes the facts of the phase before and hands the next phase its
own. Whatever the other tables do in the meantime only adds to what is
covered (`Grew`), so every fact of a phase survives them (the `mono`
lemmas).

# The two restarts

The process may die anywhere. What it had in memory is lost, and with it
nothing that is owed: memory only stands for ledgers that a completed
poll had reached (`Remembers`). The two demonstrations at the end are
the two ways in which a restart can lose ledgers all the same, and each
of them breaks `Resumes` at the step where it does.
-/
import Ballast.Indexer.Proofs.Drain

namespace Ballast.Indexer

open Soroban

variable {ξ ι δ : Type} {d : Decoder ξ ι δ} {chain : RpcEvent ξ → Prop}
  {s s' : Mirror ξ δ} {a : Act ξ}

-- ============================================================= vocabulary

/-- A poll drained this ledger. -/
def Scanned (s : Mirror ξ δ) (ledger : Nat) : Prop :=
  ∃ drain ∈ s.drains, drain.1 ≤ ledger ∧ ledger ≤ drain.2

/-- A gap has this ledger. -/
def InGap (s : Mirror ξ δ) (ledger : Nat) : Prop :=
  ∃ gap ∈ s.chainEventGap, gap.fromLedger ≤ ledger ∧ ledger ≤ gap.toLedger

def Covered (s : Mirror ξ δ) (ledger : Nat) : Prop :=
  Scanned s ledger ∨ InGap s ledger

/-- Where a poll that has chosen wants to start. -/
def Phase.desired : Phase ξ → Option Nat
  | .health desiredStartLedger => some desiredStartLedger
  | .gap span | .pages span _ _ | .store span _ _ | .upsert span _ _
  | .finished span _ _ => some span.desiredStartLedger
  | .tip | .cursorRow | .maxLedger | .coldStart => none

/-- Nothing is lost or filed twice, and no poll starts too far on. -/
structure Complete (d : Decoder ξ ι δ) (chain : RpcEvent ξ → Prop)
    (s : Mirror ξ δ) : Prop where
  /-- An event between the start of the first completed poll and a
  reported ledger has one row, or its ledger is in a gap. -/
  events : ∀ first ∈ s.completed.head?, ∀ e, chain e →
    first.fromLedger ≤ e.ledger →
    (∃ result ∈ s.completed, e.ledger ≤ result.latestLedger) →
    s.chainEvent.filter (fun row => row.eventId = e.id) = [rowOf d e]
      ∨ InGap s e.ledger
  /-- No event has two rows. -/
  once : (s.chainEvent.map ChainEvent.eventId).Nodup
  /-- A poll wants to start no later than the first ledger neither scanned
  nor in a gap. -/
  starts : ∀ first ∈ s.completed.head?, ∀ poll ∈ s.poll,
    ∀ desired ∈ poll.phase.desired, ∀ ledger,
    first.fromLedger ≤ ledger → ledger < desired → Covered s ledger

/-- A poll that does not get the cursor row finds, once a poll has
completed, a highest ledger on file that was drained; and starts cold only
with no cursor row and no poll completed. -/
def Resumes (a : Act ξ) (s : Mirror ξ δ) : Prop :=
  match a with
  | .selectMaxLedger =>
      s.completed ≠ [] → ∀ ledger ∈ maxLedger s.chainEvent,
        ledger ≤ s.drainedUpTo
  | .coldStart _ => s.completed = [] ∧ s.indexerCursor = none
  | _ => True

-- =========================================================== the invariant

/-- The ledgers the mirror must not lose. -/
def Owed (s : Mirror ξ δ) (ledger : Nat) : Prop :=
  match s.completed.head? with
  | some first => first.fromLedger ≤ ledger
  | none => ∃ highest ∈ maxLedger s.chainEvent, highest < ledger

/-- Everything owed below `ledger` is covered. -/
def ReachedBelow (s : Mirror ξ δ) (ledger : Nat) : Prop :=
  ∀ l, Owed s l → l < ledger → Covered s l

/-- Everything owed up to `ledger` is. -/
def Reached (s : Mirror ξ δ) (ledger : Nat) : Prop :=
  ReachedBelow s (ledger + 1)

/-- A poll may start at `desired`: what it leaves behind is covered, and
before a poll has completed so is what the cursor row would leave behind
in its stead. -/
structure Ready (s : Mirror ξ δ) (desired : Nat) : Prop where
  below : ReachedBelow s desired
  row : s.completed = [] → ∀ cursor ∈ s.indexerCursor, ∀ l,
    desired ≤ l → l ≤ cursor → Covered s l

/-- A poll that starts at `span`, with its gap recorded. -/
structure Spanned (s : Mirror ξ δ) (span : Span) : Prop where
  ready : Ready s span.desiredStartLedger
  le : span.desiredStartLedger ≤ span.startLedger
  gap : ∀ l, span.desiredStartLedger ≤ l → l < span.startLedger →
    Covered s l

/-- What a poll knows where it stands. -/
def Knows (chain : RpcEvent ξ → Prop) (s : Mirror ξ δ) :
    Phase ξ → Prop
  | .tip | .cursorRow | .maxLedger => True
  | .coldStart => s.chainEvent = []
  | .health desiredStartLedger => Ready s desiredStartLedger
  | .gap span => Ready s span.desiredStartLedger
      ∧ span.desiredStartLedger < span.startLedger
  | .pages span events cursor =>
      Spanned s span ∧ Gathered chain span.startLedger events cursor
  | .store span events latestLedger =>
      Spanned s span ∧ Drained chain span.startLedger latestLedger events
  | .upsert span _ latestLedger | .finished span _ latestLedger =>
      Spanned s span ∧ (span.startLedger, latestLedger) ∈ s.drains

/-- A ledger in memory: a poll has completed, and it is reached. -/
def Remembers (s : Mirror ξ δ) (memory : Option Nat) : Prop :=
  ∀ ledger ∈ memory, s.completed ≠ [] ∧ Reached s ledger

/-- What holds in every state. -/
structure Mirrored (d : Decoder ξ ι δ) (chain : RpcEvent ξ → Prop)
    (s : Mirror ξ δ) : Prop where
  once : (s.chainEvent.map ChainEvent.eventId).Nodup
  rows : ∀ row ∈ s.chainEvent, ∃ e, chain e ∧ row = rowOf d e
  drains : ∀ drain ∈ s.drains, ∀ e, chain e → drain.1 ≤ e.ledger →
    e.ledger ≤ drain.2 → rowOf d e ∈ s.chainEvent
  cursor : ∀ ledger ∈ s.indexerCursor, Reached s ledger
  memory : Remembers s s.lastScannedLedger
  drained : s.completed ≠ [] → Reached s s.drainedUpTo
  completed : ∀ result ∈ s.completed, Reached s result.latestLedger
  poll : ∀ poll ∈ s.poll, Knows chain s poll.phase
    ∧ Remembers s poll.cursorLedger

/-- A row is filed under the id of its event, whether or not the payload
could be decoded: the key of the table does not depend on the decoder. -/
theorem rowOf_eventId (e : RpcEvent ξ) : (rowOf d e).eventId = e.id := by
  unfold rowOf
  dsimp only
  split <;> rfl

/-- A row carries the ledger of its event, decoded or not. -/
theorem rowOf_ledger (e : RpcEvent ξ) : (rowOf d e).ledger = e.ledger := by
  unfold rowOf
  dsimp only
  split <;> rfl

/-- Once a poll has completed, what is owed starts where the first one
started. -/
theorem owed_of_first {first : PollOnceResult}
    (h : first ∈ s.completed.head?) {ledger : Nat} :
    Owed s ledger ↔ first.fromLedger ≤ ledger := by
  rw [Owed, Option.mem_def.mp h]

/-- Before any poll has completed, what is owed starts above the highest
ledger on file. -/
theorem owed_of_none (h : s.completed = []) {ledger : Nat} :
    Owed s ledger ↔ ∃ highest ∈ maxLedger s.chainEvent,
      highest < ledger := by
  rw [Owed, h]
  rfl

/-- The invariant is enough. -/
theorem Mirrored.complete (hs : Mirrored d chain s) :
    Complete d chain s where
  once := hs.once
  events := by
    intro first hfirst e he hfrom ⟨result, hresult, hle⟩
    have howed := (owed_of_first hfirst).mpr hfrom
    rcases hs.completed result hresult e.ledger howed
      (Nat.lt_succ_of_le hle) with ⟨drain, hdrain, hlow, hhigh⟩ | hgap
    · have hrow := hs.drains drain hdrain e he hlow hhigh
      have hfilter := Conflict.filter_key_eq hs.once hrow
      rw [rowOf_eventId] at hfilter
      exact Or.inl hfilter
    · exact Or.inr hgap
  starts := by
    intro first hfirst poll hpoll desired hdesired ledger hfrom hlt
    have howed := (owed_of_first hfirst).mpr hfrom
    have hready : Ready s desired := by
      have hknows := (hs.poll poll hpoll).1
      generalize poll.phase = phase at hdesired hknows
      cases phase with
      | tip | cursorRow | maxLedger | coldStart => cases hdesired
      | health => cases hdesired; exact hknows
      | gap => cases hdesired; exact hknows.1
      | pages | store | upsert | finished =>
          cases hdesired
          exact hknows.1.ready
    exact hready.below ledger howed hlt

-- ========================================================= what is kept

/-- More is covered, and no more owed. -/
structure Grew (s s' : Mirror ξ δ) : Prop where
  drains : s.drains ⊆ s'.drains
  gaps : s.chainEventGap ⊆ s'.chainEventGap
  owed : ∀ l, Owed s' l → Owed s l

/-- Drains and gaps are only ever added, so what is covered stays
covered. -/
theorem Covered.mono (hdrains : s.drains ⊆ s'.drains)
    (hgaps : s.chainEventGap ⊆ s'.chainEventGap) {l : Nat}
    (h : Covered s l) : Covered s' l := by
  rcases h with ⟨drain, hdrain, hin⟩ | ⟨gap, hgap, hin⟩
  · exact Or.inl ⟨drain, hdrains hdrain, hin⟩
  · exact Or.inr ⟨gap, hgaps hgap, hin⟩

/-- What a mirror has reached, it has still reached when it has grown. -/
theorem ReachedBelow.mono (h : Grew s s') {ledger : Nat}
    (hr : ReachedBelow s ledger) : ReachedBelow s' ledger :=
  fun l howed hlt => (hr l (h.owed l howed) hlt).mono h.drains h.gaps

/-- A remembered ledger stays good while polls complete and the mirror
grows. -/
theorem Remembers.mono (h : Grew s s')
    (hcompleted : s.completed ≠ [] → s'.completed ≠ [])
    {memory : Option Nat} (hr : Remembers s memory) :
    Remembers s' memory := by
  intro ledger hledger
  obtain ⟨hne, hreached⟩ := hr ledger hledger
  exact ⟨hcompleted hne, hreached.mono h⟩

/-- A starting point stays good while the mirror grows, as long as no
first poll completes and the cursor row stands. -/
theorem Ready.mono (h : Grew s s')
    (hcompleted : s'.completed = [] → s.completed = [])
    (hcursor : s'.indexerCursor = s.indexerCursor) {desired : Nat}
    (hr : Ready s desired) : Ready s' desired where
  below := hr.below.mono h
  row := by
    intro hnil cursor hrow l hlow hhigh
    rw [hcursor] at hrow
    exact (hr.row (hcompleted hnil) cursor hrow l hlow hhigh).mono h.drains
      h.gaps

/-- The same for a start whose gap has been recorded. -/
theorem Spanned.mono (h : Grew s s')
    (hcompleted : s'.completed = [] → s.completed = [])
    (hcursor : s'.indexerCursor = s.indexerCursor) {span : Span}
    (hs : Spanned s span) : Spanned s' span where
  ready := hs.ready.mono h hcompleted hcursor
  le := hs.le
  gap l hlow hhigh := (hs.gap l hlow hhigh).mono h.drains h.gaps

-- =============================================================== the start

/-- What a phase knows is about the tables, so neither the alerts, nor the
memory, nor which poll is running bears on it. -/
theorem Knows.around {phase : Phase ξ} (h : Knows chain s phase)
    (poll : Option (Poll ξ)) (alerts : List Alert) (memory : Option Nat) :
    Knows chain { s with
      poll := poll, alerts := alerts, lastScannedLedger := memory }
      phase := by
  have hgrew : Grew s { s with
      poll := poll, alerts := alerts, lastScannedLedger := memory } :=
    ⟨List.Subset.refl _, List.Subset.refl _, fun _ howed => howed⟩
  cases phase with
  | tip | cursorRow | maxLedger => trivial
  | coldStart => exact h
  | health => exact Ready.mono hgrew id rfl h
  | gap => exact ⟨h.1.mono hgrew id rfl, h.2⟩
  | pages | store | upsert | finished =>
      exact ⟨h.1.mono hgrew id rfl, h.2⟩

/-- Steps that touch neither the tables nor the history. -/
theorem Mirrored.around (hs : Mirrored d chain s) {poll : Option (Poll ξ)}
    {alerts : List Alert} {memory : Option Nat}
    (hmemory : Remembers s memory)
    (hpoll : ∀ q ∈ poll, Knows chain s q.phase
      ∧ Remembers s q.cursorLedger) :
    Mirrored d chain { s with
      poll := poll, alerts := alerts, lastScannedLedger := memory } where
  once := hs.once
  rows := hs.rows
  drains := hs.drains
  cursor := hs.cursor
  memory := hmemory
  drained := hs.drained
  completed := hs.completed
  poll q hq := ⟨(hpoll q hq).1.around poll alerts memory, (hpoll q hq).2⟩

/-- The running poll goes on to a phase whose facts it has. -/
theorem Mirrored.moved (hs : Mirrored d chain s) {poll : Poll ξ}
    (hpoll : poll ∈ s.poll) {phase : Phase ξ} (h : Knows chain s phase) :
    Mirrored d chain (moveTo s poll phase) :=
  hs.around hs.memory fun q hq => by
    cases hq
    exact ⟨h, (hs.poll poll hpoll).2⟩

/-- A poll may end at any phase: the tables owe nothing to it. -/
theorem Mirrored.ended (hs : Mirrored d chain s) :
    Mirrored d chain { s with poll := none } :=
  hs.around hs.memory nofun

/-- A poll enters with what the process remembers, and needs no more to
start. -/
theorem knows_entry {memory : Option Nat} (h : Remembers s memory) :
    Knows chain s (entry memory : Phase ξ) := by
  cases memory with
  | none => trivial
  | some ledger =>
      obtain ⟨hcompleted, hreached⟩ := h ledger rfl
      exact ⟨hreached, fun hnil => absurd hnil hcompleted⟩

/-- A poll begins, with or without the ledger in memory. -/
theorem Mirrored.beginPoll {remember : Bool}
    (h : beginPoll remember s = .ok s') (hs : Mirrored d chain s) :
    Mirrored d chain s' := by
  simp only [Indexer.beginPoll, bind_ok, ensure_ok, pure_ok] at h
  obtain ⟨-, -, rfl⟩ := h
  have hcursor : Remembers s (if remember then s.lastScannedLedger
      else none) := by
    cases remember with
    | true => exact hs.memory
    | false =>
        intro l hl
        cases hl
  refine hs.around hs.memory fun q hq => ?_
  cases hq
  exact ⟨knows_entry hcursor, hcursor⟩

/-- A cycle of the daemon begins: it asks for the tip first. -/
theorem Mirrored.beginCycle (h : beginCycle s = .ok s')
    (hs : Mirrored d chain s) : Mirrored d chain s' := by
  simp only [Indexer.beginCycle, bind_ok, ensure_ok, pure_ok] at h
  obtain ⟨-, -, rfl⟩ := h
  refine hs.around hs.memory fun q hq => ?_
  cases hq
  exact ⟨trivial, hs.memory⟩

/-- The lag alert is raised or cleared; the poll goes on as it entered. -/
theorem Mirrored.checkLag {rpcTip lagAlertLedgers : Nat}
    (h : checkLag rpcTip lagAlertLedgers s = .ok s')
    (hs : Mirrored d chain s) : Mirrored d chain s' := by
  simp only [Indexer.checkLag, bind_ok, expect_ok] at h
  obtain ⟨poll, hpoll, h⟩ := h
  split at h
  · cases h
    have hcursor := (hs.poll poll hpoll).2
    refine hs.around hs.memory fun q hq => ?_
    cases hq
    exact ⟨knows_entry hcursor, hcursor⟩
  · cases h

/-- A poll starts after the cursor row. -/
theorem Mirrored.ready_cursor (hs : Mirrored d chain s) {ledger : Nat}
    (hledger : s.indexerCursor = some ledger) : Ready s (ledger + 1) where
  below := hs.cursor ledger hledger
  row := by
    intro _ cursor hcursor l hlow hhigh
    have heq : cursor = ledger := by
      rw [hledger] at hcursor
      exact (Option.some.inj hcursor).symm
    omega

/-- The cursor row is read. If it is there, what it stands for is reached,
and the poll may start above it; if the read fails, the poll falls back on
the highest ledger on file. -/
theorem Mirrored.selectCursor {fault : Bool}
    (h : selectCursor fault s = .ok s') (hs : Mirrored d chain s) :
    Mirrored d chain s' := by
  simp only [Indexer.selectCursor, bind_ok, expect_ok] at h
  obtain ⟨poll, hpoll, h⟩ := h
  split at h
  · split at h
    next hcursor =>
      cases h
      exact hs.moved hpoll (hs.ready_cursor hcursor)
    · cases h
      exact hs.moved hpoll trivial
  · cases h

/-- A poll starts after the highest ledger on file: nothing above it is
owed yet, or it was drained. -/
theorem Mirrored.ready_maxLedger (hs : Mirrored d chain s) {ledger : Nat}
    (hledger : maxLedger s.chainEvent = some ledger)
    (hok : s.completed ≠ [] → ledger ≤ s.drainedUpTo) :
    Ready s (ledger + 1) where
  below := by
    intro l howed hlt
    by_cases hnil : s.completed = []
    · obtain ⟨highest, hhighest, hl⟩ := (owed_of_none hnil).mp howed
      rw [hledger] at hhighest
      cases hhighest
      omega
    · exact hs.drained hnil l howed (by have := hok hnil; omega)
  row := by
    intro hnil cursor hcursor l hlow hhigh
    have howed : Owed s l :=
      (owed_of_none hnil).mpr ⟨ledger, hledger, hlow⟩
    exact hs.cursor cursor hcursor l howed (Nat.lt_succ_of_le hhigh)

/-- The fallback: above the highest ledger on file, which `Resumes` asks
to be a drained one. -/
theorem Mirrored.selectMaxLedger (h : selectMaxLedger s = .ok s')
    (hok : Resumes (.selectMaxLedger : Act ξ) s) (hs : Mirrored d chain s) :
    Mirrored d chain s' := by
  simp only [Indexer.selectMaxLedger, bind_ok, expect_ok] at h
  obtain ⟨poll, hpoll, h⟩ := h
  split at h
  · split at h
    next hledger =>
      cases h
      exact hs.moved hpoll
        (hs.ready_maxLedger hledger fun hne => hok hne _ hledger)
    next hnone =>
      cases h
      refine hs.moved hpoll ?_
      exact List.map_eq_nil_iff.mp (List.max?_eq_none_iff.mp hnone)
  · cases h

/-- The last resort, an empty table: the poll starts at the tip, and
`Resumes` says that nothing was owed yet. -/
theorem Mirrored.coldStart {sequence : Nat}
    (h : coldStart sequence s = .ok s')
    (hok : Resumes (.coldStart sequence : Act ξ) s)
    (hs : Mirrored d chain s) : Mirrored d chain s' := by
  simp only [Indexer.coldStart, bind_ok, expect_ok] at h
  obtain ⟨poll, hpoll, h⟩ := h
  obtain ⟨hnil, hrow⟩ := hok
  split at h
  next hphase =>
    cases h
    have hempty : s.chainEvent = [] := by
      have hknows := (hs.poll poll hpoll).1
      rw [hphase] at hknows
      exact hknows
    refine hs.moved hpoll ⟨fun l howed _ => ?_, fun _ cursor hcursor => ?_⟩
    · obtain ⟨highest, hhighest, -⟩ := (owed_of_none hnil).mp howed
      rw [hempty] at hhighest
      cases hhighest
    · rw [hrow] at hcursor
      cases hcursor
  · cases h

/-- The RPC answers with the oldest ledger it still has. A start below it
leaves a gap, which is recorded before anything is read. -/
theorem Mirrored.getHealth {oldestLedger : Nat}
    (h : getHealth oldestLedger s = .ok s') (hs : Mirrored d chain s) :
    Mirrored d chain s' := by
  simp only [Indexer.getHealth, bind_ok, expect_ok] at h
  obtain ⟨poll, hpoll, h⟩ := h
  split at h
  next desired hphase =>
    have hready : Ready s desired := by
      have hknows := (hs.poll poll hpoll).1
      rw [hphase] at hknows
      exact hknows
    split at h
    next hlt =>
      cases h
      exact hs.moved hpoll ⟨hready, hlt⟩
    next hle =>
      cases h
      refine hs.moved hpoll ⟨⟨hready, Nat.le_max_left _ _, ?_⟩, .nil⟩
      intro l hlow hhigh
      exact absurd (Nat.lt_of_le_of_lt hlow hhigh) hle
  · cases h

/-- A page arrives. From an honest RPC, the last page makes the stretch
from the start of the poll to the answered tip complete. -/
theorem Mirrored.getEvents {page : Page ξ} (h : getEvents page s = .ok s')
    (hok : HonestRpc chain (.getEvents page) s) (hs : Mirrored d chain s) :
    Mirrored d chain s' := by
  simp only [Indexer.getEvents, bind_ok, expect_ok] at h
  obtain ⟨poll, hpoll, h⟩ := h
  split at h
  next span events cursor hphase =>
    have hknows := (hs.poll poll hpoll).1
    have hpage := hok poll hpoll
    rw [hphase] at hknows hpage
    obtain ⟨hspan, hgathered⟩ := hknows
    split at h
    next hlast =>
      cases h
      have hshort : page.events.length < pageSize := by
        rcases hlast with hshort | hnone
        · exact hshort
        · rw [List.getLast?_eq_none_iff.mp
            (Option.map_eq_none_iff.mp hnone)]
          exact Nat.zero_lt_succ _
      exact hs.moved hpoll ⟨hspan, hgathered.last hpage hshort⟩
    · cases h
      exact hs.moved hpoll ⟨hspan, hgathered.next hpage⟩
  · cases h

-- ============================================================== the tables

/-- Recording gaps is growth: no drain, no row and no gap is lost by it. -/
theorem grew_gapped (s : Mirror ξ δ) (gaps : List Gap)
    (poll : Option (Poll ξ)) : Grew s { s with
      chainEventGap := Conflict.insertRows id s.chainEventGap gaps
      poll := poll } :=
  ⟨List.Subset.refl _, (Conflict.prefix_insertRows _ gaps).subset,
    fun _ howed => howed⟩

/-- A gap is recorded. -/
theorem Mirrored.gapped (hs : Mirrored d chain s) (gaps : List Gap)
    {poll : Option (Poll ξ)}
    (hpoll : ∀ q ∈ poll, Knows chain { s with
        chainEventGap := Conflict.insertRows id s.chainEventGap gaps }
        q.phase ∧ Remembers s q.cursorLedger) :
    Mirrored d chain { s with
      chainEventGap := Conflict.insertRows id s.chainEventGap gaps
      poll := poll } := by
  have hgrew := grew_gapped s gaps poll
  refine ⟨hs.once, hs.rows, hs.drains, ?_, hs.memory.mono hgrew id, ?_, ?_,
    fun q hq => ⟨(hpoll q hq).1.around poll s.alerts s.lastScannedLedger,
      (hpoll q hq).2.mono hgrew id⟩⟩
  · exact fun ledger hledger => (hs.cursor ledger hledger).mono hgrew
  · exact fun hne => (hs.drained hne).mono hgrew
  · exact fun result hresult => (hs.completed result hresult).mono hgrew

/-- The gap is written, or its write fails and the poll ends; a lost
acknowledgement leaves the gap on file and the poll over. -/
theorem Mirrored.insertGap {delivery : Delivery}
    (h : insertGap delivery s = .ok s') (hs : Mirrored d chain s) :
    Mirrored d chain s' := by
  simp only [Indexer.insertGap, bind_ok, expect_ok] at h
  obtain ⟨poll, hpoll, h⟩ := h
  split at h
  next span hphase =>
    have hknows := (hs.poll poll hpoll).1
    rw [hphase] at hknows
    obtain ⟨hready, hlt⟩ := hknows
    split at h
    · cases h
      refine hs.gapped span.skipped.toList fun q hq => ?_
      cases hq
      have hgrew := grew_gapped s span.skipped.toList s.poll
      refine ⟨⟨⟨hready.mono hgrew id rfl, Nat.le_of_lt hlt, ?_⟩, .nil⟩,
        (hs.poll poll hpoll).2⟩
      intro l hlow hhigh
      have hnew : (⟨span.desiredStartLedger, span.startLedger - 1⟩ : Gap)
          ∈ span.skipped.toList := by
        simp [Span.skipped, hlt]
      have hmem : _ ∈ (Conflict.insertRows id s.chainEventGap _).map id :=
        Conflict.key_mem_insertRows hnew
      rw [List.map_id] at hmem
      exact Or.inr ⟨_, hmem, hlow, Nat.le_sub_one_of_lt hhigh⟩
    · cases h
      exact hs.gapped span.skipped.toList fun _ hq => by cases hq
    · cases h
      exact hs.ended
  · cases h

/-- What stands of the tables once a poll has stored its events. -/
def stored (d : Decoder ξ ι δ) (s : Mirror ξ δ) (span : Span)
    (events : List (RpcEvent ξ)) (latestLedger : Nat) : Mirror ξ δ :=
  { s with
    chainEvent := Conflict.insertRows ChainEvent.eventId s.chainEvent
      (events.map (rowOf d))
    drains := s.drains ++ [(span.startLedger, latestLedger)]
    drainedUpTo :=
      if s.completed = [] then s.drainedUpTo
      else max s.drainedUpTo latestLedger }

section Stored

variable {span : Span} {events : List (RpcEvent ξ)} {latestLedger : Nat}

/-- No row on file is above the highest ledger. -/
theorem le_maxLedger {rows : List (ChainEvent δ)} {highest : Nat}
    (h : maxLedger rows = some highest) {row : ChainEvent δ}
    (hrow : row ∈ rows) : row.ledger ≤ highest :=
  (List.max?_eq_some_iff.mp h).2 _ (List.mem_map_of_mem hrow)

/-- A table with a row in it has a highest ledger. -/
theorem exists_maxLedger {rows : List (ChainEvent δ)} (h : rows ≠ []) :
    ∃ highest, maxLedger rows = some highest := by
  cases hmax : maxLedger rows with
  | none =>
      exact absurd (List.map_eq_nil_iff.mp (List.max?_eq_none_iff.mp hmax)) h
  | some highest => exact ⟨highest, rfl⟩

/-- Rows that a store adds come from events of the chain, like those that
were there. -/
theorem Mirrored.rows_stored (hs : Mirrored d chain s)
    (hevents : Drained chain span.startLedger latestLedger events) :
    ∀ row ∈ (stored d s span events latestLedger).chainEvent,
      ∃ e, chain e ∧ row = rowOf d e := by
  intro row hrow
  rcases Conflict.mem_insertRows hrow with hrow | hrow
  · exact hs.rows row hrow
  · obtain ⟨e, he, rfl⟩ := List.mem_map.mp hrow
    exact ⟨e, hevents.sound e he, rfl⟩

/-- An event the poll brought is on file, by this insert or an older. -/
theorem Mirrored.mem_stored (hunique : UniqueIds chain)
    (hs : Mirrored d chain s)
    (hevents : Drained chain span.startLedger latestLedger events)
    {e : RpcEvent ξ} (he : e ∈ events) :
    rowOf d e ∈ (stored d s span events latestLedger).chainEvent := by
  have hkey : _ ∈ (Conflict.insertRows ChainEvent.eventId s.chainEvent
      (events.map (rowOf d))).map ChainEvent.eventId :=
    Conflict.key_mem_insertRows (List.mem_map_of_mem he)
  obtain ⟨row, hrow, hid⟩ := List.mem_map.mp hkey
  obtain ⟨e', he', rfl⟩ := hs.rows_stored hevents row hrow
  rw [rowOf_eventId, rowOf_eventId] at hid
  rw [← hunique e' e he' (hevents.sound e he) hid]
  exact hrow

/-- Before a poll has completed, a first insert may owe what lies above
the poll's start. -/
theorem Mirrored.owed_stored (hunique : UniqueIds chain)
    (hs : Mirrored d chain s)
    (hevents : Drained chain span.startLedger latestLedger events) {l : Nat}
    (h : Owed (stored d s span events latestLedger) l) :
    Owed s l ∨ s.completed = [] ∧ span.startLedger < l := by
  have hsame : (stored d s span events latestLedger).completed
      = s.completed := rfl
  cases hcompleted : s.completed with
  | cons first rest =>
    have hfirst : first ∈ s.completed.head? := by rw [hcompleted]; rfl
    have hfrom := (owed_of_first (hsame ▸ hfirst)).mp h
    exact Or.inl ((owed_of_first hfirst).mpr hfrom)
  | nil =>
    obtain ⟨highest, hhighest, hl⟩ :=
      (owed_of_none (hsame.trans hcompleted)).mp h
    by_cases hempty : s.chainEvent = []
    · refine Or.inr ⟨rfl, ?_⟩
      have hne : events ≠ [] := by
        rintro rfl
        rw [stored, hempty] at hhighest
        cases hhighest
      obtain ⟨e, he, hstart⟩ := hevents.first hne
      have hle := le_maxLedger hhighest (hs.mem_stored hunique hevents he)
      rw [rowOf_ledger] at hle
      omega
    · obtain ⟨before, hbefore⟩ := exists_maxLedger hempty
      refine Or.inl ((owed_of_none hcompleted).mpr ⟨before, hbefore, ?_⟩)
      obtain ⟨row, hrow, hledger⟩ := List.mem_map.mp
        (List.max?_eq_some_iff.mp hbefore).1
      have hle := le_maxLedger hhighest
        ((Conflict.prefix_insertRows _ _).subset hrow)
      omega

variable (d span events latestLedger) in
/-- A store uncovers nothing. -/
theorem covered_stored {l : Nat} (h : Covered s l) :
    Covered (stored d s span events latestLedger) l := by
  have hdrains : s.drains
      ⊆ (stored d s span events latestLedger).drains :=
    List.subset_append_left _ _
  exact h.mono hdrains (List.Subset.refl _)

/-- The poll that stores keeps the start it had. -/
theorem Mirrored.spanned_stored (hunique : UniqueIds chain)
    (hs : Mirrored d chain s) (hspan : Spanned s span)
    (hevents : Drained chain span.startLedger latestLedger events) :
    Spanned (stored d s span events latestLedger) span where
  le := hspan.le
  gap l hlow hhigh := covered_stored _ _ _ _ (hspan.gap l hlow hhigh)
  ready := by
    refine ⟨fun l howed hlt => ?_, fun hnil cursor hcursor l hlow hhigh =>
      covered_stored _ _ _ _ (hspan.ready.row hnil cursor hcursor l hlow hhigh)⟩
    rcases hs.owed_stored hunique hevents howed with howed | ⟨-, hstart⟩
    · exact covered_stored _ _ _ _ (hspan.ready.below l howed hlt)
    · have := hspan.le
      omega

/-- A drained span is reached to its end. -/
theorem Spanned.reached (hspan : Spanned s span)
    (hdrain : (span.startLedger, latestLedger) ∈ s.drains) :
    Reached s latestLedger := by
  intro l howed hlt
  by_cases hbelow : l < span.desiredStartLedger
  · exact hspan.ready.below l howed hbelow
  by_cases hgap : l < span.startLedger
  · exact hspan.gap l (Nat.le_of_not_lt hbelow) hgap
  · exact Or.inl ⟨_, hdrain, Nat.le_of_not_lt hgap, Nat.le_of_lt_succ hlt⟩

/-- Two ledgers that are reached are reached together. -/
theorem Reached.max {m n : Nat} (hm : Reached s m) (hn : Reached s n) :
    Reached s (max m n) := by
  intro l howed hlt
  by_cases hl : l < m + 1
  · exact hm l howed hl
  · exact hn l howed (by omega)

/-- After the first completed poll, a store is growth. Before it, the
highest ledger on file may move, and with it what is owed. -/
theorem Mirrored.grew_stored (hunique : UniqueIds chain)
    (hs : Mirrored d chain s)
    (hevents : Drained chain span.startLedger latestLedger events)
    (hne : s.completed ≠ []) :
    Grew s (stored d s span events latestLedger) where
  drains := List.subset_append_left _ _
  gaps := List.Subset.refl _
  owed l howed := by
    rcases hs.owed_stored hunique hevents howed with howed | ⟨hnil, -⟩
    · exact howed
    · exact absurd hnil hne

/-- Every event of a drained stretch is on file after the store, those of
the new stretch included: a row that conflicted was the same event's. -/
theorem Mirrored.drains_stored (hunique : UniqueIds chain)
    (hs : Mirrored d chain s)
    (hevents : Drained chain span.startLedger latestLedger events) :
    ∀ drain ∈ (stored d s span events latestLedger).drains, ∀ e, chain e →
      drain.1 ≤ e.ledger → e.ledger ≤ drain.2 →
      rowOf d e ∈ (stored d s span events latestLedger).chainEvent := by
  intro drain hdrain e he hlow hhigh
  rcases List.mem_append.mp hdrain with hdrain | hdrain
  · exact (Conflict.prefix_insertRows _ _).subset
      (hs.drains drain hdrain e he hlow hhigh)
  · rw [List.mem_singleton.mp hdrain] at hlow hhigh
    exact hs.mem_stored hunique hevents (hevents.upTo e he hlow hhigh)

/-- The events are stored. -/
theorem Mirrored.stored (hunique : UniqueIds chain)
    (hs : Mirrored d chain s) (hspan : Spanned s span)
    (hevents : Drained chain span.startLedger latestLedger events) :
    Mirrored d chain { Indexer.stored d s span events latestLedger with
      poll := none } := by
  have hspan' := hs.spanned_stored hunique hspan hevents
  have hdrain : (span.startLedger, latestLedger)
      ∈ (Indexer.stored d s span events latestLedger).drains :=
    List.mem_append_right _ List.mem_cons_self
  refine ⟨Conflict.nodup_insertRows hs.once _, hs.rows_stored hevents,
    hs.drains_stored hunique hevents, ?_, ?_, ?_, ?_, nofun⟩
  · -- the cursor row
    intro ledger hledger l howed hlt
    rcases hs.owed_stored hunique hevents howed with howed | ⟨hnil, hstart⟩
    · exact covered_stored d span events latestLedger
        (hs.cursor ledger hledger l howed hlt)
    · exact covered_stored d span events latestLedger
        (hspan.ready.row hnil ledger hledger l
          (Nat.le_trans hspan.le (Nat.le_of_lt hstart))
          (Nat.le_of_lt_succ hlt))
  · intro ledger hledger
    obtain ⟨hne, hreached⟩ := hs.memory ledger hledger
    exact ⟨hne, hreached.mono (hs.grew_stored hunique hevents hne)⟩
  · intro hne
    have hne : s.completed ≠ [] := hne
    have hgrew := hs.grew_stored hunique hevents hne
    have hmax := Reached.max ((hs.drained hne).mono hgrew)
      (hspan'.reached hdrain)
    have hupTo : (Indexer.stored d s span events latestLedger).drainedUpTo
        = max s.drainedUpTo latestLedger := if_neg hne
    intro l howed hlt
    rw [hupTo] at hlt
    exact hmax l howed hlt
  · intro result hresult
    have hne : s.completed ≠ [] := List.ne_nil_of_mem hresult
    exact (hs.completed result hresult).mono
      (hs.grew_stored hunique hevents hne)

end Stored

/-- The drained events are written in one statement; a lost
acknowledgement leaves them on file and ends the poll. -/
theorem Mirrored.insertEvents (hunique : UniqueIds chain)
    {delivery : Delivery} (h : insertEvents d delivery s = .ok s')
    (hs : Mirrored d chain s) : Mirrored d chain s' := by
  simp only [Indexer.insertEvents, bind_ok, expect_ok] at h
  obtain ⟨poll, hpoll, h⟩ := h
  split at h
  next span events latestLedger hphase =>
    have hknows := (hs.poll poll hpoll).1
    rw [hphase] at hknows
    obtain ⟨hspan, hevents⟩ := hknows
    have hstored := hs.stored hunique hspan hevents
    -- The poll goes on to the upsert.
    have hnext : Mirrored d chain
        (moveTo (Indexer.stored d s span events latestLedger) poll
          (.upsert span events.length latestLedger)) := by
      have hgrew : Grew (Indexer.stored d s span events latestLedger)
          { Indexer.stored d s span events latestLedger with poll := none } :=
        ⟨List.Subset.refl _, List.Subset.refl _, fun _ howed => howed⟩
      have hspan' := (hs.spanned_stored hunique hspan hevents).mono hgrew id
        rfl
      refine hstored.around hstored.memory fun q hq => ?_
      cases hq
      refine ⟨⟨hspan', List.mem_append_right _ List.mem_cons_self⟩, ?_⟩
      intro ledger hledger
      obtain ⟨hne, hreached⟩ := (hs.poll poll hpoll).2 ledger hledger
      exact ⟨hne, hreached.mono (hs.grew_stored hunique hevents hne)⟩
    split at h
    · cases h
      exact hnext
    · split at h
      · cases h
        exact hnext
      · cases h
        exact hstored
      · cases h
        exact hs.ended
  · cases h

/-- The cursor row takes the tip the poll drained up to, which by then is
reached. -/
theorem Mirrored.upsertCursor {delivery : Delivery}
    (h : upsertCursor delivery s = .ok s') (hs : Mirrored d chain s) :
    Mirrored d chain s' := by
  simp only [Indexer.upsertCursor, bind_ok, expect_ok] at h
  obtain ⟨poll, hpoll, h⟩ := h
  split at h
  next span insertedCount latestLedger hphase =>
    have hknows := (hs.poll poll hpoll).1
    rw [hphase] at hknows
    obtain ⟨hspan, hdrain⟩ := hknows
    split at h
    · cases h
      have hgrew : Grew s { s with
          indexerCursor := some latestLedger
          poll := some { poll with
            phase := .finished span insertedCount latestLedger } } :=
        ⟨List.Subset.refl _, List.Subset.refl _, fun _ howed => howed⟩
      refine ⟨hs.once, hs.rows, hs.drains, ?_, hs.memory.mono hgrew id,
        fun hne => (hs.drained hne).mono hgrew,
        fun result hresult => (hs.completed result hresult).mono hgrew, ?_⟩
      · intro ledger hledger
        cases hledger
        exact (hspan.reached hdrain).mono hgrew
      · intro q hq
        cases hq
        refine ⟨⟨⟨⟨hspan.ready.below.mono hgrew, ?_⟩, hspan.le, ?_⟩, hdrain⟩,
          (hs.poll poll hpoll).2.mono hgrew id⟩
        · -- The new row leaves nothing behind that the poll does not cover.
          intro _ cursor hcursor l hlow hhigh
          cases hcursor
          by_cases hgap : l < span.startLedger
          · exact (hspan.gap l hlow hgap).mono hgrew.drains hgrew.gaps
          · exact Or.inl ⟨_, hdrain, Nat.le_of_not_lt hgap, hhigh⟩
        · exact fun l hlow hhigh =>
            (hspan.gap l hlow hhigh).mono hgrew.drains hgrew.gaps
    · cases h
      exact hs.moved hpoll ⟨hspan, hdrain⟩
  · cases h

-- ============================================================== the return

/-- A first result owes what lies from its start on; a further one owes
nothing new. -/
theorem owed_snoc {result : PollOnceResult}
    (hcompleted : s'.completed = s.completed ++ [result]) {l : Nat}
    (h : Owed s' l) :
    (s.completed ≠ [] ∧ Owed s l)
      ∨ (s.completed = [] ∧ result.fromLedger ≤ l) := by
  cases hc : s.completed with
  | nil =>
      rw [hc] at hcompleted
      have hfirst : result ∈ s'.completed.head? := by rw [hcompleted]; rfl
      exact Or.inr ⟨rfl, (owed_of_first hfirst).mp h⟩
  | cons first rest =>
      rw [hc] at hcompleted
      have hfirst' : first ∈ s'.completed.head? := by rw [hcompleted]; rfl
      have hfirst : first ∈ s.completed.head? := by rw [hc]; rfl
      have hfrom := (owed_of_first hfirst').mp h
      exact Or.inl ⟨List.cons_ne_nil _ _, (owed_of_first hfirst).mpr hfrom⟩

/-- The poll returns; its `latestLedger` is reached, and what was reached
stays so. -/
theorem Mirrored.returned (hs : Mirrored d chain s) {poll : Poll ξ}
    (hpoll : poll ∈ s.poll) {span : Span} {latestLedger : Nat}
    {result : PollOnceResult} (hspan : Spanned s span)
    (hdrain : (span.startLedger, latestLedger) ∈ s.drains)
    (hfrom : result.fromLedger = span.startLedger)
    (hlatest : result.latestLedger = latestLedger)
    (hscanned : result.scannedUpTo
      = max (poll.cursorLedger.getD 0) latestLedger) {alerts : List Alert}
    {cycle : Bool} :
    Mirrored d chain { s with
      poll := none
      alerts := alerts
      lastScannedLedger :=
        if cycle then some result.scannedUpTo else s.lastScannedLedger
      completed := s.completed ++ [result]
      drainedUpTo :=
        if s.completed = [] then latestLedger
        else max s.drainedUpTo latestLedger } := by
  generalize hs' : ({ s with
      poll := none
      alerts := alerts
      lastScannedLedger :=
        if cycle then some result.scannedUpTo else s.lastScannedLedger
      completed := s.completed ++ [result]
      drainedUpTo :=
        if s.completed = [] then latestLedger
        else max s.drainedUpTo latestLedger } : Mirror ξ δ) = s'
  have hcompleted : s'.completed = s.completed ++ [result] := by rw [← hs']
  have hdrains : s'.drains = s.drains := by rw [← hs']
  have hgaps : s'.chainEventGap = s.chainEventGap := by rw [← hs']
  -- what is covered stays covered; what is owed may grow with the first
  -- poll that completes
  have hcovered : ∀ {l}, Covered s l → Covered s' l := fun h =>
    h.mono (hdrains ▸ List.Subset.refl _) (hgaps ▸ List.Subset.refl _)
  have hne : s'.completed ≠ [] := by rw [hcompleted]; simp
  -- this poll has drained everything from its start to the tip it saw
  have hreached : Reached s' latestLedger := by
    intro l howed hlt
    rcases owed_snoc hcompleted howed with ⟨-, howed⟩ | ⟨-, hstart⟩
    · exact hcovered (hspan.reached hdrain l howed hlt)
    · rw [hfrom] at hstart
      exact hcovered (Or.inl ⟨_, hdrain, hstart, Nat.le_of_lt_succ hlt⟩)
  have hkept : ∀ {ledger}, s.completed ≠ [] → Reached s ledger →
      Reached s' ledger := by
    intro ledger hne hr l howed hlt
    rcases owed_snoc hcompleted howed with ⟨-, howed⟩ | ⟨hnil, -⟩
    · exact hcovered (hr l howed hlt)
    · exact absurd hnil hne
  refine ⟨?_, ?_, ?_, ?_, ?_, ?_, ?_, ?_⟩
  · rw [← hs']
    exact hs.once
  · rw [← hs']
    exact hs.rows
  · rw [← hs']
    exact hs.drains
  · intro ledger hledger l howed hlt
    have hledger : ledger ∈ s.indexerCursor := by
      rw [← hs'] at hledger
      exact hledger
    rcases owed_snoc hcompleted howed with ⟨-, howed⟩ | ⟨hnil, hstart⟩
    · exact hcovered (hs.cursor ledger hledger l howed hlt)
    · rw [hfrom] at hstart
      exact hcovered (hspan.ready.row hnil ledger hledger l
        (Nat.le_trans hspan.le hstart) (Nat.le_of_lt_succ hlt))
  · intro ledger hledger
    refine ⟨hne, ?_⟩
    rw [← hs'] at hledger
    dsimp only at hledger
    split at hledger
    · cases hledger
      rw [hscanned]
      -- the memory is the cursor it read or its own tip, whichever is later
      cases hcursor : poll.cursorLedger with
      | none =>
          rw [Option.getD_none, Nat.zero_max]
          exact hreached
      | some cursor =>
          obtain ⟨hne, hr⟩ := (hs.poll poll hpoll).2 cursor hcursor
          exact Reached.max (hkept hne hr) hreached
    · obtain ⟨hne, hr⟩ := hs.memory ledger hledger
      exact hkept hne hr
  · intro _
    have hupTo : s'.drainedUpTo = if s.completed = [] then latestLedger
        else max s.drainedUpTo latestLedger := by rw [← hs']
    rw [hupTo]
    split
    · exact hreached
    next hne => exact Reached.max (hkept hne (hs.drained hne)) hreached
  · intro r hr
    rw [hcompleted] at hr
    rcases List.mem_append.mp hr with hr | hr
    · exact hkept (List.ne_nil_of_mem hr) (hs.completed r hr)
    · rw [List.mem_singleton.mp hr, hlatest]
      exact hreached
  · intro q hq
    rw [← hs'] at hq
    cases hq

/-- The poll completes and its result is reported. If it is the first,
what is owed now starts where it started. -/
theorem Mirrored.finish (h : finish s = .ok s') (hs : Mirrored d chain s) :
    Mirrored d chain s' := by
  simp only [Indexer.finish, bind_ok, expect_ok] at h
  obtain ⟨poll, hpoll, h⟩ := h
  split at h
  next span insertedCount latestLedger hphase =>
    have hknows := (hs.poll poll hpoll).1
    rw [hphase] at hknows
    cases h
    exact hs.returned hpoll hknows.1 hknows.2 rfl rfl rfl
  · cases h

/-- A read or write that throws ends the poll and leaves the tables as
they are. -/
theorem Mirrored.fail (h : fail s = .ok s') (hs : Mirrored d chain s) :
    Mirrored d chain s' := by
  simp only [Indexer.fail, bind_ok, expect_ok] at h
  obtain ⟨poll, -, h⟩ := h
  split at h
  · cases h
  · cases h
  · cases h
  · cases h
    exact hs.ended

/-- Every step of an indexer that resumes well, against an honest RPC,
keeps the invariant. -/
theorem Mirrored.step (hunique : UniqueIds chain) (h : step d a s = .ok s')
    (hrpc : HonestRpc chain a s) (hok : Resumes a s)
    (hs : Mirrored d chain s) : Mirrored d chain s' := by
  cases a with
  | beginPoll remember => exact hs.beginPoll h
  | beginCycle => exact hs.beginCycle h
  | checkLag rpcTip lagAlertLedgers => exact hs.checkLag h
  | selectCursor fault => exact hs.selectCursor h
  | selectMaxLedger => exact hs.selectMaxLedger h hok
  | coldStart sequence => exact hs.coldStart h hok
  | getHealth oldestLedger => exact hs.getHealth h
  | insertGap delivery => exact hs.insertGap h
  | getEvents page => exact hs.getEvents h hrpc
  | insertEvents delivery => exact hs.insertEvents hunique h
  | upsertCursor delivery => exact hs.upsertCursor h
  | finish => exact hs.finish h
  | fail => exact hs.fail h
  | restart =>
      cases h
      exact hs.around nofun nofun

/-- An empty mirror owes nothing. -/
theorem mirrored_init : Mirrored d chain (machine d : Machine _ (Act ξ)).init
    where
  once := List.nodup_nil
  rows := nofun
  drains := nofun
  cursor := nofun
  memory := nofun
  drained h := absurd rfl h
  completed := nofun
  poll := nofun

/-- Over an honest RPC the indexer neither loses nor duplicates an event,
in every run whose polls resume from what they drained. -/
theorem indexer_complete (d : Decoder ξ ι δ) (chain : RpcEvent ξ → Prop)
    (hunique : UniqueIds chain) (as : List (Act ξ))
    (has : (machine d).Allowed
      (fun a s => HonestRpc chain a s ∧ Resumes a s) (machine d).init as) :
    Complete d chain ((machine d).run (machine d).init as) := by
  refine Mirrored.complete (Machine.run_induction ?_ mirrored_init has)
  intro s a s' hs hok h
  exact hs.step hunique h hok.1 hok.2

-- ============================================================== two restarts

/-- Values that decode to themselves. -/
def plain : Decoder String String String where
  scValToNative := .ok
  text := id
  toJsonSafe _ value := value
  raw event := event.value
  undecodable _ raw := raw

def eventAt (id ledger : Nat) : RpcEvent String :=
  ⟨id, ledger, "tx", "vault", ["pledge"], "1"⟩

/-- The events of a list are the chain's. -/
def Listed (events : List (RpcEvent String)) (e : RpcEvent String) : Prop :=
  e ∈ events

instance (events : List (RpcEvent String)) (startLedger : Nat)
    (cursor : Option Nat) (page : Page String) :
    Decidable (Honest (Listed events) startLedger cursor page) :=
  decidable_of_iff
    ((∀ e ∈ page.events, e ∈ events ∧ After startLedger cursor e)
      ∧ (page.events.Pairwise fun a b => a.id < b.id)
      ∧ (∀ e ∈ events, After startLedger cursor e →
        ∀ last ∈ page.events.getLast?, e.id ≤ last.id → e ∈ page.events)
      ∧ (page.events.length < pageSize → ∀ e ∈ events,
        After startLedger cursor e → e.ledger ≤ page.latestLedger →
        e ∈ page.events))
    ⟨fun ⟨h₁, h₂, h₃, h₄⟩ => ⟨h₁, h₂, h₃, h₄⟩,
      fun h => ⟨h.sound, h.ordered, h.contiguous, h.short⟩⟩

instance (events : List (RpcEvent String)) (page : Page String)
    (phase : Phase String) :
    Decidable (phase.Answered (Listed events) page) := by
  unfold Phase.Answered
  split <;> infer_instance

instance (events : List (RpcEvent String)) (a : Act String)
    (s : Mirror String String) :
    Decidable (HonestRpc (Listed events) a s) := by
  unfold HonestRpc
  split <;> infer_instance

instance (a : Act ξ) (s : Mirror ξ δ) : Decidable (Resumes a s) := by
  unfold Resumes
  split <;> infer_instance

/-- A quiet poll up to `latestLedger`. -/
def polls (page : Page String) (stored : Delivery) : List (Act String) :=
  [.getHealth 0, .getEvents page, .insertEvents .acknowledged,
    .upsertCursor stored, .finish]

/-- The upsert of the cursor row fails and is caught, and the process
restarts 2000 ledgers later. -/
def coldAgain : List (Act String) :=
  [.beginCycle, .checkLag 1 12, .selectCursor false, .selectMaxLedger,
    .coldStart 1] ++ polls ⟨[], 5⟩ .rolledBack
    ++ [.restart, .beginCycle, .checkLag 2000 12, .selectCursor false,
      .selectMaxLedger, .coldStart 2000] ++ polls ⟨[], 2000⟩ .acknowledged

/-- It keeps the cursor row, and resumes. -/
def resumed : List (Act String) :=
  [.beginCycle, .checkLag 1 12, .selectCursor false, .selectMaxLedger,
    .coldStart 1] ++ polls ⟨[], 5⟩ .acknowledged
    ++ [.restart, .beginCycle, .checkLag 2000 12, .selectCursor false]
    ++ polls ⟨[eventAt 1 500], 2000⟩ .acknowledged

/-- A second cold start skips the event at ledger 500. -/
theorem cold_start_skips : ∃ (chain : RpcEvent String → Prop)
    (as : List (Act String)), UniqueIds chain
      ∧ (machine plain).Allowed (HonestRpc chain) (machine plain).init as
      ∧ ¬ Complete plain chain
        ((machine plain).run (machine plain).init as) := by
  refine ⟨Listed [eventAt 1 500], coldAgain, ?_, by decide +kernel, ?_⟩
  · intro e e' he he' _
    rw [List.mem_singleton.mp he, List.mem_singleton.mp he']
  · intro h
    have hevents := h.events ⟨1, 0, 5, 5, none, none⟩ (by decide +kernel)
      (eventAt 1 500) List.mem_cons_self (by decide)
      ⟨⟨1000, 0, 2000, 2000, none, none⟩, by decide +kernel, by decide⟩
    rcases hevents with hrow | ⟨gap, hgap, -⟩
    · exact absurd hrow (by decide +kernel)
    · have hnone : ((machine plain).run (machine plain).init
          coldAgain).chainEventGap = [] := by decide +kernel
      rw [hnone] at hgap
      cases hgap

/-- A process that dies after its first poll and resumes from the cursor
row. -/
theorem indexer_complete_demo : Complete plain (Listed [eventAt 1 500])
    ((machine plain).run (machine plain).init resumed) := by
  refine indexer_complete plain _ ?_ resumed (by decide +kernel)
  intro e e' he he' _
  rw [List.mem_singleton.mp he, List.mem_singleton.mp he']

end Ballast.Indexer
