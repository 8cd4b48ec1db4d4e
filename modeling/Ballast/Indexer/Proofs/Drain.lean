/-
What the RPC is trusted with, and what draining its pages gathers.

A page holds the events after the request in id order, none left out
(`Honest`); a short one holds all up to its `latestLedger`. Whatever the
nodes behind the RPC say of their tips, pages that follow one another
gather every event up to their cursor (`Gathered.next`), and the short one
that ends them every event up to its `latestLedger` (`Gathered.last`).

A request names a ledger to start from, or a cursor to go on after; the
two are one order on events, by id. An RPC may answer from nodes that
are not equally far, so what one page has seen of the tip binds no
other: the only tip that is trusted is that of the page which came back
short.
-/
import Ballast.Indexer.Basic

namespace Ballast.Indexer

open Soroban

variable {ξ : Type} {chain : RpcEvent ξ → Prop}

/-- The event is one the request asks for. -/
def After (startLedger : Nat) (cursor : Option Nat) (e : RpcEvent ξ) :
    Prop :=
  match cursor with
  | none => startLedger ≤ e.ledger
  | some id => id < e.id

instance (startLedger : Nat) (cursor : Option Nat) (e : RpcEvent ξ) :
    Decidable (After startLedger cursor e) := by
  cases cursor <;> unfold After <;> infer_instance

/-- The page answers the request: `chain` are the events of the watched
contracts. -/
structure Honest (chain : RpcEvent ξ → Prop) (startLedger : Nat)
    (cursor : Option Nat) (page : Page ξ) : Prop where
  sound : ∀ e ∈ page.events, chain e ∧ After startLedger cursor e
  ordered : page.events.Pairwise fun a b => a.id < b.id
  contiguous : ∀ e, chain e → After startLedger cursor e →
    ∀ last ∈ page.events.getLast?, e.id ≤ last.id → e ∈ page.events
  short : page.events.length < pageSize → ∀ e, chain e →
    After startLedger cursor e → e.ledger ≤ page.latestLedger →
    e ∈ page.events

/-- What the pages brought so far. -/
structure Gathered (chain : RpcEvent ξ → Prop) (startLedger : Nat)
    (events : List (RpcEvent ξ)) (cursor : Option Nat) : Prop where
  sound : ∀ e ∈ events, chain e
  first : events ≠ [] → ∃ e ∈ events, startLedger ≤ e.ledger
  empty : events = [] → cursor = none
  upTo : ∀ e, chain e → startLedger ≤ e.ledger →
    ∀ id ∈ cursor, e.id ≤ id → e ∈ events

/-- What all the pages brought. -/
structure Drained (chain : RpcEvent ξ → Prop) (startLedger latestLedger : Nat)
    (events : List (RpcEvent ξ)) : Prop where
  sound : ∀ e ∈ events, chain e
  first : events ≠ [] → ∃ e ∈ events, startLedger ≤ e.ledger
  upTo : ∀ e, chain e → startLedger ≤ e.ledger →
    e.ledger ≤ latestLedger → e ∈ events

variable {startLedger : Nat} {events : List (RpcEvent ξ)}
  {cursor : Option Nat} {page : Page ξ}

theorem Gathered.nil : Gathered chain startLedger [] none :=
  ⟨nofun, fun h => absurd rfl h, fun _ => rfl, nofun⟩

/-- An event asked for is gathered, or still asked for. -/
theorem Gathered.gathered_or_after
    (hg : Gathered chain startLedger events cursor) {e : RpcEvent ξ}
    (he : chain e) (hstart : startLedger ≤ e.ledger) :
    e ∈ events ∨ After startLedger cursor e := by
  cases cursor with
  | none => exact Or.inr hstart
  | some id =>
      by_cases hid : e.id ≤ id
      · exact Or.inl (hg.upTo e he hstart id rfl hid)
      · exact Or.inr (Nat.lt_of_not_le hid)

theorem Gathered.sound_append
    (hg : Gathered chain startLedger events cursor)
    (hp : Honest chain startLedger cursor page) :
    ∀ e ∈ events ++ page.events, chain e := by
  intro e he
  rcases List.mem_append.mp he with he | he
  · exact hg.sound e he
  · exact (hp.sound e he).1

theorem Gathered.first_append
    (hg : Gathered chain startLedger events cursor)
    (hp : Honest chain startLedger cursor page)
    (hne : events ++ page.events ≠ []) :
    ∃ e ∈ events ++ page.events, startLedger ≤ e.ledger := by
  by_cases hnil : events = []
  · -- With no events gathered this is the first page.
    have hcursor := hg.empty hnil
    subst hnil hcursor
    obtain ⟨e, he⟩ := List.exists_mem_of_ne_nil _ hne
    exact ⟨e, he, (hp.sound e he).2⟩
  · obtain ⟨e, he, hstart⟩ := hg.first hnil
    exact ⟨e, List.mem_append_left _ he, hstart⟩

/-- A further page extends what is gathered up to its last event. -/
theorem Gathered.next (hg : Gathered chain startLedger events cursor)
    (hp : Honest chain startLedger cursor page) :
    Gathered chain startLedger (events ++ page.events)
      (page.events.getLast?.map RpcEvent.id) where
  sound := hg.sound_append hp
  first := hg.first_append hp
  empty := by
    intro hnil
    rw [(List.append_eq_nil_iff.mp hnil).2]
    rfl
  upTo := by
    intro e he hstart id hid hle
    obtain ⟨last, hlast, rfl⟩ := Option.map_eq_some_iff.mp hid
    rcases hg.gathered_or_after he hstart with hin | hafter
    · exact List.mem_append_left _ hin
    · exact List.mem_append_right _
        (hp.contiguous e he hafter last hlast hle)

/-- A short page ends it. -/
theorem Gathered.last (hg : Gathered chain startLedger events cursor)
    (hp : Honest chain startLedger cursor page)
    (hshort : page.events.length < pageSize) :
    Drained chain startLedger page.latestLedger (events ++ page.events) where
  sound := hg.sound_append hp
  first := hg.first_append hp
  upTo := by
    intro e he hstart hlatest
    rcases hg.gathered_or_after he hstart with hin | hafter
    · exact List.mem_append_left _ hin
    · exact List.mem_append_right _ (hp.short hshort e he hafter hlatest)

/-- The page answers the request of a poll that stands there. -/
def Phase.Answered (chain : RpcEvent ξ → Prop) (page : Page ξ)
    (phase : Phase ξ) : Prop :=
  match phase with
  | .pages span _ cursor => Honest chain span.startLedger cursor page
  | _ => True

/-- The RPC answers every request honestly. -/
def HonestRpc {δ : Type} (chain : RpcEvent ξ → Prop) (a : Act ξ)
    (s : Mirror ξ δ) : Prop :=
  match a with
  | .getEvents page => ∀ poll ∈ s.poll, poll.phase.Answered chain page
  | _ => True

/-- No two events share an id. -/
def UniqueIds (chain : RpcEvent ξ → Prop) : Prop :=
  ∀ e e', chain e → chain e' → e.id = e'.id → e = e'

end Ballast.Indexer
