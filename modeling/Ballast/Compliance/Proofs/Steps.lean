/-
What one step of the gate can do, said once: to the rows on file and to
one call (`Moves`, `Did`). What a call knows at each await is a fact about
the call alone (`Knows`), since it keeps what it was given.

# One call, one await

Each await of `checkParty` is a step of the machine, and other calls may
come between any two. A step reads or writes one thing: the party's row,
the newest check, all checks, the accounts, the list, the screening's
own row, the audit row. `Moves` lists the ways a call goes on that leave
the tables alone, and the two steps that write have constructors of
their own in `Did`. Any statement may fail at its await, and then the
call throws (`fault_did`) and passes nobody.
-/
import Ballast.Compliance.Gate

namespace Ballast.Compliance

open Soroban

variable {p : Platform} {s s' : Gate} {a : Act}

-- =============================================================== one step

/-- A call that will not let its party pass. -/
inductive Phase.Stopped : Phase → Prop
  | held {unreviewed : List SanctionsMatch} : Phase.Stopped (.held unreviewed)
  | hold {hold : Hold} : Phase.Stopped (.returned (some hold))
  | threw : Phase.Stopped .threw

/-- A call goes on over the rows on file, and files none. -/
inductive Moves (p : Platform) (s : Gate) (c : Caller) : Caller → Prop
  | stopped {seen : Seen} {phase : Phase} : seen.begun = c.seen.begun →
      phase.Stopped → Moves p s c { c with phase := phase, seen := seen }
  | approved {party : Party} : c.phase = .started →
      party.kybStatus = .approved →
      Moves p s c { c with
        phase := .approved party
        seen := { c.seen with party := some party } }
  | due {party : Party} {found : Option ComplianceCheck} :
      c.phase = .approved party →
      Latest (checksOf c.partyId s.complianceCheck) found →
      (∀ r ∈ found, r.result = .clear) →
      Moves p s c { c with
        phase := .due party
        seen := { c.seen with
          looked := s.complianceCheck, latest := found } }
  | recent {party : Party} {latest : ComplianceCheck} :
      c.phase = .approved party →
      Latest (checksOf c.partyId s.complianceCheck) (some latest) →
      latest.result = .clear → c.now - latest.checkedAt < screeningTtlMs →
      Moves p s c { c with
        phase := .returned none
        seen := { c.seen with
          looked := s.complianceCheck, latest := some latest
          passed := s.complianceCheck } }
  | recalled {party : Party} {found : List ComplianceCheck} :
      c.phase = .due party →
      NewestFirst (checksOf c.partyId s.complianceCheck) found →
      Moves p s c { c with
        phase := .recalled party (reviewedEntNums found)
        seen := { c.seen with recalled := s.complianceCheck } }
  | screening {party : Party} {reviewed : List Text}
      {accounts : List Text} : c.phase = .recalled party reviewed →
      Moves p s c { c with
        phase := .screening reviewed ⟨party.legalName, accounts⟩
        seen := { c.seen with accounts := accounts } }
  | loading {reviewed : List Text} {subject : ScreeningSubject} {age : Int}
      {load : Nat} : c.phase = .screening reviewed subject →
      Moves p s c { c with phase := .loading reviewed subject age load }
  | fresh {reviewed : List Text} {subject : ScreeningSubject} :
      c.phase = .screening reviewed subject
        ∨ (∃ age load, c.phase = .loading reviewed subject age load) →
      Moves p s c { c with phase := .fresh reviewed subject }
  | screened {reviewed : List Text} {subject : ScreeningSubject}
      {list : SanctionsList} {listSource : Text} {listLoadedAt : Int} :
      c.phase = .fresh reviewed subject →
      Moves p s c { c with
        phase := .screened reviewed
          ⟨list.screen p subject, listSource, listLoadedAt⟩
        seen := { c.seen with screened := some (list, subject) } }

/-- Where a call stands that has filed this row: it let its party pass
only if the row is a clear. -/
inductive Filing (rows : List ComplianceCheck) (row : ComplianceCheck)
    (c : Caller) : Caller → Prop
  | stopped {phase : Phase} : phase.Stopped →
      Filing rows row c { c with phase := phase }
  | passed : row.result = .clear →
      Filing rows row c { c with
        phase := .returned none, seen := { c.seen with passed := rows } }

/-- What a committed step did to the rows and the calls. -/
inductive Did (p : Platform) (s s' : Gate) : Act → Prop
  | around {b : Act} : s'.complianceCheck = s.complianceCheck →
      s'.callers = s.callers → Did p s s' b
  | reviewed {partyId reviewer : Text} {note : List Text} {checkedAt : Int}
      {audited : Bool} :
      s'.complianceCheck = s.complianceCheck
        ++ [reviewRow partyId reviewer note checkedAt] →
      s'.callers = s.callers →
      Did p s s' (.clear partyId reviewer note checkedAt audited)
  | begun {id process : Nat} {partyId : Text} {now : Int} :
      s.callers.get id = none →
      s'.complianceCheck = s.complianceCheck →
      s'.callers = s.callers.set id ⟨process, partyId, now, .started,
        ⟨s.complianceCheck, none, [], none, [], [], none, []⟩⟩ →
      Did p s s' (.begin id process partyId now)
  | moved {b : Act} {id : Nat} {c c' : Caller} :
      s.callers.get id = some c → Moves p s c c' →
      s'.complianceCheck = s.complianceCheck →
      s'.callers = s.callers.set id c' → Did p s s' b
  | filed {id : Nat} {delivery : Delivery} {c c' : Caller}
      {reviewed : List Text} {result : ScreenResult} :
      s.callers.get id = some c → c.phase = .screened reviewed result →
      s'.complianceCheck = s.complianceCheck
        ++ [screeningRow c.partyId c.now reviewed result] →
      Filing s'.complianceCheck
        (screeningRow c.partyId c.now reviewed result) c c' →
      s'.callers = s.callers.set id c' →
      Did p s s' (.insertCheck id delivery)

/-- A result that is no match is clear. -/
theorem clear_of_ne_matched {result : CheckResult}
    (h : result ≠ .matched) : result = .clear := by
  cases result with
  | clear => rfl
  | matched => exact absurd rfl h

/-- The party's row is read; without one, or without an approved one, the
call returns a refusal. -/
theorem selectParty_did {id : Nat} (h : selectParty id s = .ok s') :
    Did p s s' (.selectParty id) := by
  simp only [selectParty, bind_ok, expect_ok, ensure_ok] at h
  obtain ⟨c, hc, -, hphase, h⟩ := h
  split at h
  · cases h
    refine .moved hc (.stopped ?_ .hold) rfl rfl
    rfl
  next party hparty =>
    rw [hparty] at h
    split at h
    · cases h
      refine .moved hc (.stopped ?_ .hold) rfl rfl
      rfl
    next happroved =>
      cases h
      exact .moved hc (.approved hphase (Decidable.not_not.mp happroved))
        rfl rfl

/-- The newest check of the party decides: a match holds, a clear that is
young passes, and otherwise a screening is due. -/
theorem selectLatest_did {id : Nat} {found : Option ComplianceCheck}
    (h : selectLatest id found s = .ok s') :
    Did p s s' (.selectLatest id found) := by
  simp only [selectLatest, bind_ok, expect_ok] at h
  obtain ⟨c, hc, h⟩ := h
  split at h
  next party hphase =>
    simp only [bind_ok, ensure_ok] at h
    obtain ⟨-, hlatest, h⟩ := h
    split at h
    · cases h
      exact .moved hc (.due hphase hlatest (by simp)) rfl rfl
    next latest =>
      split at h
      · cases h
        refine .moved hc (.stopped ?_ .hold) rfl rfl
        rfl
      next hclear =>
        have hclear := clear_of_ne_matched hclear
        split at h
        next hrecent =>
          cases h
          exact .moved hc (.recent hphase hlatest hclear hrecent) rfl rfl
        · cases h
          refine .moved hc (.due hphase hlatest ?_) rfl rfl
          rintro r ⟨⟩
          exact hclear
  · cases h

/-- All checks of the party are read, for what was reviewed. -/
theorem selectChecks_did {id : Nat} {found : List ComplianceCheck}
    (h : selectChecks id found s = .ok s') :
    Did p s s' (.selectChecks id found) := by
  simp only [selectChecks, bind_ok, expect_ok] at h
  obtain ⟨c, hc, h⟩ := h
  split at h
  next party hphase =>
    simp only [bind_ok, ensure_ok] at h
    obtain ⟨-, hfound, h⟩ := h
    cases h
    exact .moved hc (.recalled hphase hfound) rfl rfl
  · cases h

/-- The party's accounts are read. -/
theorem selectAccounts_did {id : Nat}
    (h : selectAccounts id s = .ok s') :
    Did p s s' (.selectAccounts id) := by
  simp only [selectAccounts, bind_ok, expect_ok] at h
  obtain ⟨c, hc, h⟩ := h
  split at h
  next party reviewed hphase =>
    cases h
    exact .moved hc (.screening hphase) rfl rfl
  · cases h

/-- The list is fresh, is being loaded by somebody, or a load begins. -/
theorem ensureFresh_did {id : Nat} {now : Int} {load : Nat}
    (h : ensureFresh id now load s = .ok s') :
    Did p s s' (.ensureFresh id now load) := by
  simp only [ensureFresh, bind_ok, expect_ok] at h
  obtain ⟨c, hc, h⟩ := h
  split at h
  next reviewed subject hphase =>
    simp only [bind_ok, expect_ok] at h
    obtain ⟨screener, -, h⟩ := h
    split at h
    · cases h
      exact .moved hc (.fresh (Or.inl hphase)) rfl rfl
    · split at h
      · cases h
        exact .moved hc (.loading hphase) rfl rfl
      · simp only [bind_ok, ensure_ok] at h
        obtain ⟨-, -, h⟩ := h
        cases h
        exact .moved hc (.loading hphase) rfl rfl
  · cases h

/-- A load that was waited for has ended, well or not. -/
theorem awaitLoad_did {id : Nat} (h : awaitLoad id s = .ok s') :
    Did p s s' (.awaitLoad id) := by
  simp only [awaitLoad, bind_ok, expect_ok] at h
  obtain ⟨c, hc, h⟩ := h
  split at h
  next reviewed subject age load hphase =>
    simp only [bind_ok, expect_ok] at h
    obtain ⟨screener, -, h⟩ := h
    split at h
    · cases h
      exact .moved hc (.fresh (Or.inr ⟨age, load, hphase⟩)) rfl rfl
    · split at h
      · cases h
        exact .moved hc (.fresh (Or.inr ⟨age, load, hphase⟩)) rfl rfl
      · cases h
        exact .moved hc (.stopped rfl .hold) rfl rfl
    · cases h
  · cases h

/-- The party is screened against the list of its process. -/
theorem screen_did {id : Nat} (h : screen p id s = .ok s') :
    Did p s s' (.screen id) := by
  simp only [screen, bind_ok, expect_ok] at h
  obtain ⟨c, hc, h⟩ := h
  split at h
  next reviewed subject hphase =>
    simp only [bind_ok, expect_ok] at h
    obtain ⟨screener, -, h⟩ := h
    split at h
    · cases h
      exact .moved hc (.stopped rfl .threw) rfl rfl
    · cases h
      exact .moved hc (.screened hphase) rfl rfl
  · cases h

/-- The outcome is filed, and a clear passes the party. A lost
acknowledgement leaves the row on file and the call thrown. -/
theorem insertCheck_did {id : Nat} {delivery : Delivery}
    (h : insertCheck id delivery s = .ok s') :
    Did p s s' (.insertCheck id delivery) := by
  simp only [insertCheck, bind_ok, expect_ok] at h
  obtain ⟨c, hc, h⟩ := h
  split at h
  next reviewed result hphase =>
    split at h
    · cases h
      exact .moved hc (.stopped rfl .threw) rfl rfl
    · cases h
      exact .filed hc hphase rfl (.stopped .threw) rfl
    · split at h
      · cases h
        exact .filed hc hphase rfl (.stopped .held) rfl
      next hclear =>
        cases h
        exact .filed hc hphase rfl (.passed (clear_of_ne_matched hclear)) rfl
  · cases h

/-- The audit row of a hold is written. -/
theorem audit_did {id : Nat} {delivery : Delivery}
    (h : audit id delivery s = .ok s') :
    Did p s s' (.audit id delivery) := by
  simp only [audit, bind_ok, expect_ok] at h
  obtain ⟨c, hc, h⟩ := h
  split at h
  · cases delivery with
    | acknowledged =>
        cases h
        exact .moved hc (.stopped rfl .hold) rfl rfl
    | lost | rolledBack =>
        cases h
        exact .moved hc (.stopped rfl .threw) rfl rfl
  · cases h

/-- Any statement may fail, and then the call throws. -/
theorem fault_did {id : Nat} (h : fault id s = .ok s') :
    Did p s s' (.fault id) := by
  simp only [fault, bind_ok, expect_ok] at h
  obtain ⟨c, hc, h⟩ := h
  split at h
  · cases h
  · cases h
    exact .moved hc (.stopped rfl .threw) rfl rfl

/-- A load ends, and its process has the new list or keeps the old one. -/
theorem finishLoad_did {process : Nat}
    {got : Except String
      (List (List Text) × Option (List (List Text)) × Int)}
    (h : finishLoad p process got s = .ok s') :
    Did p s s' (.finishLoad process got) := by
  simp only [finishLoad, bind_ok, expect_ok] at h
  obtain ⟨screener, -, load, -, h⟩ := h
  split at h
  · cases h
    exact .around rfl rfl
  · split at h
    · cases h
      exact .around rfl rfl
    · cases h
      exact .around rfl rfl

/-- Every step, as one of these. -/
theorem step_did (h : step p a s = .ok s') : Did p s s' a := by
  cases a with
  | setParty partyId row =>
      cases h
      exact .around rfl rfl
  | setAccounts partyId accounts =>
      cases h
      exact .around rfl rfl
  | kyb partyId status audited =>
      simp only [step, kyb, bind_ok, expect_ok, pure_ok] at h
      obtain ⟨row, -, rfl⟩ := h
      exact .around rfl rfl
  | clear partyId reviewer note checkedAt audited =>
      simp only [step, clear, bind_ok, expect_ok, ensure_ok, pure_ok] at h
      obtain ⟨row, -, -, -, rfl⟩ := h
      exact .reviewed rfl rfl
  | startProcess process =>
      simp only [step, startProcess, bind_ok, ensure_ok, pure_ok] at h
      obtain ⟨-, -, rfl⟩ := h
      exact .around rfl rfl
  | finishLoad process got => exact finishLoad_did h
  | begin id process partyId now =>
      simp only [step, begin, bind_ok, expect_ok, ensure_ok, pure_ok] at h
      obtain ⟨-, hnone, -, -, rfl⟩ := h
      exact .begun hnone rfl rfl
  | fault id => exact fault_did h
  | selectParty id => exact selectParty_did h
  | selectLatest id found => exact selectLatest_did h
  | selectChecks id found => exact selectChecks_did h
  | selectAccounts id => exact selectAccounts_did h
  | ensureFresh id now load => exact ensureFresh_did h
  | awaitLoad id => exact awaitLoad_did h
  | screen id => exact screen_did h
  | insertCheck id delivery => exact insertCheck_did h
  | audit id delivery => exact audit_did h

-- ============================================================= the tables

/-- A call keeps its party, its time and what it saw at the start. -/
theorem Moves.same {c c' : Caller} (h : Moves p s c c') :
    c'.seen.begun = c.seen.begun ∧ c'.partyId = c.partyId
      ∧ c'.now = c.now := by
  cases h with
  | stopped hbegun => exact ⟨hbegun, rfl, rfl⟩
  | approved | due | recent | recalled | screening | loading | fresh
  | screened => exact ⟨rfl, rfl, rfl⟩

/-- So it does when it files. -/
theorem Filing.same {rows : List ComplianceCheck} {row : ComplianceCheck}
    {c c' : Caller} (h : Filing rows row c c') :
    c'.seen.begun = c.seen.begun ∧ c'.partyId = c.partyId
      ∧ c'.now = c.now := by
  cases h with
  | stopped | passed => exact ⟨rfl, rfl, rfl⟩

/-- Rows are only added. -/
theorem Did.grows (h : Did p s s' a) :
    s.complianceCheck <+: s'.complianceCheck := by
  cases h with
  | around hrows _ | begun _ hrows _ | moved _ _ hrows _ =>
      rw [hrows]
  | reviewed hrows _ | filed _ _ hrows _ _ =>
      rw [hrows]
      exact List.prefix_append _ _

/-- Where a call that stands after a step comes from. -/
inductive Became (p : Platform) (s s' : Gate) (id : Nat) : Caller → Prop
  | same {c : Caller} : s.callers.get id = some c → Became p s s' id c
  | begun {process : Nat} {partyId : Text} {now : Int} :
      Became p s s' id ⟨process, partyId, now, .started,
        ⟨s.complianceCheck, none, [], none, [], [], none, []⟩⟩
  | moved {c c' : Caller} : s.callers.get id = some c → Moves p s c c' →
      s'.complianceCheck = s.complianceCheck → Became p s s' id c'
  | filed {c c' : Caller} {reviewed : List Text} {result : ScreenResult} :
      s.callers.get id = some c → c.phase = .screened reviewed result →
      s'.complianceCheck = s.complianceCheck
        ++ [screeningRow c.partyId c.now reviewed result] →
      Filing s'.complianceCheck
        (screeningRow c.partyId c.now reviewed result) c c' →
      Became p s s' id c'

/-- Read backwards: a call that stands somewhere after a step stood there
before, or the step is what brought it there. -/
theorem Did.became (h : Did p s s' a) {id : Nat} {c' : Caller}
    (hc' : s'.callers.get id = some c') : Became p s s' id c' := by
  cases h with
  | around _ hcallers | reviewed _ hcallers =>
      rw [hcallers] at hc'
      exact .same hc'
  | begun _ _ hcallers =>
      rw [hcallers, Store.get_set] at hc'
      split at hc'
      · cases hc'
        exact .begun
      · exact .same hc'
  | moved hc hmoves hrows hcallers =>
      rw [hcallers, Store.get_set] at hc'
      split at hc'
      next hid =>
        cases hc'
        exact .moved (hid ▸ hc) hmoves hrows
      · exact .same hc'
  | filed hc hphase hrows hfiling hcallers =>
      rw [hcallers, Store.get_set] at hc'
      split at hc'
      next hid =>
        cases hc'
        exact .filed (hid ▸ hc) hphase hrows hfiling
      · exact .same hc'

end Ballast.Compliance
