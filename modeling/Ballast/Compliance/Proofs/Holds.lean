/-
Who may pass the gate.

What a call needs before it lets its party pass (`Grounds`) it gathers by
itself, so this half holds however calls overlap: `Knows` says what each
await adds. That a match row holds the party until a review
(`HeldUntilReview`) is about all the rows together: while a match awaits
its review, some match is newer than every clear (`MatchesOnTop`). A call
stamps its row with the time it began, so overlapping calls can break
this, by a match filed under a clear or by a clear filed over a match
(`match_under_clear`). `FilesInOrder` says that neither happens, and no
more than that: calls may overlap and file late as long as a match that
awaits its review stays the newest row.

# Overview

  - `Covers`, `Reviewed`: the review of a listing, in terms of the rows on
    file. `reviewed_of_mem` finds it behind the nested scan of the gate.
  - `Grounds`, `Knows`: what one call has seen by the time it passes its
    party, carried from await to await by `Knows.moved`.
  - `awaitsReview`, `MatchesOnTop`, `InOrder`: what the rows of a party keep
    through every run that files in order, by `InOrder.step`.
  - `checkParty_sound`: both halves, over every run of the gate.
-/
import Ballast.Compliance.Proofs.Steps

namespace Ballast.Compliance

open Soroban

variable {p : Platform} {s s' : Gate} {a : Act}

-- ============================================================ the history

/-- A review and the match row it is about: the nearest before it. -/
structure Covers (rows : List ComplianceCheck)
    (review prior : ComplianceCheck) : Prop where
  review_mem : review ∈ rows
  reviewed : review.manualReview = true
  prior_mem : prior ∈ rows
  matched : prior.result = .matched
  later : prior.checkedAt ≤ review.checkedAt
  nearest : ∀ r ∈ rows, r.result = .matched →
    ¬ (prior.checkedAt < r.checkedAt ∧ r.checkedAt < review.checkedAt)

/-- A match row that a later review covers has a hit with this id. -/
def Reviewed (rows : List ComplianceCheck) (entNum : Text) : Prop :=
  ∃ review prior, Covers rows review prior
    ∧ ∃ m ∈ prior.hits, m.entNum = entNum

/-- A listing is among the prior hits exactly through the newest match on
file: the rows above it are no matches. -/
theorem mem_priorHits {rows : List ComplianceCheck} {m : SanctionsMatch}
    (h : m ∈ priorHits rows) : ∃ newer prior older,
      rows = newer ++ prior :: older ∧ prior.result = .matched
        ∧ m ∈ prior.hits ∧ ∀ r ∈ newer, r.result ≠ .matched := by
  induction rows with
  | nil => cases h
  | cons c rest ih =>
      by_cases hc : c.result = .matched
      · rw [priorHits, if_pos hc] at h
        exact ⟨[], c, rest, rfl, hc, h, nofun⟩
      · rw [priorHits, if_neg hc] at h
        obtain ⟨newer, prior, older, hrest, hprior, hm, hnewer⟩ := ih h
        refine ⟨c :: newer, prior, older, by rw [hrest]; rfl, hprior, hm, ?_⟩
        intro r hr
        rcases List.mem_cons.mp hr with rfl | hr
        · exact hc
        · exact hnewer r hr

/-- A review in these rows, newest first, and the next match row. -/
def Scanned (rows : List ComplianceCheck) (entNum : Text) : Prop :=
  ∃ newer review between prior older,
    rows = newer ++ review :: (between ++ prior :: older)
      ∧ review.manualReview = true ∧ prior.result = .matched
      ∧ (∃ m ∈ prior.hits, m.entNum = entNum)
      ∧ ∀ r ∈ between, r.result ≠ .matched

/-- A row on top hides no review below it. -/
theorem Scanned.cons {rows : List ComplianceCheck} {entNum : Text}
    (c : ComplianceCheck) (h : Scanned rows entNum) :
    Scanned (c :: rows) entNum := by
  obtain ⟨newer, review, between, prior, older, rfl, hfacts⟩ := h
  exact ⟨c :: newer, review, between, prior, older, rfl, hfacts⟩

/-- What the gate counts as reviewed, some review on file has behind it. -/
theorem scanned_of_mem {rows : List ComplianceCheck} {entNum : Text}
    (h : entNum ∈ reviewedEntNums rows) : Scanned rows entNum := by
  induction rows with
  | nil => cases h
  | cons c rest ih =>
      by_cases hc : c.manualReview = true
      · rw [reviewedEntNums, if_pos hc] at h
        rcases List.mem_append.mp h with h | h
        · obtain ⟨m, hm, hent⟩ := List.mem_map.mp h
          obtain ⟨between, prior, older, rfl, hprior, hm, hbetween⟩ :=
            mem_priorHits hm
          exact ⟨[], c, between, prior, older, rfl, hc, hprior,
            ⟨m, hm, hent⟩, hbetween⟩
        · exact (ih h).cons c
      · rw [reviewedEntNums, if_neg hc] at h
        exact (ih h).cons c

/-- A review is not itself a match. -/
theorem not_matched_of_review {c : ComplianceCheck}
    (h : c.manualReview = true) : c.result ≠ .matched := by
  intro hc
  simp [ComplianceCheck.manualReview, hc] at h

/-- What the nested scan calls reviewed is. -/
theorem reviewed_of_mem {rows found : List ComplianceCheck} {entNum : Text}
    (hfound : NewestFirst rows found)
    (h : entNum ∈ reviewedEntNums found) : Reviewed rows entNum := by
  obtain ⟨newer, review, between, prior, older, rfl, hreview, hprior, hm,
    hbetween⟩ := scanned_of_mem h
  obtain ⟨hperm, hsorted⟩ := hfound
  obtain ⟨-, hafter, hnewer⟩ := List.pairwise_append.mp hsorted
  obtain ⟨hreviewed, hafter⟩ := List.pairwise_cons.mp hafter
  obtain ⟨-, hpriors, -⟩ := List.pairwise_append.mp hafter
  have hprior_mem : prior ∈ between ++ prior :: older := by simp
  refine ⟨review, prior, ⟨hperm.mem_iff.mp (by simp), hreview,
    hperm.mem_iff.mp (by simp), hprior, hreviewed prior hprior_mem, ?_⟩, hm⟩
  intro r hr hmatched ⟨hlow, hhigh⟩
  -- A match row is the prior one, under it, or over the review.
  rcases List.mem_append.mp (hperm.mem_iff.mpr hr) with hr | hr
  · have := hnewer r hr review (by simp)
    omega
  rcases List.mem_cons.mp hr with rfl | hr
  · exact not_matched_of_review hreview hmatched
  rcases List.mem_append.mp hr with hr | hr
  · exact hbetween r hr hmatched
  rcases List.mem_cons.mp hr with rfl | hr
  · omega
  · have hold := (List.pairwise_cons.mp hpriors).1 r hr
    omega

-- =========================================================== the passing

/-- The party's KYB was approved when the call asked. -/
def Approved (c : Caller) (party : Party) : Prop :=
  c.seen.party = some party ∧ party.kybStatus = .approved

/-- The row the call was given is a newest one, and no match. -/
def LatestClear (c : Caller) : Prop :=
  Latest (checksOf c.partyId c.seen.looked) c.seen.latest
    ∧ ∀ r ∈ c.seen.latest, r.result = .clear

/-- Why a call let its party pass. -/
structure Grounds (p : Platform) (c : Caller) : Prop where
  latest : LatestClear c
  approved : ∃ party, Approved c party
    ∧ ((∃ r ∈ c.seen.latest, c.now - r.checkedAt < screeningTtlMs)
      ∨ ∃ list,
        c.seen.screened = some (list, ⟨party.legalName, c.seen.accounts⟩)
        ∧ ∀ m ∈ list.screen p ⟨party.legalName, c.seen.accounts⟩,
          Reviewed (checksOf c.partyId c.seen.recalled) m.entNum)

/-- What the scan found is in the rows the call read. -/
def Recalled (c : Caller) (reviewed : List Text) : Prop :=
  ∀ entNum ∈ reviewed,
    Reviewed (checksOf c.partyId c.seen.recalled) entNum

/-- What a call knows where it stands. -/
def Knows (p : Platform) (c : Caller) : Prop :=
  match c.phase with
  | .started | .held _ | .returned (some _) | .threw => True
  | .approved party => Approved c party
  | .due party => Approved c party ∧ LatestClear c
  | .recalled party reviewed =>
      Approved c party ∧ LatestClear c ∧ Recalled c reviewed
  | .screening reviewed subject | .loading reviewed subject _ _
  | .fresh reviewed subject =>
      (∃ party, Approved c party
        ∧ subject = ⟨party.legalName, c.seen.accounts⟩)
      ∧ LatestClear c ∧ Recalled c reviewed
  | .screened reviewed result =>
      (∃ party, Approved c party ∧ ∃ list,
        c.seen.screened = some (list, ⟨party.legalName, c.seen.accounts⟩)
        ∧ result.hits = list.screen p ⟨party.legalName, c.seen.accounts⟩)
      ∧ LatestClear c ∧ Recalled c reviewed
  | .returned none => Grounds p c

/-- A call that has stopped without passing claims nothing. -/
theorem Knows.stopped {c : Caller} (h : c.phase.Stopped) : Knows p c := by
  unfold Knows
  generalize c.phase = phase at h ⊢
  cases h with
  | held | hold | threw => trivial

/-- Await by await, a call has seen what its next phase claims. -/
theorem Knows.moved {c c' : Caller} (h : Moves p s c c')
    (hc : Knows p c) : Knows p c' := by
  cases h with
  | stopped _ hstopped => exact .stopped hstopped
  | approved hphase happroved => exact ⟨rfl, happroved⟩
  | due hphase hlatest hclear =>
      simp only [Knows, hphase] at hc
      exact ⟨hc, hlatest, hclear⟩
  | @recent party latest hphase hlatest hclear hrecent =>
      simp only [Knows, hphase] at hc
      refine ⟨⟨hlatest, ?_⟩, party, hc, Or.inl ⟨latest, rfl, hrecent⟩⟩
      rintro r ⟨⟩
      exact hclear
  | recalled hphase hfound =>
      simp only [Knows, hphase] at hc
      exact ⟨hc.1, hc.2, fun entNum => reviewed_of_mem hfound⟩
  | @screening party reviewed accounts hphase =>
      simp only [Knows, hphase] at hc
      exact ⟨⟨party, hc.1, rfl⟩, hc.2⟩
  | loading hphase =>
      simp only [Knows, hphase] at hc
      exact hc
  | fresh hphase =>
      rcases hphase with hphase | ⟨age, load, hphase⟩ <;>
        · simp only [Knows, hphase] at hc
          exact hc
  | @screened reviewed subject list listSource listLoadedAt hphase =>
      simp only [Knows, hphase] at hc
      obtain ⟨⟨party, happroved, rfl⟩, hknown⟩ := hc
      exact ⟨⟨party, happroved, list, rfl, rfl⟩, hknown⟩

/-- A screening files a match exactly when it leaves hits nobody has
reviewed. -/
theorem screeningRow_result (partyId : Text) (now : Int)
    (reviewed : List Text) (result : ScreenResult) :
    (screeningRow partyId now reviewed result).result
      = if unreviewedMatches reviewed result.hits ≠ [] then .matched
        else .clear := by
  simp only [screeningRow]

/-- So a clear means that every hit was reviewed. -/
theorem screeningRow_clear {partyId : Text} {now : Int}
    {reviewed : List Text} {result : ScreenResult}
    (h : (screeningRow partyId now reviewed result).result = .clear) :
    ∀ m ∈ result.hits, m.entNum ∈ reviewed := by
  intro m hm
  by_contra hnot
  have hmem : m ∈ unreviewedMatches reviewed result.hits :=
    List.mem_filter.mpr ⟨hm, by simpa using hnot⟩
  rw [screeningRow_result, if_pos (List.ne_nil_of_mem hmem)] at h
  cases h

/-- The call whose screening is filed clear has its grounds: each hit of
the list was reviewed, or there was none. -/
theorem Knows.filed {c c' : Caller} {rows : List ComplianceCheck}
    {reviewed : List Text} {result : ScreenResult}
    (hphase : c.phase = .screened reviewed result)
    (h : Filing rows (screeningRow c.partyId c.now reviewed result) c c')
    (hc : Knows p c) : Knows p c' := by
  cases h with
  | stopped hstopped => exact .stopped hstopped
  | passed hclear =>
      simp only [Knows, hphase] at hc
      obtain ⟨⟨party, happroved, list, hscreened, hhits⟩, hlatest,
        hrecalled⟩ := hc
      refine ⟨hlatest, party, happroved, Or.inr ⟨list, hscreened, ?_⟩⟩
      intro m hm
      rw [← hhits] at hm
      exact hrecalled _ (screeningRow_clear hclear m hm)

def Informed (p : Platform) (s : Gate) : Prop :=
  ∀ id c, s.callers.get id = some c → Knows p c

/-- Over any run, however calls overlap, each call knows what its phase
claims. -/
theorem knows_run (as : List Act) {id : Nat} {c : Caller}
    (hc : ((machine p).run (machine p).init as).callers.get id = some c) :
    Knows p c := by
  suffices h : Informed p ((machine p).run (machine p).init as) from
    h id c hc
  refine Machine.run_induction ?_ (P := Informed p) (fun _ _ h => nomatch h)
    (Machine.allowed_true _ _)
  intro s a s' hs _ h id c' hc'
  cases (step_did h).became hc' with
  | same hc => exact hs id _ hc
  | begun => trivial
  | moved hc hmoves => exact (hs id _ hc).moved hmoves
  | filed hc hphase _ hfiling => exact (hs id _ hc).filed hphase hfiling

-- ============================================================== the holds

/-- A match row no review came after. -/
def awaitsReview : List ComplianceCheck → Bool
  | [] => false
  | r :: later =>
      (r.result = .matched ∧ ¬ later.any ComplianceCheck.manualReview)
        ∨ awaitsReview later

/-- Later rows decide; the earlier ones await a review still if no later
row is one. -/
theorem awaitsReview_append (before after : List ComplianceCheck) :
    awaitsReview (before ++ after) = true
      ↔ (awaitsReview before = true
          ∧ after.any ComplianceCheck.manualReview = false)
        ∨ awaitsReview after = true := by
  induction before with
  | nil => simp [awaitsReview]
  | cons r before ih =>
      simp only [List.cons_append, awaitsReview, List.any_append,
        decide_eq_true_eq, ih]
      grind

/-- Some match on file is stamped later than this, so that a row with this
stamp is not the latest. -/
def UnderMatch (rows : List ComplianceCheck) (checkedAt : Int) : Prop :=
  ∃ m ∈ rows, m.result = .matched ∧ checkedAt < m.checkedAt

instance (rows : List ComplianceCheck) (checkedAt : Int) :
    Decidable (UnderMatch rows checkedAt) := by
  unfold UnderMatch
  infer_instance

/-- While a match awaits its review, every clear is under a match. -/
def MatchesOnTop (rows : List ComplianceCheck) : Prop :=
  awaitsReview rows = true → ∀ r ∈ rows, r.result = .clear →
    UnderMatch rows r.checkedAt

/-- With matches on top, a latest row that is clear shows that nothing
awaits a review. -/
theorem MatchesOnTop.settled {rows : List ComplianceCheck}
    {found : Option ComplianceCheck} (htop : MatchesOnTop rows)
    (hlatest : Latest rows found) (hclear : ∀ r ∈ found, r.result = .clear) :
    awaitsReview rows = false := by
  cases found with
  | none =>
      have hnil : rows = [] := hlatest
      rw [hnil]
      rfl
  | some r =>
      obtain ⟨hr, hnewest⟩ := hlatest
      by_contra hawaits
      obtain ⟨m, hm, -, hlt⟩ :=
        htop (Bool.not_eq_false _ ▸ hawaits) r hr (hclear r rfl)
      have := hnewest m hm
      omega

/-- If a match awaited its review when the call began, there has been a
review since. -/
def ReviewedSince (c : Caller) (rows : List ComplianceCheck) : Prop :=
  awaitsReview (checksOf c.partyId c.seen.begun) = true →
    ∃ since, rows = c.seen.begun ++ since
      ∧ (checksOf c.partyId since).any ComplianceCheck.manualReview = true

/-- The call did not pass while a match row held its party. -/
def HeldUntilReview (c : Caller) : Prop := ReviewedSince c c.seen.passed

/-- The rows of a party, in two parts. -/
theorem checksOf_append (partyId : Text) (before after :
    List ComplianceCheck) : checksOf partyId (before ++ after)
      = checksOf partyId before ++ checksOf partyId after :=
  List.filter_append ..

/-- A party with nothing awaiting review has had every match reviewed that
was on file when the call began. -/
theorem ReviewedSince.of_settled {c : Caller} {rows : List ComplianceCheck}
    (hbegun : c.seen.begun <+: rows)
    (hsettled : awaitsReview (checksOf c.partyId rows) = false) :
    ReviewedSince c rows := by
  obtain ⟨since, rfl⟩ := hbegun
  intro hawaits
  refine ⟨since, rfl, ?_⟩
  by_contra hnone
  rw [checksOf_append] at hsettled
  have hstill := (awaitsReview_append _ _).mpr
    (Or.inl ⟨hawaits, Bool.not_eq_true _ ▸ hnone⟩)
  rw [hsettled] at hstill
  cases hstill

/-- A review stays on file. -/
theorem ReviewedSince.grows {c : Caller} {rows rows' : List ComplianceCheck}
    (hrows : rows <+: rows') (h : ReviewedSince c rows) :
    ReviewedSince c rows' := by
  intro hawaits
  obtain ⟨since, rfl, hreview⟩ := h hawaits
  obtain ⟨more, rfl⟩ := hrows
  refine ⟨since ++ more, List.append_assoc .., ?_⟩
  rw [checksOf_append, List.any_append, hreview]
  rfl

/-- The row a call is about to file is in order: a match when every clear
of its party is stamped before it or before a match on file, a clear when
no match of its party awaits a review or one on file is stamped later. So a
call may file late: only what it files may not hide a match. -/
def Caller.FilesInOrder (c : Caller) (rows : List ComplianceCheck) : Prop :=
  match c.phase with
  | .screened reviewed result =>
      if unreviewedMatches reviewed result.hits ≠ [] then
        ∀ r ∈ checksOf c.partyId rows, r.result = .clear →
          r.checkedAt < c.now
            ∨ UnderMatch (checksOf c.partyId rows) r.checkedAt
      else
        awaitsReview (checksOf c.partyId rows) = false
          ∨ UnderMatch (checksOf c.partyId rows) c.now
  | _ => True

instance (c : Caller) (rows : List ComplianceCheck) :
    Decidable (c.FilesInOrder rows) := by
  unfold Caller.FilesInOrder
  split <;> infer_instance

/-- Rows are filed in order. -/
def FilesInOrder (a : Act) (s : Gate) : Prop :=
  match a with
  | .insertCheck id _ =>
      ∀ c ∈ s.callers.get id, c.FilesInOrder s.complianceCheck
  | _ => True

instance (a : Act) (s : Gate) : Decidable (FilesInOrder a s) := by
  unfold FilesInOrder
  split <;> infer_instance

/-- What the reviewer files is a review. -/
theorem reviewRow_review (partyId reviewer : Text) (note : List Text)
    (checkedAt : Int) :
    (reviewRow partyId reviewer note checkedAt).manualReview = true := by
  simp [ComplianceCheck.manualReview, reviewRow]

/-- A review settles every match before it. -/
theorem awaitsReview_review {rows : List ComplianceCheck}
    {row : ComplianceCheck} (hrow : row.manualReview = true) :
    awaitsReview (rows ++ [row]) = false := by
  have hresult := not_matched_of_review hrow
  rw [← Bool.not_eq_true, awaitsReview_append]
  simp [awaitsReview, hrow, hresult]

/-- Another clear leaves it as it was. -/
theorem awaitsReview_clear {rows : List ComplianceCheck}
    {row : ComplianceCheck} (hrow : row.result = .clear)
    (hrows : awaitsReview rows = false) :
    awaitsReview (rows ++ [row]) = false := by
  rw [← Bool.not_eq_true, awaitsReview_append]
  simp [awaitsReview, hrow, hrows]

/-- One more row is one more of its own party's. -/
theorem checksOf_snoc (partyId : Text) (rows : List ComplianceCheck)
    (row : ComplianceCheck) : checksOf partyId (rows ++ [row])
      = checksOf partyId rows ++ if row.partyId = partyId then [row] else []
      := by
  rw [checksOf_append]
  by_cases h : row.partyId = partyId
  · simp [checksOf, h]
  · simp [checksOf, h]

/-- With nothing awaiting review there is no match to be on top. -/
theorem MatchesOnTop.of_settled {rows : List ComplianceCheck}
    (h : awaitsReview rows = false) : MatchesOnTop rows := by
  intro hawaits
  rw [h] at hawaits
  cases hawaits

/-- A match that is stamped later stays on file. -/
theorem UnderMatch.snoc {rows : List ComplianceCheck} {checkedAt : Int}
    (h : UnderMatch rows checkedAt) (row : ComplianceCheck) :
    UnderMatch (rows ++ [row]) checkedAt := by
  obtain ⟨m, hm, hmatched, hlt⟩ := h
  exact ⟨m, List.mem_append_left _ hm, hmatched, hlt⟩

/-- A match filed keeps a match on top when no clear stands over both it
and the matches already there. -/
theorem MatchesOnTop.matched {rows : List ComplianceCheck}
    {row : ComplianceCheck} (hrow : row.result = .matched)
    (hover : ∀ r ∈ rows, r.result = .clear →
      r.checkedAt < row.checkedAt ∨ UnderMatch rows r.checkedAt) :
    MatchesOnTop (rows ++ [row]) := by
  intro _ r hr hclear
  rcases List.mem_append.mp hr with hr | hr
  · rcases hover r hr hclear with hlt | hunder
    · exact ⟨row, by simp, hrow, hlt⟩
    · exact hunder.snoc row
  · rw [List.mem_singleton.mp hr, hrow] at hclear
    cases hclear

/-- A clear filed under a match on file leaves that match on top of it. -/
theorem MatchesOnTop.under {rows : List ComplianceCheck}
    {row : ComplianceCheck} (htop : MatchesOnTop rows)
    (hrow : row.result = .clear) (hunder : UnderMatch rows row.checkedAt) :
    MatchesOnTop (rows ++ [row]) := by
  intro hawaits r hr hclear
  -- What awaits its review did so before: the clear is no match itself.
  have hbefore : awaitsReview rows = true := by
    rcases (awaitsReview_append rows [row]).mp hawaits with h | h
    · exact h.1
    · simp [awaitsReview, hrow] at h
  rcases List.mem_append.mp hr with hr | hr
  · exact (htop hbefore r hr hclear).snoc row
  · rw [List.mem_singleton.mp hr]
    exact hunder.snoc row

/-- The latest row did not settle the call. -/
def Phase.looked : Phase → Bool
  | .due _ | .recalled _ _ | .screening _ _ | .loading _ _ _ _ | .fresh _ _
  | .screened _ _ => true
  | _ => false

/-- What holds in every state of a run that files in order. -/
structure InOrder (s : Gate) : Prop where
  top : ∀ partyId, MatchesOnTop (checksOf partyId s.complianceCheck)
  begun : ∀ id c, s.callers.get id = some c →
    c.seen.begun <+: s.complianceCheck
  since : ∀ id c, s.callers.get id = some c → c.phase.looked = true →
    ReviewedSince c s.complianceCheck
  passed : ∀ id c, s.callers.get id = some c → c.phase = .returned none →
    HeldUntilReview c

/-- A screening filed in order keeps matches on top: a match is stamped
later than every clear, or a clear goes under a match that is still
newer. -/
theorem InOrder.top_filed (hs : InOrder s) {c : Caller}
    {reviewed : List Text} {result : ScreenResult}
    (hphase : c.phase = .screened reviewed result)
    (hok : c.FilesInOrder s.complianceCheck) (partyId : Text) :
    MatchesOnTop (checksOf partyId (s.complianceCheck
      ++ [screeningRow c.partyId c.now reviewed result])) := by
  rw [checksOf_snoc]
  split
  next hparty =>
    have hparty : c.partyId = partyId := hparty
    subst hparty
    simp only [Caller.FilesInOrder, hphase] at hok
    split at hok
    next hhit =>
      refine .matched ?_ hok
      rw [screeningRow_result, if_pos hhit]
    next hhit =>
      have hclear : (screeningRow c.partyId c.now reviewed result).result
          = .clear := by
        rw [screeningRow_result, if_neg hhit]
      rcases hok with hsettled | hunder
      · exact .of_settled (awaitsReview_clear hclear hsettled)
      · exact (hs.top c.partyId).under hclear hunder
  · rw [List.append_nil]
    exact hs.top partyId

/-- No action that files in order buries a match. -/
theorem InOrder.top_step (h : Did p s s' a) (hok : FilesInOrder a s)
    (hs : InOrder s) (partyId : Text) :
    MatchesOnTop (checksOf partyId s'.complianceCheck) := by
  cases h with
  | around hrows _ | begun _ hrows _ | moved _ _ hrows _ =>
      rw [hrows]
      exact hs.top partyId
  | reviewed hrows _ =>
      rw [hrows, checksOf_snoc]
      split
      · exact .of_settled (awaitsReview_review (reviewRow_review ..))
      · rw [List.append_nil]
        exact hs.top partyId
  | filed hc hphase hrows _ _ =>
      rw [hrows]
      exact hs.top_filed hphase (hok _ hc) partyId

/-- A stopped call has not looked. -/
theorem Phase.Stopped.looked {phase : Phase} (h : phase.Stopped) :
    phase.looked = false := by
  cases h with
  | held | hold | threw => rfl

/-- And it has not passed its party. -/
theorem Phase.Stopped.passed {phase : Phase} (h : phase.Stopped) :
    phase ≠ .returned none := by
  cases h with
  | held | hold | threw => exact nofun

/-- The latest row on file is no match. -/
def LooksClear (c : Caller) (rows : List ComplianceCheck) : Prop :=
  ∃ found, Latest (checksOf c.partyId rows) found
    ∧ ∀ r ∈ found, r.result = .clear

/-- Only the look at the latest row lets a call go on. -/
theorem Moves.looked {c c' : Caller} (h : Moves p s c c')
    (hlooked : c'.phase.looked = true) :
    c.phase.looked = true ∨ LooksClear c s.complianceCheck := by
  cases h with
  | stopped _ hstopped =>
      rw [hstopped.looked] at hlooked
      cases hlooked
  | approved => cases hlooked
  | recent => cases hlooked
  | due hphase hlatest hclear => exact Or.inr ⟨_, hlatest, hclear⟩
  | recalled hphase | screening hphase | loading hphase | screened hphase =>
      exact Or.inl (by rw [hphase]; rfl)
  | fresh hphase =>
      rcases hphase with hphase | ⟨age, load, hphase⟩ <;>
        exact Or.inl (by rw [hphase]; rfl)

/-- A call passes its party on a clear latest row, and notes the rows it
saw then. -/
theorem Moves.passed {c c' : Caller} (h : Moves p s c c')
    (hpassed : c'.phase = .returned none) :
    LooksClear c s.complianceCheck
      ∧ c'.seen.passed = s.complianceCheck := by
  cases h with
  | stopped _ hstopped => exact absurd hpassed hstopped.passed
  | recent hphase hlatest hclear =>
      refine ⟨⟨_, hlatest, ?_⟩, rfl⟩
      rintro r ⟨⟩
      exact hclear
  | approved | due | recalled | screening | loading | fresh | screened =>
      cases hpassed

/-- The promise depends on the party and on the rows at the start of the
call. -/
theorem ReviewedSince.congr {c c' : Caller} {rows : List ComplianceCheck}
    (hparty : c'.partyId = c.partyId)
    (hbegun : c'.seen.begun = c.seen.begun) (h : ReviewedSince c rows) :
    ReviewedSince c' rows := by
  unfold ReviewedSince at h ⊢
  rw [hparty, hbegun]
  exact h

/-- A call that finds a clear latest row finds the party's matches
reviewed. -/
theorem InOrder.settled (hs : InOrder s) {id : Nat} {c : Caller}
    (hc : s.callers.get id = some c)
    (hclear : LooksClear c s.complianceCheck) :
    ReviewedSince c s.complianceCheck := by
  obtain ⟨found, hlatest, hclear⟩ := hclear
  exact .of_settled (hs.begun id c hc)
    ((hs.top c.partyId).settled hlatest hclear)

/-- One action that files in order keeps both: matches on top, and every
pass justified. -/
theorem InOrder.step (h : Did p s s' a) (hok : FilesInOrder a s)
    (hs : InOrder s) : InOrder s' where
  top := hs.top_step h hok
  begun := by
    intro id c' hc'
    cases h.became hc' with
    | same hc => exact (hs.begun id _ hc).trans h.grows
    | begun => exact h.grows
    | moved hc hmoves =>
        rw [hmoves.same.1]
        exact (hs.begun id _ hc).trans h.grows
    | filed hc _ _ hfiling =>
        rw [hfiling.same.1]
        exact (hs.begun id _ hc).trans h.grows
  since := by
    intro id c' hc' hlooked
    cases h.became hc' with
    | same hc => exact (hs.since id _ hc hlooked).grows h.grows
    | begun => cases hlooked
    | @moved c _ hc hmoves hrows =>
        rw [hrows]
        have hsince : ReviewedSince c s.complianceCheck := by
          rcases hmoves.looked hlooked with hbefore | hclear
          · exact hs.since id c hc hbefore
          · exact hs.settled hc hclear
        exact hsince.congr hmoves.same.2.1 hmoves.same.1
    | filed _ _ _ hfiling =>
        cases hfiling with
        | stopped hstopped =>
            rw [hstopped.looked] at hlooked
            cases hlooked
        | passed => cases hlooked
  passed := by
    intro id c' hc' hpassed
    cases h.became hc' with
    | same hc => exact hs.passed id _ hc hpassed
    | begun => cases hpassed
    | @moved c _ hc hmoves =>
        obtain ⟨hclear, hrows⟩ := hmoves.passed hpassed
        rw [HeldUntilReview, hrows]
        exact (hs.settled hc hclear).congr hmoves.same.2.1 hmoves.same.1
    | @filed c _ _ _ hc hphase _ hfiling =>
        cases hfiling with
        | stopped hstopped => exact absurd hpassed hstopped.passed
        | passed =>
            have hsince := hs.since id c hc (by rw [hphase]; rfl)
            exact (hsince.grows h.grows).congr rfl rfl

/-- Over every run that files in order. -/
theorem inOrder_run (as : List Act)
    (has : (machine p).Allowed FilesInOrder (machine p).init as) :
    InOrder ((machine p).run (machine p).init as) := by
  refine Machine.run_induction ?_ (P := InOrder) ?_ has
  · intro s a s' hs hok h
    exact hs.step (step_did h) hok
  · have none_called : ∀ {P : Caller → Prop} (id : Nat) (c : Caller),
        (machine p).init.callers.get id = some c → P c :=
      fun _ _ h => nomatch h
    exact ⟨fun _ => .of_settled rfl, none_called, none_called, none_called⟩

-- ============================================================== soundness

/-- The gate is sound. Whatever overlaps, a call lets its party pass only
on `Grounds`; and where rows are filed in order, it does not while a match
row holds the party. -/
theorem checkParty_sound (p : Platform) (as : List Act) (id : Nat)
    (c : Caller)
    (hc : ((machine p).run (machine p).init as).callers.get id = some c)
    (hpassed : c.phase = .returned none) :
    Grounds p c
      ∧ ((machine p).Allowed FilesInOrder (machine p).init as →
        HeldUntilReview c) := by
  constructor
  · have hknows := knows_run as hc
    simp only [Knows, hpassed] at hknows
    exact hknows
  · intro has
    exact (inOrder_run as has).passed id c hc hpassed

-- ============================================================= two parties

def acme : Text := "ACME TRADING".toList

/-- A list of 1000 rows that names the party. -/
def acmeListed : List (List Text) :=
  ["9".toList, acme] :: List.replicate 999 ["0".toList]

/-- One that does not. -/
def acmeUnlisted : List (List Text) := List.replicate 1000 ["0".toList]

/-- An alias of the listing, of the same key. -/
def acmeAlias : List (List Text) :=
  [["9".toList, "1".toList, "aka".toList, "TRADING ACME".toList]]

def acmeRow (result : CheckResult) (hits : List SanctionsMatch)
    (checkedAt : Int) : ComplianceCheck :=
  ⟨['p'], result, hits, "OFAC SDN".toList, some 0, checkedAt⟩

def acmeMatch : ComplianceCheck :=
  acmeRow .matched [⟨.name, acme, "9".toList⟩] 0

def acmeReview : ComplianceCheck :=
  reviewRow ['p'] "alice".toList ["different".toList] 1

/-- The call `id`, from its party to its insert, through a load. -/
def screens (id process : Nat) (latest : Option ComplianceCheck)
    (history : List ComplianceCheck) (now : Int) (load : Nat)
    (sdn : List (List Text)) (alt : Option (List (List Text))) : List Act :=
  [.selectParty id, .selectLatest id latest, .selectChecks id history,
    .selectAccounts id, .ensureFresh id now load,
    .finishLoad process (.ok (sdn, alt, now)), .awaitLoad id, .screen id]

/-- The party is held, a person clears it, and a day later the list has an
alias for the listing. -/
def aliasRun : List Act :=
  [.setParty ['p'] ⟨acme, .approved⟩, .startProcess 0, .begin 1 0 ['p'] 0]
    ++ screens 1 0 none [] 0 1 acmeListed none
    ++ [.insertCheck 1 .acknowledged, .audit 1 .acknowledged,
      .clear ['p'] "alice".toList ["different".toList] 1 true,
      .begin 2 0 ['p'] (screeningTtlMs + 1)]
    ++ screens 2 0 (some acmeReview) [acmeReview, acmeMatch]
      (screeningTtlMs + 1) 2 acmeListed (some acmeAlias)
    ++ [.insertCheck 2 .acknowledged]

/-- Two calls overlap, the later one over the older list. -/
def overlapRun : List Act :=
  [.setParty ['p'] ⟨acme, .approved⟩, .startProcess 0, .startProcess 1,
    .begin 1 0 ['p'] 0, .begin 2 1 ['p'] 1]
    ++ screens 2 1 none [] 0 2 acmeUnlisted none
    ++ screens 1 0 none [] 0 1 acmeListed none
    ++ [.insertCheck 1 .acknowledged, .audit 1 .acknowledged,
      .insertCheck 2 .acknowledged, .begin 3 0 ['p'] 2, .selectParty 3,
      .selectLatest 3 (some (acmeRow .clear [] 1))]

/-- Every hit was itself a hit of a match row the call read. -/
def EveryHitSeen (p : Platform) (c : Caller) : Prop :=
  ∀ screened ∈ c.seen.screened,
    ∀ m ∈ screened.1.screen p screened.2,
      ∃ prior ∈ checksOf c.partyId c.seen.recalled,
        prior.result = .matched ∧ m ∈ prior.hits

instance (p : Platform) (c : Caller) : Decidable (EveryHitSeen p c) := by
  unfold EveryHitSeen
  infer_instance

/-- A hit that no match row has passes under the id of one that does; and
a party passes under the match row of an overlapping call. -/
theorem match_under_clear :
    (∃ as id c, (machine plain).Allowed FilesInOrder (machine plain).init as
      ∧ ((machine plain).run (machine plain).init as).callers.get id = some c
      ∧ c.phase = .returned none ∧ ¬ EveryHitSeen plain c)
    ∧ ∃ as id c,
      ((machine plain).run (machine plain).init as).callers.get id = some c
      ∧ c.phase = .returned none ∧ ¬ HeldUntilReview c := by
  constructor
  · have hcall : ((((machine plain).run (machine plain).init
        aliasRun).callers.get 2).any fun c =>
          c.phase = .returned none ∧ ¬ EveryHitSeen plain c) = true := by
      decide +kernel
    obtain ⟨c, hc, hfacts⟩ := Option.any_eq_true _ _ |>.mp hcall
    obtain ⟨hpassed, hunseen⟩ := of_decide_eq_true hfacts
    exact ⟨aliasRun, 2, c, by decide +kernel, hc, hpassed, hunseen⟩
  · have hcall : ((((machine plain).run (machine plain).init
        overlapRun).callers.get 3).any fun c =>
          c.phase = .returned none ∧ c.seen.passed = c.seen.begun
            ∧ awaitsReview (checksOf c.partyId c.seen.begun)) = true := by
      decide +kernel
    obtain ⟨c, hc, hfacts⟩ := Option.any_eq_true _ _ |>.mp hcall
    obtain ⟨hpassed, hsame, hawaits⟩ := of_decide_eq_true hfacts
    refine ⟨overlapRun, 3, c, hc, hpassed, fun hheld => ?_⟩
    obtain ⟨since, hrows, hreview⟩ := hheld hawaits
    have hnil : since = [] := by simpa [hsame] using hrows
    rw [hnil] at hreview
    cases hreview

/-- The reviewed party passes a day later. -/
theorem checkParty_sound_demo : ∃ c,
    ((machine plain).run (machine plain).init aliasRun).callers.get 2
      = some c ∧ Grounds plain c ∧ HeldUntilReview c := by
  have hcall : (((machine plain).run (machine plain).init
      aliasRun).callers.get 2).map Caller.phase = some (.returned none) := by
    decide +kernel
  obtain ⟨c, hc, hpassed⟩ := Option.map_eq_some_iff.mp hcall
  have hsound := checkParty_sound plain aliasRun 2 c hc hpassed
  exact ⟨c, hc, hsound.1, hsound.2 (by decide +kernel)⟩

end Ballast.Compliance
