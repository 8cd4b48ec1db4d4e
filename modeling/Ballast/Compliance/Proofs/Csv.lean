/-
`parseCsv` reads back what a CSV writer wrote, and reads every text to
its end.

A round of the loop reads one field. On written text the expression
takes exactly that field (`exec_plain`, `exec_quoted`): a quoted field
cannot end early, because inside it every quote is followed by another,
and cannot end late, because what follows its last quote is not one. On
any text it matches something and something is consumed unless nothing
was left (`exec_total`, `exec_sound`), so the loop ends with nothing
unread (`parseLoop_reads`).

# The fuel

The loop is given one round for each character and one more. Each round
but the last takes something off the text, so it never runs out, and
`parseLoop_reads` shows that more rounds would change nothing; a result
about `parseCsv` is therefore one about the loop of the source, which
has no bound.
-/
import Ballast.Compliance.Csv

namespace Ballast.Compliance

open Regex

-- ============================================================== every text

theorem head_flatMap {α β : Type} {l : List α} {g : α → List β} {a : α}
    {b : β} (ha : l.head? = some a) (hb : (g a).head? = some b) :
    (l.flatMap g).head? = some b := by
  cases l with
  | nil => cases ha
  | cons x l =>
      injection ha with ha
      subst ha
      rw [List.flatMap_cons, List.head?_append, hb]
      rfl

/-- A field ends in nothing only at the end of the text. -/
theorem endGroup_nil {s : Text} {m : Run Char} (h : m ∈ endGroup.runs s)
    (hm : m.1 = []) : s = [] := by
  simp only [endGroup, runs_alt, List.mem_append] at h
  rcases h with h | h | h | h | h
  · exact absurd hm (consumes_one _ s m h)
  · exact absurd hm ((consumes_one _).seq _ s m h)
  · exact absurd hm (consumes_one _ s m h)
  · exact absurd hm (consumes_one _ s m h)
  · cases s with
    | nil => rfl
    | cons c s => cases h

/-- What the expression matched and what is left are the text. -/
theorem exec_sound {text raw ended rest : Text}
    (h : exec text = some (raw, ended, rest)) :
    raw ++ ended ++ rest = text ∧ (ended = [] → rest = []) := by
  have hmem := List.mem_of_head? h
  obtain ⟨m, hm, hmem⟩ := List.mem_flatMap.mp hmem
  obtain ⟨e, he, hmem⟩ := List.mem_map.mp hmem
  injection hmem with hraw hmem
  injection hmem with hended hrest
  subst hraw hended hrest
  have hfield := mem_runs hm
  have hend := mem_runs he
  constructor
  · rw [List.append_assoc, hend, hfield]
  · intro hnil
    rw [endGroup_nil he hnil, hnil, List.nil_append] at hend
    exact hend

/-- Where no field goes on, a field ends. -/
theorem endGroup_some {s : Text} (h : ∀ c ∈ s.head?, plainChar c = false) :
    ∃ e, e ∈ endGroup.runs s := by
  cases s with
  | nil => exact ⟨([], []), by decide⟩
  | cons c s =>
      have hc := h c rfl
      simp only [plainChar, decide_eq_false_iff_not, not_and_or,
        not_not] at hc
      simp only [endGroup, runs_alt, List.mem_append]
      rcases hc with rfl | rfl | rfl
      · exact ⟨([','], s), .inl (by simp [runs])⟩
      · exact ⟨(['\r'], s), .inr (.inr (.inr (.inl (by simp [runs]))))⟩
      · exact ⟨(['\n'], s), .inr (.inr (.inl (by simp [runs])))⟩

/-- Something always matches: the second alternative does. -/
theorem exec_total (text : Text) :
    ∃ raw ended rest, exec text = some (raw, ended, rest) := by
  have hplain : (text.takeWhile plainChar, text.dropWhile plainChar)
      ∈ fieldGroup.runs text := by
    rw [fieldGroup, runs_alt]
    exact List.mem_append_right _
      (List.mem_of_head? (head_star_one plainChar text))
  obtain ⟨e, he⟩ := endGroup_some (s := text.dropWhile plainChar) (by
    intro c hc
    exact Bool.eq_false_iff.mpr fun hplain => by
      have := List.head?_dropWhile_not plainChar text
      rw [hc] at this
      simp [hplain] at this)
  cases hexec : exec text with
  | some found => exact ⟨_, _, _, rfl⟩
  | none =>
      have hnone := List.head?_eq_none_iff.mp hexec
      have hin : (text.takeWhile plainChar, e.1, e.2)
          ∈ ((fieldGroup.runs text).flatMap fun m =>
            (endGroup.runs m.2).map fun e => (m.1, e.1, e.2)) :=
        List.mem_flatMap.mpr ⟨_, hplain, List.mem_map.mpr ⟨e, he, rfl⟩⟩
      rw [hnone] at hin
      cases hin

/-- A finished row joins the others, unless it is a blank line. -/
def closeRow (row : List Text) (rows : List (List Text)) :
    List (List Text) :=
  if 1 < row.length ∨ row.head? ≠ some [] then rows ++ [row] else rows

/-- One round, by what ended the field. -/
theorem parseLoop_round {fuel : Nat} {text raw ended rest : Text}
    {row : List Text} {rows : List (List Text)}
    (h : exec text = some (raw, ended, rest)) :
    parseLoop (fuel + 1) text row rows
      = if ended = [','] then
          parseLoop fuel rest (row ++ [unquote raw]) rows
        else if ended = [] then
          some (closeRow (row ++ [unquote raw]) rows, rest)
        else parseLoop fuel rest []
          (closeRow (row ++ [unquote raw]) rows) := by
  rw [parseLoop, h]
  simp only [closeRow]
  by_cases hcomma : ended = [',']
  · simp [hcomma]
  · by_cases hnil : ended = []
    · simp [hnil]
    · simp [hcomma, hnil]

/-- With a round for each character and one more, the loop reads every
text to its end, and further rounds change nothing. -/
theorem parseLoop_reads (fuel : Nat) : ∀ (text : Text) (row : List Text)
    (rows : List (List Text)), text.length < fuel →
    ∃ read, ∀ more, parseLoop (fuel + more) text row rows
      = some (read, []) := by
  induction fuel with
  | zero =>
      intro text row rows h
      omega
  | succ fuel ih =>
      intro text row rows h
      obtain ⟨raw, ended, rest, hexec⟩ := exec_total text
      obtain ⟨hsplit, hend⟩ := exec_sound hexec
      by_cases hnil : ended = []
      · refine ⟨closeRow (row ++ [unquote raw]) rows, fun more => ?_⟩
        rw [Nat.add_right_comm, parseLoop_round hexec,
          if_neg (by simp [hnil]), if_pos hnil, hend hnil]
      · have hlen : rest.length < fuel := by
          have hpos := List.length_pos_iff.mpr hnil
          have htext := congrArg List.length hsplit
          simp only [List.length_append] at htext
          omega
        by_cases hcomma : ended = [',']
        · obtain ⟨read, hread⟩ := ih rest (row ++ [unquote raw]) rows hlen
          exact ⟨read, fun more => by
            rw [Nat.add_right_comm, parseLoop_round hexec, if_pos hcomma,
              hread more]⟩
        · obtain ⟨read, hread⟩ :=
            ih rest [] (closeRow (row ++ [unquote raw]) rows) hlen
          exact ⟨read, fun more => by
            rw [Nat.add_right_comm, parseLoop_round hexec, if_neg hcomma,
              if_neg hnil, hread more]⟩

/-- So `parseCsv` is what the loop ends with, however long it is let
run. -/
theorem parseLoop_parseCsv {text : Text} {fuel : Nat}
    (h : text.length < fuel) :
    parseLoop fuel text [] [] = some (parseCsv text, []) := by
  obtain ⟨read, hread⟩ :=
    parseLoop_reads (text.length + 1) text [] [] (Nat.lt_succ_self _)
  have hcsv : parseCsv text = read := by
    have hfirst := hread 0
    rw [Nat.add_zero] at hfirst
    rw [parseCsv, hfirst]
  obtain ⟨more, rfl⟩ := Nat.exists_eq_add_of_lt h
  rw [hcsv, Nat.add_right_comm]
  exact hread more

-- ============================================================= the writer

/-- A record: a field, and others. -/
structure Record where
  first : Text
  others : List Text
  deriving DecidableEq, Repr

def Record.fields (r : Record) : List Text := r.first :: r.others

inductive LineEnd where
  | lf
  | crlf
  deriving DecidableEq, Repr

def LineEnd.text : LineEnd → Text
  | .lf => ['\n']
  | .crlf => ['\r', '\n']

/-- A field that cannot stand bare. -/
def needsQuotes (field : Text) : Bool :=
  field.any fun c => c = '"' ∨ ¬ plainChar c

/-- Every quote twice. -/
def double (field : Text) : Text :=
  field.flatMap fun c => if c = '"' then ['"', '"'] else [c]

def encodeField (field : Text) : Text :=
  if needsQuotes field then '"' :: double field ++ ['"'] else field

def encodeRecord (r : Record) : Text :=
  [','].intercalate (r.fields.map encodeField)

/-- Records, each with its line end; the last one's may be left off. -/
def encodeCsv : List (Record × LineEnd) → Bool → Text
  | [], _ => []
  | [(r, e)], finalNewline =>
      encodeRecord r ++ if finalNewline then e.text else []
  | (r, e) :: table, finalNewline =>
      encodeRecord r ++ e.text ++ encodeCsv table finalNewline

-- ============================================================== one field

/-- What ends a field: a separator, or that nothing is left. -/
inductive Ends : Text → Text → Prop
  | comma (rest : Text) : Ends [','] rest
  | line (e : LineEnd) (rest : Text) : Ends e.text rest
  | last : Ends [] []

theorem Ends.endGroup {ended rest : Text} (h : Ends ended rest) :
    (endGroup.runs (ended ++ rest)).head? = some (ended, rest) := by
  cases h with
  | comma => rfl
  | line e => cases e <;> rfl
  | last => rfl

theorem Ends.not_plain {ended rest : Text} (h : Ends ended rest) :
    ∀ c ∈ (ended ++ rest).head?, c ≠ '"' ∧ plainChar c = false := by
  intro c hc
  cases h with
  | comma =>
      injection hc with hc
      subst hc
      decide
  | line e =>
      cases e
      · injection hc with hc
        subst hc
        decide
      · injection hc with hc
        subst hc
        decide
  | last => cases hc

theorem exec_of_head {text raw ended rest : Text} (h : Ends ended rest)
    (hraw : (fieldGroup.runs text).head? = some (raw, ended ++ rest)) :
    exec text = some (raw, ended, rest) := by
  refine head_flatMap hraw ?_
  rw [List.head?_map, h.endGroup]
  rfl

/-- A bare field is taken as far as it goes. -/
theorem exec_plain {field ended rest : Text} (h : Ends ended rest)
    (hbare : needsQuotes field = false) :
    exec (field ++ (ended ++ rest)) = some (field, ended, rest) := by
  have hchar : ∀ c ∈ field, c ≠ '"' ∧ plainChar c = true := by
    intro c hc
    have hnone := List.any_eq_false.mp hbare c hc
    simpa using hnone
  have hstop := h.not_plain
  refine exec_of_head h ?_
  have hquoted : quotedField.runs (field ++ (ended ++ rest)) = [] := by
    have hhead : ∀ c ∈ (field ++ (ended ++ rest)).head?, c ≠ '"' := by
      intro c hc
      rw [List.head?_append] at hc
      cases field with
      | nil => exact (hstop c hc).1
      | cons d field =>
          injection hc with hc
          subst hc
          exact (hchar d List.mem_cons_self).1
    cases htext : field ++ (ended ++ rest) with
    | nil => rfl
    | cons c cs =>
        rw [htext] at hhead
        simp [quotedField, quote, runs, chain, hhead c rfl]
  have hnone : (ended ++ rest).takeWhile plainChar = []
      ∧ (ended ++ rest).dropWhile plainChar = ended ++ rest := by
    cases htext : ended ++ rest with
    | nil => exact ⟨rfl, rfl⟩
    | cons c cs =>
        rw [htext] at hstop
        have hc : ¬ plainChar c = true := by simp [(hstop c rfl).2]
        exact ⟨List.takeWhile_cons_of_neg hc, List.dropWhile_cons_of_neg hc⟩
  refine head_alt_right hquoted ?_
  rw [head_star_one, List.takeWhile_append_of_pos fun c hc => (hchar c hc).2,
    List.dropWhile_append_of_pos fun c hc => (hchar c hc).2, hnone.1,
    hnone.2, List.append_nil]

/-- Inside a quoted field. -/
def quotedChar : Regex Char := .alt (.one (· ≠ '"')) (.seq quote quote)

/-- The rounds go through a doubled field, and stop at a quote that
another does not follow. -/
theorem head_double (field tail : Text) (htail : ∀ c ∈ tail.head?, c ≠ '"')
    (n : Nat) (hn : (double field ++ '"' :: tail).length ≤ n) :
    (repeats quotedChar.runs n (double field ++ '"' :: tail)).head?
      = some (double field, '"' :: tail) := by
  induction field generalizing n with
  | nil =>
      apply head_repeats_stop
      cases tail with
      | nil => rfl
      | cons c tail =>
          change quotedChar.runs ('"' :: c :: tail) = []
          simp [quotedChar, quote, runs, chain, htail c rfl]
  | cons c field ih =>
      obtain ⟨n, rfl⟩ : ∃ k, n = k + 1 := by
        refine ⟨n - 1, ?_⟩
        simp only [List.length_append, List.length_cons] at hn
        omega
      by_cases hc : c = '"'
      · subst hc
        have hdouble : double ('"' :: field) = ['"', '"'] ++ double field :=
          rfl
        rw [hdouble, List.append_assoc] at hn ⊢
        exact head_repeats (a := (['"', '"'], double field ++ '"' :: tail))
          rfl (List.cons_ne_nil _ _)
          (ih n (by simp only [List.length_append, List.length_cons] at hn ⊢
                    omega))
      · have hdouble : double (c :: field) = [c] ++ double field := by
          simp [double, hc]
        rw [hdouble, List.append_assoc] at hn ⊢
        refine head_repeats (a := ([c], double field ++ '"' :: tail)) ?_
          (List.cons_ne_nil _ _)
          (ih n (by simp only [List.length_append, List.length_cons] at hn ⊢
                    omega))
        simp [quotedChar, runs, hc]

/-- A quoted field is taken up to its last quote. -/
theorem exec_quoted {field ended rest : Text} (h : Ends ended rest) :
    exec ('"' :: double field ++ ['"'] ++ (ended ++ rest))
      = some ('"' :: double field ++ ['"'], ended, rest) := by
  have htail : ∀ c ∈ (ended ++ rest).head?, c ≠ '"' :=
    fun c hc => (h.not_plain c hc).1
  have hbody := head_double field (ended ++ rest) htail _ le_rfl
  have hquote : ∀ s, (quote.runs ('"' :: s)).head? = some (['"'], s) :=
    fun _ => rfl
  have hshape : quotedField = quote.seq (quotedChar.star.seq quote) := rfl
  refine exec_of_head h (head_alt ?_)
  have hrun := head_seq (hquote (double field ++ '"' :: (ended ++ rest)))
    (head_seq (r := .star quotedChar) hbody (hquote (ended ++ rest)))
  rw [hshape]
  simpa [List.append_assoc] using hrun

theorem undouble_double (field : Text) : undouble (double field) = field := by
  induction field with
  | nil => rfl
  | cons c field ih =>
      by_cases hc : c = '"'
      · subst hc
        change '"' :: undouble (double field) = _
        rw [ih]
      · have hdouble : double (c :: field) = c :: double field := by
          simp [double, hc]
        rw [hdouble, undouble]
        · rw [ih]
        · intro cs hcs
          exact absurd hcs hc

/-- A written field is read as one, and as what was written. -/
theorem exec_encodeField {field ended rest : Text} (h : Ends ended rest) :
    exec (encodeField field ++ (ended ++ rest))
        = some (encodeField field, ended, rest)
      ∧ unquote (encodeField field) = field := by
  unfold encodeField
  by_cases hq : needsQuotes field = true
  · rw [if_pos hq]
    refine ⟨exec_quoted h, ?_⟩
    simp [unquote, undouble_double]
  · rw [if_neg hq]
    have hbare := Bool.eq_false_iff.mpr hq
    refine ⟨exec_plain h hbare, ?_⟩
    cases field with
    | nil => rfl
    | cons c field =>
        have hc := List.any_eq_false.mp hbare c List.mem_cons_self
        have hquote : c ≠ '"' := by
          rintro rfl
          exact hc (by decide)
        simp [unquote, hquote]

-- ================================================================ all rows

theorem intercalate_cons (first next : Text) (others : List Text) :
    [','].intercalate ((first :: next :: others).map encodeField)
      = encodeField first
        ++ ([','] ++ [','].intercalate ((next :: others).map encodeField)) := by
  simp [List.intercalate]

/-- Nothing left to read adds nothing. -/
theorem parseLoop_nil (fuel : Nat) (rows : List (List Text)) :
    parseLoop (fuel + 1) [] [] rows = some (rows, []) := by
  have hexec : exec [] = some ([], [], []) := by decide
  rw [parseLoop_round hexec]
  rfl

/-- The loop over the fields of one record, whose end is no comma: the
row is complete, and the rounds left are enough for the rest. -/
theorem parseLoop_fields {ended rest : Text} (h : Ends ended rest)
    (hne : ended ≠ [',']) (others : List Text) : ∀ (first : Text)
    (row : List Text) (rows : List (List Text)) (fuel : Nat),
    ([','].intercalate ((first :: others).map encodeField)
      ++ (ended ++ rest)).length < fuel →
    ∃ left, rest.length < left ∧
      parseLoop fuel ([','].intercalate ((first :: others).map encodeField)
        ++ (ended ++ rest)) row rows
      = parseLoop left rest [] (closeRow (row ++ first :: others) rows) := by
  induction others with
  | nil =>
      intro first row rows fuel hfuel
      have htext : [','].intercalate ([first].map encodeField)
          = encodeField first := by simp [List.intercalate]
      rw [htext] at hfuel ⊢
      obtain ⟨fuel, rfl⟩ : ∃ k, fuel = k + 1 := ⟨fuel - 1, by omega⟩
      obtain ⟨hexec, hvalue⟩ := @exec_encodeField first ended rest h
      rw [parseLoop_round hexec, if_neg hne, hvalue]
      by_cases hnil : ended = []
      · have hrest : rest = [] := (exec_sound hexec).2 hnil
        refine ⟨1, by simp [hrest], ?_⟩
        rw [if_pos hnil, hrest, parseLoop_nil]
      · refine ⟨fuel, ?_, by rw [if_neg hnil]⟩
        have hpos := List.length_pos_iff.mpr hnil
        simp only [List.length_append] at hfuel
        omega
  | cons next others ih =>
      intro first row rows fuel hfuel
      rw [intercalate_cons, List.append_assoc, List.append_assoc]
        at hfuel ⊢
      obtain ⟨fuel, rfl⟩ : ∃ k, fuel = k + 1 := ⟨fuel - 1, by omega⟩
      obtain ⟨hexec, hvalue⟩ := @exec_encodeField first _ _
        (Ends.comma ([','].intercalate ((next :: others).map encodeField)
          ++ (ended ++ rest)))
      rw [parseLoop_round hexec, if_pos rfl, hvalue]
      obtain ⟨left, hleft, hrest⟩ := ih next (row ++ [first]) rows fuel (by
        simp only [List.length_append, List.length_cons, List.length_nil]
          at hfuel ⊢
        omega)
      refine ⟨left, hleft, ?_⟩
      rw [hrest, List.append_assoc, List.singleton_append]

/-- A record that is more than one empty field is kept. -/
theorem closeRow_record {r : Record} (h : r.fields ≠ [[]])
    (rows : List (List Text)) :
    closeRow ([] ++ r.first :: r.others) rows = rows ++ [r.fields] := by
  unfold closeRow
  rw [List.nil_append, if_pos]
  · rfl
  · unfold Record.fields at h
    cases hothers : r.others with
    | nil =>
        right
        intro hfirst
        injection hfirst with hfirst
        exact h (by rw [hothers, hfirst])
    | cons o os =>
        left
        simp

theorem parseLoop_table (finalNewline : Bool)
    (table : List (Record × LineEnd)) : ∀ (rows : List (List Text))
    (fuel : Nat), (∀ r ∈ table, r.1.fields ≠ [[]]) →
    (encodeCsv table finalNewline).length < fuel →
    parseLoop fuel (encodeCsv table finalNewline) [] rows
      = some (rows ++ table.map (·.1.fields), []) := by
  induction table with
  | nil =>
      intro rows fuel _ hfuel
      obtain ⟨fuel, rfl⟩ : ∃ k, fuel = k + 1 := ⟨fuel - 1, by omega⟩
      rw [encodeCsv, parseLoop_nil, List.map_nil, List.append_nil]
  | cons record table ih =>
      obtain ⟨r, e⟩ := record
      intro rows fuel hkept hfuel
      have hr := hkept (r, e) List.mem_cons_self
      have htable : ∀ r ∈ table, r.1.fields ≠ [[]] :=
        fun r hmem => hkept r (List.mem_cons_of_mem _ hmem)
      -- what ends the record, and what comes after it
      obtain ⟨ended, hends, hne, htext⟩ : ∃ ended,
          Ends ended (encodeCsv table finalNewline) ∧ ended ≠ [',']
          ∧ encodeCsv ((r, e) :: table) finalNewline
            = [','].intercalate ((r.first :: r.others).map encodeField)
              ++ (ended ++ encodeCsv table finalNewline) := by
        cases table with
        | nil =>
            cases finalNewline with
            | false => exact ⟨[], .last, by decide, rfl⟩
            | true =>
                refine ⟨e.text, .line e _, by cases e <;> decide, ?_⟩
                simp [encodeCsv, encodeRecord, Record.fields]
        | cons next table =>
            refine ⟨e.text, .line e _, by cases e <;> decide, ?_⟩
            simp [encodeCsv, encodeRecord, Record.fields]
      rw [htext] at hfuel ⊢
      obtain ⟨left, hleft, hrest⟩ :=
        parseLoop_fields hends hne r.others r.first [] rows fuel hfuel
      rw [hrest, closeRow_record hr, ih _ left htable hleft]
      simp

/-- The parser undoes the writer, whatever the fields hold and however
the lines end; and it reads every text, well formed or not, to its end,
in at most one round for each character and one more. -/
theorem parseCsv_undoes :
    (∀ (table : List (Record × LineEnd)) (finalNewline : Bool),
      (∀ r ∈ table, r.1.fields ≠ [[]]) →
      parseCsv (encodeCsv table finalNewline)
        = table.map (·.1.fields))
    ∧ ∀ (text : Text) (fuel : Nat), text.length < fuel →
      parseLoop fuel text [] [] = some (parseCsv text, []) := by
  constructor
  · intro table finalNewline hkept
    have htable := parseLoop_table finalNewline table [] _ hkept
      (Nat.lt_succ_self _)
    rw [parseCsv, htable, List.nil_append]
  · intro text fuel hfuel
    exact parseLoop_parseCsv hfuel

/-- Two records, one with every separator in a field; and a text whose
quote is never closed. -/
theorem parseCsv_undoes_demo :
    parseCsv (encodeCsv
        [(⟨"36".toList, ["a \"b\", c".toList, "\r\n".toList]⟩, .crlf),
          (⟨[], [[]]⟩, .lf)] false)
      = [["36", "a \"b\", c", "\r\n"], ["", ""]].map
        (·.map String.toList)
    ∧ parseLoop 9 "\"a,b\nc\n".toList [] []
      = some (parseCsv "\"a,b\nc\n".toList, []) :=
  ⟨parseCsv_undoes.1
      [(⟨"36".toList, ["a \"b\", c".toList, "\r\n".toList]⟩, .crlf),
        (⟨[], [[]]⟩, .lf)] false (by decide),
    parseCsv_undoes.2 "\"a,b\nc\n".toList 9 (by decide)⟩

end Ballast.Compliance
