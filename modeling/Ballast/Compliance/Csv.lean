/-
`parseCsv`: the rows of a published list.

One regular expression reads one field and what ended it. Its first
alternative is a quoted field; text that is not one falls to the second,
which takes everything up to the next separator and so always matches
(`exec_total`). The loop is given an upper bound on its rounds, and hands
back what it has not read.

The list comes in the form its publisher writes: fields between commas,
some in quotes with quotes in them doubled, line ends of any of the
three kinds. A blank line is no row. Text that is not well formed is
read all the same, in some way or other, and to its end.
-/
import Ballast.Common.Regex
import Ballast.Compliance.SanctionsList

namespace Ballast.Compliance

-- ============================================================== one field

def quote : Regex Char := .one (· = '"')

/-- `"(?:[^"]|"")*"`. -/
def quotedField : Regex Char :=
  .seq quote (.seq (.star (.alt (.one (· ≠ '"')) (.seq quote quote))) quote)

/-- `[^,\r\n]`. -/
def plainChar (c : Char) : Bool := c ≠ ',' ∧ c ≠ '\r' ∧ c ≠ '\n'

/-- The first group: `"(?:[^"]|"")*"|[^,\r\n]*`. -/
def fieldGroup : Regex Char := .alt quotedField (.star (.one plainChar))

/-- The second group: `,|\r\n|\n|\r|$`. -/
def endGroup : Regex Char :=
  .alt (.one (· = ','))
    (.alt (.seq (.one (· = '\r')) (.one (· = '\n')))
      (.alt (.one (· = '\n')) (.alt (.one (· = '\r')) .stop)))

/-- `token.exec`: the two groups, and the text after them. -/
def exec (text : Text) : Option (Text × Text × Text) :=
  ((fieldGroup.runs text).flatMap fun m =>
    (endGroup.runs m.2).map fun e => (m.1, e.1, e.2)).head?

/-- `replace(/""/g, '"')`. -/
def undouble : Text → Text
  | '"' :: '"' :: cs => '"' :: undouble cs
  | c :: cs => c :: undouble cs
  | [] => []

/-- The value of a raw field. -/
def unquote (raw : Text) : Text :=
  if raw.head? = some '"' then undouble raw.tail.dropLast else raw

-- =============================================================== the loop

/-- The loop, at most `fuel` rounds of it, from `text` on: the rows, and
the text it has not read when it stops. -/
def parseLoop : Nat → Text → List Text → List (List Text) →
    Option (List (List Text) × Text)
  | 0, _, _, _ => none
  | fuel + 1, text, row, rows =>
      match exec text with
      | none => some (rows, text)
      | some (raw, ended, rest) =>
          let row := row ++ [unquote raw]
          if ended ≠ [','] then
            let rows := if 1 < row.length ∨ row.head? ≠ some [] then
                rows ++ [row]
              else rows
            -- the end of the text, then no progress
            if ended = [] then some (rows, rest)
            else if raw ++ ended = [] then some (rows, rest)
            else parseLoop fuel rest [] rows
          else if raw ++ ended = [] then some (rows, rest)
          else parseLoop fuel rest row rows

def parseCsv (text : Text) : List (List Text) :=
  match parseLoop (text.length + 1) text [] [] with
  | some (rows, _) => rows
  | none => []

/-- The test of the source. -/
example : parseCsv "a,\"b,c\",\"\"\nx,\"y \"\"q\"\" z\",\r\n,,\n".toList
    = [["a", "b,c", ""], ["x", "y \"q\" z", ""], ["", "", ""]].map
      (·.map String.toList) := by
  decide +kernel

/-- The constructor, from the two files. -/
def SanctionsList.ofCsv (p : Platform) (sdnCsv : Text)
    (altCsv : Option Text) : SanctionsList :=
  SanctionsList.ofRows p (parseCsv sdnCsv) (altCsv.map parseCsv)

end Ballast.Compliance
