/-
The sanctions list: what it holds of the published rows, and what
screening a party against it finds.

A JS string is a list of characters. `Platform` is what Node's string
library and the two regular expressions over a remark compute. The tokens
of a name's key are ASCII, so their lengths and their order by code unit
are those of characters.

# What a screening finds

A name matches when its key, its tokens in order without the legal
forms, is on the list; an account matches in capitals. A row of the list
brings its own name and what its remark has of further names and
addresses. Two rows may bring one key, and a screening reports both. A
key of fewer than five characters is not taken up at all, so a party of
that name is never found by it.
-/
import Ballast.Soroban.Store
import Mathlib.Data.Char
import Mathlib.Data.List.Lex
import Mathlib.Data.List.Sort

namespace Ballast.Compliance

open Soroban

/-- A JS string. -/
abbrev Text := List Char

scoped instance : LawfulBEq Text := inferInstanceAs (LawfulBEq (List Char))

/-- What Node computes. -/
structure Platform where
  normalizeNFKD : Text → Text
  toUpperCase : Text → Text
  trim : Text → Text
  /-- the names `AKA` finds in a remark -/
  aka : Text → List Text
  /-- the currencies and addresses `DIGITAL_ADDRESS` finds in a remark -/
  digitalAddress : Text → List (Text × Text)

variable (p : Platform)

inductive MatchType where
  | name
  | address
  deriving DecidableEq, Repr

structure SanctionsMatch where
  type : MatchType
  listed : Text
  entNum : Text
  deriving DecidableEq, Repr

structure ScreeningSubject where
  legalName : Text
  stellarAccounts : List Text
  deriving DecidableEq, Repr

-- ============================================================ a name's key

/-- `LEGAL_FORMS`. -/
def legalForms : List Text :=
  ["LTD", "LIMITED", "LLC", "INC", "INCORPORATED", "CORP", "CORPORATION",
    "CO", "COMPANY", "PLC", "LLP", "LP", "SA", "SAS", "SARL", "SRL", "SPA",
    "AG", "GMBH", "BV", "NV", "OY", "AB", "AS", "FZE", "FZC", "FZCO", "PTE",
    "PVT"].map String.toList

/-- `[\u0300-\u036f]`. -/
def combiningMark (c : Char) : Bool :=
  0x300 ≤ c.toNat ∧ c.toNat ≤ 0x36f

/-- `[A-Z0-9]`. -/
def keyChar (c : Char) : Bool := c.isUpper ∨ c.isDigit

/-- The words of a name. Every run of other characters becomes one blank
there and the empty words go, so it is the same to split at each. -/
def tokens (name : Text) : List Text :=
  let letters := (p.normalizeNFKD name).filter fun c => ¬ combiningMark c
  ((p.toUpperCase letters).splitOnP fun c => ¬ keyChar c).filter (· ≠ [])

def nameKey (name : Text) : Text :=
  let words := tokens p name
  let core := words.filter (· ∉ legalForms)
  let kept := if core ≠ [] then core else words
  [' '].intercalate (kept.insertionSort (· ≤ ·))

-- =============================================================== the list

/-- A listed name or address, and the id of its listing. -/
structure Listing where
  listed : Text
  entNum : Text
  deriving DecidableEq, Repr

structure SanctionsList where
  names : Store Text (List Listing)
  addresses : Store Text Listing
  /-- how many rows it was read from -/
  entries : Nat

def SanctionsList.addName (list : SanctionsList)
    (name listed entNum : Text) : SanctionsList :=
  let key := nameKey p name
  -- A one-word key would match half the register.
  if key.length < 5 then list
  else
    let hits := (list.names.get key).getD []
    { list with names := list.names.set key (hits ++ [⟨listed, entNum⟩]) }

/-- The column `i` of a row, `""` when it is missing or `NULL_FIELD`. -/
def clean (row : List Text) (i : Nat) : Text :=
  match row[i]? with
  | none => []
  | some v =>
      if v ≠ [] ∧ p.trim v ≠ "-0-".toList then p.trim v else []

/-- A row of SDN.CSV. -/
def SanctionsList.addRow (list : SanctionsList) (row : List Text) :
    SanctionsList :=
  let entNum := clean p row 0
  let name := clean p row 1
  if entNum = [] ∨ name = [] then list
  else
    let remarks := clean p row 11
    let named := (p.aka remarks).foldl
      (fun list found => list.addName p found found entNum)
      (list.addName p name name entNum)
    (p.digitalAddress remarks).foldl
      (fun list found => { list with
        addresses := list.addresses.set (p.toUpperCase found.2)
          ⟨found.1 ++ [' '] ++ found.2, entNum⟩ })
      named

/-- A row of ALT.CSV. -/
def SanctionsList.addAlias (list : SanctionsList) (row : List Text) :
    SanctionsList :=
  let entNum := clean p row 0
  let name := clean p row 3
  if entNum ≠ [] ∧ name ≠ [] then list.addName p name name entNum
  else list

/-- The constructor, from the rows `parseCsv` makes of the two files. -/
def SanctionsList.ofRows (sdn : List (List Text))
    (alt : Option (List (List Text))) : SanctionsList :=
  let list := sdn.foldl (SanctionsList.addRow p)
    ⟨Store.empty, Store.empty, sdn.length⟩
  (alt.getD []).foldl (SanctionsList.addAlias p) list

def SanctionsList.screen (list : SanctionsList)
    (subject : ScreeningSubject) : List SanctionsMatch :=
  let named :=
    if subject.legalName = [] then []
    else (list.names.get (nameKey p subject.legalName)).getD []
  let addressed := subject.stellarAccounts.filterMap fun account =>
    list.addresses.get (p.toUpperCase account)
  named.map (fun hit => ⟨.name, hit.listed, hit.entNum⟩)
    ++ addressed.map (fun hit => ⟨.address, hit.listed, hit.entNum⟩)

-- ==================================================== a platform to run

/-- Node on plain names without remarks. -/
def plain : Platform where
  normalizeNFKD := id
  toUpperCase := List.map Char.toUpper
  trim := id
  aka _ := []
  digitalAddress _ := []

end Ballast.Compliance
