/-
The JavaScript values that pass through a jsonb column, and the decimal
text a bigint takes there.

A bigint has no JSON form, so a writer stores `toString()` and a reader
calls `BigInt`. The reader accepts more than the writer produces: blanks
around the number, a sign, the three radix prefixes, and the empty string
as zero. What the writer produces it reads back (`bigIntOf_text`).

Values are those JSON has, and bigints. `text` is what a template string
makes of one; a number is an integer here and prints as its digits, as
every safe integer does. A text is a list of characters where the code
cuts it up and a `String` where it only passes it on.
-/
import Ballast.Soroban.Host
import Mathlib.Data.List.Basic

namespace Ballast.Js

open Soroban

inductive Value where
  | null
  | bool (b : Bool)
  | number (n : Int)
  | bigint (n : Int)
  | string (s : String)
  | array (xs : List Value)
  | object (fields : List (String × Value))
  deriving Repr

/-- The property of an object, `undefined` if there is none. -/
def Value.get (v : Value) (key : String) : Option Value :=
  match v with
  | .object fields => fields.lookup key
  | _ => none

-- ============================================================= the writer

/-- `BigInt.prototype.toString`. -/
def bigintText : Int → List Char
  | .ofNat n => Nat.toDigits 10 n
  | .negSucc n => '-' :: Nat.toDigits 10 (n + 1)

mutual

/-- `String(value)`. -/
def text : Value → String
  | .null => "null"
  | .bool b => if b then "true" else "false"
  | .number n => String.ofList (bigintText n)
  | .bigint n => String.ofList (bigintText n)
  | .string s => s
  | .array xs => ",".intercalate (texts xs)
  | .object _ => "[object Object]"

/-- The elements of `Array.prototype.toString`. -/
def texts : List Value → List String
  | [] => []
  | .null :: xs => "" :: texts xs
  | x :: xs => text x :: texts xs

end

-- ============================================================= the reader

/-- White space and line ends, as `BigInt` strips them. -/
def isBlank (c : Char) : Bool :=
  c = ' ' ∨ ('\t' ≤ c ∧ c ≤ '\r') ∨ c.val = 160 ∨ c.val = 65279
    ∨ c.val = 5760 ∨ (8192 ≤ c.val ∧ c.val ≤ 8202) ∨ c.val = 8232
    ∨ c.val = 8233 ∨ c.val = 8239 ∨ c.val = 8287 ∨ c.val = 12288

/-- The value of a digit in bases up to 16. -/
def digitOf (c : Char) : Option Nat :=
  if '0' ≤ c ∧ c ≤ '9' then some (c.toNat - '0'.toNat)
  else if 'a' ≤ c ∧ c ≤ 'f' then some (c.toNat - 'a'.toNat + 10)
  else if 'A' ≤ c ∧ c ≤ 'F' then some (c.toNat - 'A'.toNat + 10)
  else none

/-- Digits of one base, most significant first. -/
def digitsOf (base : Nat) : List Char → Nat → Option Nat
  | [], n => some n
  | c :: cs, n =>
      match digitOf c with
      | some d => if d < base then digitsOf base cs (base * n + d) else none
      | none => none

/-- At least one digit of the base. -/
def numeral (base : Nat) (cs : List Char) : Option Nat :=
  if cs = [] then none else digitsOf base cs 0

/-- `StringToBigInt` of the language, without its blanks. -/
def stringToBigInt : List Char → Option Int
  | [] => some 0
  | '-' :: cs => (numeral 10 cs).map fun n => -(n : Int)
  | '+' :: cs => (numeral 10 cs).map Int.ofNat
  | '0' :: c :: cs =>
      if c = 'x' ∨ c = 'X' then (numeral 16 cs).map Int.ofNat
      else if c = 'o' ∨ c = 'O' then (numeral 8 cs).map Int.ofNat
      else if c = 'b' ∨ c = 'B' then (numeral 2 cs).map Int.ofNat
      else (numeral 10 ('0' :: c :: cs)).map Int.ofNat
  | cs => (numeral 10 cs).map Int.ofNat

/-- `BigInt(text)`. -/
def bigIntOf (s : String) : Call Int :=
  expect (stringToBigInt
    ((s.toList.dropWhile isBlank).reverse.dropWhile isBlank).reverse)
    "SyntaxError: Cannot convert to a BigInt"

-- ============================================================ round trip

theorem isDigit_iff {c : Char} :
    c.isDigit = true ↔ '0' ≤ c ∧ c ≤ '9' := by
  simp [Char.isDigit, Char.le_def]

/-- A digit is its value in every base from ten on. -/
theorem digitOf_of_isDigit {c : Char} (h : c.isDigit = true) :
    digitOf c = some (c.toNat - '0'.toNat) ∧ c.toNat - '0'.toNat < 10 := by
  obtain ⟨hlow, hhigh⟩ := isDigit_iff.mp h
  refine ⟨by rw [digitOf, if_pos ⟨hlow, hhigh⟩], ?_⟩
  rw [Char.le_def, UInt32.le_iff_toNat_le] at hhigh
  have hnine : '9'.val.toNat = 57 := rfl
  have hzero : '0'.toNat = 48 := rfl
  have hval : c.toNat = c.val.toNat := rfl
  omega

/-- No character of a decimal is blank. -/
theorem isBlank_eq_false {c : Char} (h : c.isDigit = true ∨ c = '-') :
    isBlank c = false := by
  rcases h with h | rfl
  · obtain ⟨hlow, hhigh⟩ := isDigit_iff.mp h
    rw [Char.le_def, UInt32.le_iff_toNat_le] at hlow hhigh
    have hzero : '0'.val.toNat = 48 := rfl
    have hnine : '9'.val.toNat = 57 := rfl
    have htab : ¬ c ≤ '\r' := by
      rw [Char.le_def, UInt32.le_iff_toNat_le]
      have hcr : '\r'.val.toNat = 13 := rfl
      omega
    have hspace : c ≠ ' ' := by
      rintro rfl
      exact absurd hlow (by decide)
    simp only [isBlank, ← UInt32.toNat_inj, UInt32.le_iff_toNat_le,
      UInt32.reduceToNat, decide_eq_false_iff_not]
    simp only [hspace, htab, and_false, false_or]
    omega
  · decide

theorem digitsOf_eq {cs : List Char} (h : ∀ c ∈ cs, c.isDigit = true)
    (n : Nat) : digitsOf 10 cs n = some (Nat.ofDigitChars 10 cs n) := by
  induction cs generalizing n with
  | nil => rfl
  | cons c cs ih =>
      obtain ⟨hdigit, hlt⟩ := digitOf_of_isDigit (h c List.mem_cons_self)
      simp only [digitsOf, hdigit, hlt, if_true]
      rw [ih fun d hd => h d (List.mem_cons_of_mem c hd),
        Nat.ofDigitChars_cons]

theorem isDigit_toDigits {n : Nat} {c : Char} (h : c ∈ Nat.toDigits 10 n) :
    c.isDigit = true :=
  Nat.isDigit_of_mem_toDigits (by decide) (by decide) h

theorem numeral_toDigits (n : Nat) :
    numeral 10 (Nat.toDigits 10 n) = some n := by
  rw [numeral, if_neg Nat.toDigits_ne_nil,
    digitsOf_eq fun c hc => isDigit_toDigits hc, Nat.ofDigitChars_ten_toDigits]

/-- Digits alone are read as a decimal: no sign, and no radix prefix,
whose letter is no digit. -/
theorem stringToBigInt_digits {cs : List Char}
    (hdigits : ∀ c ∈ cs, c.isDigit = true) (hne : cs ≠ []) :
    stringToBigInt cs = (numeral 10 cs).map Int.ofNat := by
  unfold stringToBigInt
  split
  · exact absurd rfl hne
  · exact absurd (hdigits '-' List.mem_cons_self) (by decide)
  · exact absurd (hdigits '+' List.mem_cons_self) (by decide)
  · next c cs =>
    have hc := hdigits c (List.mem_cons_of_mem _ List.mem_cons_self)
    have hletter : ∀ d : Char, d.isDigit = false → c ≠ d := by
      rintro d hd rfl
      rw [hd] at hc
      cases hc
    rw [if_neg, if_neg, if_neg]
    · rintro (h | h)
      · exact hletter 'b' rfl h
      · exact hletter 'B' rfl h
    · rintro (h | h)
      · exact hletter 'o' rfl h
      · exact hletter 'O' rfl h
    · rintro (h | h)
      · exact hletter 'x' rfl h
      · exact hletter 'X' rfl h
  · rfl

theorem stringToBigInt_text (n : Int) :
    stringToBigInt (bigintText n) = some n := by
  cases n with
  | ofNat n =>
      rw [bigintText, stringToBigInt_digits (fun c hc => isDigit_toDigits hc)
        Nat.toDigits_ne_nil, numeral_toDigits]
      rfl
  | negSucc n =>
      simp only [bigintText, stringToBigInt, numeral_toDigits]
      rfl

theorem mem_bigintText {n : Int} {c : Char} (h : c ∈ bigintText n) :
    c.isDigit = true ∨ c = '-' := by
  cases n with
  | ofNat n => exact .inl (isDigit_toDigits h)
  | negSucc n =>
      rcases List.mem_cons.mp h with h | h
      · exact .inr h
      · exact .inl (isDigit_toDigits h)

/-- A text without blanks is read as it is. -/
theorem bigIntOf_eq {cs : List Char} (h : ∀ c ∈ cs, isBlank c = false) :
    bigIntOf (String.ofList cs) = expect (stringToBigInt cs)
      "SyntaxError: Cannot convert to a BigInt" := by
  have hkeep : ∀ l : List Char, (∀ c ∈ l, isBlank c = false) →
      l.dropWhile isBlank = l := by
    intro l hl
    cases l with
    | nil => rfl
    | cons c l =>
        rw [List.dropWhile_cons_of_neg]
        simp [hl c List.mem_cons_self]
  rw [bigIntOf, String.toList_ofList, hkeep cs h, hkeep cs.reverse,
    List.reverse_reverse]
  exact fun c hc => h c (List.mem_reverse.mp hc)

/-- What the writer writes the reader reads. -/
theorem bigIntOf_text (n : Int) :
    bigIntOf (String.ofList (bigintText n)) = .ok n := by
  rw [bigIntOf_eq fun c hc => isBlank_eq_false (mem_bigintText hc),
    stringToBigInt_text]
  rfl

/-- And any digits, with a plus sign or without. -/
theorem bigIntOf_digits {cs : List Char}
    (h : ∀ c ∈ cs, c.isDigit = true) (hne : cs ≠ []) :
    bigIntOf (String.ofList cs) = .ok (Nat.ofDigitChars 10 cs 0 : Int) := by
  rw [bigIntOf_eq fun c hc => isBlank_eq_false (.inl (h c hc)),
    stringToBigInt_digits h hne, numeral, if_neg hne, digitsOf_eq h]
  rfl

theorem bigIntOf_plus {cs : List Char}
    (h : ∀ c ∈ cs, c.isDigit = true) (hne : cs ≠ []) :
    bigIntOf (String.ofList ('+' :: cs))
      = .ok (Nat.ofDigitChars 10 cs 0 : Int) := by
  rw [bigIntOf_eq]
  · simp only [stringToBigInt, numeral, if_neg hne, digitsOf_eq h]
    rfl
  · intro c hc
    rcases List.mem_cons.mp hc with rfl | hc
    · decide
    · exact isBlank_eq_false (.inl (h c hc))

end Ballast.Js
