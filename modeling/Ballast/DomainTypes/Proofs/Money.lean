/-
The two directions of the money conversion are inverse, exact, and the
same in both copies.

A `Decimal` is a decimal string taken apart: an optional sign, an integer
part and optionally a point with digits, some digit among them.

# Reading

The reader takes a minus sign off, splits at the point, fills the fraction
up to seven digits and reads both halves as integers, so the result is the
value times 10^7 (`read_decimal`). A plus sign it leaves to `BigInt`,
which has a rule for `+1` and none for `+`: `+.5` is refused, where `.5`
and `-.5` are read (`plus_point_refused`).

# Writing

The writers produce a canonical integer part and seven digits, and a
numeral of that form is determined by its value, so writing and reading
are inverse both ways.
-/
import Ballast.PriceGuard.Service
import Mathlib.Data.Rat.Defs
import Mathlib.Tactic.FieldSimp
import Mathlib.Tactic.Ring

namespace Ballast.DomainTypes

open Soroban Js Numerals
open PriceGuard (Service.scaledToDecimalString Service.decimalStringToScaled)

-- ========================================================== decimal strings

inductive Sign where
  | none
  | minus
  | plus
  deriving DecidableEq, Repr

def Sign.text : Sign → Text
  | .none => []
  | .minus => ['-']
  | .plus => ['+']

def Sign.factor : Sign → Int
  | .none => 1
  | .minus => -1
  | .plus => 1

/-- A decimal string: an optional sign, an integer part, and the digits
after the point if there is one. Either part may be empty, not both. -/
structure Decimal where
  sign : Sign
  whole : Text
  frac : Option Text
  whole_digits : ∀ c ∈ whole, c.isDigit = true
  frac_digits : ∀ f ∈ frac, ∀ c ∈ f, c.isDigit = true
  some_digit : whole ≠ [] ∨ ∃ f ∈ frac, f ≠ []

/-- The string without its sign. -/
def Decimal.body (d : Decimal) : Text :=
  d.whole ++ d.frac.elim [] ('.' :: ·)

def Decimal.text (d : Decimal) : Text := d.sign.text ++ d.body

/-- The digits after the point. -/
def Decimal.digits (d : Decimal) : Text := d.frac.getD []

/-- The value of a text of digits. -/
def number (cs : Text) : Nat := Nat.ofDigitChars 10 cs 0

/-- A plus sign stands before a digit, as `BigInt` has it. -/
def Decimal.PlusBeforeDigit (d : Decimal) : Prop :=
  d.sign = .plus → d.whole ≠ []

/-- What the string denotes. -/
def Decimal.value (d : Decimal) : ℚ :=
  d.sign.factor * (number d.whole + number d.digits / 10 ^ d.digits.length)

/-- The same in units of 10^-7. -/
def Decimal.scaled (d : Decimal) : Int :=
  d.sign.factor * (number d.whole * 10 ^ 7
    + number d.digits * 10 ^ (7 - d.digits.length))

variable {d : Decimal} {s cs whole frac : Text}

/-- With at most seven digits after the point, the scaled integer is the
value times ten to the seventh. -/
theorem Decimal.scaled_eq (h : d.digits.length ≤ 7) :
    (d.scaled : ℚ) = 10 ^ 7 * d.value := by
  unfold scaled value
  push_cast
  rw [pow_sub₀ (10 : ℚ) (by norm_num) h]
  ring

-- ================================================================ the reader

/-- A text of digits has no point in it. -/
theorem point_notMem (h : ∀ c ∈ cs, c.isDigit = true) : '.' ∉ cs := by
  intro hmem
  exact absurd (h '.' hmem) (by decide)

/-- The reader, once its two halves are read. -/
theorem read_of (s : Text) (negative : Bool) {unsigned : Text} {w f : Int}
    {rest : List Text} (hneg : decide (s.head? = some '-') = negative)
    (hun : (if negative then s.drop 1 else s) = unsigned)
    (hsplit : unsigned.splitOn '.' = whole :: rest)
    (hwhole : bigIntOf (String.ofList (orZero whole)) = .ok w)
    (hfrac : bigIntOf (String.ofList (orZero
      ((rest.headD [] ++ "0000000".toList).take 7))) = .ok f) :
    decimalStringToScaled s
      = .ok (if negative then -(w * priceScale + f)
          else w * priceScale + f) := by
  unfold decimalStringToScaled
  simp only [hneg, hun, hsplit, List.headD_cons, List.drop_succ_cons,
    List.drop_zero, hwhole, hfrac]
  rfl

/-- The integer part may be empty. -/
theorem read_whole (h : ∀ c ∈ whole, c.isDigit = true) :
    bigIntOf (String.ofList (orZero whole)) = .ok (number whole : Int) := by
  unfold orZero
  split
  · next hnil =>
    rw [hnil]
    exact bigIntOf_digits (fun c hc => List.mem_singleton.mp hc ▸ rfl)
      (List.cons_ne_nil '0' [])
  · next hne => exact bigIntOf_digits h hne

/-- The fraction is filled up with zeros. -/
theorem read_frac (h : ∀ c ∈ frac, c.isDigit = true)
    (hlen : frac.length ≤ 7) :
    bigIntOf (String.ofList (orZero ((frac ++ "0000000".toList).take 7)))
      = .ok (number frac * 10 ^ (7 - frac.length) : Int) := by
  have htake : (frac ++ "0000000".toList).take 7
      = frac ++ List.replicate (7 - frac.length) '0' := by
    rw [List.take_append, List.take_of_length_le hlen,
      show "0000000".toList = List.replicate 7 '0' from rfl,
      List.take_replicate, Nat.min_eq_left (Nat.sub_le 7 _)]
  rw [htake, read_whole, number, Nat.ofDigitChars_append,
    Nat.ofDigitChars_replicate_zero, ← number]
  · push_cast
    rw [Int.mul_comm]
  · intro c hc
    rcases List.mem_append.mp hc with hc | hc
    · exact h c hc
    · rw [List.eq_of_mem_replicate hc]
      rfl

/-- Splitting gives the two parts back, whatever the sign left before
them. -/
theorem split_point (d : Decimal) (hwhole : '.' ∉ whole) :
    (whole ++ d.frac.elim [] ('.' :: ·)).splitOn '.'
      = whole :: d.frac.toList := by
  cases hf : d.frac with
  | none =>
      rw [Option.elim_none, List.append_nil,
        List.splitOn_eq_singleton hwhole]
      rfl
  | some f =>
      rw [Option.elim_some, List.splitOn_append_cons_self_of_not_mem hwhole,
        List.splitOn_eq_singleton (point_notMem (d.frac_digits f hf))]
      rfl

/-- A decimal without a point has no digits after it. -/
theorem toList_headD (d : Decimal) : d.frac.toList.headD [] = d.digits := by
  unfold Decimal.digits
  cases d.frac with
  | none => rfl
  | some f => rfl

/-- What stands after the point are digits. -/
theorem Decimal.digits_digits (d : Decimal) :
    ∀ c ∈ d.digits, c.isDigit = true := by
  intro c hc
  unfold digits at hc
  cases hf : d.frac with
  | none =>
      rw [hf] at hc
      cases hc
  | some f =>
      rw [hf] at hc
      exact d.frac_digits f hf c hc

/-- Only the sign is taken for one. -/
theorem Decimal.head_body (d : Decimal) : d.body.head? ≠ some '-' := by
  unfold body
  cases hw : d.whole with
  | nil =>
      cases d.frac with
      | none => simp
      | some f => simp
  | cons c cs =>
      intro h
      have hc := d.whole_digits c (by rw [hw]; exact List.mem_cons_self)
      rw [show c = '-' from Option.some.inj h] at hc
      exact absurd hc (by decide)

/-- A decimal string with up to seven digits after the point is read as
its value in units of 10^-7, unless a plus sign stands before the point. -/
theorem read_decimal (d : Decimal) (h : d.digits.length ≤ 7)
    (hsign : d.PlusBeforeDigit) :
    decimalStringToScaled d.text = .ok d.scaled := by
  have hfrac := read_frac d.digits_digits h
  rw [← toList_headD] at hfrac
  have hpoint := point_notMem d.whole_digits
  have hwhole := read_whole d.whole_digits
  unfold Decimal.text Decimal.scaled
  cases hs : d.sign with
  | none =>
      rw [Sign.text, List.nil_append,
        read_of d.body false (decide_eq_false d.head_body) rfl
          (split_point d hpoint) hwhole hfrac, toList_headD]
      simp [Sign.factor, priceScale]
  | minus =>
      rw [show Sign.minus.text ++ d.body = '-' :: d.body from rfl,
        read_of ('-' :: d.body) true rfl rfl (split_point d hpoint) hwhole
          hfrac, toList_headD]
      simp [Sign.factor, priceScale]
  | plus =>
      have hne : d.whole ≠ [] := hsign hs
      have hplus : '.' ∉ '+' :: d.whole := by
        simpa using hpoint
      have hread : bigIntOf (String.ofList (orZero ('+' :: d.whole)))
          = .ok (number d.whole : Int) :=
        bigIntOf_plus d.whole_digits hne
      rw [show Sign.plus.text ++ d.body
          = ('+' :: d.whole) ++ d.frac.elim [] ('.' :: ·) from rfl,
        read_of _ false rfl rfl (split_point d hplus) hread hfrac,
        toList_headD]
      simp [Sign.factor, priceScale]

-- =============================================================== the writers

/-- The writer's fraction has seven digits. -/
theorem length_frac (n : Nat) :
    (pad 7 (Nat.toDigits 10 (n % 10000000))).length = 7 := by
  apply length_pad
  rw [Nat.length_toDigits_le_iff (by decide) (by decide)]
  exact Nat.mod_lt n (by decide)

/-- Filling up with zeros leaves digits. -/
theorem pad_digits {k : Nat} (h : ∀ c ∈ cs, c.isDigit = true) :
    ∀ c ∈ pad k cs, c.isDigit = true := by
  intro c hc
  rcases List.mem_append.mp hc with hc | hc
  · rw [List.eq_of_mem_replicate hc]
    rfl
  · exact h c hc

/-- What a writer makes of a magnitude and a sign. -/
def written (sign : Sign) (n : Nat) : Decimal where
  sign := sign
  whole := Nat.toDigits 10 (n / 10000000)
  frac := some (pad 7 (Nat.toDigits 10 (n % 10000000)))
  whole_digits := (canonical_toDigits _).digits
  frac_digits f hf := by
    injection hf with hf
    exact hf ▸ pad_digits (canonical_toDigits _).digits
  some_digit := .inl Nat.toDigits_ne_nil

/-- What is written has no plus sign to worry about. -/
theorem written_sign (sign : Sign) (n : Nat) :
    (written sign n).PlusBeforeDigit :=
  fun _ => Nat.toDigits_ne_nil

/-- And reads back as the number it was written for. -/
theorem written_scaled (sign : Sign) (n : Nat) :
    (written sign n).scaled = sign.factor * n := by
  have hlen : (written sign n).digits.length = 7 := length_frac n
  have hfrac : number (written sign n).digits = n % 10000000 := by
    show number (pad 7 (Nat.toDigits 10 (n % 10000000))) = _
    rw [number, ofDigitChars_pad, Nat.ofDigitChars_ten_toDigits]
  have hwhole : number (written sign n).whole = n / 10000000 :=
    Nat.ofDigitChars_ten_toDigits
  rw [Decimal.scaled, hlen, hfrac, hwhole]
  have hdiv := Nat.div_add_mod n 10000000
  show sign.factor * _ = _
  congr 1
  omega

/-- What is written is read back. -/
theorem read_written (sign : Sign) (n : Nat) :
    decimalStringToScaled (written sign n).text = .ok (sign.factor * n) := by
  have hlen : (written sign n).digits.length = 7 := length_frac n
  rw [read_decimal _ (Nat.le_of_eq hlen) (written_sign sign n),
    written_scaled]

/-- For a natural number, truncation is division. -/
theorem tdiv_scale (n : Nat) :
    (n : Int).tdiv 10000000 = (n / 10000000 : Nat) := rfl

/-- And its remainder is the remainder. -/
theorem tmod_scale (n : Nat) :
    (n : Int).tmod 10000000 = (n % 10000000 : Nat) := rfl

/-- What the shared writer makes of a natural number. -/
theorem write_nonneg (n : Nat) :
    scaledToDecimalString n = .ok (written .none n).text := by
  unfold scaledToDecimalString
  rw [ensure, if_pos (by omega), priceScale, tdiv_scale, tmod_scale]
  rfl

/-- What the service's copy makes of one. -/
theorem service_write_nonneg (n : Nat) :
    Service.scaledToDecimalString n = (written .none n).text := by
  unfold Service.scaledToDecimalString
  rw [decide_eq_false (by omega), PriceGuard.Service.priceScale]
  rfl

/-- What it makes of a negative number, which the shared one refuses. -/
theorem service_write_neg (n : Nat) :
    Service.scaledToDecimalString (Int.negSucc n)
      = (written .minus (n + 1)).text := by
  unfold Service.scaledToDecimalString
  rw [decide_eq_true (Int.negSucc_lt_zero n), PriceGuard.Service.priceScale]
  rfl

/-- A canonical integer part with seven digits after the point is written
as it was. -/
theorem write_read (hwhole : Canonical whole)
    (hfrac : ∀ c ∈ frac, c.isDigit = true) (hlen : frac.length = 7) :
    written .none (number whole * 10000000 + number frac)
      = ⟨.none, whole, some frac, hwhole.digits,
        fun _ hf => Option.some.inj hf ▸ hfrac, .inl hwhole.nonempty⟩ := by
  have hlt : number frac < 10000000 := by
    have hlt := ofDigitChars_lt hfrac
    rwa [hlen] at hlt
  have hne : frac ≠ [] := by
    rintro rfl
    cases hlen
  have hdiv : (number whole * 10000000 + number frac) / 10000000
      = number whole := by omega
  have hmod : (number whole * 10000000 + number frac) % 10000000
      = number frac := by omega
  have hpad := pad_ofDigitChars ⟨hfrac, hne⟩
  rw [hlen] at hpad
  simp only [written, hdiv, hmod, Decimal.mk.injEq, true_and]
  exact ⟨toDigits_ofDigitChars hwhole, congrArg some hpad⟩

-- ================================================================== together

/-- The two pairs of converters. -/
structure MoneyConversions : Prop where
  /-- an amount comes back from the string it is written as -/
  decode_encode : ∀ n : Int, 0 ≤ n → ∃ s, scaledToDecimalString n = .ok s
    ∧ decimalStringToScaled s = .ok n
  /-- and a string from the amount it is read as -/
  encode_decode : ∀ whole frac : Text, Canonical whole →
    (∀ c ∈ frac, c.isDigit = true) → frac.length = 7 →
    ∃ n, decimalStringToScaled (whole ++ '.' :: frac) = .ok n
      ∧ scaledToDecimalString n = .ok (whole ++ '.' :: frac)
  /-- the reader is exact, once a plus sign has a digit to stand before -/
  exact : ∀ d : Decimal, d.digits.length ≤ 7 → d.PlusBeforeDigit →
    ∃ n, decimalStringToScaled d.text = .ok n ∧ (n : ℚ) = 10 ^ 7 * d.value
  /-- the copy writes what the shared pair writes, -/
  same_encode : ∀ n : Int, 0 ≤ n →
    scaledToDecimalString n = .ok (Service.scaledToDecimalString n)
  /-- reads what it reads, -/
  same_decode : ∀ s, Service.decimalStringToScaled s
    = decimalStringToScaled s
  /-- and goes both ways with a sign as well -/
  signed : ∀ n : Int, Service.decimalStringToScaled
    (Service.scaledToDecimalString n) = .ok n

/-- Everything together. -/
theorem money_conversions : MoneyConversions where
  decode_encode n hn := by
    obtain ⟨m, rfl⟩ := Int.eq_ofNat_of_zero_le hn
    refine ⟨_, write_nonneg m, (read_written .none m).trans ?_⟩
    rw [Sign.factor, Int.one_mul]
  encode_decode whole frac hwhole hfrac hlen := by
    have hsame := write_read hwhole hfrac hlen
    have hread := read_written .none (number whole * 10000000 + number frac)
    have hwrite := write_nonneg (number whole * 10000000 + number frac)
    rw [hsame] at hread hwrite
    rw [Sign.factor, Int.one_mul] at hread
    exact ⟨_, hread, hwrite⟩
  exact d h hsign := ⟨d.scaled, read_decimal d h hsign, d.scaled_eq h⟩
  same_encode n hn := by
    obtain ⟨m, rfl⟩ := Int.eq_ofNat_of_zero_le hn
    rw [write_nonneg, service_write_nonneg]
  same_decode _ := rfl
  signed n := by
    show decimalStringToScaled _ = _
    cases n with
    | ofNat m =>
        refine (congrArg decimalStringToScaled
          (service_write_nonneg m)).trans ?_
        rw [read_written, Sign.factor, Int.one_mul]
        rfl
    | negSucc m =>
        rw [service_write_neg, read_written, Sign.factor]
        exact congrArg Except.ok (by omega)

/-- Half a unit with a plus sign and no integer part. -/
def plusPoint : Decimal where
  sign := .plus
  whole := []
  frac := some ['5']
  whole_digits _ hc := nomatch hc
  frac_digits f hf := by
    obtain rfl : ['5'] = f := Option.some.inj hf
    intro c hc
    rw [List.mem_singleton.mp hc]
    rfl
  some_digit := .inr ⟨_, rfl, List.cons_ne_nil _ _⟩

/-- A signed decimal string with one digit after the point, which the
reader refuses: `BigInt` is asked for `+`. -/
theorem plus_point_refused :
    plusPoint.text = "+.5".toList ∧ plusPoint.digits.length ≤ 7
      ∧ ∀ n, decimalStringToScaled plusPoint.text ≠ .ok n := by
  have hthrows : (decimalStringToScaled plusPoint.text).isOk = false := by
    decide +kernel
  refine ⟨rfl, by decide, fun n hn => ?_⟩
  rw [hn] at hthrows
  cases hthrows

/-- One price, there and back. -/
example : scaledToDecimalString 1234567890 = .ok "123.4567890".toList
    ∧ Service.scaledToDecimalString (-5) = "-0.0000005".toList := by
  decide

end Ballast.DomainTypes
