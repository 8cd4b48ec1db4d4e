/-
Bytes in hexadecimal, as Node's `Buffer` writes and reads them.

Writing is total and lower-case. Reading is lenient: it takes two digits
at a time, either case, and stops at the first pair that is not one, so
many texts read as the same bytes. What was written reads back
(`ofHex_toHex`), so writing is injective.

A text that was not written by `toHex` may read as bytes too, one that
does not begin with two digits as none at all. Where that matters, the
results ask for the text to have been written, or compare bytes and not
texts.
-/
import Mathlib.Tactic.Common
import Mathlib.Tactic.IntervalCases

namespace Ballast.Hex

/-- `buffer.toString("hex")`. -/
def toHex : List UInt8 → List Char
  | [] => []
  | b :: bs =>
      Nat.digitChar (b.toNat / 16) :: Nat.digitChar (b.toNat % 16)
        :: toHex bs

/-- The value of a hexadecimal digit. -/
def unhex (c : Char) : Option Nat :=
  if '0' ≤ c ∧ c ≤ '9' then some (c.toNat - 48)
  else if 'a' ≤ c ∧ c ≤ 'f' then some (c.toNat - 87)
  else if 'A' ≤ c ∧ c ≤ 'F' then some (c.toNat - 55)
  else none

/-- `Buffer.from(text, "hex")`. -/
def ofHex : List Char → List UInt8
  | a :: b :: rest =>
      match unhex a, unhex b with
      | some x, some y => UInt8.ofNat (16 * x + y) :: ofHex rest
      | _, _ => []
  | _ => []

theorem unhex_digitChar {n : Nat} (h : n < 16) :
    unhex (Nat.digitChar n) = some n := by
  interval_cases n <;> rfl

@[simp] theorem ofHex_toHex (bs : List UInt8) : ofHex (toHex bs) = bs := by
  induction bs with
  | nil => rfl
  | cons b bs ih =>
      have hb : b.toNat < 256 := b.toNat_lt
      have hsplit : 16 * (b.toNat / 16) + b.toNat % 16 = b.toNat :=
        Nat.div_add_mod _ _
      simp only [toHex, ofHex]
      rw [unhex_digitChar (by omega), unhex_digitChar (by omega), ih]
      simp only [hsplit, UInt8.ofNat_toNat]

theorem toHex_injective : Function.Injective toHex := by
  intro bs cs h
  rw [← ofHex_toHex bs, h, ofHex_toHex]

/-- Hexadecimal text holds digits only. -/
theorem isSome_unhex_of_mem {bs : List UInt8} {c : Char}
    (h : c ∈ toHex bs) : (unhex c).isSome := by
  induction bs with
  | nil => cases h
  | cons b bs ih =>
      have hb : b.toNat < 256 := b.toNat_lt
      simp only [toHex, List.mem_cons] at h
      rcases h with rfl | rfl | h
      · rw [unhex_digitChar (by omega)]
        rfl
      · rw [unhex_digitChar (by omega)]
        rfl
      · exact ih h

end Ballast.Hex
