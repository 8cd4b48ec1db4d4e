/-
Decimal numerals as lists of digits, most significant first.

The library writes a number with `Nat.toDigits 10` and reads one with
`Nat.ofDigitChars 10`; the second undoes the first. Here is the other
way round: a numeral without superfluous zeros is the one its value is
written with (`toDigits_ofDigitChars`), and one of a fixed width is that
filled up with zeros (`pad_ofDigitChars`).

A reader that cuts a text into parts and takes each for a number, and a
writer that puts numbers together with separators, meet in these two:
the first says when two texts of different digits are one number, and
the second lets a fraction keep the zeros in front of it.
-/
import Mathlib.Algebra.Order.Ring.Nat
import Mathlib.Data.Nat.Basic
import Mathlib.Data.List.Induction

namespace Ballast.Numerals

/-- All digits, at least one. -/
structure Digits (cs : List Char) : Prop where
  digits : ∀ c ∈ cs, c.isDigit = true
  nonempty : cs ≠ []

/-- And no zero in front of another digit. -/
structure Canonical (cs : List Char) : Prop extends Digits cs where
  leading : cs.head? = some '0' → cs = ['0']

variable {cs ds : List Char} {c : Char}

theorem digitChar_toNat (h : c.isDigit = true) :
    c.toNat - '0'.toNat < 10 ∧ Nat.digitChar (c.toNat - '0'.toNat) = c := by
  have hzero : '0'.toNat = 48 := rfl
  have hval : c.toNat = c.val.toNat := rfl
  have hrange : 48 ≤ c.toNat ∧ c.toNat ≤ 57 := by
    simpa [Char.isDigit, UInt32.le_iff_toNat_le] using h
  have hlt : c.toNat - '0'.toNat < 10 := by omega
  refine ⟨hlt, ?_⟩
  apply Char.ext
  rw [← UInt32.toNat_inj]
  show (Nat.digitChar (c.toNat - '0'.toNat)).toNat = c.toNat
  rw [Nat.toNat_digitChar_of_lt_ten hlt]
  omega

theorem ofDigitChars_snoc (cs : List Char) (c : Char) :
    Nat.ofDigitChars 10 (cs ++ [c]) 0
      = 10 * Nat.ofDigitChars 10 cs 0 + (c.toNat - '0'.toNat) := by
  rw [Nat.ofDigitChars_append, Nat.ofDigitChars_cons, Nat.ofDigitChars_nil]

theorem ofDigitChars_lt (h : ∀ c ∈ cs, c.isDigit = true) :
    Nat.ofDigitChars 10 cs 0 < 10 ^ cs.length := by
  induction cs using List.reverseRecOn with
  | nil => simp
  | append_singleton cs c ih =>
      have hcs := ih fun d hd => h d (List.mem_append_left _ hd)
      have hc := (digitChar_toNat (h c (by simp))).1
      rw [ofDigitChars_snoc, List.length_append, List.length_singleton,
        Nat.pow_succ]
      omega

theorem head_append (h : cs ≠ []) : (cs ++ ds).head? = cs.head? := by
  cases cs with
  | nil => exact absurd rfl h
  | cons c cs => rfl

theorem canonical_toDigits (n : Nat) : Canonical (Nat.toDigits 10 n) where
  digits _ hc := Nat.isDigit_of_mem_toDigits (by decide) (by decide) hc
  nonempty := Nat.toDigits_ne_nil
  leading := by
    induction n using Nat.base_induction 10 (by decide) with
    | single m hm =>
        rw [Nat.toDigits_of_lt_base hm]
        intro h
        injection h with h
        rw [h]
    | digit m k hk hm ih =>
        rw [← Nat.toDigits_append_toDigits (by decide) hm hk,
          head_append Nat.toDigits_ne_nil]
        intro h
        have hzero := congrArg (Nat.ofDigitChars 10 · 0) (ih h)
        rw [Nat.ofDigitChars_ten_toDigits] at hzero
        exact absurd hzero (by simp [Nat.ofDigitChars_cons]; omega)

/-- What is read of a numeral without superfluous zeros is written as that
numeral. -/
theorem toDigits_ofDigitChars (h : Canonical cs) :
    Nat.toDigits 10 (Nat.ofDigitChars 10 cs 0) = cs := by
  induction cs using List.reverseRecOn with
  | nil => exact absurd rfl h.nonempty
  | append_singleton cs c ih =>
      obtain ⟨hlt, hc⟩ := digitChar_toNat (h.digits c (by simp))
      rw [ofDigitChars_snoc]
      by_cases hnil : cs = []
      · subst hnil
        rw [Nat.ofDigitChars_nil, Nat.mul_zero, Nat.zero_add,
          Nat.toDigits_of_lt_base hlt, hc]
        rfl
      · have hlead : cs.head? ≠ some '0' := by
          intro hzero
          have hone := h.leading ((head_append hnil).trans hzero)
          have hlen := congrArg List.length hone
          rw [List.length_append] at hlen
          exact hnil (List.length_eq_zero_iff.mp (by simpa using hlen))
        have hcs : Canonical cs :=
          ⟨⟨fun d hd => h.digits d (List.mem_append_left _ hd), hnil⟩,
            fun hzero => absurd hzero hlead⟩
        have hvalue := ih hcs
        have hpos : 0 < Nat.ofDigitChars 10 cs 0 := by
          by_contra hno
          rw [show Nat.ofDigitChars 10 cs 0 = 0 by omega] at hvalue
          exact hlead (by rw [← hvalue]; rfl)
        rw [← Nat.toDigits_append_toDigits (by decide) hpos hlt, hvalue,
          Nat.toDigits_of_lt_base hlt, hc]

/-- `padStart(width, "0")`. -/
def pad (width : Nat) (cs : List Char) : List Char :=
  List.replicate (width - cs.length) '0' ++ cs

theorem ofDigitChars_zeros (k : Nat) (cs : List Char) :
    Nat.ofDigitChars 10 (List.replicate k '0' ++ cs) 0
      = Nat.ofDigitChars 10 cs 0 := by
  rw [Nat.ofDigitChars_append, Nat.ofDigitChars_replicate_zero, Nat.mul_zero]

@[simp] theorem ofDigitChars_pad (width : Nat) (cs : List Char) :
    Nat.ofDigitChars 10 (pad width cs) 0 = Nat.ofDigitChars 10 cs 0 :=
  ofDigitChars_zeros _ cs

theorem length_pad {width : Nat} (h : cs.length ≤ width) :
    (pad width cs).length = width := by
  rw [pad, List.length_append, List.length_replicate]
  omega

/-- A numeral is zeros and then one without superfluous zeros. -/
theorem exists_canonical (h : Digits cs) : ∃ k ds,
    cs = List.replicate k '0' ++ ds ∧ Canonical ds := by
  induction cs with
  | nil => exact absurd rfl h.nonempty
  | cons c cs ih =>
      by_cases hone : c = '0' ∧ cs ≠ []
      · obtain ⟨rfl, hne⟩ := hone
        obtain ⟨k, ds, hds, hcanonical⟩ :=
          ih ⟨fun d hd => h.digits d (List.mem_cons_of_mem _ hd), hne⟩
        exact ⟨k + 1, ds, by rw [List.replicate_succ, hds]; rfl, hcanonical⟩
      · refine ⟨0, c :: cs, rfl, ⟨h, ?_⟩⟩
        intro hzero
        injection hzero with hzero
        subst hzero
        by_cases hnil : cs = []
        · rw [hnil]
        · exact absurd ⟨rfl, hnil⟩ hone

/-- A numeral of a width is what its value is written with, filled up. -/
theorem pad_ofDigitChars (h : Digits cs) :
    pad cs.length (Nat.toDigits 10 (Nat.ofDigitChars 10 cs 0)) = cs := by
  obtain ⟨k, ds, rfl, hds⟩ := exists_canonical h
  rw [ofDigitChars_zeros, toDigits_ofDigitChars hds, pad, List.length_append,
    List.length_replicate, Nat.add_sub_cancel]

end Ballast.Numerals
