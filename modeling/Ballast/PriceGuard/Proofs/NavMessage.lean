/-
The NAV message stands for one asset code, time and value, and is the
same on both sides.

The digit loops write what `Nat.toDigits` writes, and the longest number
of each width just fits (`u64ToBytes_ok`, `i128ToBytes_ok`), so the
subtraction never overflows and the numerals are canonical. A numeral
holds no colon: whatever the code holds, the message comes apart at its
last two (`buildNavMessage_injective`). The service's template literal is
encoded to the same bytes (`canonicalNavMessage_eq`).

# Bytes and digits

The contract writes a number from its last digit to its first into a
buffer of fixed width and hands out what has been filled. `digitLoop_eq`
and `pushMagnitude_ok` relate the two loops to `Nat.toDigits`, each by
induction on the number under division by ten, and need only that the
buffer has room for the digits. Room is a fact about the widths: 20
digits hold every `u64`, and 39 and a sign every `i128`
(`length_digits`).

# The service

On the other side the message is a JavaScript template literal over a
`bigint`, encoded as UTF-8. What is not ASCII can only be in the asset
code, where both sides take the bytes as they are, so the two messages
agree byte for byte.
-/
import Ballast.Common.Cut
import Ballast.PriceGuard.DecimalAscii
import Ballast.PriceGuard.Service

namespace Ballast.PriceGuard

open Soroban Numerals

-- ================================================================ the bytes

/-- ASCII, a byte for each character. -/
def ascii (cs : List Char) : Bytes := cs.map fun c => UInt8.ofNat c.toNat

/-- The canonical decimal of `n`: digits that denote its magnitude, no
superfluous zero in front of them, and a minus sign for a negative
number. -/
def CanonicalDecimal (n : Int) (bytes : Bytes) : Prop :=
  ∃ cs, Canonical cs ∧ Nat.ofDigitChars 10 cs 0 = n.natAbs
    ∧ bytes = (if n < 0 then [45] else []) ++ ascii cs

variable {cs ds : List Char} {n : Nat}

/-- A digit lies between `0` and `9` in code points. -/
theorem toNat_of_isDigit {c : Char} (h : c.isDigit = true) :
    48 ≤ c.toNat ∧ c.toNat ≤ 57 := by
  have hval : c.toNat = c.val.toNat := rfl
  simpa [Char.isDigit, UInt32.le_iff_toNat_le] using h

/-- So does each byte of a text of digits. -/
theorem mem_ascii {b : UInt8} (h : ∀ c ∈ cs, c.isDigit = true)
    (hb : b ∈ ascii cs) : 48 ≤ b.toNat ∧ b.toNat ≤ 57 := by
  obtain ⟨c, hc, rfl⟩ := List.mem_map.mp hb
  have hrange := toNat_of_isDigit (h c hc)
  rw [UInt8.toNat_ofNat', Nat.mod_eq_of_lt (by omega)]
  exact hrange

/-- Digits are told apart by their bytes. -/
theorem ascii_inj (hcs : ∀ c ∈ cs, c.isDigit = true)
    (hds : ∀ c ∈ ds, c.isDigit = true) (h : ascii cs = ascii ds) :
    cs = ds := by
  have hback : ∀ l : List Char, (∀ c ∈ l, c.isDigit = true) →
      (ascii l).map (fun b => Char.ofNat b.toNat) = l := by
    intro l hl
    rw [ascii, List.map_map]
    refine (List.map_congr_left fun c hc => ?_).trans (List.map_id l)
    have hrange := toNat_of_isDigit (hl c hc)
    show Char.ofNat (UInt8.ofNat c.toNat).toNat = c
    rw [UInt8.toNat_ofNat', Nat.mod_eq_of_lt (by omega), Char.ofNat_toNat]
  rw [← hback cs hcs, h, hback ds hds]

/-- The byte the contract computes for a digit is the digit's own. -/
theorem ascii_digit {k : Nat} (h : k < 10) :
    UInt8.ofNat (48 + k) = UInt8.ofNat (Nat.digitChar k).toNat := by
  rw [Nat.toNat_digitChar_of_lt_ten h]

-- ================================================================ the loops

/-- The loop of the model writes the digits in front. -/
theorem digitLoop_zero (room : Nat) (acc : Bytes) :
    digitLoop room 0 acc = acc := by
  cases room with
  | zero => rfl
  | succ room => rfl

/-- The loop of `u64_to_bytes` puts the digits of the number before what
is there already. -/
theorem digitLoop_eq {room : Nat} (hpos : 0 < n)
    (hroom : (Nat.toDigits 10 n).length ≤ room) (acc : Bytes) :
    digitLoop room n acc = ascii (Nat.toDigits 10 n) ++ acc := by
  induction n using Nat.base_induction 10 (by decide) generalizing room acc with
  | single m hm =>
      rw [Nat.toDigits_of_lt_base hm] at hroom ⊢
      cases room with
      | zero => cases hroom
      | succ room =>
          rw [digitLoop, if_pos hpos, Nat.div_eq_of_lt hm, digitLoop_zero,
            Nat.mod_eq_of_lt hm, ascii_digit hm]
          rfl
  | digit m k hk hm ih =>
      have hdigits : Nat.toDigits 10 (10 * m + k)
          = Nat.toDigits 10 m ++ [Nat.digitChar k] := by
        rw [← Nat.toDigits_append_toDigits (by decide) hm hk,
          Nat.toDigits_of_lt_base hk]
      rw [hdigits, List.length_append, List.length_singleton] at hroom
      cases room with
      | zero => omega
      | succ room =>
          rw [digitLoop, if_pos hpos, show (10 * m + k) / 10 = m by omega,
            show (10 * m + k) % 10 = k by omega,
            ih hm (by omega), hdigits, ascii_digit hk]
          simp [ascii]

/-- From an empty buffer it leaves the digits; zero is one digit. -/
theorem digitBytes_eq {room : Nat}
    (hroom : (Nat.toDigits 10 n).length ≤ room) :
    digitBytes room n = ascii (Nat.toDigits 10 n) := by
  unfold digitBytes
  by_cases h : n = 0
  · rw [if_pos h, h]
    rfl
  · rw [if_neg h, digitLoop_eq (Nat.pos_of_ne_zero h) hroom,
      List.append_nil]

namespace DecimalAscii

variable {size : Nat} {s : Buffer size}

/-- A byte goes in front of what is written, while there is room. -/
theorem push_ok (b : UInt8) (h : 0 < s.i) : ∃ s', s.push b = .ok s'
    ∧ s'.slice = b :: s.slice ∧ s'.i = s.i - 1 := by
  have hlt : s.i - 1 < size := by
    have := s.inside
    omega
  refine ⟨⟨s.buf.set (s.i - 1) b hlt, s.i - 1, Nat.le_of_lt hlt⟩, ?_, ?_,
    rfl⟩
  · rw [Buffer.push, dif_pos h]
  · have hlen : s.i - 1 < (s.buf.toList.set (s.i - 1) b).length := by
      simpa using hlt
    show (s.buf.set (s.i - 1) b hlt).toList.drop (s.i - 1) = _
    rw [Vector.toList_set, List.drop_eq_getElem_cons hlen,
      List.getElem_set_self, List.drop_set_of_lt (Nat.lt_succ_self _),
      Nat.succ_eq_add_one, Nat.sub_add_cancel h]
    rfl

/-- The loop of `i128_to_bytes` writes nothing for zero: that case is the
caller's. -/
theorem pushDigits_zero : pushDigits 0 s = .ok s := by
  rw [pushDigits, if_neg (Nat.lt_irrefl 0)]

/-- A loop with room for its digits does not fail. -/
theorem pushDigits_ok (hpos : 0 < n)
    (hroom : (Nat.toDigits 10 n).length ≤ s.i) :
    ∃ s', pushDigits n s = .ok s'
      ∧ s'.slice = ascii (Nat.toDigits 10 n) ++ s.slice
      ∧ s'.i = s.i - (Nat.toDigits 10 n).length := by
  induction n using Nat.base_induction 10 (by decide) generalizing s with
  | single m hm =>
      rw [Nat.toDigits_of_lt_base hm, List.length_singleton] at *
      obtain ⟨s', hpush, hslice, hi⟩ :=
        push_ok (UInt8.ofNat (48 + m % 10)) hroom
      refine ⟨s', ?_, ?_, hi⟩
      · rw [pushDigits, if_pos hpos, hpush, Nat.div_eq_of_lt hm]
        exact pushDigits_zero
      · rw [hslice, Nat.mod_eq_of_lt hm, ascii_digit hm]
        rfl
  | digit m k hk hm ih =>
      have hdigits : Nat.toDigits 10 (10 * m + k)
          = Nat.toDigits 10 m ++ [Nat.digitChar k] := by
        rw [← Nat.toDigits_append_toDigits (by decide) hm hk,
          Nat.toDigits_of_lt_base hk]
      rw [hdigits, List.length_append, List.length_singleton] at hroom ⊢
      obtain ⟨s', hpush, hslice, hi⟩ :=
        push_ok (UInt8.ofNat (48 + (10 * m + k) % 10))
          (show 0 < s.i by omega)
      obtain ⟨s'', hloop, hall, hlast⟩ := ih hm (s := s') (by omega)
      refine ⟨s'', ?_, ?_, by omega⟩
      · rw [pushDigits, if_pos hpos, hpush,
          show (10 * m + k) / 10 = m by omega]
        exact hloop
      · rw [hall, hslice, show (10 * m + k) % 10 = k by omega,
          ascii_digit hk]
        simp [ascii]

/-- A magnitude whose digits fit is written in full, and the index stands
before its first digit. -/
theorem pushMagnitude_ok (hroom : (Nat.toDigits 10 n).length ≤ s.i) :
    ∃ s', pushMagnitude n s = .ok s'
      ∧ s'.slice = ascii (Nat.toDigits 10 n) ++ s.slice
      ∧ s'.i = s.i - (Nat.toDigits 10 n).length := by
  unfold pushMagnitude
  by_cases h : n = 0
  · subst h
    obtain ⟨s', hpush, hslice, hi⟩ := push_ok 48 (s := s) hroom
    refine ⟨s', ?_, hslice, hi⟩
    rw [if_pos rfl, hpush]
    exact pushDigits_zero
  · rw [if_neg h]
    exact pushDigits_ok (Nat.pos_of_ne_zero h) hroom

/-- An empty buffer has nothing to hand out. -/
theorem slice_empty (size : Nat) : (Buffer.empty size).slice = [] := by
  simp [Buffer.empty, Buffer.slice]

/-- A number below a power of ten has no more digits than the power says. -/
theorem length_digits {k : Nat} (hk : 0 < k) (h : n < 10 ^ k) :
    (Nat.toDigits 10 n).length ≤ k :=
  (Nat.length_toDigits_le_iff (by decide) hk).mpr h

/-- A `u64` has at most the twenty digits of its buffer. -/
theorem u64ToBytes_ok (h : n < 2 ^ 64) :
    u64ToBytes n = .ok (PriceGuard.u64ToBytes n) := by
  have hlen : (Nat.toDigits 10 n).length ≤ 20 :=
    length_digits (by decide) (h.trans (by decide))
  obtain ⟨s', hpush, hslice, -⟩ :=
    pushMagnitude_ok (s := Buffer.empty 20) hlen
  rw [slice_empty, List.append_nil] at hslice
  rw [PriceGuard.u64ToBytes, digitBytes_eq hlen, ← hslice]
  unfold u64ToBytes
  rw [hpush]
  rfl

/-- And an `i128` at most thirty-nine, with one byte left for the sign. -/
theorem i128ToBytes_ok {n : Int} (h : I128.Fits n) :
    i128ToBytes n = .ok (PriceGuard.i128ToBytes n) := by
  have hmag : n.natAbs < 10 ^ 39 := by
    obtain ⟨hlow, hhigh⟩ := h
    omega
  have hlen := length_digits (by decide) hmag
  obtain ⟨s', hpush, hslice, hi⟩ :=
    pushMagnitude_ok (s := Buffer.empty 40) (hlen.trans (by decide))
  rw [slice_empty, List.append_nil] at hslice
  unfold i128ToBytes PriceGuard.i128ToBytes
  rw [hpush]
  by_cases hneg : n < 0
  · have hroom : 0 < s'.i := by
      have hsize : (Buffer.empty 40).i = 40 := rfl
      omega
    obtain ⟨s'', hsign, hall, -⟩ := push_ok 45 hroom
    rw [if_pos hneg, digitBytes_eq hlen, ← hslice, ← hall]
    show (if decide (n < 0) = true
      then s'.push 45 >>= fun s => .ok s.slice else .ok s'.slice) = _
    rw [decide_eq_true hneg, if_pos rfl, hsign]
    rfl
  · rw [if_neg hneg, digitBytes_eq (hlen.trans (by decide)), ← hslice]
    show (if decide (n < 0) = true
      then s'.push 45 >>= fun s => .ok s.slice else .ok s'.slice) = _
    rw [decide_eq_false hneg, if_neg Bool.false_ne_true]

/-- Within the widths of its arguments, building the message never traps. -/
theorem buildNavMessage_ok (assetCode : Bytes) {ts : Nat} {value : Int}
    (hts : ts < 2 ^ 64) (hvalue : I128.Fits value) :
    buildNavMessage assetCode ts value
      = .ok (PriceGuard.buildNavMessage assetCode ts value) := by
  unfold buildNavMessage
  rw [u64ToBytes_ok hts, i128ToBytes_ok hvalue]
  rfl

end DecimalAscii

-- ============================================================== the numerals

/-- The time is written as its decimal digits. -/
theorem u64ToBytes_eq (h : n < 2 ^ 64) :
    u64ToBytes n = ascii (Nat.toDigits 10 n) :=
  digitBytes_eq (DecimalAscii.length_digits (by decide)
    (h.trans (by decide)))

/-- The value is written as its decimal digits, after a minus sign if it
is negative. -/
theorem i128ToBytes_eq {n : Int} (h : I128.Fits n) : i128ToBytes n
    = (if n < 0 then [45] else []) ++ ascii (Nat.toDigits 10 n.natAbs) := by
  have hmag : n.natAbs < 10 ^ 39 := by
    obtain ⟨hlow, hhigh⟩ := h
    omega
  have hlen := DecimalAscii.length_digits (by decide) hmag
  unfold i128ToBytes
  by_cases hneg : n < 0
  · rw [if_pos hneg, if_pos hneg, digitBytes_eq hlen]
    rfl
  · rw [if_neg hneg, if_neg hneg, digitBytes_eq (hlen.trans (by decide))]
    rfl

/-- No leading zero and no sign. -/
theorem u64ToBytes_canonical (h : n < 2 ^ 64) :
    CanonicalDecimal n (u64ToBytes n) := by
  refine ⟨_, canonical_toDigits n, Nat.ofDigitChars_ten_toDigits, ?_⟩
  rw [u64ToBytes_eq h, if_neg (by omega)]
  rfl

/-- No leading zero, no plus sign and no minus zero. -/
theorem i128ToBytes_canonical {n : Int} (h : I128.Fits n) :
    CanonicalDecimal n (i128ToBytes n) :=
  ⟨_, canonical_toDigits _, Nat.ofDigitChars_ten_toDigits, i128ToBytes_eq h⟩

/-- No numeral holds a colon. -/
theorem CanonicalDecimal.colon_notMem {n : Int} {bytes : Bytes}
    (h : CanonicalDecimal n bytes) : 58 ∉ bytes := by
  obtain ⟨cs, hcs, -, rfl⟩ := h
  intro hmem
  rcases List.mem_append.mp hmem with hmem | hmem
  · split at hmem
    · exact absurd (List.mem_singleton.mp hmem) (by decide)
    · cases hmem
  · have hrange := mem_ascii hcs.digits hmem
    exact absurd hrange.2 (by decide)

/-- A numeral denotes one number. -/
theorem CanonicalDecimal.inj {n m : Int} {bytes : Bytes}
    (hn : CanonicalDecimal n bytes) (hm : CanonicalDecimal m bytes) :
    n = m := by
  obtain ⟨cs, hcs, hvalue, hbytes⟩ := hn
  obtain ⟨ds, hds, hvalue', hbytes'⟩ := hm
  have hsign : ∀ l : List Char, (∀ c ∈ l, c.isDigit = true) →
      ∀ l', ascii l ≠ 45 :: l' := by
    intro l hl l' heq
    have hrange := mem_ascii hl (b := 45) (by
      rw [heq]
      exact List.mem_cons_self)
    exact absurd hrange.1 (by decide)
  rw [hbytes] at hbytes'
  by_cases hneg : n < 0
  · by_cases hneg' : m < 0
    · rw [if_pos hneg, if_pos hneg'] at hbytes'
      have heq := ascii_inj hcs.digits hds.digits
        (List.append_cancel_left hbytes')
      rw [heq, hvalue'] at hvalue
      omega
    · rw [if_pos hneg, if_neg hneg'] at hbytes'
      exact absurd hbytes'.symm (hsign ds hds.digits _)
  · by_cases hneg' : m < 0
    · rw [if_neg hneg, if_pos hneg'] at hbytes'
      exact absurd hbytes' (hsign cs hcs.digits _)
    · rw [if_neg hneg, if_neg hneg'] at hbytes'
      have heq := ascii_inj hcs.digits hds.digits
        (List.append_cancel_left hbytes')
      rw [heq, hvalue'] at hvalue
      omega

-- =============================================================== the message

/-- The message comes apart at its last two colons. -/
theorem buildNavMessage_injective {code code' : Bytes} {ts ts' : Nat}
    {value value' : Int} (hts : ts < 2 ^ 64) (hts' : ts' < 2 ^ 64)
    (hvalue : I128.Fits value) (hvalue' : I128.Fits value')
    (h : buildNavMessage code ts value = buildNavMessage code' ts' value') :
    code = code' ∧ ts = ts' ∧ value = value' := by
  have hshape : ∀ (c : Bytes) t v, buildNavMessage c t v
      = (c ++ 58 :: u64ToBytes t) ++ 58 :: i128ToBytes v := by
    intro c t v
    simp [buildNavMessage]
  rw [hshape, hshape] at h
  obtain ⟨hfront, hback⟩ := cut_last
    (i128ToBytes_canonical hvalue).colon_notMem
    (i128ToBytes_canonical hvalue').colon_notMem h
  obtain ⟨hcode, hmiddle⟩ := cut_last (u64ToBytes_canonical hts).colon_notMem
    (u64ToBytes_canonical hts').colon_notMem hfront
  refine ⟨hcode, ?_, ?_⟩
  · have htime := u64ToBytes_canonical hts
    rw [hmiddle] at htime
    exact Int.ofNat.inj (htime.inj (u64ToBytes_canonical hts'))
  · have hval := i128ToBytes_canonical hvalue
    rw [hback] at hval
    exact hval.inj (i128ToBytes_canonical hvalue')

-- =============================================================== the service

/-- The bytes of a string. -/
def utf8 (s : String) : Bytes := s.toUTF8.data.toList

/-- Encoding goes piece by piece. -/
theorem utf8_append (s t : String) : utf8 (s ++ t) = utf8 s ++ utf8 t := by
  simp [utf8]

/-- Characters below 128 are one byte each. -/
theorem utf8_ascii (h : ∀ c ∈ cs, c.toNat < 128) :
    utf8 (String.ofList cs) = ascii cs := by
  rw [utf8, String.toUTF8_eq_toByteArray, String.toByteArray_ofList,
    List.utf8Encode, List.toList_data_toByteArray]
  induction cs with
  | nil => rfl
  | cons c cs ih =>
      have hc : c.val.toNat ≤ 127 :=
        Nat.le_of_lt_succ (h c List.mem_cons_self)
      rw [List.flatMap_cons, ih fun d hd => h d (List.mem_cons_of_mem c hd)]
      unfold String.utf8EncodeChar
      rw [if_pos hc]
      rfl

/-- Digits are their own encoding. -/
theorem utf8_digits (n : Nat) :
    utf8 (String.ofList (Nat.toDigits 10 n)) = ascii (Nat.toDigits 10 n) := by
  apply utf8_ascii
  intro c hc
  have hrange := toNat_of_isDigit ((canonical_toDigits n).digits c hc)
  omega

/-- A `bigint` in a template literal comes out as the contract writes it. -/
theorem utf8_bigint {value : Int} (h : I128.Fits value) :
    utf8 (Js.text (.bigint value)) = i128ToBytes value := by
  rw [i128ToBytes_eq h, Js.text]
  cases value with
  | ofNat n => exact utf8_digits n
  | negSucc n =>
      show utf8 (String.ofList (['-'] ++ Nat.toDigits 10 (n + 1))) = _
      rw [String.ofList_append, utf8_append, utf8_digits,
        if_pos (Int.negSucc_lt_zero n)]
      rfl

/-- The service encodes the same bytes. -/
theorem canonicalNavMessage_eq (assetCode : String) {ts : Nat} {value : Int}
    (hts : ts < 2 ^ 53) (hvalue : I128.Fits value) :
    Service.canonicalNavMessage assetCode ts value
      = buildNavMessage (utf8 assetCode) ts value := by
  have hnumber : utf8 (Js.text (.number ts)) = u64ToBytes ts := by
    rw [u64ToBytes_eq (hts.trans (by decide))]
    exact utf8_digits ts
  have hcolon : utf8 ":" = [58] := rfl
  show utf8 (assetCode ++ ":" ++ Js.text (.number ts) ++ ":"
    ++ Js.text (.bigint value)) = _
  rw [utf8_append, utf8_append, utf8_append, utf8_append, hnumber,
    utf8_bigint hvalue, hcolon]
  rfl

-- ================================================================== together

/-- The message of the contract and of the service. -/
structure NavMessage : Prop where
  /-- every `u64` fits the buffer and gets its canonical decimal -/
  u64 : ∀ n, n < 2 ^ 64 → ∃ bytes, DecimalAscii.u64ToBytes n = .ok bytes
    ∧ CanonicalDecimal n bytes
  /-- and so does every `i128` -/
  i128 : ∀ n, I128.Fits n → ∃ bytes, DecimalAscii.i128ToBytes n = .ok bytes
    ∧ CanonicalDecimal n bytes
  /-- the message is built, -/
  built : ∀ code ts value, ts < 2 ^ 64 → I128.Fits value →
    ∃ message, DecimalAscii.buildNavMessage code ts value = .ok message
  /-- from one code, time and value, -/
  injective : ∀ code code' ts ts' value value' message, ts < 2 ^ 64 →
    ts' < 2 ^ 64 → I128.Fits value → I128.Fits value' →
    DecimalAscii.buildNavMessage code ts value = .ok message →
    DecimalAscii.buildNavMessage code' ts' value' = .ok message →
    code = code' ∧ ts = ts' ∧ value = value'
  /-- and is the one the service signs -/
  service : ∀ assetCode ts value, ts < 2 ^ 53 → I128.Fits value →
    DecimalAscii.buildNavMessage (utf8 assetCode) ts value
      = .ok (Service.canonicalNavMessage assetCode ts value)

/-- The message on both sides, with every part of the statement. -/
theorem nav_message_unambiguous : NavMessage where
  u64 n h := ⟨_, DecimalAscii.u64ToBytes_ok h, u64ToBytes_canonical h⟩
  i128 n h := ⟨_, DecimalAscii.i128ToBytes_ok h, i128ToBytes_canonical h⟩
  built code ts value hts hvalue :=
    ⟨_, DecimalAscii.buildNavMessage_ok code hts hvalue⟩
  injective code code' ts ts' value value' message hts hts' hvalue hvalue'
      hbuilt hbuilt' := by
    rw [DecimalAscii.buildNavMessage_ok code hts hvalue] at hbuilt
    rw [DecimalAscii.buildNavMessage_ok code' hts' hvalue'] at hbuilt'
    exact buildNavMessage_injective hts hts' hvalue hvalue'
      (Except.ok.inj (hbuilt.trans hbuilt'.symm))
  service assetCode ts value hts hvalue := by
    rw [DecimalAscii.buildNavMessage_ok _ (hts.trans (by decide)) hvalue,
      canonicalNavMessage_eq assetCode hts hvalue]

end Ballast.PriceGuard
