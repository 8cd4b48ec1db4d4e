/-
The case of its letters is nothing to an address.

A separator is no letter, so a text and its lower case have the same
pieces but for case. A digit has the value of its lower case, in every
base, and that is the digit's own spelling.

# The order of the facts

The URL parser and the check both lower the case of a host before they
look at it, but not at the same moment: the check lowers the text of an
address that the resolver may have returned in any case, and the parser
of addresses is asked about the text as it came. So each function of the
parser is shown to give the same answer on a text and on its lower case,
from the characters up to the whole address. Each lemma uses the one
before for the pieces it takes apart.
-/
import Ballast.Webhooks.Ssrf
import Mathlib

namespace Ballast.Webhooks

open Soroban Js

-- ============================================================= characters

/-- Only a letter changes. -/
theorem toLower_eq {c d : Char} (hlower : d.isLower = false)
    (hupper : d.isUpper = false) : c.toLower = d ↔ c = d := by
  constructor
  · intro h
    by_cases hc : c.isUpper = true
    · have halpha := Char.isLower_toLower_eq_isAlpha c
      rw [h, hlower, Char.isAlpha, hc] at halpha
      cases halpha
    · rwa [Char.toLower_eq_of_not_isUpper hc] at h
  · rintro rfl
    exact Char.toLower_eq_of_not_isUpper (by simp [hupper])

/-- What holds of the first characters of the table one by one. -/
theorem forall_ascii {P : Char → Prop} (h : ∀ k < 128, P (Char.ofNat k))
    {c : Char} (hc : c.toNat < 128) : P c := by
  have hP := h c.toNat hc
  rwa [Char.ofNat_toNat] at hP

/-- A property of the lower case is checked on the capitals. -/
theorem eq_toLower {α : Type} {f : Char → α}
    (h : ∀ k < 128, f (Char.ofNat k).toLower = f (Char.ofNat k)) (c : Char) :
    f c.toLower = f c := by
  by_cases hc : c.isUpper = true
  · have hhigh : c ≤ 'Z' := by
      simp only [Char.isUpper, decide_eq_true_eq] at hc
      exact hc.2
    rw [Char.le_def, UInt32.le_iff_toNat_le] at hhigh
    have hZ : 'Z'.val.toNat = 90 := rfl
    have hval : c.toNat = c.val.toNat := rfl
    exact forall_ascii (P := fun c => f c.toLower = f c) h (by omega)
  · rw [Char.toLower_eq_of_not_isUpper hc]

/-- Lowering a character makes no digit and unmakes none. -/
theorem isDigit_toLower (c : Char) : c.toLower.isDigit = c.isDigit :=
  eq_toLower (by decide) c

/-- A zone may hold a character exactly if it may hold its lower case. -/
theorem zoneChar_toLower (c : Char) : zoneChar c.toLower = zoneChar c :=
  eq_toLower (by decide) c

/-- A character stands for the same digit as its lower case, in every
base. -/
theorem digitOf_toLower (c : Char) : digitOf c.toLower = digitOf c :=
  eq_toLower (by decide) c

/-- The lower case of a digit is how its value is written. -/
theorem digitOf_some {c : Char} {v : Nat} (h : digitOf c = some v) :
    v < 16 ∧ c.toLower = Nat.digitChar v := by
  have hc : c.toNat < 128 := by
    have h9 : '9'.val.toNat = 57 := rfl
    have hf : 'f'.val.toNat = 102 := rfl
    have hF : 'F'.val.toNat = 70 := rfl
    have hval : c.toNat = c.val.toNat := rfl
    unfold digitOf at h
    simp only [Char.le_def, UInt32.le_iff_toNat_le] at h
    by_contra hbig
    rw [if_neg (by omega), if_neg (by omega), if_neg (by omega)] at h
    cases h
  have hall : ∀ k < 128, ∀ v ∈ digitOf (Char.ofNat k),
      v < 16 ∧ (Char.ofNat k).toLower = Nat.digitChar v := by decide
  exact forall_ascii (P := fun c => ∀ v ∈ digitOf c,
    v < 16 ∧ c.toLower = Nat.digitChar v) hall hc v h

-- ================================================================== pieces

/-- A separator without case cuts a text and its lower case at the same
places. -/
theorem splitOn_toLowerCase {sep : Char} (hlower : sep.isLower = false)
    (hupper : sep.isUpper = false) (t : Text) :
    (toLowerCase t).splitOn sep = (t.splitOn sep).map toLowerCase := by
  induction t with
  | nil => rfl
  | cons c t ih =>
      have hsep : (c.toLower == sep) = (c == sep) := by
        rw [Bool.eq_iff_iff, beq_iff_eq, beq_iff_eq]
        exact toLower_eq hlower hupper
      rw [toLowerCase, List.map_cons, List.splitOn_cons_eq_if_modifyHead,
        List.splitOn_cons_eq_if_modifyHead, hsep]
      change (if _ then [] :: (toLowerCase t).splitOn sep
        else ((toLowerCase t).splitOn sep).modifyHead _) = _
      rw [ih]
      by_cases h : (c == sep) = true
      · rw [if_pos h, if_pos h]
        rfl
      · rw [if_neg h, if_neg h]
        cases t.splitOn sep with
        | nil => rfl
        | cons p ps => rfl

/-- Only the empty text has an empty lower case. -/
theorem toLowerCase_eq_nil {t : Text} : toLowerCase t = [] ↔ t = [] :=
  List.map_eq_nil_iff

/-- Decimal digits have one spelling. -/
theorem toLowerCase_of_digits {t : Text}
    (h : ∀ c ∈ t, c.isDigit = true) : toLowerCase t = t := by
  induction t with
  | nil => rfl
  | cons c t ih =>
      have hc := h c List.mem_cons_self
      have hupper : ¬ c.isUpper = true := by
        intro hcap
        have hdigit := isDigit_iff.mp hc
        simp only [Char.isUpper, decide_eq_true_eq] at hcap
        exact (by decide : ¬ 'A' ≤ '9') (Char.le_trans hcap.1 hdigit.2)
      rw [toLowerCase, List.map_cons, Char.toLower_eq_of_not_isUpper hupper]
      exact congrArg _ (ih fun d hd => h d (List.mem_cons_of_mem c hd))

/-- A text is all digits exactly if its lower case is. -/
theorem digits_toLowerCase (t : Text) : digits (toLowerCase t) = digits t := by
  simp only [digits, ne_eq, toLowerCase, List.map_eq_nil_iff, List.all_map]
  rw [show Char.isDigit ∘ Char.toLower = Char.isDigit from
    funext isDigit_toLower]

/-- An octet has no letters, so its case is nothing to it. -/
theorem octet_toLowerCase (t : Text) : octet (toLowerCase t) = octet t := by
  by_cases h : digits t = true
  · have hall : ∀ c ∈ t, c.isDigit = true := by
      simp only [digits, decide_eq_true_eq, List.all_eq_true] at h
      exact h.2
    rw [toLowerCase_of_digits hall]
  · simp only [octet, digits_toLowerCase, h, false_and, Bool.false_eq_true,
      if_false]

/-- Nor has a dotted address. -/
theorem parseIPv4_toLowerCase (t : Text) :
    parseIPv4 (toLowerCase t) = parseIPv4 t := by
  unfold parseIPv4
  rw [splitOn_toLowerCase rfl rfl]
  match t.splitOn '.' with
  | [] => rfl
  | [_] => rfl
  | [_, _] => rfl
  | [_, _, _] => rfl
  | [a, b, c, d] => simp only [List.map_cons, List.map_nil, octet_toLowerCase]
  | _ :: _ :: _ :: _ :: _ :: _ => rfl

/-- A numeral has one value in both cases. -/
theorem digitsOf_toLowerCase (base : Nat) (t : Text) (n : Nat) :
    digitsOf base (toLowerCase t) n = digitsOf base t n := by
  induction t generalizing n with
  | nil => rfl
  | cons c t ih =>
      change digitsOf base (c.toLower :: toLowerCase t) n = _
      simp only [digitsOf, digitOf_toLower, ih]

/-- So has a group of an IPv6 address. -/
theorem hexGroup_toLowerCase (t : Text) :
    hexGroup (toLowerCase t) = hexGroup t := by
  have hlength : (toLowerCase t).length = t.length := List.length_map ..
  simp only [hexGroup, numeral, hlength, toLowerCase_eq_nil,
    digitsOf_toLowerCase]

/-- A character without case stands in both texts or in neither. -/
theorem mem_toLowerCase {c : Char} (hlower : c.isLower = false)
    (hupper : c.isUpper = false) {t : Text} : c ∈ toLowerCase t ↔ c ∈ t := by
  simp only [toLowerCase, List.mem_map, toLower_eq hlower hupper,
    exists_eq_right]

/-- The groups of an address, the last of which may be dotted. -/
theorem tailGroups_toLowerCase (ps : List Text) :
    tailGroups (ps.map toLowerCase) = tailGroups ps := by
  induction ps with
  | nil => rfl
  | cons t ps ih =>
      cases ps with
      | nil =>
          simp only [List.map_cons, List.map_nil, tailGroups,
            mem_toLowerCase (c := '.') rfl rfl, parseIPv4_toLowerCase,
            hexGroup_toLowerCase]
      | cons t' ps =>
          simp only [List.map_cons] at ih ⊢
          simp only [tailGroups, hexGroup_toLowerCase, ih]

/-- The two halves of a compressed address. -/
theorem compressed_toLowerCase (left right : List Text) :
    compressed (left.map toLowerCase) (right.map toLowerCase)
      = compressed left right := by
  have hleft : (left.map toLowerCase).mapM hexGroup = left.mapM hexGroup := by
    induction left with
    | nil => rfl
    | cons t left ih =>
        simp only [List.map_cons, List.mapM_cons, hexGroup_toLowerCase, ih]
  have hempty : right.map toLowerCase = [[]] ↔ right = [[]] := by
    cases right with
    | nil => simp
    | cons t right => simp [toLowerCase]
  have hright : tailGroups (if right.map toLowerCase = [[]] then []
      else right.map toLowerCase)
      = tailGroups (if right = [[]] then [] else right) := by
    by_cases h : right = [[]]
    · rw [if_pos h, if_pos (hempty.mpr h)]
    · rw [if_neg h, if_neg fun h' => h (hempty.mp h'), tailGroups_toLowerCase]
  rw [compressed, compressed, hleft, hright]

/-- An address is compressed at the same place in both cases. -/
theorem splitEmpty_toLowerCase (ps : List Text) :
    splitEmpty (ps.map toLowerCase) = (splitEmpty ps).map
      fun (l, r) => (l.map toLowerCase, r.map toLowerCase) := by
  induction ps with
  | nil => rfl
  | cons t ps ih =>
      cases t with
      | nil => rfl
      | cons c t =>
          change (splitEmpty (ps.map toLowerCase)).map _ = _
          rw [ih, splitEmpty, Option.map_map, Option.map_map]
          · rfl
          · simp

/-- Pieces that do not begin with the zeros. -/
theorem parsePieces_later {ps : List Text}
    (h : ∀ p rest, ps ≠ [] :: [] :: p :: rest) :
    parsePieces ps =
      match splitEmpty ps with
      | some ([], _) => none
      | some (_, []) => none
      | some (left, right) => compressed left right
      | none => (tailGroups ps).bind fun groups =>
          if groups.length = 8 then some groups else none := by
  match ps, h with
  | [], _ => rfl
  | [[]], _ => rfl
  | (_ :: _) :: _, _ => rfl
  | [] :: (_ :: _) :: _, _ => rfl
  | [[], []], _ => rfl
  | [] :: [] :: p :: rest, h => exact (h p rest rfl).elim

/-- Cut into pieces, an address parses the same. -/
theorem parsePieces_toLowerCase (ps : List Text) :
    parsePieces (ps.map toLowerCase) = parsePieces ps := by
  by_cases hzeros : ∃ p rest, ps = [] :: [] :: p :: rest
  · obtain ⟨p, rest, rfl⟩ := hzeros
    exact compressed_toLowerCase [] (p :: rest)
  · have hlater : ∀ p rest, ps ≠ [] :: [] :: p :: rest :=
      fun p rest h => hzeros ⟨p, rest, h⟩
    have hmapped : ∀ p rest, ps.map toLowerCase ≠ [] :: [] :: p :: rest := by
      intro p rest h
      obtain ⟨q, qs, rfl, hq, h⟩ := List.map_eq_cons_iff.mp h
      obtain ⟨q', qs, rfl, hq', h⟩ := List.map_eq_cons_iff.mp h
      obtain ⟨p', qs, rfl, -, -⟩ := List.map_eq_cons_iff.mp h
      rw [toLowerCase_eq_nil] at hq hq'
      exact hlater p' qs (by rw [hq, hq'])
    rw [parsePieces_later hmapped, parsePieces_later hlater,
      splitEmpty_toLowerCase, tailGroups_toLowerCase]
    match splitEmpty ps with
    | none => rfl
    | some ([], _) => rfl
    | some (_ :: _, []) => rfl
    | some (l :: left, r :: right) =>
        exact compressed_toLowerCase (l :: left) (r :: right)

-- ============================================================== addresses

/-- The zone begins at the same place in both cases. -/
theorem toLowerCase_dropWhile (t : Text) :
    (toLowerCase t).dropWhile (· ≠ '%')
        = toLowerCase (t.dropWhile (· ≠ '%'))
      ∧ (toLowerCase t).takeWhile (· ≠ '%')
        = toLowerCase (t.takeWhile (· ≠ '%')) := by
  have hpercent : (fun c : Char => decide (c ≠ '%')) ∘ Char.toLower
      = fun c : Char => decide (c ≠ '%') := by
    funext c
    simp only [Function.comp, ne_eq, toLower_eq (d := '%') rfl rfl]
  constructor
  · rw [toLowerCase, List.dropWhile_map, hpercent]
    rfl
  · rw [toLowerCase, List.takeWhile_map, hpercent]
    rfl

/-- An address parses the same in both cases, its zone included. -/
theorem parseIPv6_toLowerCase (t : Text) :
    parseIPv6 (toLowerCase t) = parseIPv6 t := by
  obtain ⟨hdrop, htake⟩ := toLowerCase_dropWhile t
  unfold parseIPv6
  rw [hdrop, htake]
  match t.dropWhile (· ≠ '%') with
  | [] =>
      change parsePieces ((toLowerCase t).splitOn ':') = _
      rw [splitOn_toLowerCase rfl rfl, parsePieces_toLowerCase]
  | _ :: zone =>
      have hzone : (toLowerCase zone).all zoneChar = zone.all zoneChar := by
        rw [toLowerCase, List.all_map]
        exact congrArg zone.all (funext zoneChar_toLower)
      change (if toLowerCase zone ≠ [] ∧ (toLowerCase zone).all zoneChar = true
        then parsePieces ((toLowerCase _).splitOn ':') else none) = _
      rw [hzone, splitOn_toLowerCase rfl rfl, parsePieces_toLowerCase]
      simp only [ne_eq, toLowerCase_eq_nil]

/-- What is in lower case already stays as it is. -/
theorem toLowerCase_idem (t : Text) :
    toLowerCase (toLowerCase t) = toLowerCase t := by
  simp only [toLowerCase, List.map_map]
  exact List.map_congr_left fun c _ => Char.toLower_toLower_eq_toLower c

/-- The check, too, reads no case. -/
theorem isPrivateAddress_toLowerCase {t : Text} (h : parseIPv4 t = none) :
    isPrivateAddress (toLowerCase t) = isPrivateAddress t := by
  have hkind : isIP (toLowerCase t) = isIP t := by
    simp only [isIP, parseIPv4_toLowerCase, parseIPv6_toLowerCase]
  unfold isPrivateAddress
  rw [hkind, toLowerCase_idem]
  unfold isIP
  rw [h]
  by_cases h6 : (parseIPv6 t).isSome = true
  · simp only [Option.isSome_none, Bool.false_eq_true, if_false, h6, if_true]
  · simp only [Option.isSome_none, Bool.false_eq_true, if_false, h6]

end Ballast.Webhooks
