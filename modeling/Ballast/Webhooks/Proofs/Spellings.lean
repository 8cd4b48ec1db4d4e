/-
When the check on an address's text is right about the address.

`forbidden` says of an address what the check should: the ranges of
`ipv4Private` for a mapped address, the listed IPv6 ranges for any other.
The text goes wrong in two ways. An exact comparison misses every other
spelling of the same address (`missed_iff`): `::`, `::1`, and a mapped
address whose tail is not in dotted decimal, which is how the URL parser
writes it. And a prefix of letters counts a group of fewer than four
digits as one that begins with them (`overblocked_iff`).

Both follow from the first group. A text that does not begin with `::`
begins with a group whose value is the address's first (`First`), and the
ranges the prefixes stand for are ranges of that value.
-/
import Ballast.Webhooks.Proofs.Case

namespace Ballast.Webhooks

open Soroban Js

-- ============================================================ the addresses

def unspecified : List Nat := [0, 0, 0, 0, 0, 0, 0, 0]

def loopback : List Nat := [0, 0, 0, 0, 0, 0, 0, 1]

/-- The IPv4 address of `::ffff:a.b.c.d`. -/
def mappedIPv4 : List Nat → Option IPv4
  | [0, 0, 0, 0, 0, 65535, h, l] =>
      some ⟨h / 256, h % 256, l / 256, l % 256⟩
  | _ => none

/-- `fc00::/7`, `fe80::/10` and `ff00::/8`, by the first group. -/
def inRanges (n : Nat) : Bool :=
  (0xfc00 ≤ n ∧ n ≤ 0xfdff) ∨ (0xfe80 ≤ n ∧ n ≤ 0xfebf) ∨ 0xff00 ≤ n

/-- What the check should say of an address. -/
def forbidden (x : List Nat) : Bool :=
  match mappedIPv4 x with
  | some ip => reserved ip.a ip.b ip.c
  | none => x = unspecified ∨ x = loopback ∨ x.head?.any inRanges

-- ================================================================== pieces

/-- Two pieces have a separator between them. -/
theorem text_of_pieces {sep : Char} {s t t' : Text} {ts : List Text}
    (h : s.splitOn sep = t :: t' :: ts) :
    s = t ++ sep :: [sep].intercalate (t' :: ts) := by
  have hjoin : [sep].intercalate (s.splitOn sep) = s :=
    List.intercalate_splitOn sep
  rw [h] at hjoin
  rw [← hjoin]
  simp [List.intercalate]

/-- A character of a text is a separator or in one of the pieces. -/
theorem mem_pieces {sep c : Char} {t : Text} (h : c ∈ t) :
    c = sep ∨ ∃ p ∈ t.splitOn sep, c ∈ p := by
  induction t with
  | nil => cases h
  | cons d t ih =>
      rw [List.splitOn_cons_eq_if_modifyHead]
      by_cases hd : (d == sep) = true
      · rw [if_pos hd]
        rcases List.mem_cons.mp h with rfl | h
        · exact .inl (beq_iff_eq.mp hd)
        · rcases ih h with hsep | ⟨p, hp, hc⟩
          · exact .inl hsep
          · exact .inr ⟨p, List.mem_cons_of_mem _ hp, hc⟩
      · rw [if_neg hd]
        cases hps : t.splitOn sep with
        | nil => exact (List.splitOn_ne_nil sep t hps).elim
        | cons q qs =>
            rw [hps] at ih
            simp only [List.modifyHead_cons, List.mem_cons] at ih h ⊢
            rcases h with rfl | h
            · exact .inr ⟨_, .inl rfl, List.mem_cons_self⟩
            · rcases ih h with hsep | ⟨p, rfl | hp, hc⟩
              · exact .inl hsep
              · exact .inr ⟨_, .inl rfl, List.mem_cons_of_mem d hc⟩
              · exact .inr ⟨p, .inr hp, hc⟩

/-- A compressed address has an empty piece where it is cut. -/
theorem splitEmpty_some {ps left right : List Text}
    (h : splitEmpty ps = some (left, right)) : ps = left ++ [] :: right := by
  induction ps generalizing left with
  | nil => cases h
  | cons p ps ih =>
      cases p with
      | nil =>
          injection h with h
          injection h with hl hr
          rw [← hl, ← hr]
          rfl
      | cons c p =>
          simp only [splitEmpty, Option.map_eq_some_iff, Prod.mk.injEq] at h
          obtain ⟨⟨l, r⟩, hl, rfl, rfl⟩ := h
          rw [ih hl]
          rfl

/-- The address's groups, between what was written on both sides of its
zeros. -/
theorem compressed_some {left right : List Text} {x : List Nat}
    (h : compressed left right = some x) :
    ∃ l r, left.mapM hexGroup = some l ∧ l.length + r.length ≤ 7
      ∧ tailGroups (if right = [[]] then [] else right) = some r
      ∧ x = l ++ List.replicate (8 - (l.length + r.length)) 0 ++ r := by
  simp only [compressed, Option.bind_eq_bind, Option.bind_eq_some_iff] at h
  obtain ⟨l, hl, r, hr, h⟩ := h
  by_cases hlen : l.length + r.length ≤ 7
  · rw [if_pos hlen] at h
    injection h with h
    exact ⟨l, r, hl, hlen, hr, h.symm⟩
  · rw [if_neg hlen] at h
    cases h

/-- A group, and the groups after it. -/
theorem tailGroups_cons {t t' : Text} {ts : List Text} {x : List Nat}
    (h : tailGroups (t :: t' :: ts) = some x) :
    ∃ n xs, hexGroup t = some n ∧ tailGroups (t' :: ts) = some xs
      ∧ x = n :: xs := by
  simp only [tailGroups, Option.bind_eq_bind, Option.bind_eq_some_iff] at h
  obtain ⟨n, hn, xs, hxs, h⟩ := h
  injection h with h
  exact ⟨n, xs, hn, hxs, h.symm⟩

/-- The pieces of an address begin with its zeros or with its first
group. -/
theorem parsePieces_first {ps : List Text} {x : List Nat}
    (h : parsePieces ps = some x) :
    (∃ p rest, ps = [] :: [] :: p :: rest ∧ x.head? = some 0)
      ∨ ∃ t t' ts n xs, ps = t :: t' :: ts ∧ hexGroup t = some n
        ∧ x = n :: xs := by
  unfold parsePieces at h
  split at h
  · next p rest =>
    obtain ⟨l, r, hl, hlen, -, rfl⟩ := compressed_some h
    obtain rfl : l = [] := by simpa using hl.symm
    refine .inl ⟨p, rest, rfl, ?_⟩
    obtain ⟨k, hk⟩ : ∃ k, 8 - (([] : List Nat).length + r.length) = k + 1 :=
      ⟨7 - r.length, by simp only [List.length_nil] at hlen ⊢; omega⟩
    rw [hk]
    rfl
  · split at h
    · cases h
    · cases h
    · next left right hleft _ hsplit =>
      obtain ⟨l, r, hl, -, -, rfl⟩ := compressed_some h
      have hps := splitEmpty_some hsplit
      cases left with
      | nil => exact (hleft rfl).elim
      | cons t left =>
          simp only [List.mapM_cons, Option.bind_eq_bind,
            Option.bind_eq_some_iff] at hl
          obtain ⟨n, hn, ns, -, hl⟩ := hl
          injection hl with hl
          subst hl
          right
          cases left with
          | nil => exact ⟨t, [], right, n, _, hps, hn, rfl⟩
          | cons t' left => exact ⟨t, t', _, n, _, hps, hn, rfl⟩
    · simp only [Option.bind_eq_bind, Option.bind_eq_some_iff] at h
      obtain ⟨groups, hgroups, h⟩ := h
      by_cases hlen : groups.length = 8
      · rw [if_pos hlen] at h
        injection h with h
        subst h
        right
        match ps with
        | [] =>
            injection hgroups with hgroups
            subst hgroups
            cases hlen
        | [t] =>
            -- one piece is at most two groups
            simp only [tailGroups] at hgroups
            split at hgroups
            · obtain ⟨ip, -, rfl⟩ := Option.map_eq_some_iff.mp hgroups
              cases hlen
            · obtain ⟨n, -, rfl⟩ := Option.map_eq_some_iff.mp hgroups
              cases hlen
        | t :: t' :: ts =>
            obtain ⟨n, xs, hn, -, rfl⟩ := tailGroups_cons hgroups
            exact ⟨t, t', ts, n, xs, rfl, hn, rfl⟩
      · rw [if_neg hlen] at h
        cases h

/-- A text begins as its pieces do, with a zone or without. -/
theorem parseIPv6_first {s : Text} {x : List Nat}
    (h : parseIPv6 s = some x) :
    (∃ rest, s = ':' :: ':' :: rest ∧ x.head? = some 0)
      ∨ ∃ t rest n xs, s = t ++ ':' :: rest ∧ hexGroup t = some n
        ∧ x = n :: xs := by
  have hpieces : parsePieces ((s.takeWhile (· ≠ '%')).splitOn ':')
      = some x := by
    unfold parseIPv6 at h
    split at h
    · next hdrop =>
      have hwhole := s.takeWhile_append_dropWhile (p := (· ≠ '%'))
      rw [hdrop, List.append_nil] at hwhole
      rwa [hwhole]
    · split at h
      · exact h
      · cases h
  have hwhole := s.takeWhile_append_dropWhile (p := (· ≠ '%'))
  rcases parsePieces_first hpieces with ⟨p, rest, hps, hx⟩ |
    ⟨t, t', ts, n, xs, hps, hn, hx⟩
  · have htext := text_of_pieces hps
    rw [htext] at hwhole
    exact .inl ⟨_, hwhole.symm, hx⟩
  · have htext := text_of_pieces hps
    rw [htext, List.append_assoc] at hwhole
    exact .inr ⟨t, _, n, xs, hwhole.symm, hn, hx⟩

-- ============================================================ first group

/-- A hexadecimal numeral is a list of digits, and its value is theirs. -/
theorem digitsOf_some {t : Text} {acc n : Nat}
    (h : digitsOf 16 t acc = some n) :
    ∃ vs : List Nat, toLowerCase t = vs.map Nat.digitChar
      ∧ n = vs.foldl (16 * · + ·) acc ∧ ∀ v ∈ vs, v < 16 := by
  induction t generalizing acc with
  | nil =>
      injection h with h
      exact ⟨[], rfl, h.symm, by simp⟩
  | cons c t ih =>
      unfold digitsOf at h
      split at h
      · next v hv =>
        obtain ⟨hlt, hchar⟩ := digitOf_some hv
        rw [if_pos hlt] at h
        obtain ⟨vs, ht, hn, hvs⟩ := ih h
        refine ⟨v :: vs, ?_, hn, ?_⟩
        · rw [List.map_cons, ← hchar, ← ht]
          rfl
        · rintro w (_ | ⟨_, hw⟩)
          · exact hlt
          · exact hvs w hw
      · cases h

/-- A group by the values of its digits. -/
theorem hexGroup_some {t : Text} {n : Nat} (h : hexGroup t = some n) :
    ∃ vs : List Nat, toLowerCase t = vs.map Nat.digitChar
      ∧ n = vs.foldl (16 * · + ·) 0 ∧ (∀ v ∈ vs, v < 16)
      ∧ vs.length = t.length ∧ 1 ≤ t.length ∧ t.length ≤ 4 := by
  unfold hexGroup numeral at h
  by_cases hlong : t.length ≤ 4
  · by_cases hne : t = []
    · rw [if_pos hlong, if_pos hne] at h
      cases h
    · rw [if_pos hlong, if_neg hne] at h
      obtain ⟨vs, ht, hn, hvs⟩ := digitsOf_some h
      have hlength := congrArg List.length ht
      simp only [toLowerCase, List.length_map] at hlength
      have hpos := List.length_pos_iff.mpr hne
      exact ⟨vs, ht, hn, hvs, hlength.symm, by omega, hlong⟩
  · rw [if_neg hlong] at h
    cases h

/-- The letters the prefixes are made of, as values. -/
theorem digitChar_letters {v : Nat} (h : v < 16) :
    (Nat.digitChar v = 'f' ↔ v = 15) ∧ (Nat.digitChar v = 'c' ↔ v = 12)
      ∧ (Nat.digitChar v = 'd' ↔ v = 13) ∧ (Nat.digitChar v = 'e' ↔ v = 14)
      ∧ (Nat.digitChar v ∈ ['8', '9', 'a', 'b'] ↔ 8 ≤ v ∧ v ≤ 11) := by
  exact (by decide : ∀ v < 16,
    (Nat.digitChar v = 'f' ↔ v = 15) ∧ (Nat.digitChar v = 'c' ↔ v = 12)
      ∧ (Nat.digitChar v = 'd' ↔ v = 13) ∧ (Nat.digitChar v = 'e' ↔ v = 14)
      ∧ (Nat.digitChar v ∈ ['8', '9', 'a', 'b'] ↔ 8 ≤ v ∧ v ≤ 11)) v h

/-- The prefixes of the check, by the second letter and the third. -/
theorem prefixed_cons {c d : Char} {rest : Text} :
    prefixed (c :: d :: rest) = true ↔ c = 'f' ∧ (d = 'c' ∨ d = 'd' ∨ d = 'f'
      ∨ (d = 'e' ∧ rest.head?.any (· ∈ ['8', '9', 'a', 'b']))) := by
  by_cases hc : c = 'f'
  · subst hc
    simp [prefixed]
  · have hno : prefixed (c :: d :: rest) = false := by
      unfold prefixed
      split
      · next h => exact (hc (List.cons.inj h).1).elim
      · rfl
    simp [hno, hc]

/-- The ranges are the prefixes of a group with all of its digits. -/
theorem inRanges_iff {t rest : Text} {n : Nat} (h : hexGroup t = some n) :
    inRanges n = true
      ↔ prefixed (toLowerCase (t ++ ':' :: rest)) = true ∧ t.length = 4 := by
  obtain ⟨vs, ht, hn, hvs, hlength, hpos, hlong⟩ := hexGroup_some h
  rw [toLowerCase, List.map_append, ← toLowerCase, ht, ← hlength]
  rw [← hlength] at hpos hlong
  rcases vs with _ | ⟨v, _ | ⟨w, _ | ⟨y, _ | ⟨z, _ | ⟨x, vs⟩⟩⟩⟩⟩
  · cases hpos
  · -- one digit
    have hv := hvs v (by simp)
    simp only [inRanges, hn, List.foldl, decide_eq_true_eq]
    simp only [List.length_cons, List.length_nil]
    omega
  · -- two
    have hv := hvs v (by simp)
    have hw := hvs w (by simp)
    simp only [inRanges, hn, List.foldl, decide_eq_true_eq]
    simp only [List.length_cons, List.length_nil]
    omega
  · -- three
    have hv := hvs v (by simp)
    have hw := hvs w (by simp)
    have hy := hvs y (by simp)
    simp only [inRanges, hn, List.foldl, decide_eq_true_eq]
    simp only [List.length_cons, List.length_nil]
    omega
  · -- four
    have hv := hvs v (by simp)
    have hw := hvs w (by simp)
    have hy := hvs y (by simp)
    have hz := hvs z (by simp)
    obtain ⟨hvf, -, -, -, -⟩ := digitChar_letters hv
    obtain ⟨hwf, hwc, hwd, hwe, -⟩ := digitChar_letters hw
    obtain ⟨-, -, -, -, hyb⟩ := digitChar_letters hy
    simp only [List.map_cons, List.map_nil, List.cons_append,
      List.nil_append, prefixed_cons, hvf, hwf, hwc, hwd, hwe,
      List.head?_cons, Option.any_some, decide_eq_true_eq, hyb]
    simp only [inRanges, hn, List.foldl, decide_eq_true_eq,
      List.length_cons, List.length_nil, and_true]
    constructor
    · rintro (h | h | h)
      · exact ⟨by omega, by omega⟩
      · exact ⟨by omega, by omega⟩
      · exact ⟨by omega, by omega⟩
    · rintro ⟨rfl, rfl | rfl | rfl | ⟨rfl, hy⟩⟩
      · exact .inl ⟨by omega, by omega⟩
      · exact .inl ⟨by omega, by omega⟩
      · exact .inr (.inr (by omega))
      · exact .inr (.inl ⟨by omega, by omega⟩)
  · -- no more
    simp only [List.length_cons] at hlong
    omega

/-- More digits make no smaller number. -/
theorem le_foldl_digits (vs : List Nat) (acc : Nat) :
    acc ≤ vs.foldl (16 * · + ·) acc := by
  induction vs generalizing acc with
  | nil => exact Nat.le_refl acc
  | cons v vs ih =>
      have hstep := ih (16 * acc + v)
      rw [List.foldl_cons]
      omega

/-- A prefix begins a group that is not zero. -/
theorem ne_zero_of_prefixed {t rest : Text} {n : Nat}
    (h : hexGroup t = some n)
    (hpre : prefixed (toLowerCase (t ++ ':' :: rest)) = true) : n ≠ 0 := by
  obtain ⟨vs, ht, hn, hvs, hlength, hpos, hlong⟩ := hexGroup_some h
  rw [toLowerCase, List.map_append, ← toLowerCase, ht] at hpre
  rw [← hlength] at hpos hlong
  cases vs with
  | nil => cases hpos
  | cons v vs =>
      have hf : Nat.digitChar v = 'f' := by
        cases vs with
        | nil => exact (prefixed_cons.mp hpre).1
        | cons w vs => exact (prefixed_cons.mp hpre).1
      obtain rfl := (digitChar_letters (hvs v (by simp))).1.mp hf
      have hfifteen := le_foldl_digits vs (16 * 0 + 15)
      rw [← List.foldl_cons, ← hn] at hfifteen
      omega

/-- The first group ends at the first colon. -/
theorem takeWhile_of_hexGroup {t rest : Text} {n : Nat}
    (h : hexGroup t = some n) :
    (t ++ ':' :: rest).takeWhile (· ≠ ':') = t := by
  obtain ⟨vs, ht, -, hvs, -⟩ := hexGroup_some h
  have hcolon : ':' ∉ t := by
    intro hmem
    rw [← mem_toLowerCase (c := ':') rfl rfl, ht, List.mem_map] at hmem
    obtain ⟨v, hv, hchar⟩ := hmem
    exact (by decide : ∀ v < 16, Nat.digitChar v ≠ ':') v (hvs v hv) hchar
  rw [List.takeWhile_append_of_pos]
  · simp
  · exact fun c hc => decide_eq_true fun heq => hcolon (heq ▸ hc)

-- ========================================================== dotted decimal

/-- An octet is at most three digits with a value up to 255. -/
theorem octet_some {t : Text} {n : Nat} (h : octet t = some n) :
    digits t = true ∧ n = number t ∧ n ≤ 255 := by
  unfold octet at h
  split at h
  · next hall =>
    injection h with h
    exact ⟨hall.1, h.symm, h ▸ hall.2.2⟩
  · cases h

/-- What `parseIPv4` has read. -/
theorem parseIPv4_some {t : Text} {ip : IPv4} (h : parseIPv4 t = some ip) :
    ∃ a b c d, t.splitOn '.' = [a, b, c, d]
      ∧ octet a = some ip.a ∧ octet b = some ip.b
      ∧ octet c = some ip.c ∧ octet d = some ip.d := by
  unfold parseIPv4 at h
  split at h
  · next a b c d hpieces =>
    simp only [Option.bind_eq_bind, Option.bind_eq_some_iff] at h
    obtain ⟨na, ha, nb, hb, nc, hc, nd, hd, h⟩ := h
    injection h with h
    subst h
    exact ⟨a, b, c, d, hpieces, ha, hb, hc, hd⟩
  · cases h

/-- The numbers the check reads are the octets. -/
theorem ipv4Private_eq {t : Text} {ip : IPv4} (h : parseIPv4 t = some ip) :
    ipv4Private t = reserved ip.a ip.b ip.c := by
  obtain ⟨a, b, c, d, hpieces, ha, hb, hc, -⟩ := parseIPv4_some h
  obtain ⟨-, ha, -⟩ := octet_some ha
  obtain ⟨-, hb, -⟩ := octet_some hb
  obtain ⟨-, hc, -⟩ := octet_some hc
  rw [ipv4Private, hpieces, ha, hb, hc]
  rfl

/-- A dotted address matches the check's pattern for one. -/
theorem fourNumbers_of_parseIPv4 {t : Text} {ip : IPv4}
    (h : parseIPv4 t = some ip) : fourNumbers t = true := by
  obtain ⟨a, b, c, d, hpieces, ha, hb, hc, hd⟩ := parseIPv4_some h
  simp only [fourNumbers, hpieces, List.all_cons, List.all_nil,
    (octet_some ha).1, (octet_some hb).1, (octet_some hc).1,
    (octet_some hd).1]
  rfl

/-- Four numbers are digits and dots. -/
theorem mem_fourNumbers {t : Text} (h : fourNumbers t = true) {c : Char}
    (hc : c ∈ t) : c.isDigit = true ∨ c = '.' := by
  simp only [fourNumbers, decide_eq_true_eq, List.all_eq_true] at h
  have hwhere : c = '.' ∨ ∃ p ∈ t.splitOn '.', c ∈ p := mem_pieces hc
  rcases hwhere with hdot | ⟨p, hp, hcp⟩
  · exact .inr hdot
  · have hdigits := h.2 p hp
    simp only [digits, decide_eq_true_eq, List.all_eq_true] at hdigits
    exact .inl (hdigits.2 c hcp)

/-- What matches the pattern has a dot in it. -/
theorem dot_of_fourNumbers {t : Text} (h : fourNumbers t = true) :
    '.' ∈ t := by
  by_contra hmem
  have hone := List.splitOn_eq_singleton hmem
  simp only [fourNumbers, hone, decide_eq_true_eq] at h
  cases h.1

/-- No text is both: only one of them has a colon. -/
theorem parseIPv4_eq_none {s : Text} {x : List Nat}
    (h : parseIPv6 s = some x) : parseIPv4 s = none := by
  have hcolon : ':' ∈ s := by
    rcases parseIPv6_first h with ⟨rest, rfl, -⟩ | ⟨t, rest, n, xs, rfl, -⟩
    · exact List.mem_cons_self
    · simp
  cases h4 : parseIPv4 s with
  | none => rfl
  | some ip =>
      rcases mem_fourNumbers (fourNumbers_of_parseIPv4 h4) hcolon with h | h
      · cases h
      · cases h

/-- What parses as IPv6 is told to be IPv6. -/
theorem isIP_of_parseIPv6 {s : Text} {x : List Nat}
    (h : parseIPv6 s = some x) : isIP s = 6 := by
  simp [isIP, parseIPv4_eq_none h, h]

/-- What parses as IPv4 is told to be IPv4. -/
theorem isIP_of_parseIPv4 {t : Text} {ip : IPv4}
    (h : parseIPv4 t = some ip) : isIP t = 4 := by
  simp [isIP, h]

/-- The mapped form denotes the mapped address. -/
theorem mapped_form {t : Text} (h : fourNumbers t = true) :
    parseIPv6 ("::ffff:".toList ++ t) = (parseIPv4 t).map fun ip =>
      [0, 0, 0, 0, 0, 65535, 256 * ip.a + ip.b, 256 * ip.c + ip.d] := by
  have hno : ∀ sep : Char, sep.isDigit = false → sep ≠ '.' → sep ∉ t := by
    intro sep hdigit hdot hmem
    rcases mem_fourNumbers h hmem with h | h
    · rw [hdigit] at h
      cases h
    · exact hdot h
  have hzone : ∀ c ∈ "::ffff:".toList ++ t, decide (c ≠ '%') = true := by
    intro c hc
    rcases List.mem_append.mp hc with hc | hc
    · have hall : "::ffff:".toList.all (fun c => decide (c ≠ '%')) = true := rfl
      exact List.all_eq_true.mp hall c hc
    · have hpercent := hno '%' rfl (by decide)
      exact decide_eq_true fun heq => hpercent (heq ▸ hc)
  have hpieces : ("::ffff:".toList ++ t).splitOn ':'
      = [[], [], "ffff".toList, t] := by
    have htail : t.splitOn ':' = [t] :=
      List.splitOn_eq_singleton (hno ':' rfl (by decide))
    change (':' :: ':' :: 'f' :: 'f' :: 'f' :: 'f' :: ':' :: t).splitOn ':' = _
    simp only [List.splitOn_cons_eq_if_modifyHead, htail]
    rfl
  have hdot := dot_of_fourNumbers h
  unfold parseIPv6
  rw [List.dropWhile_eq_nil_iff.mpr hzone]
  change parsePieces (List.splitOn ':' ("::ffff:".toList ++ t)) = _
  rw [hpieces]
  change compressed [] ["ffff".toList, t] = _
  have hffff : hexGroup ['f', 'f', 'f', 'f'] = some 65535 := by decide
  cases h4 : parseIPv4 t with
  | none => simp [compressed, tailGroups, hdot, h4]
  | some ip => simp [compressed, tailGroups, hdot, h4, hffff]

/-- An address mapped from IPv4 gives that address back. -/
theorem mappedIPv4_form {t : Text} {ip : IPv4} (h : parseIPv4 t = some ip) :
    mappedIPv4 [0, 0, 0, 0, 0, 65535, 256 * ip.a + ip.b, 256 * ip.c + ip.d]
      = some ip := by
  obtain ⟨a, b, c, d, -, -, hb, -, hd⟩ := parseIPv4_some h
  have hb := (octet_some hb).2.2
  have hd := (octet_some hd).2.2
  simp only [mappedIPv4, Option.some.injEq]
  cases ip with
  | mk a b c d =>
      simp only [IPv4.mk.injEq] at hb hd ⊢
      omega

-- ============================================================== the answer

/-- What only an exact comparison finds. -/
def special (x : List Nat) : Bool :=
  match mappedIPv4 x with
  | some ip => reserved ip.a ip.b ip.c
  | none => x = unspecified ∨ x = loopback

/-- A text that tells its address to the check. -/
structure Telling (s : Text) (x : List Nat) : Prop where
  unspecified : x = unspecified → toLowerCase s = "::".toList
  loopback : x = loopback → toLowerCase s = "::1".toList
  /-- in dotted decimal -/
  mapped : ∀ ip, mappedIPv4 x = some ip → reserved ip.a ip.b ip.c = true →
    ∃ t, toLowerCase s = "::ffff:".toList ++ t ∧ parseIPv4 t = some ip
  /-- with all of the first group's digits -/
  prefixed : prefixed (toLowerCase s) = true →
    (s.takeWhile (· ≠ ':')).length = 4

/-- A mapped address begins with a zero group, and is neither of the two
special ones. -/
theorem mappedIPv4_some {x : List Nat} {ip : IPv4}
    (h : mappedIPv4 x = some ip) : x.head? = some 0
      ∧ x ≠ Webhooks.unspecified ∧ x ≠ Webhooks.loopback := by
  unfold mappedIPv4 at h
  split at h
  · exact ⟨rfl, by simp [Webhooks.unspecified], by simp [Webhooks.loopback]⟩
  · cases h

/-- What should be refused, by the first group alone where the address is
not special. -/
theorem forbidden_eq (x : List Nat) :
    forbidden x = (special x || x.head?.any inRanges) := by
  unfold forbidden special
  cases hx : mappedIPv4 x with
  | none => simp [Bool.or_assoc]
  | some ip =>
      rw [(mappedIPv4_some hx).1]
      simp [inRanges]

/-- An address that only an exact comparison finds begins with zeros. -/
theorem head_of_special {x : List Nat} (h : special x = true) :
    x.head? = some 0 := by
  unfold special at h
  split at h
  · next ip hx => exact (mappedIPv4_some hx).1
  · rcases of_decide_eq_true h with rfl | rfl
    · rfl
    · rfl

/-- The check recognises a mapped address by its dotted tail only. -/
theorem mappedTail_iff {lower t : Text} : mappedTail lower = some t
    ↔ lower = "::ffff:".toList ++ t ∧ fourNumbers t = true := by
  unfold mappedTail
  constructor
  · intro h
    split at h
    · next hmatch =>
      injection h with h
      subst h
      obtain ⟨t, rfl⟩ := List.isPrefixOf_iff_prefix.mp hmatch.1
      exact ⟨rfl, hmatch.2⟩
    · cases h
  · rintro ⟨rfl, h⟩
    have hpre : "::ffff:".toList.isPrefixOf ("::ffff:".toList ++ t) = true :=
      List.isPrefixOf_iff_prefix.mpr (List.prefix_append _ t)
    exact if_pos ⟨hpre, h⟩

/-- The check on an IPv6 text, with the branch for other texts gone. -/
theorem isPrivateAddress_of_parseIPv6 {s : Text} {x : List Nat}
    (h : parseIPv6 s = some x) :
    isPrivateAddress s =
      match mappedTail (toLowerCase s) with
      | some mapped => ipv4Private mapped
      | none => toLowerCase s = "::".toList ∨ toLowerCase s = "::1".toList
          ∨ prefixed (toLowerCase s) := by
  unfold isPrivateAddress
  rw [isIP_of_parseIPv6 h]
  rfl

/-- What the check compares the lower case with. -/
def Matched (s : Text) : Prop :=
  (mappedTail (toLowerCase s)).isSome = true
    ∨ toLowerCase s = "::".toList ∨ toLowerCase s = "::1".toList

/-- When no comparison matches, only the prefixes can tell. -/
theorem telling_of_unmatched {s : Text} {x : List Nat}
    (hmatch : ¬ Matched s) :
    Telling s x ↔ special x = false
      ∧ (prefixed (toLowerCase s) = true →
        (s.takeWhile (· ≠ ':')).length = 4) := by
  simp only [Matched, not_or] at hmatch
  obtain ⟨hmapped, hzero, hone⟩ := hmatch
  constructor
  · intro h
    refine ⟨?_, h.prefixed⟩
    unfold special
    split
    · next ip hip =>
      rw [Bool.eq_false_iff]
      intro hres
      obtain ⟨t, hlower, ht⟩ := h.mapped ip hip hres
      rw [mappedTail_iff.mpr ⟨hlower, fourNumbers_of_parseIPv4 ht⟩] at hmapped
      exact hmapped rfl
    · rw [decide_eq_false_iff_not]
      rintro (hx | hx)
      · exact hzero (h.unspecified hx)
      · exact hone (h.loopback hx)
  · rintro ⟨hspecial, hpre⟩
    refine ⟨?_, ?_, ?_, hpre⟩
    · rintro rfl
      cases hspecial
    · rintro rfl
      cases hspecial
    · intro ip hip hres
      rw [special, hip] at hspecial
      exact absurd hspecial (by simp [hres])

/-- A text that a comparison matches denotes what it is compared with. -/
theorem matched {s : Text} {x : List Nat} (h : parseIPv6 s = some x)
    (hmatch : Matched s) :
    isPrivateAddress s = forbidden x ∧ Telling s x := by
  rw [isPrivateAddress_of_parseIPv6 h]
  rw [← parseIPv6_toLowerCase] at h
  rcases hmatch with hmapped | hzero | hone
  · obtain ⟨t, ht⟩ := Option.isSome_iff_exists.mp hmapped
    obtain ⟨hlower, hfour⟩ := mappedTail_iff.mp ht
    rw [hlower, mapped_form hfour, Option.map_eq_some_iff] at h
    obtain ⟨ip, hip, rfl⟩ := h
    have hx := mappedIPv4_form hip
    obtain ⟨-, hne, hne'⟩ := mappedIPv4_some hx
    rw [ht]
    refine ⟨?_, fun h => (hne h).elim, fun h => (hne' h).elim, ?_, ?_⟩
    · rw [forbidden, hx]
      exact ipv4Private_eq hip
    · rintro ip' hip' -
      rw [hx] at hip'
      injection hip' with hip'
      exact ⟨t, hlower, hip' ▸ hip⟩
    · rw [hlower]
      exact fun h => by cases h
  · rw [hzero] at h ⊢
    have hx : parseIPv6 "::".toList = some unspecified := by decide
    rw [hx] at h
    injection h with h
    subst h
    refine ⟨by decide, fun _ => hzero, fun h => ?_, fun ip hip => ?_, ?_⟩
    · cases h
    · cases hip
    · rw [hzero]
      exact fun h => by cases h
  · rw [hone] at h ⊢
    have hx : parseIPv6 "::1".toList = some loopback := by decide
    rw [hx] at h
    injection h with h
    subst h
    refine ⟨by decide, fun h => ?_, fun _ => hone, fun ip hip => ?_, ?_⟩
    · cases h
    · cases hip
    · rw [hone]
      exact fun h => by cases h

/-- What is left are the prefixes, and they are ranges of the first group
if all of its digits are there. -/
theorem unmatched {s : Text} {x : List Nat} (h : parseIPv6 s = some x)
    (hmatch : ¬ Matched s) :
    isPrivateAddress s = prefixed (toLowerCase s)
      ∧ (x.head?.any inRanges = true ↔ prefixed (toLowerCase s) = true
        ∧ (s.takeWhile (· ≠ ':')).length = 4)
      ∧ (prefixed (toLowerCase s) = true → special x = false) := by
  simp only [Matched, not_or] at hmatch
  obtain ⟨hmapped, hzero, hone⟩ := hmatch
  replace hmapped : mappedTail (toLowerCase s) = none := by
    simpa using hmapped
  constructor
  · rw [isPrivateAddress_of_parseIPv6 h, hmapped]
    simp only [hzero, hone, false_or, Bool.decide_eq_true]
  rcases parseIPv6_first h with ⟨rest, rfl, hx⟩ | ⟨t, rest, n, xs, rfl, hn, rfl⟩
  · -- neither the text nor the address begins with a range
    have hpre : prefixed (toLowerCase (':' :: ':' :: rest)) = false := rfl
    rw [hpre, hx]
    simp [inRanges]
  · rw [takeWhile_of_hexGroup hn, List.head?_cons, Option.any_some]
    refine ⟨inRanges_iff hn, fun hpre => ?_⟩
    rw [Bool.eq_false_iff]
    intro hspecial
    have hhead := head_of_special hspecial
    injection hhead with hhead
    exact ne_zero_of_prefixed hn hpre hhead

/-- The answer is right exactly for a text that tells. -/
theorem isPrivateAddress_iff {s : Text} {x : List Nat}
    (h : parseIPv6 s = some x) :
    isPrivateAddress s = forbidden x ↔ Telling s x := by
  by_cases hmatch : Matched s
  · have hboth := matched h hmatch
    exact ⟨fun _ => hboth.2, fun _ => hboth.1⟩
  · obtain ⟨hanswer, hranges, hspecial⟩ := unmatched h hmatch
    rw [telling_of_unmatched hmatch, hanswer, forbidden_eq]
    by_cases hpre : prefixed (toLowerCase s) = true
    · rw [hspecial hpre, Bool.false_or, hpre]
      constructor
      · exact fun hin => ⟨rfl, fun _ => (hranges.mp hin.symm).2⟩
      · exact fun hlong => (hranges.mpr ⟨hpre, hlong.2 rfl⟩).symm
    · have hin : x.head?.any inRanges = false :=
        Bool.eq_false_iff.mpr fun hin => hpre (hranges.mp hin).1
      rw [Bool.not_eq_true] at hpre
      rw [hin, Bool.or_false, hpre]
      constructor
      · exact fun hnone => ⟨hnone.symm, fun h => by cases h⟩
      · exact fun hnone => hnone.1.symm

/-- A forbidden address gets through when only a comparison could have
found it and none does. -/
theorem missed_iff {s : Text} {x : List Nat} (h : parseIPv6 s = some x) :
    isPrivateAddress s = false ∧ forbidden x = true
      ↔ special x = true ∧ ¬ Matched s := by
  by_cases hmatch : Matched s
  · rw [(matched h hmatch).1]
    simp [hmatch]
  · obtain ⟨hanswer, hranges, hspecial⟩ := unmatched h hmatch
    rw [hanswer, forbidden_eq, Bool.or_eq_true]
    constructor
    · rintro ⟨hpre, hx | hx⟩
      · exact ⟨hx, hmatch⟩
      · rw [(hranges.mp hx).1] at hpre
        cases hpre
    · rintro ⟨hx, -⟩
      refine ⟨?_, .inl hx⟩
      rw [Bool.eq_false_iff]
      intro hpre
      rw [hspecial hpre] at hx
      cases hx

/-- An address outside the ranges is refused when its first group is
short of digits and begins like a range. -/
theorem overblocked_iff {s : Text} {x : List Nat}
    (h : parseIPv6 s = some x) :
    isPrivateAddress s = true ∧ forbidden x = false
      ↔ ¬ Matched s ∧ prefixed (toLowerCase s) = true
        ∧ (s.takeWhile (· ≠ ':')).length ≠ 4 := by
  by_cases hmatch : Matched s
  · rw [(matched h hmatch).1]
    simp [hmatch]
  · obtain ⟨hanswer, hranges, hspecial⟩ := unmatched h hmatch
    rw [hanswer, forbidden_eq, Bool.or_eq_false_iff]
    constructor
    · rintro ⟨hpre, -, hx⟩
      refine ⟨hmatch, hpre, fun hlong => ?_⟩
      rw [hranges.mpr ⟨hpre, hlong⟩] at hx
      cases hx
    · rintro ⟨-, hpre, hlong⟩
      refine ⟨hpre, hspecial hpre, ?_⟩
      exact Bool.eq_false_iff.mpr fun hin => hlong (hranges.mp hin).2

end Ballast.Webhooks
