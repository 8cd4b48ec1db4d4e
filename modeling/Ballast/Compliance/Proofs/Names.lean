/-
When two spellings of a name have one key.

A `Spelling` is an ASCII name taken apart: its words, the legal forms
among them, and what stands between. `Spelling.tokens` is what `nameKey`
makes of the parts. A word and a plain form become one token each, and
the form is dropped; a form written with dots falls apart into its
letters, which are no legal forms and stay. So two spellings of the same
words have the same key exactly when their dotted forms leave the same
letters (`nameKey_eq_iff`), and a listed name is found exactly by the
spellings of its key (`screen_listed`).

# The alphabet

`nameKey` runs over the letters and digits of ASCII once the name is in
upper case, and everything else separates. The first section brings the
library's character functions down to ranges of code points, which is
the only form in which they are used after.

# The tokens

The key is computed by one scan that collects letters until a separator
ends the word. `keyWords_sep` and `keyWords_word` say what it does on
the two kinds of stretches a spelling is made of, and `keyWords_spell`
puts a whole spelling together, by induction on its parts. Sorting makes
the order of the words immaterial, and nothing more (`sorted_eq_iff`);
joining with blanks loses nothing, since no token has one
(`Spelling.core_chars`).

# The list

A row of the list files its names under their keys, and later rows file
theirs without taking any away, since a key keeps the list of all
entries it stands for (`addRow_keeps`, `addAlias_keeps`).
-/
import Ballast.Compliance.Csv
import Mathlib

namespace Ballast.Compliance

open Soroban

-- ============================================================ the alphabet

/-- What Node's library does to ASCII text. -/
structure Platform.Ascii (p : Platform) : Prop where
  normalizeNFKD : ∀ s : Text, (∀ c ∈ s, c.toNat < 128) →
    p.normalizeNFKD s = s
  toUpperCase : ∀ s : Text, (∀ c ∈ s, c.toNat < 128) →
    p.toUpperCase s = s.map Char.toUpper

/-- Upper case moves the 26 small letters down by 32 and nothing else. -/
theorem toNat_toUpper (c : Char) : c.toUpper.toNat
    = if 97 ≤ c.toNat ∧ c.toNat ≤ 122 then c.toNat - 32 else c.toNat := by
  have hval : c.toNat = c.val.toNat := rfl
  by_cases h : 'a'.val ≤ c.val ∧ c.val ≤ 'z'.val
  · have hnat : 97 ≤ c.toNat ∧ c.toNat ≤ 122 := by
      simpa [UInt32.le_iff_toNat_le] using h
    rw [if_pos hnat]
    simp only [Char.toUpper, dif_pos h]
    show (c.val + ('A'.val - 'a'.val)).toNat = _
    rw [UInt32.toNat_add]
    have hshift : ('A'.val - 'a'.val).toNat = 4294967264 := by decide
    omega
  · have hnat : ¬ (97 ≤ c.toNat ∧ c.toNat ≤ 122) := by
      simpa [UInt32.le_iff_toNat_le] using h
    rw [if_neg hnat]
    simp only [Char.toUpper, dif_neg h]

/-- The characters of a key are the digits and the capitals. -/
theorem keyChar_iff {c : Char} : keyChar c = true
    ↔ (48 ≤ c.toNat ∧ c.toNat ≤ 57) ∨ (65 ≤ c.toNat ∧ c.toNat ≤ 90) := by
  have hval : c.toNat = c.val.toNat := rfl
  simp [keyChar, Char.isUpper, Char.isDigit, UInt32.le_iff_toNat_le, ← hval]
  omega

/-- The letters and digits of ASCII, by their code points. -/
theorem isAlphanum_iff {c : Char} : c.isAlphanum = true
    ↔ (48 ≤ c.toNat ∧ c.toNat ≤ 57) ∨ (65 ≤ c.toNat ∧ c.toNat ≤ 90)
      ∨ (97 ≤ c.toNat ∧ c.toNat ≤ 122) := by
  have hval : c.toNat = c.val.toNat := rfl
  simp [Char.isAlphanum, Char.isAlpha, Char.isUpper, Char.isLower,
    Char.isDigit, UInt32.le_iff_toNat_le, ← hval]
  omega

/-- In upper case, the letters and digits are what a key is made of. -/
theorem keyChar_toUpper (c : Char) : keyChar c.toUpper = c.isAlphanum := by
  rw [Bool.eq_iff_iff, keyChar_iff, isAlphanum_iff, toNat_toUpper]
  split_ifs <;> omega

-- =============================================================== spellings

def upper (w : Text) : Text := w.map Char.toUpper

/-- The letters of a form, with dots between them. -/
def withDots : Text → Text
  | [] => []
  | [c] => [c]
  | c :: cs => c :: '.' :: withDots cs

inductive Part where
  | word (w : Text)
  | form (w : Text)
  | dotted (w : Text)
  deriving DecidableEq, Repr

def Part.text : Part → Text
  | .word w => w
  | .form w => w
  | .dotted w => withDots w

/-- A word is letters and digits and no legal form, in any case. -/
def Part.Ok : Part → Prop
  | .word w => w ≠ [] ∧ (∀ c ∈ w, c.isAlphanum) ∧ upper w ∉ legalForms
  | .form w => upper w ∈ legalForms
  | .dotted w => upper w ∈ legalForms

instance (part : Part) : Decidable part.Ok :=
  match part with
  | .word w =>
      have : Decidable (∀ c ∈ w, c.isAlphanum) := List.decidableBAll _ w
      inferInstanceAs (Decidable (w ≠ [] ∧ (∀ c ∈ w, c.isAlphanum)
        ∧ upper w ∉ legalForms))
  | .form w => inferInstanceAs (Decidable (upper w ∈ legalForms))
  | .dotted w => inferInstanceAs (Decidable (upper w ∈ legalForms))

/-- Spaces and punctuation. -/
def Separates (s : Text) : Prop :=
  ∀ c ∈ s, c.toNat < 128 ∧ c.isAlphanum = false

instance (s : Text) : Decidable (Separates s) :=
  List.decidableBAll
    (fun c : Char => c.toNat < 128 ∧ c.isAlphanum = false) s

/-- A name taken apart: each part with what follows it. -/
structure Spelling where
  lead : Text
  parts : List (Part × Text)
  lead_separates : Separates lead
  parts_ok : ∀ q ∈ parts, q.1.Ok
  separated : ∀ q ∈ parts, Separates q.2
  /-- between two parts something stands -/
  apart : ∀ q ∈ parts.dropLast, q.2 ≠ []

def spell (parts : List (Part × Text)) : Text :=
  parts.flatMap fun q => q.1.text ++ q.2

def Spelling.text (a : Spelling) : Text := a.lead ++ spell a.parts

def Part.words : Part → List Text
  | .word w => [upper w]
  | _ => []

def Part.letters : Part → List Text
  | .dotted w => (upper w).map fun c => [c]
  | _ => []

/-- The words, in upper case. -/
def Spelling.words (a : Spelling) : List Text := a.parts.flatMap (·.1.words)

/-- The letters of the forms written with dots, each a text. -/
def Spelling.letters (a : Spelling) : List Text :=
  a.parts.flatMap (·.1.letters)

-- ================================================================== tokens

/-- The words of a text in upper case. -/
def keyWords (s : Text) : List Text :=
  (s.splitOnP fun c => ¬ keyChar c).filter (· ≠ [])

/-- Leading separators are skipped. -/
theorem keyWords_sep (s t : Text) (h : ∀ c ∈ s, keyChar c = false) :
    keyWords (s ++ t) = keyWords t := by
  induction s with
  | nil => rfl
  | cons c s ih =>
      have hc := h c List.mem_cons_self
      rw [← ih fun d hd => h d (List.mem_cons_of_mem c hd)]
      unfold keyWords
      rw [List.cons_append, List.splitOnP_cons_eq_if_modifyHead]
      simp [hc]

/-- A word is read up to the first character that is none of it. -/
theorem keyWords_word {w : Text} (t : Text) (hne : w ≠ [])
    (h : ∀ c ∈ w, keyChar c = true)
    (hstop : ∀ c ∈ t.head?, keyChar c = false) :
    keyWords (w ++ t) = w :: keyWords t := by
  have hin : ∀ c ∈ w, (decide (¬ keyChar c = true)) = false := by
    intro c hc
    simp [h c hc]
  cases t with
  | nil =>
      unfold keyWords
      rw [List.append_nil, List.splitOnP_eq_singleton hin]
      simp [hne]
  | cons c t =>
      have hc := hstop c rfl
      have hrest := keyWords_sep [c] t (by simpa using hc)
      rw [List.singleton_append] at hrest
      rw [hrest]
      unfold keyWords
      rw [List.splitOnP_append_cons_of_forall_mem hin c (by simp [hc])]
      simp [hne]

/-- A word written with dots is read letter by letter. -/
theorem keyWords_dots {w : Text} (t : Text)
    (h : ∀ c ∈ w, keyChar c = true)
    (hstop : ∀ c ∈ t.head?, keyChar c = false) :
    keyWords (withDots w ++ t) = (w.map fun c => [c]) ++ keyWords t := by
  induction w with
  | nil => rfl
  | cons c w ih =>
      have hc := h c List.mem_cons_self
      have hw : ∀ d ∈ w, keyChar d = true :=
        fun d hd => h d (List.mem_cons_of_mem c hd)
      cases w with
      | nil =>
          have hone := keyWords_word (w := [c]) t (List.cons_ne_nil c [])
            (by simpa using hc) hstop
          exact hone
      | cons d w =>
          have hdot : keyWords (withDots (c :: d :: w) ++ t)
              = [c] :: keyWords ('.' :: (withDots (d :: w) ++ t)) :=
            keyWords_word ('.' :: (withDots (d :: w) ++ t))
              (List.cons_ne_nil c []) (by simpa using hc) (by simp; decide)
          have hskip := keyWords_sep ['.'] (withDots (d :: w) ++ t)
            (by simp; decide)
          rw [List.singleton_append] at hskip
          rw [hdot, hskip, ih hw]
          rfl

/-- What the parts become. -/
def Part.tokens : Part → List Text
  | .word w => [upper w]
  | .form w => [upper w]
  | .dotted w => (upper w).map fun c => [c]

/-- A dotted form is still dotted in upper case. -/
theorem upper_withDots (w : Text) :
    upper (withDots w) = withDots (upper w) := by
  induction w with
  | nil => rfl
  | cons c w ih =>
      cases w with
      | nil => rfl
      | cons d w =>
          change c.toUpper :: '.' :: upper (withDots (d :: w)) = _
          rw [ih]
          rfl

/-- A legal form is written in letters. -/
theorem legalForms_letters : ∀ f ∈ legalForms, f ≠ [] ∧ 2 ≤ f.length
    ∧ ∀ c ∈ f, keyChar c = true := by
  have hall : (legalForms.all fun f => f ≠ [] ∧ 2 ≤ f.length
      ∧ f.all keyChar = true) = true := by
    decide +kernel
  intro f hf
  obtain ⟨hne, hlen, hchars⟩ :=
    of_decide_eq_true (List.all_eq_true.mp hall f hf)
  exact ⟨hne, hlen, fun c hc => List.all_eq_true.mp hchars c hc⟩

/-- Its letters and digits. -/
def Part.raw : Part → Text
  | .word w => w
  | .form w => w
  | .dotted w => w

/-- A part in upper case is not empty and has key characters only. -/
theorem Part.upper_ok {part : Part} (h : part.Ok) :
    upper part.raw ≠ [] ∧ ∀ c ∈ upper part.raw, keyChar c = true := by
  cases part with
  | word w =>
      obtain ⟨hne, hchars, -⟩ := h
      refine ⟨by simpa [upper, Part.raw] using hne, ?_⟩
      intro c hc
      obtain ⟨d, hd, rfl⟩ := List.mem_map.mp hc
      rw [keyChar_toUpper]
      exact hchars d hd
  | form w =>
      obtain ⟨hne, -, hchars⟩ := legalForms_letters _ h
      exact ⟨hne, hchars⟩
  | dotted w =>
      obtain ⟨hne, -, hchars⟩ := legalForms_letters _ h
      exact ⟨hne, hchars⟩

/-- A part is read as its tokens. -/
theorem Part.keyWords {part : Part} (h : part.Ok) (t : Text)
    (hstop : ∀ c ∈ t.head?, keyChar c = false) :
    Compliance.keyWords (upper part.text ++ t)
      = part.tokens ++ Compliance.keyWords t := by
  obtain ⟨hne, hchars⟩ := Part.upper_ok h
  cases part with
  | word w => exact keyWords_word t hne hchars hstop
  | form w => exact keyWords_word t hne hchars hstop
  | dotted w =>
      rw [Part.text, upper_withDots]
      exact keyWords_dots t hchars hstop

/-- What separates still separates in upper case. -/
theorem Separates.upper {s : Text} (h : Separates s) :
    ∀ c ∈ upper s, keyChar c = false := by
  intro c hc
  obtain ⟨d, hd, rfl⟩ := List.mem_map.mp hc
  rw [keyChar_toUpper]
  exact (h d hd).2

/-- The scan of a spelling finds the tokens of its parts, one after the
other, as long as something stands between any two. -/
theorem keyWords_spell (parts : List (Part × Text))
    (hok : ∀ q ∈ parts, q.1.Ok) (hsep : ∀ q ∈ parts, Separates q.2)
    (hapart : ∀ q ∈ parts.dropLast, q.2 ≠ []) :
    keyWords (upper (spell parts)) = parts.flatMap fun q => q.1.tokens := by
  induction parts with
  | nil => rfl
  | cons q parts ih =>
      have htail := ih (fun r hr => hok r (List.mem_cons_of_mem q hr))
        (fun r hr => hsep r (List.mem_cons_of_mem q hr)) (by
          intro r hr
          cases parts with
          | nil => cases hr
          | cons q' parts => exact hapart r (List.mem_cons_of_mem q hr))
      have hq := (hsep q List.mem_cons_self).upper
      have htext : upper (spell (q :: parts))
          = upper q.1.text ++ (upper q.2 ++ upper (spell parts)) := by
        simp [spell, upper]
      rw [htext, Part.keyWords (hok q List.mem_cons_self), keyWords_sep _ _ hq,
        htail, List.flatMap_cons]
      -- what follows the part is a separator, or nothing
      intro c hc
      cases hrest : upper q.2 with
      | cons d rest =>
          rw [hrest] at hc
          injection hc with hc
          subst hc
          exact hq d (by rw [hrest]; exact List.mem_cons_self)
      | nil =>
          cases parts with
          | nil =>
              rw [hrest] at hc
              cases hc
          | cons q' parts =>
              refine absurd ?_ (hapart q List.mem_cons_self)
              simpa [upper] using hrest

/-- A dotted form has dots, and the letters of the form. -/
theorem mem_withDots {w : Text} {c : Char} (h : c ∈ withDots w) :
    c = '.' ∨ c ∈ w := by
  induction w with
  | nil => cases h
  | cons d w ih =>
      cases w with
      | nil => exact .inr h
      | cons e w =>
          rcases List.mem_cons.mp h with rfl | h
          · exact .inr List.mem_cons_self
          · rcases List.mem_cons.mp h with rfl | h
            · exact .inl rfl
            · rcases ih h with rfl | h
              · exact .inl rfl
              · exact .inr (List.mem_cons_of_mem d h)

/-- The text of a part is ASCII. -/
theorem Part.text_ascii {part : Part} (h : part.Ok) :
    ∀ c ∈ part.text, c.toNat < 128 := by
  have hraw : ∀ c ∈ part.raw, c.toNat < 128 := by
    intro c hc
    have hkey := (Part.upper_ok h).2 c.toUpper (List.mem_map_of_mem hc)
    rw [keyChar_toUpper, isAlphanum_iff] at hkey
    omega
  intro c hc
  cases part with
  | word w => exact hraw c hc
  | form w => exact hraw c hc
  | dotted w =>
      rcases mem_withDots hc with rfl | hc
      · decide
      · exact hraw c hc

variable {p : Platform} {a b : Spelling}

/-- So is a whole spelling. -/
theorem Spelling.ascii (a : Spelling) : ∀ c ∈ a.text, c.toNat < 128 := by
  intro c hc
  rcases List.mem_append.mp hc with hc | hc
  · exact (a.lead_separates c hc).1
  · obtain ⟨q, hq, hc⟩ := List.mem_flatMap.mp hc
    rcases List.mem_append.mp hc with hc | hc
    · exact Part.text_ascii (a.parts_ok q hq) c hc
    · exact (a.separated q hq c hc).1

/-- `nameKey` takes the spelling apart as it was put together. -/
theorem Spelling.tokens_text (hp : p.Ascii) (a : Spelling) :
    tokens p a.text = a.parts.flatMap fun q => q.1.tokens := by
  have hascii := a.ascii
  have hmarks : a.text.filter (fun c => ¬ combiningMark c) = a.text := by
    apply List.filter_eq_self.mpr
    intro c hc
    have := hascii c hc
    simp [combiningMark]
    omega
  have hwords : tokens p a.text = keyWords (upper a.text) := by
    unfold tokens keyWords
    rw [hp.normalizeNFKD _ hascii]
    simp only [hmarks, hp.toUpperCase _ hascii]
    rfl
  have htext : upper a.text = upper a.lead ++ upper (spell a.parts) := by
    simp [Spelling.text, upper]
  rw [hwords, htext, keyWords_sep _ _ a.lead_separates.upper,
    keyWords_spell a.parts a.parts_ok a.separated a.apart]

-- ==================================================================== keys

/-- Of a part's tokens, a plain form is dropped and a letter is not. -/
theorem Part.filter_tokens {part : Part} (h : part.Ok) :
    part.tokens.filter (· ∉ legalForms) = part.words ++ part.letters := by
  cases part with
  | word w =>
      simp [Part.tokens, Part.words, Part.letters, h.2.2]
  | form w =>
      have hform : upper w ∈ legalForms := h
      simp [Part.tokens, Part.words, Part.letters, hform]
  | dotted w =>
      have hletter : ∀ c : Char, [c] ∉ legalForms := by
        intro c hc
        have hlen := (legalForms_letters _ hc).2.1
        simp at hlen
      have hall : ∀ t ∈ (upper w).map fun c => [c],
          decide (t ∉ legalForms) = true := by
        intro t ht
        obtain ⟨c, -, rfl⟩ := List.mem_map.mp ht
        simpa using hletter c
      rw [Part.tokens, List.filter_eq_self.mpr hall]
      rfl

/-- What a key is made of. -/
def Spelling.core (a : Spelling) : List Text :=
  (a.parts.flatMap fun q => q.1.tokens).filter (· ∉ legalForms)

/-- What stays of a spelling is its words and the letters of its dotted
forms. -/
theorem Spelling.core_perm (a : Spelling) :
    a.core.Perm (a.words ++ a.letters) := by
  have hcore : a.core = a.parts.flatMap fun q => q.1.words ++ q.1.letters := by
    rw [Spelling.core, List.filter_flatMap]
    apply List.flatMap_congr
    intro q hq
    exact Part.filter_tokens (a.parts_ok q hq)
  rw [hcore]
  exact (List.flatMap_append_perm a.parts _ _).symm

/-- No token of a part has a blank in it. -/
theorem Part.tokens_chars {part : Part} (h : part.Ok) :
    ∀ t ∈ part.tokens, ' ' ∉ t := by
  have hblank : ' ' ∉ upper part.raw := by
    intro hc
    exact absurd ((Part.upper_ok h).2 ' ' hc) (by decide)
  intro t ht
  cases part with
  | word w =>
      rw [List.mem_singleton.mp ht]
      exact hblank
  | form w =>
      rw [List.mem_singleton.mp ht]
      exact hblank
  | dotted w =>
      obtain ⟨c, hc, rfl⟩ := List.mem_map.mp ht
      intro hmem
      rw [← List.mem_singleton.mp hmem] at hc
      exact hblank hc

/-- So no token of a key has. -/
theorem Spelling.core_chars (a : Spelling) : ∀ t ∈ a.core, ' ' ∉ t := by
  intro t ht
  obtain ⟨q, hq, ht⟩ := List.mem_flatMap.mp (List.mem_filter.mp ht).1
  exact Part.tokens_chars (a.parts_ok q hq) t ht

def sorted (l : List Text) : List Text := l.insertionSort (· ≤ ·)

/-- Sorting forgets the order and nothing else. -/
theorem sorted_eq_iff {l l' : List Text} :
    sorted l = sorted l' ↔ l.Perm l' := by
  constructor
  · intro h
    have hl : (sorted l).Perm l := List.perm_insertionSort _ l
    have hl' : (sorted l').Perm l' := List.perm_insertionSort _ l'
    rw [h] at hl
    exact hl.symm.trans hl'
  · intro h
    have hperm : (sorted l).Perm (sorted l') :=
      (List.perm_insertionSort _ l).trans
        (h.trans (List.perm_insertionSort _ l').symm)
    refine hperm.eq_of_pairwise ?_ (List.pairwise_insertionSort _ l)
      (List.pairwise_insertionSort _ l')
    intro x y _ _ hxy hyx
    exact le_antisymm hxy hyx

/-- And joining with blanks forgets nothing about texts without them. -/
theorem join_injective {l l' : List Text} (hl : ∀ t ∈ l, ' ' ∉ t)
    (hl' : ∀ t ∈ l', ' ' ∉ t) (hne : l ≠ []) (hne' : l' ≠ [])
    (h : [' '].intercalate l = [' '].intercalate l') : l = l' := by
  have hsplit := congrArg (List.splitOn ' ') h
  rwa [List.splitOn_intercalate ' ' hl hne,
    List.splitOn_intercalate ' ' hl' hne'] at hsplit

/-- A spelling with a word in it has a key that is not empty. -/
theorem Spelling.core_ne_nil (hwords : a.words ≠ []) : a.core ≠ [] := by
  intro hnil
  have hperm := a.core_perm
  rw [hnil] at hperm
  exact hwords (List.append_eq_nil_iff.mp hperm.nil_eq.symm).1

/-- The key of a spelling is what stays of it, sorted and joined. -/
theorem nameKey_spelling (hp : p.Ascii) (hwords : a.words ≠ []) :
    nameKey p a.text = [' '].intercalate (sorted a.core) := by
  have hcore : (a.parts.flatMap fun q => q.1.tokens).filter
      (· ∉ legalForms) ≠ [] := Spelling.core_ne_nil hwords
  unfold nameKey
  simp only [a.tokens_text hp, if_pos hcore]
  rfl

/-- Two spellings have one key exactly when words and letters are the
same together. -/
theorem nameKey_eq_iff (hp : p.Ascii) (ha : a.words ≠ [])
    (hb : b.words ≠ []) : nameKey p a.text = nameKey p b.text
      ↔ (a.words ++ a.letters).Perm (b.words ++ b.letters) := by
  have hperm : a.core.Perm b.core
      ↔ (a.words ++ a.letters).Perm (b.words ++ b.letters) :=
    ⟨fun h => a.core_perm.symm.trans (h.trans b.core_perm),
      fun h => a.core_perm.trans (h.trans b.core_perm.symm)⟩
  rw [nameKey_spelling hp ha, nameKey_spelling hp hb, ← hperm,
    ← sorted_eq_iff]
  constructor
  · intro h
    have hmem : ∀ {c : Spelling}, ∀ t ∈ sorted c.core, ' ' ∉ t :=
      fun {c} t ht => c.core_chars t
        ((List.perm_insertionSort _ c.core).mem_iff.mp ht)
    have hne : ∀ {c : Spelling}, c.words ≠ [] → sorted c.core ≠ [] :=
      fun {c} hc hnil => Spelling.core_ne_nil hc
        (List.perm_nil.mp (hnil ▸ (List.perm_insertionSort _ c.core).symm))
    exact join_injective hmem hmem (hne ha) (hne hb) h
  · intro h
    rw [h]

-- ================================================================ the list

/-- The lists name `name` under `entNum`: as a primary name, among the
names in its remarks, or as an alias. -/
inductive Listed (p : Platform) (sdn : List (List Text))
    (alt : Option (List (List Text))) (name entNum : Text) : Prop
  | primary {row : List Text} : row ∈ sdn → clean p row 0 = entNum →
      entNum ≠ [] → clean p row 1 = name → name ≠ [] →
      Listed p sdn alt name entNum
  | aka {row : List Text} : row ∈ sdn → clean p row 0 = entNum →
      entNum ≠ [] → clean p row 1 ≠ [] → name ∈ p.aka (clean p row 11) →
      Listed p sdn alt name entNum
  | onAlt {rows : List (List Text)} {row : List Text} : alt = some rows →
      row ∈ rows → clean p row 0 = entNum → entNum ≠ [] →
      clean p row 3 = name → name ≠ [] → Listed p sdn alt name entNum

/-- The listing is on file under its name's key. -/
def Holds (p : Platform) (list : SanctionsList) (name entNum : Text) :
    Prop :=
  ⟨name, entNum⟩ ∈ (list.names.get (nameKey p name)).getD []

variable {list : SanctionsList} {name entNum : Text}

/-- A name with a long enough key is put on file. -/
theorem addName_new (list : SanctionsList) (e : Text)
    (h : 5 ≤ (nameKey p name).length) :
    Holds p (list.addName p name name e) name e := by
  unfold SanctionsList.addName Holds
  rw [if_neg (by omega), Store.get_set_self]
  simp

/-- And what is there stays. -/
theorem addName_keeps (h : Holds p list name entNum) (n e : Text) :
    Holds p (list.addName p n n e) name entNum := by
  unfold SanctionsList.addName
  by_cases hshort : (nameKey p n).length < 5
  · rw [if_pos hshort]
    exact h
  · rw [if_neg hshort]
    unfold Holds at h ⊢
    rw [Store.get_set]
    by_cases hkey : nameKey p name = nameKey p n
    · rw [if_pos hkey]
      rw [hkey] at h
      exact List.mem_append_left _ h
    · rw [if_neg hkey]
      exact h

/-- What every step of a fold keeps is kept. -/
theorem foldl_keeps {σ ι : Type} {f : σ → ι → σ} {P : σ → Prop}
    (hkeep : ∀ s x, P s → P (f s x)) (l : List ι) {s : σ} (h : P s) :
    P (l.foldl f s) := by
  induction l generalizing s with
  | nil => exact h
  | cons x l ih => exact ih (hkeep s x h)

/-- And what one of them makes is there at the end. -/
theorem foldl_makes {σ ι : Type} {f : σ → ι → σ} {P : σ → Prop}
    (hkeep : ∀ s x, P s → P (f s x)) {l : List ι} {x : ι} (hx : x ∈ l)
    (hmake : ∀ s, P (f s x)) (s : σ) : P (l.foldl f s) := by
  induction l generalizing s with
  | nil => cases hx
  | cons y l ih =>
      rcases List.mem_cons.mp hx with rfl | hx
      · exact foldl_keeps hkeep l (hmake s)
      · exact ih hx (f s y)

/-- The digital addresses of a row leave the names alone. -/
theorem addresses_keep (found : List (Text × Text)) (e : Text)
    (h : Holds p list name entNum) :
    Holds p (found.foldl (fun list found => { list with
        addresses := list.addresses.set (p.toUpperCase found.2)
          ⟨found.1 ++ [' '] ++ found.2, e⟩ }) list) name entNum := by
  refine foldl_keeps (P := fun l => Holds p l name entNum) ?_ found h
  intro l x hl
  exact hl

/-- Aliases only add entries to keys. -/
theorem akas_keep (names : List Text) (e : Text)
    (h : Holds p list name entNum) :
    Holds p (names.foldl (fun list found => list.addName p found found e)
      list) name entNum :=
  foldl_keeps (P := fun l => Holds p l name entNum)
    (fun _ n hl => addName_keeps hl n e) names h

/-- A later row takes nothing away. -/
theorem addRow_keeps (row : List Text) (h : Holds p list name entNum) :
    Holds p (list.addRow p row) name entNum := by
  unfold SanctionsList.addRow
  simp only
  split
  · exact h
  · exact addresses_keep _ _ (akas_keep _ _ (addName_keeps h _ _))

/-- Nor does a later alias. -/
theorem addAlias_keeps (row : List Text) (h : Holds p list name entNum) :
    Holds p (list.addAlias p row) name entNum := by
  unfold SanctionsList.addAlias
  simp only
  split
  · exact addName_keeps h _ _
  · exact h

/-- Every listing with a long enough key is on file. -/
theorem Listed.holds {sdn : List (List Text)}
    {alt : Option (List (List Text))} (h : Listed p sdn alt name entNum)
    (hlen : 5 ≤ (nameKey p name).length) :
    Holds p (SanctionsList.ofRows p sdn alt) name entNum := by
  unfold SanctionsList.ofRows
  simp only
  have haliases : ∀ (rows : List (List Text)) l, Holds p l name entNum →
      Holds p (rows.foldl (SanctionsList.addAlias p) l) name entNum :=
    fun rows l h => foldl_keeps (P := fun l => Holds p l name entNum)
      (fun _ x hl => addAlias_keeps x hl) rows h
  cases h with
  | @primary row hrow hent hent_ne hname hname_ne =>
      apply haliases
      refine foldl_makes (P := fun l => Holds p l name entNum)
        (fun _ x hl => addRow_keeps x hl) hrow ?_ _
      intro l
      unfold SanctionsList.addRow
      simp only [hent, hname]
      rw [if_neg (by simp [hent_ne, hname_ne])]
      exact addresses_keep _ _ (akas_keep _ _ (addName_new _ _ hlen))
  | @aka row hrow hent hent_ne hname_ne haka =>
      apply haliases
      refine foldl_makes (P := fun l => Holds p l name entNum)
        (fun _ x hl => addRow_keeps x hl) hrow ?_ _
      intro l
      unfold SanctionsList.addRow
      simp only [hent]
      rw [if_neg (by simp [hent_ne, hname_ne])]
      apply addresses_keep
      exact foldl_makes (P := fun l => Holds p l name entNum)
        (fun _ n hl => addName_keeps hl n entNum) haka
        (fun l => addName_new l entNum hlen) _
  | @onAlt rows row halt hrow hent hent_ne hname hname_ne =>
      rw [halt]
      refine foldl_makes (P := fun l => Holds p l name entNum)
        (fun _ x hl => addAlias_keeps x hl) hrow ?_ _
      intro l
      unfold SanctionsList.addAlias
      simp only [hent, hname]
      rw [if_pos ⟨hent_ne, hname_ne⟩]
      exact addName_new _ _ hlen

/-- So a party whose name has the listing's key is matched with it. -/
theorem screen_listed {sdn : List (List Text)}
    {alt : Option (List (List Text))} (h : Listed p sdn alt name entNum)
    (hlen : 5 ≤ (nameKey p name).length) {subject : ScreeningSubject}
    (hsubject : subject.legalName ≠ [])
    (hkey : nameKey p name = nameKey p subject.legalName) :
    ⟨.name, name, entNum⟩
      ∈ (SanctionsList.ofRows p sdn alt).screen p subject := by
  have hholds := h.holds hlen
  unfold Holds at hholds
  unfold SanctionsList.screen
  rw [if_neg hsubject, ← hkey]
  exact List.mem_append_left _
    (List.mem_map.mpr ⟨⟨name, entNum⟩, hholds, rfl⟩)

-- ============================================================== the variants

/-- The two have the same words, in any order and case. -/
structure Variant (a b : Spelling) : Prop where
  words : a.words.Perm b.words
  named : a.words ≠ []

/-- They have one key, and whatever list has the one, a party called the
other is matched with its entry. -/
structure Caught (p : Platform) (a b : Spelling) : Prop where
  key : nameKey p a.text = nameKey p b.text
  screened : ∀ (sdnCsv : Text) (altCsv : Option Text) (entNum : Text)
    (accounts : List Text),
    Listed p (parseCsv sdnCsv) (altCsv.map parseCsv) a.text entNum →
    5 ≤ (nameKey p a.text).length →
    ∃ m ∈ (SanctionsList.ofCsv p sdnCsv altCsv).screen p ⟨b.text, accounts⟩,
      m.type = .name ∧ m.entNum = entNum

/-- A variant is caught exactly when the forms written with dots leave
the same letters in both, as they do when there are none. -/
theorem variant_caught_iff (p : Platform) (a b : Spelling) (hp : p.Ascii)
    (h : Variant a b) : Caught p a b ↔ a.letters.Perm b.letters := by
  have hb : b.words ≠ [] := by
    intro hnil
    have hperm := h.words
    rw [hnil] at hperm
    exact h.named (List.perm_nil.mp hperm)
  have hletters : (a.words ++ a.letters).Perm (b.words ++ b.letters)
      ↔ a.letters.Perm b.letters := by
    constructor
    · intro hall
      exact (List.perm_append_left_iff a.words).mp
        (hall.trans (h.words.symm.append_right b.letters))
    · intro hletters
      exact h.words.append hletters
  have hkey := (nameKey_eq_iff hp h.named hb).trans hletters
  constructor
  · intro hcaught
    exact hkey.mp hcaught.key
  · intro hperm
    refine ⟨hkey.mpr hperm, ?_⟩
    intro sdnCsv altCsv entNum accounts hlisted hlen
    refine ⟨_, screen_listed hlisted hlen ?_ (hkey.mpr hperm), rfl, rfl⟩
    intro hnil
    have htokens := b.tokens_text hp
    rw [show b.text = [] from hnil] at htokens
    have hempty : tokens p [] = [] := by
      unfold tokens
      simp only [hp.normalizeNFKD [] (by simp), List.filter_nil,
        hp.toUpperCase [] (by simp)]
      rfl
    rw [hempty] at htokens
    refine Spelling.core_ne_nil hb ?_
    rw [Spelling.core, ← htokens]
    rfl

namespace Demo

/-- A platform whose normal forms are the texts themselves does on ASCII
what every platform does. -/
theorem plain_ascii : plain.Ascii where
  normalizeNFKD _ _ := rfl
  toUpperCase _ _ := rfl

/-- "ACME CAPITAL, S.A." -/
def dottedName : Spelling where
  lead := []
  parts := [(.word "ACME".toList, " ".toList),
    (.word "CAPITAL".toList, ", ".toList), (.dotted "SA".toList, ".".toList)]
  lead_separates := by decide
  parts_ok := by decide +kernel
  separated := by decide +kernel
  apart := by decide +kernel

/-- "Acme Capital SA" -/
def plainName : Spelling where
  lead := []
  parts := [(.word "Acme".toList, " ".toList),
    (.word "Capital".toList, " ".toList), (.form "SA".toList, [])]
  lead_separates := by decide
  parts_ok := by decide +kernel
  separated := by decide +kernel
  apart := by decide +kernel

/-- "capital / ACME (Ltd.)" -/
def otherName : Spelling where
  lead := []
  parts := [(.word "capital".toList, " / ".toList),
    (.word "ACME".toList, " (".toList), (.form "Ltd".toList, ".)".toList)]
  lead_separates := by decide
  parts_ok := by decide +kernel
  separated := by decide +kernel
  apart := by decide +kernel

/-- The list names the first. -/
def sdnCsv : Text := "9,\"ACME CAPITAL, S.A.\"\n".toList

end Demo

/-- A listed name is found with its words in another order, other
separators and another legal form. -/
theorem variant_caught_demo : Caught plain Demo.otherName Demo.plainName :=
  (variant_caught_iff plain Demo.otherName Demo.plainName Demo.plain_ascii
    ⟨by decide +kernel, by decide +kernel⟩).mpr (by decide +kernel)

/-- A listed "S.A." is two letters and the party's "SA" is nothing: the
keys differ, and the screening finds no match. -/
theorem dotted_form_missed :
    Variant Demo.dottedName Demo.plainName
      ∧ nameKey plain Demo.dottedName.text
        ≠ nameKey plain Demo.plainName.text
      ∧ Listed plain (parseCsv Demo.sdnCsv) none Demo.dottedName.text
        "9".toList
      ∧ 5 ≤ (nameKey plain Demo.dottedName.text).length
      ∧ (SanctionsList.ofCsv plain Demo.sdnCsv none).screen plain
        ⟨Demo.plainName.text, []⟩ = []
      ∧ ¬ Caught plain Demo.dottedName Demo.plainName := by
  have hkey : nameKey plain Demo.dottedName.text
      ≠ nameKey plain Demo.plainName.text := by
    decide +kernel
  refine ⟨⟨by decide +kernel, by decide +kernel⟩, hkey, ?_,
    by decide +kernel, by decide +kernel, fun h => hkey h.key⟩
  exact @Listed.primary _ _ _ _ _ ["9".toList, Demo.dottedName.text]
    (by decide +kernel) (by decide +kernel) (by decide)
    (by decide +kernel) (by decide +kernel)

end Ballast.Compliance
