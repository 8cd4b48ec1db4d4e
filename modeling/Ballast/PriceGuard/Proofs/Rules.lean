/-
What the rules compute, without the buffer they compute it in.

The sort leaves the fresh values in order (`sort_used`), so the median
value is the median of their multiset (`medianValue_ok`), the band
check compares their least and greatest (`withinBand_true`), and the
whole verdict is the same whatever order the values came in
(`judge_perm`).

# Why the order does not matter

Readings come in the order in which sources were added, and that order
must not decide a price. A verdict looks at the values through their
sorted buffer alone, and two orders of one multiset fill the same sorted
buffer (`sort_perm`). What lies behind the values in the buffer is
padding, which the sort never touches.
-/
import Ballast.PriceGuard.Basic
import Ballast.Sorting.Median

namespace Ballast.PriceGuard

open Soroban Sorting

-- ============================================================= the sort

/-- The entry a split of the buffer singles out. -/
theorem getElem_of_split {items : Vector Int 8} {a c : List Int} {x : Int}
    {j : Nat} (hj : j < 8) (ha : a.length = j)
    (h : items.toList = a ++ x :: c) : items[j] = x := by
  have hget : items.toList[j]? = some x := by
    rw [h, ← ha]
    simp
  rw [Vector.getElem?_toList, Vector.getElem?_eq_getElem hj] at hget
  exact Option.some.inj hget

/-- The inner loop, on the entries below the slot it starts from: `key`
ends up in a slot of them, and what is above stays. -/
theorem shiftIn_toList (key : Int) {j : Nat} (hj : j < 8)
    {items : Vector Int 8} {a c : List Int} {x : Int}
    (ha : a.length = j) (hitems : items.toList = a ++ x :: c) :
    ∃ l r, a = l ++ r ∧ Slot key l r
      ∧ (shiftIn key j hj items).toList = l ++ key :: (r ++ c) := by
  induction j generalizing items a c x with
  | zero =>
      have hnil : a = [] := List.length_eq_zero_iff.mp ha
      subst hnil
      refine ⟨[], [], rfl, ⟨?_, ?_⟩, ?_⟩
      · intro y hy
        cases hy
      · intro y hy
        cases hy
      · rw [shiftIn, Vector.toList_set, hitems]
        rfl
  | succ j ih =>
      -- the entry below the slot decides
      obtain ⟨a', y, hay⟩ : ∃ a' y, a = a' ++ [y] := by
        rcases List.eq_nil_or_concat a with hnil | ⟨a', y, hay⟩
        · rw [hnil] at ha
          cases ha
        · exact ⟨a', y, by rw [hay, List.concat_eq_append]⟩
      have ha' : a'.length = j := by
        rw [hay, List.length_append] at ha
        simpa using ha
      have hsplit : items.toList = a' ++ y :: x :: c := by
        rw [hitems, hay, List.append_assoc]
        rfl
      have hy : items[j] = y := getElem_of_split (by omega) ha' hsplit
      have hset : ∀ z, (items.set (j + 1) z).toList
          = a' ++ y :: z :: c := by
        intro z
        rw [Vector.toList_set, hsplit, ← ha']
        simp
      rw [shiftIn, hy]
      split
      · next hlt =>
        obtain ⟨l, r, har, hslot, hres⟩ := ih (by omega) ha' (hset y)
        refine ⟨l, r ++ [y], ?_, ⟨hslot.stop, ?_⟩, ?_⟩
        · rw [hay, har, List.append_assoc]
        · intro z hz
          rcases List.mem_append.mp hz with hz | hz
          · exact hslot.passed z hz
          · rw [List.mem_singleton] at hz
            rw [hz]
            exact hlt
        · rw [hres]
          simp
      · next hge =>
        refine ⟨a' ++ [y], [], by simp [hay], ⟨?_, ?_⟩, ?_⟩
        · intro z hz
          simp only [List.getLast?_append, List.getLast?_singleton,
            Option.some_or, Option.some.injEq] at hz
          omega
        · intro z hz
          cases hz
        · rw [hset]
          simp

/-- After `n` rounds the first `n` entries are in order, and the rest
are where they were. -/
theorem insertUpTo_toList (items : Vector Int 8) {n : Nat} (hn : n ≤ 8) :
    ∃ p, p.Perm (items.toList.take n) ∧ p.Pairwise (· ≤ ·)
      ∧ (insertUpTo items n hn).toList = p ++ items.toList.drop n := by
  induction n using Nat.strongRecOn with
  | ind n ih =>
    match n, hn with
    | 0, _ => exact ⟨[], by simp, .nil, by simp [insertUpTo]⟩
    | 1, _ =>
        refine ⟨items.toList.take 1, .refl _, ?_, ?_⟩
        · have hlen : (items.toList.take 1).length = 1 := by simp
          obtain ⟨x, hx⟩ := List.length_eq_one_iff.mp hlen
          rw [hx]
          exact List.pairwise_singleton _ _
        · rw [insertUpTo, List.take_append_drop]
    | n + 2, hn =>
        obtain ⟨p, hperm, hsorted, hlist⟩ := ih (n + 1) (by omega)
          (by omega)
        have hlen : p.length = n + 1 := by
          rw [hperm.length_eq]
          simp
          omega
        have hlt : n + 1 < items.toList.length := by
          simp
          omega
        have htake := List.take_succ_eq_append_getElem hlt
        rw [List.drop_eq_getElem_cons hlt] at hlist
        generalize items.toList[n + 1] = x at htake hlist
        have hkey := getElem_of_split (by omega) hlen hlist
        obtain ⟨l, r, hlr, hslot, hres⟩ :=
          shiftIn_toList x (by omega) hlen hlist
        refine ⟨l ++ x :: r, ?_, ?_, ?_⟩
        · rw [hlr] at hperm
          rw [htake]
          exact insert_perm.trans (hperm.append_right _)
        · rw [hlr] at hsorted
          exact hslot.sorted hsorted
        · rw [insertUpTo, hkey, hres]
          simp

variable {values values' : List Int} {b : SortBuf} {v : Int}

/-- The whole sorted buffer: the values in order, then the padding. -/
theorem sort_toList (h : SortBuf.from values = .ok b) :
    b.sort.items.toList = ascending (values : Multiset Int)
        ++ List.replicate (8 - values.length) 0
      ∧ b.len = values.length := by
  unfold SortBuf.from at h
  split at h
  case isFalse => cases h
  case isTrue hle =>
    injection h with h
    have hlen : b.len = values.length := by rw [← h]
    have hitems : b.items.toList
        = values ++ List.replicate (8 - values.length) 0 := by
      rw [← h]
      rfl
    obtain ⟨p, hperm, hsorted, hlist⟩ := insertUpTo_toList b.items b.len_le
    rw [hlen, hitems, List.take_left] at hperm
    refine ⟨?_, hlen⟩
    show (insertUpTo b.items b.len b.len_le).toList = _
    rw [hlist, hlen, hitems, List.drop_left, ascending_of_perm hsorted hperm]

theorem sort_used (h : SortBuf.from values = .ok b) :
    b.sort.used = ascending (values : Multiset Int) := by
  obtain ⟨hlist, hlen⟩ := sort_toList h
  show b.sort.items.toList.take b.len = _
  rw [hlist, hlen]
  apply List.take_left'
  rw [length_ascending, Multiset.coe_card]

theorem sort_getElem (h : SortBuf.from values = .ok b) {i : Nat}
    (hi : i < values.length) (hi' : i < 8) :
    b.sort.items[i] = (ascending (values : Multiset Int)).getD i 0 := by
  have hlen : i < (ascending (values : Multiset Int)).length := by
    rw [length_ascending, Multiset.coe_card]
    exact hi
  have hget : b.sort.items.toList[i]?
      = some (ascending (values : Multiset Int))[i] := by
    rw [(sort_toList h).1, List.getElem?_append_left hlen,
      List.getElem?_eq_getElem hlen]
  rw [Vector.getElem?_toList, Vector.getElem?_eq_getElem hi'] at hget
  rw [List.getD_eq_getElem _ _ hlen]
  exact Option.some.inj hget

-- ======================================================== the three checks

/-- What the buffer calls the median is the median of the multiset. -/
theorem medianValue_ok (h : SortBuf.from values = .ok b)
    (hne : 2 ≤ values.length) (hpos : ∀ x ∈ values, 0 < x)
    (hv : b.sort.medianValue = .ok v) :
    v = median (values : Multiset Int) := by
  have hlen : b.sort.len = values.length := (sort_toList h).2
  have hle := b.len_le
  have hpos' : ∀ i, i < values.length →
      0 < (ascending (values : Multiset Int)).getD i 0 := by
    intro i hi
    exact hpos _ (Multiset.mem_coe.mp (ascending_getD_mem hi))
  unfold SortBuf.medianValue at hv
  unfold median
  simp only [hlen] at hv
  rw [Multiset.coe_card]
  split at hv
  case isTrue hodd =>
    injection hv with hv
    rw [if_pos hodd, ← hv]
    exact sort_getElem h (by omega) _
  case isFalse heven =>
    rw [if_neg heven]
    simp only [map_ok, I128.add_ok] at hv
    obtain ⟨sum, ⟨-, rfl⟩, rfl⟩ := hv
    rw [sort_getElem h (by omega), sort_getElem h (by omega)]
    have hlo := hpos' (values.length / 2 - 1) (by omega)
    have hhi := hpos' (values.length / 2) (by omega)
    exact Int.tdiv_eq_ediv_of_nonneg (by omega)

/-- Two or more values in band: their least is positive, and their
greatest is within the band of it. -/
theorem withinBand_true {bandBps : Nat} (hne : 2 ≤ values.length)
    (h : withinBand values bandBps = .ok true) :
    ∃ lo hi, lo ∈ values ∧ (∀ x ∈ values, lo ≤ x)
      ∧ hi ∈ values ∧ (∀ x ∈ values, x ≤ hi)
      ∧ 0 < lo ∧ (hi - lo) * 10000 / lo ≤ bandBps := by
  unfold withinBand at h
  rw [if_neg (by omega)] at h
  simp only [bind_ok, expect_ok] at h
  obtain ⟨lo, hlo, hi, hhi, h⟩ := h
  obtain ⟨hlomem, hlole⟩ := List.min?_eq_some_iff.mp hlo
  obtain ⟨himem, hhile⟩ := List.max?_eq_some_iff.mp hhi
  refine ⟨lo, hi, hlomem, hlole, himem, hhile, ?_⟩
  split at h
  · simp [pure, Except.pure] at h
  · next hpos =>
    simp only [bind_ok, I128.sub_ok, I128.mul_ok, pure_ok] at h
    obtain ⟨_, ⟨-, rfl⟩, _, ⟨-, rfl⟩, h⟩ := h
    have hspread : 0 ≤ (hi - lo) * 10000 := by
      have hle := hlole hi himem
      omega
    refine ⟨by omega, ?_⟩
    rw [← Int.tdiv_eq_ediv_of_nonneg hspread]
    exact of_decide_eq_true h

/-- A move that is not too far is within its band. -/
theorem movedTooFar_false {r : Int} {bandBps : Nat} (hr : 0 < r)
    (h : movedTooFar (some r) v bandBps = .ok false) :
    |v - r| * 10000 / r ≤ bandBps := by
  simp only [movedTooFar, if_pos hr, bind_ok, I128.sub_ok, I128.checked_ok,
    I128.mul_ok, pure_ok, decide_eq_false_iff_not] at h
  obtain ⟨_, ⟨-, rfl⟩, _, ⟨-, rfl⟩, _, ⟨-, rfl⟩, h⟩ := h
  have hdist : 0 ≤ |v - r| * 10000 := by
    have habs := abs_nonneg (v - r)
    omega
  rw [← Int.tdiv_eq_ediv_of_nonneg hdist]
  omega

/-- Only a positive reference can be moved too far from. -/
theorem movedTooFar_true {ref : Option Int} {bandBps : Nat}
    (h : movedTooFar ref v bandBps = .ok true) :
    ∃ r, ref = some r ∧ 0 < r ∧ (bandBps : Int) < |v - r| * 10000 / r := by
  unfold movedTooFar at h
  split at h
  · simp [pure, Except.pure] at h
  · next r =>
    split at h
    · next hr =>
      simp only [bind_ok, I128.sub_ok, I128.checked_ok, I128.mul_ok,
        pure_ok, decide_eq_true_eq] at h
      obtain ⟨_, ⟨-, rfl⟩, _, ⟨-, rfl⟩, _, ⟨-, rfl⟩, h⟩ := h
      have hdist : 0 ≤ |v - r| * 10000 := by
        have habs := abs_nonneg (v - r)
        omega
      rw [Int.tdiv_eq_ediv_of_nonneg hdist] at h
      exact ⟨r, rfl, hr, h⟩
    · simp [pure, Except.pure] at h

-- ========================================================== the verdict

variable {s : State} {asset : Address} {config : AssetGuardConfig}

/-- Values two or more, in agreement, with median `m`. -/
structure InBand (values : List Int) (bandBps : Nat) (m : Int) : Prop where
  two : 2 ≤ values.length
  median : m = median (values : Multiset Int)
  spread : ∃ lo hi, lo ∈ values ∧ (∀ x ∈ values, lo ≤ x)
    ∧ hi ∈ values ∧ (∀ x ∈ values, x ≤ hi)
    ∧ 0 < lo ∧ (hi - lo) * 10000 / lo ≤ bandBps

/-- The median of values in band is positive. -/
theorem InBand.pos {bandBps : Nat} {m : Int} (h : InBand values bandBps m) :
    0 < m := by
  obtain ⟨lo, hi, -, hle, -, -, hlo, -⟩ := h.spread
  have htwo := h.two
  rw [h.median]
  have hmed : lo ≤ Sorting.median (values : Multiset Int) := by
    apply le_median
    · rw [Multiset.coe_card]
      omega
    · intro x hx
      exact hle x (Multiset.mem_coe.mp hx)
  omega

/-- What is known once the band check is passed. -/
theorem judge_inBand {verdict : Verdict} (hpos : ∀ x ∈ values, 0 < x)
    (h : judge s asset config values = .ok verdict) :
    verdict = .latched ∨ verdict = .degraded
    ∨ ∃ m daily, InBand values config.bandBps m
      ∧ (s.halted.get asset).getD false = false
      ∧ movedTooFar (s.lastGood.get asset) m config.dailyMoveBandBps
          = .ok daily
      ∧ (daily = true ∧ verdict = .tripped ((s.lastGood.get asset).getD 0) m
        ∨ daily = false ∧ ∃ drift,
          movedTooFar (s.rollingReference.get asset) m
            config.windowMoveBandBps = .ok drift
          ∧ verdict = if drift then .tripped ((s.lastGood.get asset).getD
              ((s.rollingReference.get asset).getD 0)) m
            else .agreed m) := by
  unfold judge at h
  simp only at h
  split at h
  · rw [pure_ok] at h
    exact .inl h.symm
  next hlatch =>
  split at h
  · rw [pure_ok] at h
    exact .inr (.inl h.symm)
  next htwo =>
  simp only [bind_ok] at h
  obtain ⟨buf, hbuf, m, hm, agree, hagree, h⟩ := h
  cases agree with
  | false =>
      rw [if_pos rfl, pure_ok] at h
      exact .inr (.inl h.symm)
  | true =>
      rw [if_neg (by decide), bind_ok] at h
      obtain ⟨daily, hdaily, h⟩ := h
      have htwo' : 2 ≤ values.length := by omega
      have hband : InBand values config.bandBps m := by
        rw [sort_used hbuf] at hagree
        have hlen : 2 ≤ (ascending (values : Multiset Int)).length := by
          rw [length_ascending, Multiset.coe_card]
          exact htwo'
        refine ⟨htwo', medianValue_ok hbuf htwo' hpos hm, ?_⟩
        obtain ⟨lo, hi, hspread⟩ := withinBand_true hlen hagree
        simp only [mem_ascending, Multiset.mem_coe] at hspread
        exact ⟨lo, hi, hspread⟩
      refine .inr (.inr ⟨m, daily, hband, by simpa using hlatch, hdaily, ?_⟩)
      cases daily with
      | true =>
          rw [if_pos rfl, pure_ok] at h
          exact .inl ⟨rfl, h.symm⟩
      | false =>
          rw [if_neg (by decide), bind_ok] at h
          obtain ⟨drift, hdrift, h⟩ := h
          refine .inr ⟨rfl, drift, hdrift, ?_⟩
          cases drift with
          | true =>
              rw [if_pos rfl, pure_ok] at h
              exact h.symm
          | false =>
              rw [if_neg (by decide), pure_ok] at h
              exact h.symm

/-- Everything the rules checked before they agreed on a price. -/
theorem judge_agreed {m : Int} (hpos : ∀ x ∈ values, 0 < x)
    (h : judge s asset config values = .ok (.agreed m)) :
    InBand values config.bandBps m
    ∧ movedTooFar (s.lastGood.get asset) m config.dailyMoveBandBps
        = .ok false
    ∧ movedTooFar (s.rollingReference.get asset) m config.windowMoveBandBps
        = .ok false := by
  rcases judge_inBand hpos h with hv | hv | ⟨m', daily, hband, -, hdaily, hv⟩
  · cases hv
  · cases hv
  · rcases hv with ⟨-, hv⟩ | ⟨rfl, drift, hdrift, hv⟩
    · cases hv
    · cases drift with
      | true => cases hv
      | false =>
          injection hv with hv
          subst hv
          exact ⟨hband, hdaily, hdrift⟩

/-- A tripped band reports the last good price, if the reference it may
have tripped on came with one. -/
theorem judge_tripped {held m : Int} (hpos : ∀ x ∈ values, 0 < x)
    (href : ∀ r, s.rollingReference.get asset = some r →
      ∃ last, s.lastGood.get asset = some last)
    (h : judge s asset config values = .ok (.tripped held m)) :
    InBand values config.bandBps m
    ∧ held = (s.lastGood.get asset).getD 0
    ∧ (s.halted.get asset).getD false = false := by
  rcases judge_inBand hpos h with hv | hv | ⟨m', daily, hband, hopen, -, hv⟩
  · cases hv
  · cases hv
  · rcases hv with ⟨-, hv⟩ | ⟨-, drift, hdrift, hv⟩
    · injection hv with hheld hm
      subst hm
      exact ⟨hband, hheld, hopen⟩
    · cases drift with
      | false => cases hv
      | true =>
          injection hv with hheld hm
          subst hm
          obtain ⟨r, hr, -⟩ := movedTooFar_true hdrift
          obtain ⟨last, hlast⟩ := href r hr
          refine ⟨hband, ?_, hopen⟩
          rw [hheld, hlast]
          rfl

/-- Which bands a tripped verdict may have tripped. -/
theorem judge_moved {held m : Int} (hpos : ∀ x ∈ values, 0 < x)
    (h : judge s asset config values = .ok (.tripped held m)) :
    InBand values config.bandBps m
    ∧ (movedTooFar (s.lastGood.get asset) m config.dailyMoveBandBps
        = .ok true
      ∨ movedTooFar (s.rollingReference.get asset) m
        config.windowMoveBandBps = .ok true) := by
  rcases judge_inBand hpos h with hv | hv | ⟨m', daily, hband, -, hdaily, hv⟩
  · cases hv
  · cases hv
  · rcases hv with ⟨rfl, hv⟩ | ⟨-, drift, hdrift, hv⟩
    · injection hv with _ hm
      subst hm
      exact ⟨hband, .inl hdaily⟩
    · cases drift with
      | false => cases hv
      | true =>
          injection hv with _ hm
          subst hm
          exact ⟨hband, .inr hdrift⟩

/-- Two orders of the same values fill the same sorted buffer. -/
theorem sort_perm (hp : values.Perm values') :
    (SortBuf.from values).map SortBuf.sort
      = (SortBuf.from values').map SortBuf.sort := by
  have hlen := hp.length_eq
  by_cases hle : values.length ≤ 8
  · have hle' : values'.length ≤ 8 := by omega
    obtain ⟨b, hb⟩ : ∃ b, SortBuf.from values = .ok b := by
      unfold SortBuf.from
      rw [dif_pos hle]
      exact ⟨_, rfl⟩
    obtain ⟨b', hb'⟩ : ∃ b, SortBuf.from values' = .ok b := by
      unfold SortBuf.from
      rw [dif_pos hle']
      exact ⟨_, rfl⟩
    obtain ⟨hlist, hn⟩ := sort_toList hb
    obtain ⟨hlist', hn'⟩ := sort_toList hb'
    have hsame : b.sort.items = b'.sort.items := by
      apply Vector.toList_inj.mp
      rw [hlist, hlist', hlen, Multiset.coe_eq_coe.mpr hp]
    have hsort : b.sort = b'.sort := by
      have hn'' : b.sort.len = b'.sort.len := by
        show b.len = b'.len
        rw [hn, hn', hlen]
      cases hbs : b.sort
      cases hbs' : b'.sort
      simp_all
    rw [hb, hb']
    show Except.ok b.sort = Except.ok b'.sort
    rw [hsort]
  · have hle' : ¬ values'.length ≤ 8 := by omega
    unfold SortBuf.from
    rw [dif_neg hle, dif_neg hle']

/-- The verdict does not depend on the order of the values. -/
theorem judge_perm (hp : values.Perm values') :
    judge s asset config values = judge s asset config values' := by
  have hsort := sort_perm hp
  unfold judge
  rw [hp.length_eq]
  cases hb : SortBuf.from values with
  | error e =>
      cases hb' : SortBuf.from values' with
      | error e' =>
          rw [hb, hb'] at hsort
          injection hsort with hsort
          subst hsort
          rfl
      | ok b' =>
          rw [hb, hb'] at hsort
          cases hsort
  | ok b =>
      cases hb' : SortBuf.from values' with
      | error e' =>
          rw [hb, hb'] at hsort
          cases hsort
      | ok b' =>
          rw [hb, hb'] at hsort
          have hsame : b.sort = b'.sort := by
            injection hsort with hsort
          show (if _ then _ else if _ then _ else
            (Except.ok b >>= fun buf => _)) = _
          simp only [bind, Except.bind, hsame]

end Ballast.PriceGuard
