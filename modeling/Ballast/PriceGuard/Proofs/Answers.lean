/-
Whether `guardedPrice` answers at all.

# What can trap

Past the latch and the count of fresh readings, an evaluation copies the
fresh values into a buffer of eight and scales three differences to
basis points, each by 10000 in `i128`. More than eight fresh readings
trap, and so does a difference above `2^127 / 10000`. A publication that
would leave the asset in such a state mostly reverts itself, being
evaluated at once. Not so one made while the asset is halted, or while
the other readings are stale: those come back when the staleness bound
is raised.

# What is enough, and what is not

Values no larger than `safeValue` and no more than eight tracked source
names keep every evaluation of every run from trapping, whatever the
order of publications, removals, halts and configuration changes, and
neither bound can be raised by one (`answers_iff`). The contract checks
neither.
-/
import Ballast.PriceGuard.Proofs.AssetPrice
import Ballast.PriceGuard.Proofs.Prices

namespace Ballast.PriceGuard

open Soroban Machine Sorting

/-- The largest value that is no further from any positive value than
can be scaled to basis points. -/
def safeValue : Int := (2 ^ 127 - 1) / 10000 + 1

variable {env : HostEnv} {self : Address} {s s' s₁ : State}
  {asset a : Address} {e : Entry} {config : AssetGuardConfig}
  {values : List Int} {V : Int} {n : Nat}

-- ========================================================== one verdict

/-- Differences of safe positive values scale. -/
theorem fits_scaled {x y : Int} (hx : 0 < x) (hx' : x ≤ safeValue)
    (hy : 0 < y) (hy' : y ≤ safeValue) :
    I128.Fits (x - y) ∧ I128.Fits |x - y| ∧ I128.Fits (|x - y| * 10000) := by
  have habs : |x - y| ≤ (2 ^ 127 - 1) / 10000 := by
    rw [abs_le]
    unfold safeValue at hx' hy'
    omega
  have hpos := abs_nonneg (x - y)
  have hle := le_abs_self (x - y)
  have hge := neg_abs_le (x - y)
  unfold I128.Fits
  omega

/-- Eight readings fit the buffer. -/
theorem sortBuf_total (hlen : values.length ≤ 8) :
    ∃ b, SortBuf.from values = .ok b := by
  unfold SortBuf.from
  rw [dif_pos hlen]
  exact ⟨_, rfl⟩

/-- The median of two or more values in bounds is computed without
overflow. -/
theorem medianValue_total {b : SortBuf} (h : SortBuf.from values = .ok b)
    (hne : 2 ≤ values.length) (hpos : ∀ x ∈ values, 0 < x)
    (hle : ∀ x ∈ values, x ≤ safeValue) :
    ∃ m, b.sort.medianValue = .ok m := by
  have hlen : b.sort.len = values.length := (sort_toList h).2
  have hlen' := b.len_le
  have hbuf : b.sort.len = b.len := rfl
  have hget : ∀ i, i < values.length → ∀ hi : i < 8,
      0 < b.sort.items[i] ∧ b.sort.items[i] ≤ safeValue := by
    intro i hi hi'
    rw [sort_getElem h hi hi']
    have hmem := Multiset.mem_coe.mp
      (ascending_getD_mem (m := (values : Multiset Int)) hi)
    exact ⟨hpos _ hmem, hle _ hmem⟩
  unfold SortBuf.medianValue
  simp only [hlen]
  split
  case isTrue => exact ⟨_, rfl⟩
  case isFalse heven =>
    have hlo := hget (values.length / 2 - 1) (by omega) (by omega)
    have hhi := hget (values.length / 2) (by omega) (by omega)
    simp only [map_ok, I128.add_ok]
    refine ⟨_, _, ⟨?_, rfl⟩, rfl⟩
    unfold I128.Fits
    unfold safeValue at hlo hhi
    omega

/-- So is whether they agree. -/
theorem withinBand_total {bandBps : Nat} (hpos : ∀ x ∈ values, 0 < x)
    (hle : ∀ x ∈ values, x ≤ safeValue) :
    ∃ agree, withinBand values bandBps = .ok agree := by
  unfold withinBand
  split
  case isTrue => exact ⟨true, rfl⟩
  case isFalse hne =>
    have hsome : values ≠ [] := by
      intro hnil
      rw [hnil] at hne
      simp at hne
    obtain ⟨lo, hlo⟩ := Option.isSome_iff_exists.mp
      (List.isSome_min?_iff.mpr hsome)
    obtain ⟨hi, hhi⟩ := Option.isSome_iff_exists.mp
      (List.isSome_max?_iff.mpr hsome)
    obtain ⟨hlomem, hlole⟩ := List.min?_eq_some_iff.mp hlo
    obtain ⟨himem, -⟩ := List.max?_eq_some_iff.mp hhi
    have hlopos := hpos lo hlomem
    obtain ⟨hsub, -, hmul⟩ := fits_scaled (hpos hi himem) (hle hi himem)
      hlopos (hle lo hlomem)
    rw [abs_of_nonneg (by linarith [hlole hi himem])] at hmul
    refine bind_returns (expect_ok.mpr hlo) (bind_returns
      (expect_ok.mpr hhi) ?_)
    rw [if_neg (by omega)]
    exact bind_returns (I128.sub_ok.mpr ⟨hsub, rfl⟩) (bind_returns
      (I128.mul_ok.mpr ⟨hmul, rfl⟩) ⟨_, rfl⟩)

/-- So is how far the median has moved from a price in bounds. -/
theorem movedTooFar_total {ref : Option Int} {m : Int} {bandBps : Nat}
    (hm : 0 < m) (hm' : m ≤ safeValue)
    (href : ∀ r, ref = some r → r ≤ safeValue) :
    ∃ moved, movedTooFar ref m bandBps = .ok moved := by
  cases ref with
  | none => exact ⟨false, rfl⟩
  | some r =>
      unfold movedTooFar
      simp only
      split
      case isFalse => exact ⟨false, rfl⟩
      case isTrue hr =>
        obtain ⟨hsub, habs, hmul⟩ := fits_scaled hm hm' hr (href r rfl)
        exact bind_returns (I128.sub_ok.mpr ⟨hsub, rfl⟩) (bind_returns
          (I128.checked_ok.mpr ⟨habs, rfl⟩) (bind_returns
            (I128.mul_ok.mpr ⟨hmul, rfl⟩) ⟨_, rfl⟩))

/-- On at most eight safe values, with safe references, the rules reach
a verdict. -/
theorem judge_total (hlen : values.length ≤ 8)
    (hpos : ∀ x ∈ values, 0 < x) (hle : ∀ x ∈ values, x ≤ safeValue)
    (hlast : ∀ r, s.lastGood.get asset = some r → r ≤ safeValue)
    (href : ∀ r, s.rollingReference.get asset = some r → r ≤ safeValue) :
    ∃ verdict, judge s asset config values = .ok verdict := by
  unfold judge
  simp only
  split
  case isTrue => exact ⟨_, rfl⟩
  case isFalse =>
    split
    case isTrue => exact ⟨_, rfl⟩
    case isFalse htwo =>
      rw [not_lt] at htwo
      obtain ⟨b, hb⟩ := sortBuf_total hlen
      obtain ⟨m, hm⟩ := medianValue_total hb htwo hpos hle
      have hmed := medianValue_ok hb htwo hpos hm
      have hcard : 0 < (values : Multiset Int).card := by
        rw [Multiset.coe_card]
        omega
      have hmpos : 0 < m := by
        have h1 : (1 : Int) ≤ median (values : Multiset Int) := by
          apply le_median hcard
          intro x hx
          have hx' := hpos x (Multiset.mem_coe.mp hx)
          omega
        omega
      have hmle : m ≤ safeValue := by
        rw [hmed]
        exact median_le hcard fun x hx => hle x (Multiset.mem_coe.mp hx)
      have hused : ∀ x ∈ b.sort.used, x ∈ values := by
        intro x hx
        rw [sort_used hb, mem_ascending] at hx
        exact Multiset.mem_coe.mp hx
      obtain ⟨agree, hagree⟩ : ∃ agree,
          withinBand b.sort.used config.bandBps = .ok agree :=
        withinBand_total (fun x hx => hpos x (hused x hx))
          (fun x hx => hle x (hused x hx))
      obtain ⟨daily, hdaily⟩ : ∃ moved, movedTooFar (s.lastGood.get asset) m
          config.dailyMoveBandBps = .ok moved :=
        movedTooFar_total hmpos hmle hlast
      obtain ⟨drift, hdrift⟩ : ∃ moved,
          movedTooFar (s.rollingReference.get asset) m
            config.windowMoveBandBps = .ok moved :=
        movedTooFar_total hmpos hmle href
      refine bind_returns hb (bind_returns hm (bind_returns hagree ?_))
      split
      case isTrue => exact ⟨_, rfl⟩
      case isFalse =>
        refine bind_returns hdaily ?_
        split
        case isTrue => exact ⟨_, rfl⟩
        case isFalse =>
          refine bind_returns hdrift ?_
          split
          case isTrue => exact ⟨_, rfl⟩
          case isFalse => exact ⟨_, rfl⟩

-- ============================================================ the bounds

/-- The source name and value a call publishes for `a`. -/
def Entry.publishes (a : Address) : Entry → Option (Symbol × Int)
  | .publishNav _ asset _ value _ _ =>
      if asset = a then some (issuerSource, value) else none
  | .publishSource _ asset source value _ =>
      if asset = a then some (source, value) else none
  | _ => none

/-- A reading published for `a` is no larger than `V`, and a source not
yet tracked is at most its `n`-th. -/
def KeepsTo (a : Address) (V : Int) (n : Nat) (e : Entry) (s : State) :
    Prop :=
  ∀ name value, e.publishes a = some (name, value) →
    value ≤ V ∧ (name ∈ sourceNames s a ∨ (sourceNames s a).length < n)

instance (a : Address) (V : Int) (n : Nat) (e : Entry) (s : State) :
    Decidable (KeepsTo a V n e s) :=
  match h : e.publishes a with
  | none => isTrue (by simp [KeepsTo, h])
  | some (name, value) =>
      decidable_of_iff (value ≤ V ∧ (name ∈ sourceNames s a
        ∨ (sourceNames s a).length < n)) (by simp [KeepsTo, h])

/-- The readings of `a`, their values and their number. -/
structure ReadingsWithin (s : State) (a : Address) (V : Int) (n : Nat) :
    Prop where
  reading : ∀ name x, s.source.get (a, name) = some x → x.value ≤ V
  names : (sourceNames s a).length ≤ n

/-- What is stored about a price is no larger than `V`. -/
structure AssetPrice.Below (p : AssetPrice) (V : Int) : Prop where
  lastGood : ∀ v, p.lastGood = some v → v ≤ V
  reference : ∀ v, p.reference = some v → v ≤ V
  pending : ∀ v, p.pending = some v → v ≤ V

/-- What such publications leave stored. -/
structure Bounded (s : State) (a : Address) (V : Int) (n : Nat) : Prop where
  readings : ReadingsWithin s a V n
  price : (priceOf s a).Below V

/-- `guardedPrice` of `a` returns at whatever time it is called, and so
does `removeSource` when the admin calls it. -/
structure Answers (addr : Address) (s : State) (a : Address) : Prop where
  price : ∀ env : GuardEnv, ∃ p, guardedPrice (env.at addr) a s = .ok p
  repair : ∀ (env : GuardEnv) r admin name, s.roles = some r →
    (env.at addr).Grants r.admin → (env.at addr).Grants admin →
    ∃ s', removeSource (env.at addr) admin a name s = .ok s'

-- ============================================================= one call

/-- Prices that are kept are medians, and so stay in bounds. -/
theorem AssetPrice.Below.after {p : AssetPrice} {now window : Nat}
    {verdict : Verdict} (h : p.Below V)
    (hverdict : ∀ held m, verdict = .tripped held m ∨ verdict = .agreed m →
      m ≤ V) : (p.after now window verdict).Below V := by
  cases verdict with
  | latched => exact h
  | degraded => exact h
  | tripped held m =>
      refine ⟨h.lastGood, h.reference, ?_⟩
      intro v hv
      injection hv with hv
      rw [← hv]
      exact hverdict held m (.inl rfl)
  | agreed m =>
      have hm : ∀ v, some m = some v → v ≤ V := by
        intro v hv
        injection hv with hv
        rw [← hv]
        exact hverdict 0 m (.inr rfl)
      simp only [AssetPrice.after, AssetPrice.agree]
      split
      · exact ⟨hm, hm, h.pending⟩
      · exact ⟨hm, h.reference, h.pending⟩

/-- A price promoted from a halt is one too. -/
theorem AssetPrice.Below.confirm {p : AssetPrice} {now : Nat}
    (h : p.Below V) : (p.confirm now).Below V := by
  unfold AssetPrice.confirm
  split
  next m hm =>
    have hle : ∀ v, some m = some v → v ≤ V := by
      intro v hv
      rw [← hm] at hv
      exact h.pending v hv
    exact ⟨hle, hle, by simp⟩
  next => exact ⟨h.lastGood, h.reference, h.pending⟩

/-- The readings after a call are those it handed to `evaluate`, or the
ones it found. -/
theorem call_readings {env : GuardEnv} (h : call env e s = .ok s') :
    SameReadings s s' ∨ ∃ asset s₁, enteredState s e = some (asset, s₁)
      ∧ SameReadings s₁ s' := by
  cases e with
  | removeSource =>
      obtain ⟨s₁, g, hent, -, heval⟩ := removeSource_ok h
      exact .inr ⟨_, s₁, hent, evaluate_readings heval⟩
  | publishNav =>
      obtain ⟨s₁, g, hent, -, -, heval⟩ := publishNav_ok h
      exact .inr ⟨_, s₁, hent, evaluate_readings heval⟩
  | publishSource =>
      obtain ⟨s₁, g, hent, -, heval⟩ := publishSource_ok h
      exact .inr ⟨_, s₁, hent, evaluate_readings heval⟩
  | guardedPrice =>
      obtain ⟨⟨g, s₂⟩, heval, rfl⟩ := map_ok.mp h
      exact .inl (evaluate_readings heval)
  | confirmHaltCleared => exact .inl (confirmHaltCleared_ok h).1
  | _ => exact .inl (call_quiet h id).readings

theorem ReadingsWithin.same (h : ReadingsWithin s a V n)
    (hread : SameReadings s s') : ReadingsWithin s' a V n := by
  constructor
  · rw [hread.source]
    exact h.reading
  · rw [sourceNames_congr hread.srcNames]
    exact h.names

/-- A published reading within the bounds. -/
theorem ReadingsWithin.publish {name : Symbol} {value : Int} {ts : Nat}
    (h : ReadingsWithin s a V n)
    (hin : asset = a → value ≤ V
      ∧ (name ∈ sourceNames s a ∨ (sourceNames s a).length < n))
    (hsource : s₁.source = s.source.set (asset, name)
      ⟨name, value, ts, false⟩)
    (hnames : s₁.srcNames = (trackSourceName s asset name).srcNames) :
    ReadingsWithin s₁ a V n := by
  constructor
  · intro k x hx
    rw [hsource, Store.get_set] at hx
    split at hx
    case isTrue hk =>
      injection hk with ha _
      injection hx with hx
      rw [← hx]
      exact (hin ha.symm).1
    case isFalse => exact h.reading k x hx
  · rw [sourceNames_track hnames]
    split
    case isTrue hnew =>
      obtain ⟨rfl, hmem⟩ := hnew
      rcases (hin rfl).2 with hold | hroom
      · exact absurd hold hmem
      · rw [List.length_append, List.length_singleton]
        exact hroom
    case isFalse => exact h.names

theorem ReadingsWithin.remove {name : Symbol} (h : ReadingsWithin s a V n)
    (hsource : s₁.source = s.source.remove (asset, name))
    (hnames : s₁.srcNames = (removeSourceInternal s asset name).srcNames) :
    ReadingsWithin s₁ a V n := by
  constructor
  · intro k x hx
    rw [hsource, Store.get_remove] at hx
    split at hx
    · cases hx
    · exact h.reading k x hx
  · rw [sourceNames_remove hnames]
    split
    · exact (List.length_erase_le).trans h.names
    · exact h.names

theorem srcNames_publishNav (s : State) (asset : Address) (r : NavRecord)
    (name : Symbol) :
    (trackSourceName { s with navRecord := s.navRecord.set asset r } asset
      name).srcNames = (trackSourceName s asset name).srcNames := by
  rw [srcNames_track, srcNames_track]
  rfl

/-- The state a call hands to `evaluate` is within the bounds its
publication keeps to. -/
theorem ReadingsWithin.entered (h : ReadingsWithin s a V n)
    (hin : KeepsTo a V n e s) (hent : enteredState s e = some (asset, s₁)) :
    ReadingsWithin s₁ a V n := by
  cases e with
  | removeSource admin asset name =>
      injection hent with hent
      injection hent with _ hs₁
      have hsource : s₁.source = s.source.remove (asset, name) := by
        rw [← hs₁]
        show (removeSourceInternal s asset name).source = _
        rw [removeSourceInternal_eq]
      exact h.remove hsource (by rw [← hs₁]; rfl)
  | publishNav publisher asset assetCode value ts sig =>
      injection hent with hent
      injection hent with _ hs₁
      have hsource : s₁.source = s.source.set (asset, issuerSource)
          ⟨issuerSource, value, ts, false⟩ := by
        rw [← hs₁]
        show (writeSource (trackSourceName _ asset issuerSource) asset
          issuerSource value ts).source = _
        simp only [writeSource]
        rw [trackSourceName_eq]
      refine h.publish ?_ hsource ?_
      · intro ha
        exact hin issuerSource value (by simp [Entry.publishes, ha])
      · rw [← hs₁]
        exact srcNames_publishNav s asset _ issuerSource
  | publishSource publisher asset source value ts =>
      injection hent with hent
      injection hent with _ hs₁
      have hsource : s₁.source = s.source.set (asset, source)
          ⟨source, value, ts, false⟩ := by
        rw [← hs₁]
        show (writeSource (trackSourceName s asset source) asset source
          value ts).source = _
        simp only [writeSource]
        rw [trackSourceName_eq]
      refine h.publish ?_ hsource ?_
      · intro ha
        exact hin source value (by simp [Entry.publishes, ha])
      · rw [← hs₁]
        rfl
  | guardedPrice asset =>
      injection hent with hent
      injection hent with _ hs₁
      rw [← hs₁]
      exact h
  | _ => cases hent

/-- The fresh values are among the bounded ones. -/
theorem ReadingsWithin.fresh (h : ReadingsWithin s a V n) (env : HostEnv)
    (k : Nat) :
    (∀ x ∈ (freshSources env s a k).map (·.value), x ≤ V)
      ∧ ((freshSources env s a k).map (·.value)).length ≤ n := by
  constructor
  · intro x hx
    obtain ⟨source, hmem, rfl⟩ := List.mem_map.mp hx
    obtain ⟨name, -, hget⟩ := List.mem_filterMap.mp
      (List.mem_filter.mp hmem).1
    exact h.reading name source hget
  · rw [List.length_map]
    exact (List.length_filter_le _ _).trans
      ((List.length_filterMap_le _ _).trans h.names)

/-- A median of bounded values is bounded. -/
theorem judge_le {verdict : Verdict} (hpos : ∀ x ∈ values, 0 < x)
    (hle : ∀ x ∈ values, x ≤ V)
    (h : judge s asset config values = .ok verdict) (held m : Int)
    (hverdict : verdict = .tripped held m ∨ verdict = .agreed m) :
    m ≤ V := by
  have hmed : ∀ m', InBand values config.bandBps m' → m' ≤ V := by
    intro m' hband
    rw [hband.median]
    apply median_le
    · have htwo := hband.two
      rw [Multiset.coe_card]
      omega
    · intro x hx
      exact hle x (Multiset.mem_coe.mp hx)
  rcases judge_inBand hpos h with rfl | rfl | ⟨m', daily, hband, -, -, hcase⟩
  · rcases hverdict with hv | hv <;> cases hv
  · rcases hverdict with hv | hv <;> cases hv
  · have hm : m = m' := by
      rcases hcase with ⟨-, hv'⟩ | ⟨-, drift, -, hv'⟩
      · rcases hverdict with hv | hv
        · rw [hv] at hv'
          injection hv'
        · rw [hv] at hv'
          cases hv'
      · cases drift with
        | true =>
            rcases hverdict with hv | hv
            · rw [hv] at hv'
              injection hv'
            · rw [hv] at hv'
              cases hv'
        | false =>
            rcases hverdict with hv | hv
            · rw [hv] at hv'
              cases hv'
            · rw [hv] at hv'
              injection hv'
    rw [hm]
    exact hmed m' hband

theorem Bounded.call {env : GuardEnv} (hs : GuardOk s)
    (h : Bounded s a V n) (hin : KeepsTo a V n e s)
    (hcall : call env e s = .ok s') : Bounded s' a V n := by
  constructor
  · rcases call_readings hcall with hsame | ⟨asset, s₁, hent, hsame⟩
    · exact h.readings.same hsame
    · exact (h.readings.entered hin hent).same hsame
  · cases call_price hcall a with
    | same _ _ heq =>
        rw [heq]
        exact h.price
    | @judged _ s₁ config verdict _ hent hentered _ hjudge _ _ heq =>
        rw [heq]
        have hread := h.readings.entered hin hent
        have hpos := freshSources_pos env.toHostEnv a (hs.1.entered hentered)
          config.maxStalenessS
        exact h.price.after (judge_le hpos (hread.fresh _ _).1 hjudge)
    | confirmed heq =>
        rw [heq]
        exact h.price.confirm

-- ============================================================= all runs

/-- Bounded storage is judged without a trap. -/
theorem evaluate_returns (hr : ReadingsOk s) (h : Bounded s a safeValue 8)
    (hconfig : s.config.get a = some config) (env : HostEnv) :
    ∃ p, evaluate env a s = .ok p := by
  obtain ⟨hle, hlen⟩ := h.readings.fresh env config.maxStalenessS
  obtain ⟨verdict, hjudge⟩ : ∃ verdict, judge s a config _ = .ok verdict :=
    judge_total hlen (freshSources_pos env a hr config.maxStalenessS) hle
      h.price.lastGood h.price.reference
  obtain ⟨s', heval⟩ := evaluate_of_judge hconfig hjudge
  exact ⟨_, heval⟩

theorem answers_of_bounded (hs : GuardOk s) (h : Bounded s a safeValue 8)
    (hconfig : s.config.get a = some config) : Answers self s a := by
  constructor
  · intro env
    exact evaluate_returns hs.1 h hconfig _
  · intro env r admin name hroles hstored hadmin
    have hframe := removeSourceInternal_eq s a name
    have hsource : (publish (removeSourceInternal s a name)
        (.sourceRemoved a name)).source = s.source.remove (a, name) := by
      show (removeSourceInternal s a name).source = _
      rw [hframe]
    have hconfig' : (publish (removeSourceInternal s a name)
        (.sourceRemoved a name)).config.get a = some config := by
      show (removeSourceInternal s a name).config.get a = _
      rw [hframe]
      exact hconfig
    have hprice : priceOf (publish (removeSourceInternal s a name)
        (.sourceRemoved a name)) a = priceOf s a := by
      show priceOf (removeSourceInternal s a name) a = _
      rw [hframe]
      rfl
    have hafter : Bounded (publish (removeSourceInternal s a name)
        (.sourceRemoved a name)) a safeValue 8 :=
      ⟨h.readings.remove hsource rfl, by rw [hprice]; exact h.price⟩
    obtain ⟨p, hp⟩ := evaluate_returns (hs.1.remove hsource rfl) hafter
      hconfig' (env.at self).toHostEnv
    have hguard : requireAdminCall (env.at self) s admin = .ok () := by
      simp only [requireAdminCall, requireAdmin, bind_ok,
        HostEnv.requireAuth_ok, requireRole_ok, pure_ok, exists_const]
      exact ⟨hadmin, r.admin, ⟨r, hroles, hstored, rfl⟩, trivial⟩
    exact bind_returns hguard (bind_returns (expect_ok.mpr hconfig)
      (bind_returns hp ⟨_, rfl⟩))

theorem bounded_run {txs : List Tx}
    (h : ∀ c ∈ (machine self).trace (machine self).init txs,
      KeepsTo a V n c.call.entry c.before) :
    Bounded ((machine self).run (machine self).init txs) a V n := by
  have hboth : GuardOk ((machine self).run (machine self).init txs)
      ∧ Bounded ((machine self).run (machine self).init txs) a V n := by
    refine run_of_trace (M := machine self)
      (P := fun s => GuardOk s ∧ Bounded s a V n) ?_ ?_
    · refine ⟨guardOk_run self [], ⟨?_, ?_⟩, ⟨?_, ?_, ?_⟩⟩
      · intro name x hx
        cases hx
      · exact Nat.zero_le n
      · intro v hv
        cases hv
      · intro v hv
        cases hv
      · intro v hv
        cases hv
    · intro c hc hbefore
      have hcall := apply_call (apply_of_mem_trace hc)
      exact ⟨hbefore.1.effect (call_effect hcall),
        hbefore.2.call hbefore.1 (h c hc) hcall⟩
  exact hboth.2

theorem KeepsTo.mono {V' : Int} {n' : Nat} (h : KeepsTo a V n e s)
    (hV : V ≤ V') (hn : n ≤ n') : KeepsTo a V' n' e s := by
  intro name value hpub
  obtain ⟨hvalue, hroom⟩ := h name value hpub
  exact ⟨hvalue.trans hV, hroom.imp_right fun hlt => hlt.trans_le hn⟩

/-- A longer staleness bound is queued while readings are good for an
hour. Some sources are published; a day later, when these are stale,
some others; and in time the longer bound takes effect. -/
def Demo.revived (early : List Symbol) (late : List (Symbol × Int)) :
    List Tx :=
  Demo.setup
  ++ [⟨Demo.env 0, .queueConfig ⟨1⟩
    (.maxStalenessSeconds Demo.asset 1000000)⟩]
  ++ early.map (fun name => Demo.reading name 1 0)
  ++ late.map (fun p => Demo.reading p.1 p.2 100000)
  ++ [⟨Demo.env 172800, .executeConfig 0⟩]

/-- Eight sources, the most an evaluation can hold. -/
def Demo.eight : List Symbol := ["a", "b", "c", "d", "e", "f", "g", "h"]

/-- Over all runs that keep to a value bound and to a number of source
names, `guardedPrice` and `removeSource` always answer exactly when the
bounds are the safe ones. -/
theorem answers_iff (V : Int) (n : Nat) (hV : 0 < V) (hn : 2 ≤ n) :
    (∀ (self : Address) (txs : List Tx) (a : Address),
      (∀ c ∈ (machine self).trace (machine self).init txs,
        KeepsTo a V n c.call.entry c.before) →
      (((machine self).run (machine self).init txs).config.get a).isSome →
      Answers self ((machine self).run (machine self).init txs) a) ↔
    V ≤ safeValue ∧ n ≤ 8 := by
  constructor
  · intro h
    constructor
    · -- one reading of 1 and one too far from it
      by_contra hlarge
      have hone := (h Demo.self (Demo.revived ["a"] [("b", safeValue + 1)])
        Demo.asset ?_ (by decide +kernel)).price (Demo.env 172800)
      · exact absurd (isOk_iff.mpr hone) (by decide +kernel)
      · intro c hc
        have hsafe : ∀ c ∈ (machine Demo.self).trace
            (machine Demo.self).init
            (Demo.revived ["a"] [("b", safeValue + 1)]),
            KeepsTo Demo.asset (safeValue + 1) 2 c.call.entry c.before := by
          decide +kernel
        exact (hsafe c hc).mono (by omega) hn
    · -- a ninth name, at a value of 1
      by_contra hmany
      have hone := (h Demo.self (Demo.revived Demo.eight [("i", 1)])
        Demo.asset ?_ (by decide +kernel)).price (Demo.env 172800)
      · exact absurd (isOk_iff.mpr hone) (by decide +kernel)
      · intro c hc
        have hsafe : ∀ c ∈ (machine Demo.self).trace
            (machine Demo.self).init (Demo.revived Demo.eight [("i", 1)]),
            KeepsTo Demo.asset 1 9 c.call.entry c.before := by
          decide +kernel
        exact (hsafe c hc).mono (by omega) (by omega)
  · intro hsafe self txs a hwithin hconfig
    obtain ⟨config, hconfig⟩ := Option.isSome_iff_exists.mp hconfig
    have hbounded := bounded_run fun c hc =>
      (hwithin c hc).mono hsafe.1 hsafe.2
    exact answers_of_bounded (guardOk_run self txs) hbounded hconfig

theorem answers_iff_demo : Answers Demo.self
    ((machine Demo.self).run (machine Demo.self).init
      (Demo.setup ++ Demo.drift)) Demo.asset := by
  refine (answers_iff 1005000 2 (by decide) (by decide)).mpr
    ⟨by decide, by decide⟩ Demo.self _ Demo.asset ?_ (by decide +kernel)
  decide +kernel

/-- Ten sources have come back at once: neither a read nor the removal
of any of them gets through. -/
theorem crowded_out :
    let s := (machine Demo.self).run (machine Demo.self).init
      (Demo.revived Demo.eight [("i", 1), ("j", 1)])
    (s.config.get Demo.asset).isSome = true
    ∧ (¬ ∃ p, guardedPrice (Demo.env 172800) Demo.asset s = .ok p)
    ∧ ∀ name ∈ sourceNames s Demo.asset, ¬ ∃ s',
      removeSource (Demo.env 172800) ⟨1⟩ Demo.asset name s = .ok s' := by
  simp only [← isOk_iff]
  refine ⟨?_, ?_, ?_⟩
  · decide +kernel
  · decide +kernel
  · decide +kernel

end Ballast.PriceGuard
