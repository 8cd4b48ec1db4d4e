/-
Payments for one first leg: at most one stands, in every run that meets
`Sound`.

The invariant (`Once`) follows the code's own guard. Under one spelling
of the hash the row keeps callers apart, and a row is `failed` only when
everything submitted under it was refused. So a call that has just claimed
finds nothing standing, and what it submits is the one payment that may
be accepted. Two things the guard does not see, and `Sound` excludes: the
row is keyed by the hash as the request spells it, and a row is marked
`failed` because the submitting call threw, or answered `ERROR`, whatever
the network does with the payment afterwards.
-/
import Ballast.PayoutHop.Proofs.Claims

namespace Ballast.PayoutHop

open Soroban

variable {hop : Hop} {s s' : System} {a : Act} {i j : Nat} {c d : Caller}
  {key : Text} {h : PaymentHash}

-- ============================================================ the condition

/-- The network turned the payment down for good. -/
def Refused (s : System) (h : PaymentHash) : Prop :=
  s.closed.get h = some false

/-- The network accepted the payment. -/
def Accepted (s : System) (h : PaymentHash) : Prop :=
  s.closed.get h = some true

instance (s : System) (h : PaymentHash) : Decidable (Refused s h) :=
  inferInstanceAs (Decidable (_ = _))

instance (s : System) (h : PaymentHash) : Decidable (Accepted s h) :=
  inferInstanceAs (Decidable (_ = _))

/-- Another spelling of the hash that `key` spells. -/
def Respelled (key key' : Text) : Prop :=
  hashOf key' = hashOf key ∧ key' ≠ key

instance (key key' : Text) : Decidable (Respelled key key') :=
  inferInstanceAs (Decidable (_ ∧ _))

/-- What was submitted for the first leg under other spellings of its hash
is refused, and nobody is about to submit under one. -/
def OneSpelling (s : System) (key : Text) : Prop :=
  (∀ p ∈ s.submitted, Respelled key p.key → Refused s p.hash)
    ∧ ∀ i ∈ s.callers.keys, ∀ d ∈ s.callers.get i, d.stage = .claimed →
      ¬ Respelled key d.key

instance (s : System) (key : Text) : Decidable (OneSpelling s key) :=
  inferInstanceAs (Decidable (_ ∧ _))

/-- The payment whose row this step marks failed. -/
def failedPayment (s : System) : Act → Option PaymentHash
  | .markFailed i delivery =>
      if delivery = .rolledBack then none
      else (s.callers.get i).bind fun c =>
        match c.stage with
        | .failing h => h
        | _ => none
  | _ => none

/-- No claim is taken under a second spelling of a hash while a payment
made under the first may stand, and no row is marked failed unless its
payment is refused. -/
def Sound (a : Act) (s : System) : Prop :=
  (∀ c ∈ claimant s a, OneSpelling s c.key)
    ∧ ∀ h ∈ failedPayment s a, Refused s h

instance (a : Act) (s : System) : Decidable (Sound a s) :=
  inferInstanceAs (Decidable (_ ∧ _))

-- ============================================================ the invariant

/-- What a call that may still mark its row failed has submitted. -/
def Stage.made : Stage → Option (Option PaymentHash)
  | .claimed => some none
  | .submitting h => some (some h)
  | .failing h => some h
  | _ => none

structure Once (s : System) : Prop where
  /-- who is about to submit finds nothing standing -/
  claimed : ∀ i c, s.callers.get i = some c → c.stage = .claimed →
    ∀ p ∈ s.submitted, hashOf p.key = hashOf c.key → Refused s p.hash
  /-- and is alone -/
  alone : ∀ i j c d, s.callers.get i = some c → s.callers.get j = some d →
    c.stage = .claimed → d.stage = .claimed →
    hashOf c.key = hashOf d.key → i = j
  made : ∀ i c o, s.callers.get i = some c → c.stage.made = some o →
    ∀ p ∈ s.submitted, p.key = c.key → some p.hash = o ∨ Refused s p.hash
  failed : ∀ key row, s.db.payoutForward.get key = some row →
    row.status = .failed → ∀ p ∈ s.submitted, p.key = key →
    Refused s p.hash
  row : ∀ p ∈ s.submitted, (s.db.payoutForward.get p.key).isSome
  one : ∀ p ∈ s.submitted, ∀ q ∈ s.submitted,
    hashOf p.key = hashOf q.key → ¬ Refused s p.hash →
    ¬ Refused s q.hash → p.hash = q.hash

theorem once_init : Once (machine hop).init where
  claimed := by
    intro i c hc
    cases hc
  alone := by
    intro i j c d hc
    cases hc
  made := by
    intro i c o hc
    cases hc
  failed := by
    intro key row hrow
    cases hrow
  row := by
    intro p hp
    cases hp
  one := by
    intro p hp
    cases hp

theorem holds_of_made {stage : Stage} {o : Option PaymentHash}
    (hmade : stage.made = some o) : stage.holds = true := by
  cases stage <;> first | rfl | cases hmade

/-- What a move that writes nothing does to what was submitted. -/
theorem Goes.made {before after : Stage} {o : Option PaymentHash}
    (hgo : Goes hop c before after) (hmade : after.made = some o) :
    before.made = some o := by
  cases hgo with
  | verified _ => cases hmade
  | conflict => cases hmade
  | gaveUp => exact hmade
  | failed => exact hmade
  | paid => cases hmade
  | unbooked => cases hmade

theorem Goes.not_claimed {before after : Stage}
    (hgo : Goes hop c before after) : after ≠ .claimed := by
  cases hgo <;> exact Stage.noConfusion

namespace Once

/-- Nothing is submitted or settled, nobody claims, and no row becomes
failed over a payment that may stand. -/
theorem keep (honce : Once s) (hsubmitted : s'.submitted = s.submitted)
    (hclosed : s'.closed = s.closed)
    (hcallers : ∀ j d o, s'.callers.get j = some d →
      d.stage.made = some o → ∃ c, s.callers.get j = some c
        ∧ c.key = d.key ∧ c.stage.made = some o
        ∧ (d.stage = .claimed → c.stage = .claimed))
    (hfailed : ∀ key row, s'.db.payoutForward.get key = some row →
      row.status = .failed → ∀ p ∈ s.submitted, p.key = key →
      Refused s p.hash)
    (hrow : ∀ key, (s.db.payoutForward.get key).isSome →
      (s'.db.payoutForward.get key).isSome) : Once s' := by
  have hrefused : ∀ h, Refused s' h ↔ Refused s h := by
    intro h
    unfold Refused
    rw [hclosed]
  constructor
  case claimed =>
    intro j d hd hstage p hp hkey
    obtain ⟨c, hc, hck, -, hc'⟩ := hcallers j d none hd (by rw [hstage]; rfl)
    rw [hsubmitted] at hp
    rw [hrefused]
    exact honce.claimed j c hc (hc' hstage) p hp (by rw [hck]; exact hkey)
  case alone =>
    intro j k d e hd he hstage hstage' hkey
    obtain ⟨c, hc, hck, -, hc'⟩ := hcallers j d none hd (by rw [hstage]; rfl)
    obtain ⟨f, hf, hfk, -, hf'⟩ :=
      hcallers k e none he (by rw [hstage']; rfl)
    exact honce.alone j k c f hc hf (hc' hstage) (hf' hstage')
      (by rw [hck, hfk]; exact hkey)
  case made =>
    intro j d o hd hmade p hp hkey
    obtain ⟨c, hc, hck, hc', -⟩ := hcallers j d o hd hmade
    rw [hsubmitted] at hp
    rw [hrefused]
    exact honce.made j c o hc hc' p hp (by rw [hck]; exact hkey)
  case failed =>
    intro key row hget hstatus p hp hkey
    rw [hsubmitted] at hp
    rw [hrefused]
    exact hfailed key row hget hstatus p hp hkey
  case row =>
    intro p hp
    rw [hsubmitted] at hp
    exact hrow p.key (honce.row p hp)
  case one =>
    intro p hp q hq hkey hp' hq'
    rw [hsubmitted] at hp hq
    rw [hrefused] at hp' hq'
    exact honce.one p hp q hq hkey hp' hq'

/-- A call ends. -/
theorem gone (honce : Once s) (hsubmitted : s'.submitted = s.submitted)
    (hclosed : s'.closed = s.closed)
    (hcallers : s'.callers = s.callers.remove i)
    (hfailed : ∀ key row, s'.db.payoutForward.get key = some row →
      row.status = .failed → ∀ p ∈ s.submitted, p.key = key →
      Refused s p.hash)
    (hrow : ∀ key, (s.db.payoutForward.get key).isSome →
      (s'.db.payoutForward.get key).isSome) : Once s' := by
  refine honce.keep hsubmitted hclosed ?_ hfailed hrow
  intro j d o hd hmade
  rw [hcallers, Store.get_remove] at hd
  split at hd
  · cases hd
  · exact ⟨d, hd, rfl, hmade, id⟩

/-- Only rows change. -/
theorem rows (honce : Once s) (hsubmitted : s'.submitted = s.submitted)
    (hclosed : s'.closed = s.closed) (hcallers : s'.callers = s.callers)
    (hfailed : ∀ key row, s'.db.payoutForward.get key = some row →
      row.status = .failed → ∀ p ∈ s.submitted, p.key = key →
      Refused s p.hash)
    (hrow : ∀ key, (s.db.payoutForward.get key).isSome →
      (s'.db.payoutForward.get key).isSome) : Once s' := by
  refine honce.keep hsubmitted hclosed ?_ hfailed hrow
  intro j d o hd hmade
  rw [hcallers] at hd
  exact ⟨d, hd, rfl, hmade, id⟩

/-- A claim is taken. -/
theorem claim (honce : Once s) (hheld : Held s) (hfree : Free s.db c.key)
    (hone : OneSpelling s c.key) {txHash : Option PaymentHash} :
    Once (moveTo { s with db := claimOn s.db c txHash } i c .claimed) := by
  have hrefused : ∀ p ∈ s.submitted, hashOf p.key = hashOf c.key →
      Refused s p.hash := by
    intro p hp hkey
    by_cases hsame : p.key = c.key
    · obtain ⟨row, hrow⟩ := Option.isSome_iff_exists.mp (honce.row p hp)
      rw [hsame] at hrow
      exact honce.failed c.key row hrow (hfree row hrow) p hp hsame
    · exact hone.1 p hp ⟨hkey, hsame⟩
  have hnobody : ∀ j d, s.callers.get j = some d → d.stage = .claimed →
      hashOf d.key ≠ hashOf c.key := by
    intro j d hd hstage hkey
    by_cases hsame : d.key = c.key
    · exact hheld.ne_of_free hfree hd (by rw [hstage]; rfl) hsame
    · refine hone.2 j ?_ d hd hstage ⟨hkey, hsame⟩
      rw [s.callers.mem_keys, hd]
      rfl
  have hcallers : ∀ j d, (s.callers.set i
      { c with stage := Stage.claimed }).get j = some d →
      j = i ∧ d = { c with stage := Stage.claimed }
        ∨ s.callers.get j = some d := by
    intro j d hd
    rw [Store.get_set] at hd
    split at hd
    · next hj => exact .inl ⟨hj, (Option.some.inj hd).symm⟩
    · exact .inr hd
  constructor
  case claimed =>
    intro j d hd hstage p hp hkey
    rcases hcallers j d hd with ⟨-, rfl⟩ | hd
    · exact hrefused p hp hkey
    · exact honce.claimed j d hd hstage p hp hkey
  case alone =>
    intro j k d e hd he hstage hstage' hkey
    rcases hcallers j d hd with ⟨hj, rfl⟩ | hold <;>
      rcases hcallers k e he with ⟨hk, rfl⟩ | hold'
    · rw [hj, hk]
    · exact absurd hkey.symm (hnobody k e hold' hstage')
    · exact absurd hkey (hnobody j d hold hstage)
    · exact honce.alone j k d e hold hold' hstage hstage' hkey
  case made =>
    intro j d o hd hmade p hp hkey
    rcases hcallers j d hd with ⟨-, rfl⟩ | hd
    · exact .inr (hrefused p hp (congrArg hashOf hkey))
    · exact honce.made j d o hd hmade p hp hkey
  case failed =>
    intro key row hrow hstatus p hp hkey
    change (claimOn s.db c txHash).payoutForward.get key = some row at hrow
    rw [get_claimOn] at hrow
    split at hrow
    · cases hrow
      cases hstatus
    · exact honce.failed key row hrow hstatus p hp hkey
  case row =>
    intro p hp
    show ((claimOn s.db c txHash).payoutForward.get p.key).isSome
    rw [get_claimOn]
    split
    · rfl
    · exact honce.row p hp
  case one => exact honce.one

/-- A payment reaches the network. -/
theorem submit (honce : Once s) (hheld : Held s)
    (hc : s.callers.get i = some c) (hstage : c.stage = .claimed) :
    Once (moveTo { s with
      submitted := s.submitted ++ [⟨h, c.key, c.args.toAnchorAccount,
        c.args.amount, c.args.memo⟩] } i c (.submitting h)) := by
  have hholds : c.stage.holds = true := by rw [hstage]; rfl
  have hold := honce.claimed i c hc hstage
  have hcallers : ∀ j d, (s.callers.set i
      { c with stage := Stage.submitting h }).get j = some d →
      j = i ∧ d = { c with stage := Stage.submitting h }
        ∨ j ≠ i ∧ s.callers.get j = some d := by
    intro j d hd
    rw [Store.get_set] at hd
    split at hd
    · next hj => exact .inl ⟨hj, (Option.some.inj hd).symm⟩
    · next hj => exact .inr ⟨hj, hd⟩
  have hmem : ∀ {p : Submission}, p ∈ s.submitted ++ [⟨h, c.key,
      c.args.toAnchorAccount, c.args.amount, c.args.memo⟩] →
      p ∈ s.submitted ∨ p.hash = h ∧ p.key = c.key := by
    intro p hp
    rcases List.mem_append.mp hp with hp | hp
    · exact .inl hp
    · cases List.mem_singleton.mp hp
      exact .inr ⟨rfl, rfl⟩
  constructor
  case claimed =>
    intro j d hd hd' p hp hkey
    rcases hcallers j d hd with ⟨-, rfl⟩ | ⟨hj, hd⟩
    · cases hd'
    · rcases hmem hp with hp | ⟨-, hp⟩
      · exact honce.claimed j d hd hd' p hp hkey
      · rw [hp] at hkey
        exact absurd (honce.alone j i d c hd hc hd' hstage hkey.symm) hj
  case alone =>
    intro j k d e hd he hd' he' hkey
    rcases hcallers j d hd with ⟨-, rfl⟩ | ⟨-, hd⟩
    · cases hd'
    · rcases hcallers k e he with ⟨-, rfl⟩ | ⟨-, he⟩
      · cases he'
      · exact honce.alone j k d e hd he hd' he' hkey
  case made =>
    intro j d o hd hmade p hp hkey
    rcases hcallers j d hd with ⟨-, rfl⟩ | ⟨hj, hd⟩
    · rcases hmem hp with hp | ⟨hp, -⟩
      · exact .inr (hold p hp (congrArg hashOf hkey))
      · left
        rw [hp]
        exact Option.some.inj hmade
    · rcases hmem hp with hp | ⟨-, hp⟩
      · exact honce.made j d o hd hmade p hp hkey
      · rw [hp] at hkey
        exact absurd hkey.symm
          (hheld.ne_of_holder hc hholds hj hd (holds_of_made hmade))
  case failed =>
    intro key row hrow hstatus p hp hkey
    rcases hmem hp with hp | ⟨-, hp⟩
    · exact honce.failed key row hrow hstatus p hp hkey
    · rw [← hkey, hp] at hrow
      rcases hheld.status hc hholds hrow with h | h <;>
        rw [hstatus] at h <;> cases h
  case row =>
    intro p hp
    rcases hmem hp with hp | ⟨-, hp⟩
    · exact honce.row p hp
    · obtain ⟨row, hrow, -⟩ := hheld.row i c hc hholds
      rw [hp]
      exact Option.isSome_iff_exists.mpr ⟨row, hrow⟩
  case one =>
    intro p hp q hq hkey hp' hq'
    rcases hmem hp with hp | ⟨hph, hpk⟩ <;>
      rcases hmem hq with hq | ⟨hqh, hqk⟩
    · exact honce.one p hp q hq hkey hp' hq'
    · exact absurd (hold p hp (by rw [hkey, hqk])) hp'
    · exact absurd (hold q hq (by rw [← hkey, hpk])) hq'
    · rw [hph, hqh]

/-- The network settles what becomes of a payment. -/
theorem close (honce : Once s) (hnone : s.closed.get h = none)
    {accepted : Bool} :
    Once { s with closed := s.closed.set h accepted } := by
  have hrefused : ∀ {g}, Refused s g →
      Refused { s with closed := s.closed.set h accepted } g := by
    intro g hg
    have hne : g ≠ h := by
      rintro rfl
      unfold Refused at hg
      rw [hnone] at hg
      cases hg
    exact (Store.get_set_ne _ _ hne).trans hg
  constructor
  case claimed =>
    intro j d hd hstage p hp hkey
    exact hrefused (honce.claimed j d hd hstage p hp hkey)
  case alone => exact honce.alone
  case made =>
    intro j d o hd hmade p hp hkey
    exact (honce.made j d o hd hmade p hp hkey).imp_right hrefused
  case failed =>
    intro key row hrow hstatus p hp hkey
    exact hrefused (honce.failed key row hrow hstatus p hp hkey)
  case row => exact honce.row
  case one =>
    intro p hp q hq hkey hp' hq'
    exact honce.one p hp q hq hkey (mt hrefused hp') (mt hrefused hq')

end Once

-- ================================================================== the step

/-- A row that is written as anything but failed. -/
theorem failed_of_set (honce : Once s) {key : Text}
    {get : Text → Option PayoutForward} {new : Option PayoutForward}
    (hget : ∀ k, get k = if k = key then new
      else s.db.payoutForward.get k)
    (hnew : ∀ row, new = some row → row.status ≠ .failed) :
    ∀ k row, get k = some row → row.status = .failed →
      ∀ p ∈ s.submitted, p.key = k → Refused s p.hash := by
  intro k row hrow hstatus
  rw [hget] at hrow
  split at hrow
  · exact absurd hstatus (hnew row hrow)
  · exact honce.failed k row hrow hstatus

theorem isSome_of_set {key : Text} {get : Text → Option PayoutForward}
    {new : Option PayoutForward}
    (hget : ∀ k, get k = if k = key then new
      else s.db.payoutForward.get k)
    (hnew : (s.db.payoutForward.get key).isSome → new.isSome) (k : Text)
    (hrow : (s.db.payoutForward.get k).isSome) : (get k).isSome := by
  rw [hget]
  split
  · next hk => exact hnew (hk ▸ hrow)
  · exact hrow

theorem once_repaired {r : Nat} {delivery : Delivery} {row : PayoutForward}
    {rest : List (Text × PayoutForward)} (honce : Once s)
    (hdid : Repaired s s' r delivery key row rest) : Once s' := by
  cases hdid with
  | skipped _ hs' =>
      subst hs'
      exact honce.rows rfl rfl rfl honce.failed fun _ h => h
  | already _ _ _ _ hs' =>
      subst hs'
      refine honce.rows rfl rfl rfl
        (failed_of_set honce get_takenOn ?_)
        (isSome_of_set get_takenOn fun _ => rfl)
      rintro row ⟨rfl⟩
      exact ForwardStatus.noConfusion
  | booked _ _ _ _ hs' =>
      subst hs'
      refine honce.rows rfl rfl rfl
        (failed_of_set honce get_takenOn ?_)
        (isSome_of_set get_takenOn fun _ => rfl)
      rintro row ⟨rfl⟩
      exact ForwardStatus.noConfusion

theorem once_step (honce : Once s) (hheld : Held s) (hsound : Sound a s)
    (hdid : Did hop s s' a) : Once s' := by
  cases hdid with
  | started _ _ hs' =>
      subst hs'
      refine honce.keep rfl rfl ?_ honce.failed fun _ h => h
      intro j d o hd hmade
      rw [Store.get_set] at hd
      split at hd
      · cases hd
        cases hmade
      · exact ⟨d, hd, rfl, hmade, id⟩
  | @moved i c stage _ hc hgo hs' =>
      subst hs'
      refine honce.keep rfl rfl ?_ honce.failed fun _ h => h
      intro j d o hd hmade
      change (s.callers.set i { c with stage := stage }).get j = some d at hd
      rw [Store.get_set] at hd
      split at hd
      · next hj =>
        cases hd
        exact ⟨c, hj ▸ hc, rfl, hgo.made hmade,
          fun hclaimed => absurd hclaimed hgo.not_claimed⟩
      · exact ⟨d, hd, rfl, hmade, id⟩
  | left hs' =>
      subst hs'
      exact honce.gone rfl rfl rfl honce.failed fun _ h => h
  -- here the spelling counts: the row that was free is the first leg's only
  -- one
  | claimed _ _ hclaimant hfree hs' =>
      subst hs'
      exact honce.claim hheld hfree (hsound.1 _ hclaimant)
  | abandoned _ _ _ hs' =>
      subst hs'
      refine honce.gone rfl rfl rfl (failed_of_set honce get_claimOn ?_)
        (isSome_of_set get_claimOn fun _ => rfl)
      rintro row ⟨rfl⟩
      exact ForwardStatus.noConfusion
  | submitted hc hstage hs' =>
      subst hs'
      exact honce.submit hheld hc hstage
  -- the network rules on a payment once, so one that is refused stays so
  | closed hnone hs' =>
      subst hs'
      exact honce.close hnone
  | @failed i c o delivery hc hstage hback hs' =>
      subst hs'
      -- no payment of the row that is marked failed may stand any more
      have hrefused : ∀ p ∈ s.submitted, p.key = c.key →
          Refused s p.hash := by
        intro p hp hkey
        rcases honce.made i c o hc (by rw [hstage]; rfl) p hp hkey with
          hown | hrefused
        · refine hsound.2 p.hash ?_
          simp [failedPayment, hback, hc, hstage, ← hown]
        · exact hrefused
      refine honce.gone rfl rfl rfl ?_
        (isSome_of_set get_updateRow fun h => by rwa [Option.isSome_map])
      intro key row hrow hstatus p hp hkey
      change (updateRow s.db c.key _).payoutForward.get key = some row at hrow
      rw [get_updateRow] at hrow
      split at hrow
      · next hk => exact hrefused p hp (hkey.trans hk)
      · exact honce.failed key row hrow hstatus p hp hkey
  | @booked i c h fills callers _ hc hstage hcallers hs' =>
      subst hs'
      refine honce.keep rfl rfl ?_
        (failed_of_set honce get_updateRow ?_)
        (isSome_of_set get_updateRow fun h => by rwa [Option.isSome_map])
      · intro j d o hd hmade
        rcases hcallers with rfl | rfl
        · rw [Store.get_remove] at hd
          split at hd
          · cases hd
          · exact ⟨d, hd, rfl, hmade, id⟩
        · rw [Store.get_set] at hd
          split at hd
          · cases hd
            cases hmade
          · exact ⟨d, hd, rfl, hmade, id⟩
      · intro row hrow
        obtain ⟨old, -, rfl⟩ := Option.map_eq_some_iff.mp hrow
        exact ForwardStatus.noConfusion
  | flagged _ _ hs' =>
      subst hs'
      refine honce.gone rfl rfl rfl (failed_of_set honce get_updateRow ?_)
        (isSome_of_set get_updateRow fun h => by rwa [Option.isSome_map])
      intro row hrow
      obtain ⟨old, -, rfl⟩ := Option.map_eq_some_iff.mp hrow
      exact ForwardStatus.noConfusion
  | selected _ _ hs' =>
      subst hs'
      exact honce.rows rfl rfl rfl honce.failed fun _ h => h
  | repaired _ hrepaired => exact once_repaired honce hrepaired
  | ended hs' =>
      subst hs'
      exact honce.rows rfl rfl rfl honce.failed fun _ h => h
  | quoted hs' =>
      subst hs'
      exact honce.rows rfl rfl rfl honce.failed fun _ h => h
  | posted _ hs' =>
      subst hs'
      exact honce.rows rfl rfl rfl honce.failed fun _ h => h

end Ballast.PayoutHop
