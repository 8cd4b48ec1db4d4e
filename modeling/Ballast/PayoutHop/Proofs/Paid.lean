/-
A first leg is paid out once, and for no more than it delivered, in every
run that meets `Sound`; and two runs in which it is paid out twice.

# Once, and covered

That there is at most one payment comes from the claims: a row is
claimed by one call at a time, and paid at most once while it is. What a
payment is worth comes from the verification, which the call has behind
it before it claims (`Covered`): the first leg it was shown paid the
operator at least the amount.

# The two runs

Each leaves out one half of `Sound`. In one a payment stands whose
answer got lost, so the row is marked failed and its next call pays
again. In the other the same first leg is asked for a second time with
its hash in capitals, which is another row.
-/
import Ballast.PayoutHop.Proofs.Once

namespace Ballast.PayoutHop

open Soroban

variable {hop : Hop} {s s' : System} {a : Act} {c : Caller} {key : Text}

-- ================================================================ the amount

/-- The first leg `key` spells paid the operator at least `amount`. -/
def Covers (hop : Hop) (key : Text) (amount : Int) : Prop :=
  ∃ leg, hop.legs (hashOf key) = some leg
    ∧ amount ≤ usdcReceived hop.setup hop.policy.usdcIssuer leg

theorem verify_covers {lookup : Lookup} {amount : Int}
    (hverify : verify hop.setup (answerOf hop.legs lookup) key
      hop.policy.usdcIssuer amount = .ok ()) : Covers hop key amount := by
  simp only [verify, bind_ok, ensure_ok] at hverify
  obtain ⟨-, -, hverify⟩ := hverify
  split at hverify
  · cases hverify
  · cases hverify
  · cases hverify
  · next leg hanswer =>
    simp only [bind_ok, ensure_ok] at hverify
    obtain ⟨-, -, hpaid⟩ := hverify
    -- a first leg that paid less is refused, in whatever words
    have hle : amount ≤ usdcReceived hop.setup hop.policy.usdcIssuer leg := by
      split at hpaid
      · simp only [bind_ok] at hpaid
        obtain ⟨_, -, _, -, hpaid⟩ := hpaid
        cases hpaid
      next hle => exact not_lt.mp hle
    refine ⟨leg, ?_, hle⟩
    unfold answerOf at hanswer
    split at hanswer <;> cases hanswer
    assumption

/-- Every call past its verification, and every payment, is covered. -/
structure Covered (hop : Hop) (s : System) : Prop where
  callers : ∀ i c, s.callers.get i = some c → c.stage ≠ .verifying →
    Covers hop c.key c.args.amount
  submitted : ∀ p ∈ s.submitted, Covers hop p.key p.amount

theorem claimant_stage (hclaimant : claimant s a = some c) :
    c.stage = .inserting ∨ c.stage = .reclaiming := by
  unfold claimant at hclaimant
  split at hclaimant
  · have hc := (Option.filter_eq_some_iff.mp hclaimant).2
    simp only [Bool.and_eq_true, decide_eq_true_eq] at hc
    exact .inl hc.1
  · have hc := (Option.filter_eq_some_iff.mp hclaimant).2
    simp only [Bool.and_eq_true, decide_eq_true_eq] at hc
    exact .inr hc.1
  · cases hclaimant

/-- A call goes on with one request, and past its verification only when
that is covered. -/
theorem Did.callers_covered (hdid : Did hop s s' a)
    (hcovered : ∀ i c, s.callers.get i = some c → c.stage ≠ .verifying →
      Covers hop c.key c.args.amount) (j : Nat) (d : Caller)
    (hd : s'.callers.get j = some d) (hstage : d.stage ≠ .verifying) :
    Covers hop d.key d.args.amount := by
  cases hdid.became hd with
  | same hc => exact hcovered j d hc hstage
  | started hverifying => exact absurd hverifying hstage
  | @moved c stage hc hgo heq =>
      subst heq
      by_cases hverifying : c.stage = .verifying
      · rw [hverifying] at hgo
        cases hgo with
        | verified hverify => exact verify_covers hverify
      · exact hcovered j c hc hverifying
  | @claimed c hc hclaimant _ heq =>
      subst heq
      refine hcovered j c hc ?_
      rcases claimant_stage hclaimant with h | h <;> rw [h] <;>
        exact Stage.noConfusion
  | @sent c h hc hclaimed heq =>
      subst heq
      exact hcovered j c hc (by rw [hclaimed]; exact Stage.noConfusion)
  | @unbooked c h hc hpaid heq =>
      subst heq
      exact hcovered j c hc (by rw [hpaid]; exact Stage.noConfusion)

/-- A payment is new only when a call that had just claimed submitted
it. -/
theorem Did.submitted_mem (hdid : Did hop s s' a) {p : Submission}
    (hp : p ∈ s'.submitted) : p ∈ s.submitted
      ∨ ∃ i c, s.callers.get i = some c ∧ c.stage = .claimed
        ∧ p.key = c.key ∧ p.amount = c.args.amount := by
  cases hdid with
  | @submitted i c h hc hstage hs' =>
      subst hs'
      rcases List.mem_append.mp hp with hp | hp
      · exact .inl hp
      · cases List.mem_singleton.mp hp
        exact .inr ⟨i, c, hc, hstage, rfl, rfl⟩
  | repaired _ hrepaired =>
      left
      cases hrepaired <;> subst_vars <;> exact hp
  | _ =>
      left
      subst_vars
      exact hp

theorem covered_step (hcovered : Covered hop s) (hdid : Did hop s s' a) :
    Covered hop s' where
  callers := hdid.callers_covered hcovered.callers
  submitted := by
    intro p hp
    rcases hdid.submitted_mem hp with hp | ⟨i, c, hc, hstage, hkey, hamount⟩
    · exact hcovered.submitted p hp
    · rw [hkey, hamount]
      exact hcovered.callers i c hc (by rw [hstage]; exact Stage.noConfusion)

theorem covered_init : Covered hop (machine hop).init where
  callers := by
    intro i c hc
    cases hc
  submitted := by
    intro p hp
    cases hp

-- ================================================================== the runs

/-- In every run in which no claim is taken under a second spelling of a
hash, and no row is marked failed whose payment may stand, the network
accepts at most one payment for a first leg, and none of more than it
delivered. -/
theorem first_leg_paid_once (hop : Hop) (acts : List Act)
    (hsound : (machine hop).Allowed Sound (machine hop).init acts) :
    let s := (machine hop).run (machine hop).init acts
    (∀ p ∈ s.submitted, ∀ q ∈ s.submitted, hashOf p.key = hashOf q.key →
        Accepted s p.hash → Accepted s q.hash → p.hash = q.hash)
      ∧ ∀ p ∈ s.submitted, Covers hop p.key p.amount := by
  intro s
  obtain ⟨-, honce, hcovered⟩ : Held s ∧ Once s ∧ Covered hop s := by
    refine Machine.run_induction
      (P := fun s => Held s ∧ Once s ∧ Covered hop s) ?_
      ⟨held_init, once_init, covered_init⟩ hsound
    rintro s a s' ⟨hheld, honce, hcovered⟩ hok happ
    have hdid := step_did happ
    exact ⟨held_step hheld hdid, once_step honce hheld hok hdid,
      covered_step hcovered hdid⟩
  have hstands : ∀ h, Accepted s h → ¬ Refused s h := by
    intro h haccepted hrefused
    unfold Accepted at haccepted
    unfold Refused at hrefused
    rw [haccepted] at hrefused
    cases hrefused
  exact ⟨fun p hp q hq hkey hp' hq' => honce.one p hp q hq hkey
    (hstands p.hash hp') (hstands q.hash hq'), hcovered.submitted⟩

-- ============================================================= two histories

namespace Demo

def operator : Address := ⟨1⟩
def anchor : Address := ⟨2⟩
def issuer : Address := ⟨3⟩

/-- Every hash is a first leg that paid the operator 500. -/
def payoutHop : Hop where
  setup := ⟨operator, fun a => a⟩
  policy := ⟨[anchor], issuer, 1000⟩
  legs := fun _ => some
    ⟨[.payment ⟨operator, none⟩ (.credit usdcCode issuer) 500], []⟩

/-- A hash, in small letters and in capitals. -/
def small : Text := List.replicate 64 'a'

def capital : Text := List.replicate 64 'A'

def request (key : Text) (quoteId : Option Uuid) : ForwardPayoutArgs :=
  ⟨key, anchor, 500, ['7'], issuer, quoteId⟩

/-- A call comes in and its first leg is found. -/
def arrive (i : Nat) (key : Text) (quoteId : Option Uuid) : List Act :=
  [.start i (request key quoteId) i, .checkLeg i .final]

/-- It claims and submits. -/
def pay (i : Nat) (key : Text) : List Act :=
  arrive i key none ++ [.insert i .acknowledged, .submit i i]

/-- The first call is turned down and pays on its second try. -/
def retried : List Act :=
  pay 1 small
    ++ [.close 1 false, .answered 1 "ERROR", .markFailed 1 .acknowledged]
    ++ arrive 2 small none
    ++ [.insert 2 .acknowledged, .reclaim 2 .acknowledged, .submit 2 2,
      .answered 2 "PENDING", .close 2 true, .book 2 .acknowledged]

/-- The network accepts the payment, and the answer does not arrive. -/
def unanswered : List Act :=
  pay 1 small
    ++ [.close 1 true, .threw 1, .markFailed 1 .acknowledged]
    ++ arrive 2 small none
    ++ [.insert 2 .acknowledged, .reclaim 2 .acknowledged, .submit 2 2,
      .close 2 true]

/-- The same first leg is asked for in capitals. -/
def respelled : List Act :=
  pay 1 small ++ [.close 1 true, .answered 1 "PENDING",
    .book 1 .acknowledged] ++ pay 2 capital ++ [.close 2 true]

end Demo

theorem first_leg_paid_once_retried :
    let M := machine Demo.payoutHop
    let s := M.run M.init Demo.retried
    (∀ p ∈ s.submitted, ∀ q ∈ s.submitted, hashOf p.key = hashOf q.key →
        Accepted s p.hash → Accepted s q.hash → p.hash = q.hash)
      ∧ ∀ p ∈ s.submitted, Covers Demo.payoutHop p.key p.amount :=
  first_leg_paid_once Demo.payoutHop Demo.retried (by decide +kernel)

/-- Every step of the history was taken, and two payments for one first leg
were accepted. -/
def PaidTwice (history : List Act) : Prop :=
  let M := machine Demo.payoutHop
  let s := M.run M.init history
  (M.trace M.init history).length = history.length
    ∧ ∃ p ∈ s.submitted, ∃ q ∈ s.submitted, hashOf p.key = hashOf q.key
      ∧ Accepted s p.hash ∧ Accepted s q.hash ∧ p.hash ≠ q.hash

instance (history : List Act) : Decidable (PaidTwice history) :=
  inferInstanceAs (Decidable (_ ∧ _))

theorem paid_twice : PaidTwice Demo.unanswered ∧ PaidTwice Demo.respelled := by
  decide +kernel

end Ballast.PayoutHop
