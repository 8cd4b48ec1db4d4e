/-
The token ledger contracts call into: SEP-41 balances and allowances,
for every token at once.

A token call succeeds only when the host grants the debited party's
authorization (or that party is the calling contract itself), the
amount is non-negative and covered; it then moves exactly that amount.
A real token may refuse for further reasons (a frozen trustline, an
unauthorised recipient). A refused call aborts its whole transaction,
which is a run without that step, so leaving those refusals out only
adds runs.

Debit happens before credit, so a transfer from an address to itself
changes nothing (`balance_move`).

Allowances are one number per (token, owner, spender), replaced by
`approve`, spent by `transferFrom`, and void once the ledger sequence
passes their expiry.
-/
import Ballast.Soroban.Host

namespace Ballast.Soroban

/-- An allowance and the last ledger it is good in. -/
structure Allowance where
  amount : Int
  liveUntil : Nat
  deriving DecidableEq, Repr

/-- Balances by (token, holder), allowances by (token, owner,
spender). -/
structure Ledger where
  balance : Address → Address → Int
  allowance : Address → Address → Address → Allowance

namespace Ledger

/-- No balances, no allowances. -/
def empty : Ledger := ⟨fun _ _ => 0, fun _ _ _ => ⟨0, 0⟩⟩

/-- Add `x` to one balance. -/
def credit (l : Ledger) (token holder : Address) (x : Int) : Ledger :=
  { l with
    balance := fun t h =>
      if t = token ∧ h = holder then l.balance t h + x
      else l.balance t h }

/-- Debit `src`, then credit `dst`. -/
def move (l : Ledger) (token src dst : Address) (x : Int) : Ledger :=
  (l.credit token src (-x)).credit token dst x

/-- Replace one allowance. -/
def setAllowance (l : Ledger) (token owner spender : Address)
    (a : Allowance) : Ledger :=
  { l with
    allowance := fun t o p =>
      if t = token ∧ o = owner ∧ p = spender then a
      else l.allowance t o p }

/-- What `spender` may still take, in the current ledger. -/
def allowanceNow (l : Ledger) (env : HostEnv)
    (token owner spender : Address) : Int :=
  if env.sequence ≤ (l.allowance token owner spender).liveUntil
  then (l.allowance token owner spender).amount
  else 0

/-- The token grants a debit of `a` to this call: the caller is `a`, or
`a` authorised it. -/
def Debits (env : HostEnv) (a : Address) : Prop :=
  a = env.self ∨ env.Grants a

instance (env : HostEnv) (a : Address) : Decidable (Debits env a) :=
  inferInstanceAs (Decidable (_ ∨ _))

/-- `transfer(from, to, amount)`. -/
def transfer (env : HostEnv) (token src dst : Address) (x : Int)
    (l : Ledger) : Call Ledger := do
  ensure (Debits env src) "token: authorization missing"
  ensure (0 ≤ x) "token: negative amount"
  ensure (x ≤ l.balance token src) "token: insufficient balance"
  return l.move token src dst x

/-- `approve(from, spender, amount, live_until_ledger)`. -/
def approve (env : HostEnv) (token owner spender : Address) (x : Int)
    (liveUntil : Nat) (l : Ledger) : Call Ledger := do
  ensure (Debits env owner) "token: authorization missing"
  ensure (0 ≤ x) "token: negative amount"
  ensure (liveUntil ≤ env.sequence + env.maxTtl - 1)
    "token: live_until is greater than max"
  ensure (x = 0 ∨ env.sequence ≤ liveUntil)
    "token: live_until is less than ledger seq"
  return l.setAllowance token owner spender ⟨x, liveUntil⟩

/-- `transfer_from(spender, from, to, amount)`. -/
def transferFrom (env : HostEnv) (token spender src dst : Address)
    (x : Int) (l : Ledger) : Call Ledger := do
  ensure (Debits env spender) "token: authorization missing"
  ensure (0 ≤ x) "token: negative amount"
  ensure (x ≤ l.allowanceNow env token src spender)
    "token: insufficient allowance"
  ensure (x ≤ l.balance token src) "token: insufficient balance"
  let a := l.allowance token src spender
  return (l.setAllowance token src spender
    { a with amount := a.amount - x }).move token src dst x

-- ======================================================= what calls do

/-- A transfer needs the debited party's signature and a balance that
covers it. -/
theorem transfer_ok {env : HostEnv} {token src dst : Address} {x : Int}
    {l l' : Ledger} :
    transfer env token src dst x l = .ok l' ↔
      Debits env src ∧ 0 ≤ x ∧ x ≤ l.balance token src
        ∧ l.move token src dst x = l' := by
  simp only [transfer, bind_ok, ensure_ok, pure_ok, exists_const]

/-- An approval needs the owner's signature, and a lifetime the host can
store. -/
theorem approve_ok {env : HostEnv} {token owner spender : Address}
    {x : Int} {n : Nat} {l l' : Ledger} :
    approve env token owner spender x n l = .ok l' ↔
      Debits env owner ∧ 0 ≤ x ∧ n ≤ env.sequence + env.maxTtl - 1
        ∧ (x = 0 ∨ env.sequence ≤ n)
        ∧ l.setAllowance token owner spender ⟨x, n⟩ = l' := by
  simp only [approve, bind_ok, ensure_ok, pure_ok, exists_const]

/-- A spender needs an allowance that is in force and covers the amount,
and a balance that does. -/
theorem transferFrom_ok {env : HostEnv}
    {token spender src dst : Address} {x : Int} {l l' : Ledger} :
    transferFrom env token spender src dst x l = .ok l' ↔
      Debits env spender ∧ 0 ≤ x
        ∧ x ≤ l.allowanceNow env token src spender
        ∧ x ≤ l.balance token src
        ∧ (l.setAllowance token src spender
            { l.allowance token src spender with
              amount := (l.allowance token src spender).amount - x }).move
            token src dst x = l' := by
  simp only [transferFrom, bind_ok, ensure_ok, pure_ok, exists_const]

-- ============================================================== frames

/-- A move debits one address and credits another, and to itself does
nothing. -/
@[simp] theorem balance_move (l : Ledger) (token src dst : Address)
    (x : Int) (t h : Address) :
    (l.move token src dst x).balance t h
      = l.balance t h - (if t = token ∧ h = src then x else 0)
        + (if t = token ∧ h = dst then x else 0) := by
  simp only [move, credit]
  split_ifs <;> omega

/-- A payment in, from somebody else. -/
theorem balance_move_in (l : Ledger) {token src h : Address} {x : Int}
    (hne : src ≠ h) (t : Address) :
    (l.move token src h x).balance t h
      = l.balance t h + (if t = token then x else 0) := by
  rw [balance_move, if_neg (fun hc => hne hc.2.symm)]
  simp

/-- A payment out debits at most the amount: less when it is a payment
to oneself. -/
theorem balance_move_out (l : Ledger) (token h dst : Address) {x : Int}
    (hx : 0 ≤ x) (t : Address) :
    l.balance t h - (if t = token then x else 0)
      ≤ (l.move token h dst x).balance t h := by
  rw [balance_move]
  by_cases ht : t = token
  · rw [if_pos ht, if_pos ⟨ht, rfl⟩]
    split_ifs <;> omega
  · rw [if_neg ht, if_neg (fun hc => ht hc.1), if_neg (fun hc => ht hc.1)]
    omega

/-- A payment between others, or in, never debits. -/
theorem le_balance_move (l : Ledger) {token src dst h : Address} {x : Int}
    (hne : src ≠ h) (hx : 0 ≤ x) (t : Address) :
    l.balance t h ≤ (l.move token src dst x).balance t h := by
  rw [balance_move, if_neg (fun hc => hne hc.2.symm)]
  split_ifs <;> omega

@[simp] theorem allowance_move (l : Ledger) (token src dst : Address)
    (x : Int) : (l.move token src dst x).allowance = l.allowance := rfl

@[simp] theorem balance_setAllowance (l : Ledger)
    (token owner spender : Address) (a : Allowance) :
    (l.setAllowance token owner spender a).balance = l.balance := rfl

/-- An approval replaces one number, whatever it was. -/
theorem allowance_setAllowance (l : Ledger)
    (token owner spender : Address) (a : Allowance) (t o p : Address) :
    (l.setAllowance token owner spender a).allowance t o p
      = if t = token ∧ o = owner ∧ p = spender then a
        else l.allowance t o p := rfl

end Ledger

-- ============================================================ payments

/-- `amount` of `token`, from `src` to `dst`. -/
structure Payment where
  token : Address
  src : Address
  dst : Address
  amount : Int
  deriving DecidableEq, Repr

/-- What a payment adds to `holder`'s balance of `token`. -/
def Payment.net (p : Payment) (token holder : Address) : Int :=
  (if token = p.token ∧ holder = p.dst then p.amount else 0)
    - (if token = p.token ∧ holder = p.src then p.amount else 0)

namespace Ledger

/-- The payments, one after another. -/
def pay (l : Ledger) (ps : List Payment) : Ledger :=
  ps.foldl (fun l p => l.move p.token p.src p.dst p.amount) l

/-- Payments only ever add up. -/
theorem balance_pay (l : Ledger) (ps : List Payment) (t h : Address) :
    (l.pay ps).balance t h
      = l.balance t h + (ps.map fun p => p.net t h).sum := by
  induction ps generalizing l with
  | nil => simp [pay]
  | cons p ps ih =>
      have hcons : l.pay (p :: ps)
          = (l.move p.token p.src p.dst p.amount).pay ps := rfl
      rw [hcons, ih, balance_move, List.map_cons, List.sum_cons,
        Payment.net]
      omega

end Ledger

/-- A contract's storage beside the token ledger it moves funds on. -/
structure World (σ : Type) where
  tokens : Ledger
  store : σ

end Ballast.Soroban
