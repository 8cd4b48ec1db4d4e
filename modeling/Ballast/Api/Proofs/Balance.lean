/-
The debt books match the contract.

`Balanced` is the band that holds at every moment: what the line has
drawn is at most the books and the draws still to be booked, and short
of them by at most the principal still to be booked. A draw and a
repayment move both sides alike when they land. A draw is booked for
what it added. A repayment is booked by difference, and the two
conditions on its reading are the two edges of the band
(`Balanced.repaid`).

# Unbooked

A draw or a repayment is `unbooked` from the moment it lands until its
settlement commits, however long that takes and however often it is
tried. The sum of what is unbooked is the width of the band, and each of
the four things that can happen to an intent moves it in a known way:
recording one adds nothing, a landing adds its amount, a settlement
takes the amount out and puts it into the books, and a sweep writes an
intent off only where nothing has landed (`Orderly`). So the band is at
its tightest, and the books are exact, when no intent of the line is
outstanding.

# What was applied

The second half is about the amounts themselves: `repay` returns what it
applied, which may be less than was sent, and the route books the
difference of two readings of the debt. `Applied` ties each row of the
books to the return value of the transaction it was made for.
-/
import Ballast.Api.Proofs.Debt

namespace Ballast.Api

open Soroban Machine

variable {d : Deployed} {start : Chain} {db : Db} {r : RowId} {line : Nat}
  {s s' : System Chain} {a : Act ChainTx}

/-- Books and contract differ by what has landed and is not booked. -/
structure Balanced (r : RowId) (line : Nat) (s : System Chain) : Prop where
  low : drawnOf s.chain line ≤ bookedDraws s.db r
    - bookedPrincipal s.db r + unbookedDraws s r line
  high : bookedDraws s.db r - bookedPrincipal s.db r
    + unbookedDraws s r line
      ≤ drawnOf s.chain line + unbookedPrincipal s r line

/-- With nothing unbooked the band is a point. -/
theorem Balanced.quiet (hb : Balanced r line s)
    (hdraws : ∀ h, Waits (onRow .creditLineDraw r) s.db h = false)
    (hrepays : ∀ h, Waits (onRow .creditLineRepay r) s.db h = false) :
    bookedDraws s.db r - bookedPrincipal s.db r = drawnOf s.chain line := by
  have hlow := hb.low
  have hhigh := hb.high
  unfold unbookedDraws unbookedPrincipal at *
  rw [unbooked_quiet hdraws] at hlow hhigh
  rw [unbooked_quiet hrepays] at hhigh
  omega

/-- Nothing the band speaks of has moved. -/
theorem Balanced.congr (hb : Balanced r line s)
    (hchain : drawnOf s'.chain line = drawnOf s.chain line)
    (hdraw : s'.db.draw = s.db.draw)
    (hrepayment : s'.db.repayment = s.db.repayment)
    (hunbooked : ∀ sort f, (∀ i j, Alike i j → sort i = sort j) →
      unbooked sort f s' = unbooked sort f s) : Balanced r line s' := by
  have hdraws : unbookedDraws s' r line = unbookedDraws s r line :=
    hunbooked _ _ fun _ _ h => h.onRow _ _
  have hprincipal : unbookedPrincipal s' r line
      = unbookedPrincipal s r line :=
    hunbooked _ _ fun _ _ h => h.onRow _ _
  constructor
  · rw [hchain, bookedDraws, bookedPrincipal, hdraw, hrepayment, hdraws]
    exact hb.low
  · rw [hchain, bookedDraws, bookedPrincipal, hdraw, hrepayment, hdraws,
      hprincipal]
    exact hb.high

-- ============================================================ the rows

section

variable {db' : Db}

/-- One more draw on file is one more in the sum of its own line. -/
theorem bookedDraws_append {row : DrawRow}
    (hdb : db'.draw = db.draw ++ [row]) :
    bookedDraws db' r = bookedDraws db r
      + if row.creditLineId = r then row.amount else 0 := by
  unfold bookedDraws
  rw [hdb, List.filter_append, List.map_append, List.sum_append]
  by_cases hr : row.creditLineId = r
  · simp [hr]
  · simp [hr]

/-- One more repayment on file adds its principal to the sum of its own
line. -/
theorem bookedPrincipal_append {row : RepaymentRow}
    (hdb : db'.repayment = db.repayment ++ [row]) :
    bookedPrincipal db' r = bookedPrincipal db r
      + if row.creditLineId = r then row.principal else 0 := by
  unfold bookedPrincipal
  rw [hdb, List.filter_append, List.map_append, List.sum_append]
  by_cases hr : row.creditLineId = r
  · simp [hr]
  · simp [hr]

/-- Recording a request leaves the debt books alone. -/
theorem record_debt {h : TxHash} {dr : Draft} {row : RowId} {now : Nat}
    (hdb : record db h dr row now = .ok db') :
    db'.draw = db.draw ∧ db'.repayment = db.repayment := by
  obtain ⟨db₁, hwrite, -, rfl⟩ := record_ok hdb
  show db₁.draw = _ ∧ db₁.repayment = _
  unfold writeRow at hwrite
  split at hwrite <;>
    simp only [bind_ok, ensure_ok, pure_ok, exists_const] at hwrite
  all_goals first
    | (subst hwrite; exact ⟨rfl, rfl⟩)
    | (obtain ⟨-, rfl⟩ := hwrite; exact ⟨rfl, rfl⟩)

end

-- ============================================================== a landing

/-- What landed under an intent moved the debt the way its kind says. -/
theorem LineGood.added_of_lands {e : Envelope} {env : Env} {x : Landing Chain}
    {i : TxIntent} (hgood : LineGood r line e i.kind i.refId i.amount)
    (hup : LineUp x.before line)
    (hlands : Lands (network d start) env e x.before x) :
    (onRow .creditLineDraw r i = false →
      onRow .creditLineRepay r i = false → added line x = 0)
    ∧ (onRow .creditLineRepay r i = true → added line x ≤ 0) := by
  constructor
  · intro hdraw hrepay
    have hne : e.debtLine ≠ some line := by
      intro hdebt
      obtain ⟨href, hkind | hkind⟩ := hgood.only hdebt
      · simp [onRow, hkind, href] at hdraw
      · simp [onRow, hkind, href] at hrepay
    have hsame := hlands.other hup hne
    unfold added
    omega
  · intro hon
    obtain ⟨hkind, href⟩ := onRow_iff.mp hon
    obtain ⟨p, amount, rfl, -⟩ := hgood.repay hkind href
    unfold added
    rcases hlands.repay hup with
      ⟨ledger, owed, principal, -, -, hnonneg, -, hafter⟩
        | ⟨ledger, -, hafter⟩
    · omega
    · rw [hafter]
      omega

/-- A landing moves the debt and what is unbooked by the same amount, so
the band moves with it. -/
theorem Balanced.landed (hb : Balanced r line s)
    (hf : LineFiled d start db r line s) {h : TxHash} {env : Env}
    {e : Envelope} {x : Landing Chain}
    (hord : Orderly (.land h env : Act ChainTx) s)
    (he : s.envelopes.get h = some e) (hnew : s.landed.get h = none)
    (hlands : Lands (network d start) env e s.chain x) :
    Balanced r line
      { s with chain := x.after, landed := s.landed.set h x } := by
  obtain ⟨i, hi, hgood⟩ := hf.filed.handed h e he
  have hpending := hf.filed.land_pending hord he hnew hi
  have hbefore : x.before = s.chain := hlands.before
  have hadded : added line x
      = drawnOf x.after line - drawnOf s.chain line := by
    rw [added, hbefore]
  have hup : LineUp x.before line := by
    rw [hbefore]
    exact hf.up
  have hlands' : Lands (network d start) env e x.before x := by
    rw [hbefore]
    exact hlands
  obtain ⟨hother, hrepaid⟩ := hgood.added_of_lands hup hlands'
  have hgrows : ∀ kind f, unbooked (onRow kind r) f
      { s with chain := x.after, landed := s.landed.set h x }
      = unbooked (onRow kind r) f s + if onRow kind r i then f x else 0 :=
    fun kind f => unbooked_landed hi hpending hnew rfl rfl
  have hdraws := hgrows .creditLineDraw (added line)
  have hprincipal := hgrows .creditLineRepay fun x => -added line x
  have hlow := hb.low
  have hhigh := hb.high
  unfold unbookedDraws at hlow hhigh
  unfold unbookedPrincipal at hhigh
  -- a transaction is a draw of the row, a repayment of it, or neither
  have hnot : onRow .creditLineDraw r i = true →
      onRow .creditLineRepay r i = false := by
    intro hdraw
    obtain ⟨hkind, -⟩ := onRow_iff.mp hdraw
    simp [onRow, hkind]
  constructor
  · show drawnOf x.after line ≤ _ - _ + unbooked _ _ _
    rw [hdraws]
    cases hdraw : onRow .creditLineDraw r i with
    | true => simp only [if_true]; omega
    | false =>
        cases hrepay : onRow .creditLineRepay r i with
        | true =>
            have := hrepaid hrepay
            simp only [Bool.false_eq_true, if_false]
            omega
        | false =>
            have := hother hdraw hrepay
            simp only [Bool.false_eq_true, if_false]
            omega
  · show _ - _ + unbooked _ _ _ ≤ drawnOf x.after line + unbooked _ _ _
    rw [hdraws, hprincipal]
    cases hdraw : onRow .creditLineDraw r i with
    | true =>
        simp only [hnot hdraw, if_true, Bool.false_eq_true, if_false]
        omega
    | false =>
        cases hrepay : onRow .creditLineRepay r i with
        | true =>
            simp only [Bool.false_eq_true, if_false, if_true]
            omega
        | false =>
            have := hother hdraw hrepay
            simp only [Bool.false_eq_true, if_false]
            omega

-- ============================================================ a settlement

/-- The principal booked by difference keeps the band: `net` is the debt
on the books, `read` what the caller read, `draws` and `repaid` what is
unbooked, and `p` the part of it this repayment books. -/
theorem principalOf_band {net drawn read draws repaid p amount : Int}
    (hread : 0 ≤ read) (hpaid : p ≤ amount)
    (hlow : drawn ≤ net + draws) (hhigh : net + draws ≤ drawn + repaid)
    (hbelow : drawn ≤ read + draws)
    (habove : read + draws + p ≤ drawn + repaid) :
    drawn ≤ net - principalOf (max net 0) read amount + draws
      ∧ net - principalOf (max net 0) read amount + draws
        ≤ drawn + (repaid - p) := by
  unfold principalOf
  constructor <;> omega

/-- What a caller about to settle knows: what landed, and that booking it
takes it off what is unbooked. -/
theorem LineFiled.claimed (hf : LineFiled d start db r line s) {w now : Nat}
    {k : Worker} {outcome : Outcome} {read : ContractState} {row : TxIntent}
    (hk : s.workers.get w = some k) (hphase : k.phase = .ready outcome read)
    (hrow : s.db.txIntent.get k.intent.txHash = some row)
    (hpending : row.status = .pending)
    (hdb : s'.db.txIntent = s.db.txIntent.set k.intent.txHash
      (settledRow row outcome now)) (hland : s'.landed = s.landed) :
    ∃ x e env, s.landed.get k.intent.txHash = some x ∧ x.outcome = outcome
      ∧ LineUp x.before line
      ∧ Lands (network d start) env e x.before x
      ∧ LineGood r line e k.intent.kind k.intent.refId k.intent.amount
      ∧ ∀ kind f, unbooked (onRow kind r) f s' = unbooked (onRow kind r) f s
        - if onRow kind r k.intent then f x else 0 := by
  obtain ⟨x, e, env, hx, hxo, he, hlands, hgood⟩ :=
    hf.filed.told_of hk (by rw [hphase]; rfl)
  refine ⟨x, e, env, hx, hxo, hf.ups _ x hx, hlands, hgood, ?_⟩
  intro kind f
  obtain ⟨i, hi, halike⟩ := hf.filed.workers w k hk
  rw [hrow] at hi
  injection hi with hi
  subst hi
  rw [unbooked_claimed hrow hpending outcome.next_ne_pending hdb hland, hx,
    halike.onRow kind r]
  rfl

/-- Booking a draw of the row adds what the transaction added. -/
theorem LineGood.booked_draw {e : Envelope} {env : Env} {x : Landing Chain}
    {i : TxIntent} {amount : Int}
    (hgood : LineGood r line e i.kind i.refId i.amount)
    (hup : LineUp x.before line)
    (hlands : Lands (network d start) env e x.before x)
    (hkind : i.kind = .creditLineDraw) (href : i.refId = r)
    (hamount : i.amount = some amount) {ledger : Nat} {v : Int}
    (hsuccess : x.outcome = .success ledger v) : added line x = amount := by
  obtain ⟨b, amount', recipient, rfl, hamount'⟩ := hgood.draw hkind href
  rw [hamount] at hamount'
  injection hamount' with hamount'
  subst hamount'
  unfold added
  rcases hlands.draw hup with ⟨_, _, -, hafter⟩ | ⟨_, hfailed, -⟩
  · omega
  · rw [hsuccess] at hfailed
    cases hfailed

/-- A repayment of the row took off no more than it was for. -/
theorem LineGood.booked_repay {e : Envelope} {env : Env} {x : Landing Chain}
    {i : TxIntent} {amount : Int}
    (hgood : LineGood r line e i.kind i.refId i.amount)
    (hup : LineUp x.before line)
    (hlands : Lands (network d start) env e x.before x)
    (hkind : i.kind = .creditLineRepay) (href : i.refId = r)
    (hamount : i.amount = some amount) {ledger : Nat} {v : Int}
    (hsuccess : x.outcome = .success ledger v) :
    -added line x ≤ amount := by
  obtain ⟨p, amount', rfl, hamount'⟩ := hgood.repay hkind href
  rw [hamount] at hamount'
  injection hamount' with hamount'
  subst hamount'
  unfold added
  rcases hlands.repay hup with
    ⟨_, _, principal, -, -, -, hle, hafter⟩ | ⟨_, hfailed, -⟩
  · omega
  · rw [hsuccess] at hfailed
    cases hfailed

/-- The debt on the books after a draw was booked. -/
theorem DebtBooked.net_draw {db' : Db} {row : DrawRow}
    (hdraw : db'.draw = db.draw ++ [row])
    (hrepayment : db'.repayment = db.repayment) :
    bookedDraws db' r - bookedPrincipal db' r
      = bookedDraws db r - bookedPrincipal db r
        + if row.creditLineId = r then row.amount else 0 := by
  have hsame : bookedPrincipal db' r = bookedPrincipal db r := by
    rw [bookedPrincipal, hrepayment, bookedPrincipal]
  rw [bookedDraws_append hdraw, hsame]
  omega

/-- The debt on the books after a repayment was. -/
theorem DebtBooked.net_repay {db' : Db} {row : RepaymentRow}
    (hdraw : db'.draw = db.draw)
    (hrepayment : db'.repayment = db.repayment ++ [row]) :
    bookedDraws db' r - bookedPrincipal db' r
      = bookedDraws db r - bookedPrincipal db r
        - if row.creditLineId = r then row.principal else 0 := by
  have hsame : bookedDraws db' r = bookedDraws db r := by
    rw [bookedDraws, hdraw, bookedDraws]
  rw [bookedPrincipal_append hrepayment, hsame]
  omega

/-- Booking keeps the band. -/
theorem Balanced.settled (hb : Balanced r line s)
    (hf : LineFiled d start db r line s) {w now : Nat} {k : Worker}
    {outcome : Outcome} {read : ContractState} {delivery : Delivery}
    {row : TxIntent}
    (hk : s.workers.get w = some k) (hphase : k.phase = .ready outcome read)
    (hrow : s.db.txIntent.get k.intent.txHash = some row)
    (hpending : row.status = .pending)
    (happ : applyOutcome { s.db with
        txIntent := s.db.txIntent.set k.intent.txHash
          (settledRow row outcome now) } s.chain.contracts k.intent outcome
        read now = .ok s'.db)
    (hdelivery : delivery ≠ .rolledBack)
    (hreads : ReadsInStep r line (.commit w delivery now) s)
    (hchain : s'.chain = s.chain) (hland : s'.landed = s.landed) :
    Balanced r line s' := by
  obtain ⟨x, e, env, hx, hxo, hup, hlands, hgood, hclaim⟩ :=
    hf.claimed hk hphase hrow hpending (applyOutcome_txIntent happ) hland
  have hdraws := hclaim .creditLineDraw (added line)
  have hprincipal := hclaim .creditLineRepay fun x => -added line x
  have hlow := hb.low
  have hhigh := hb.high
  unfold unbookedDraws at hlow hhigh
  unfold unbookedPrincipal at hhigh
  suffices hband : drawnOf s.chain line ≤ bookedDraws s'.db r
        - bookedPrincipal s'.db r + unbookedDraws s' r line
      ∧ bookedDraws s'.db r - bookedPrincipal s'.db r
        + unbookedDraws s' r line
          ≤ drawnOf s.chain line + unbookedPrincipal s' r line from
    ⟨by rw [hchain]; exact hband.1, by rw [hchain]; exact hband.2⟩
  unfold unbookedDraws unbookedPrincipal
  rw [hdraws, hprincipal]
  -- the claim itself is no book entry
  have hnet : bookedDraws { s.db with
      txIntent := s.db.txIntent.set k.intent.txHash
        (settledRow row outcome now) } r
      - bookedPrincipal { s.db with
        txIntent := s.db.txIntent.set k.intent.txHash
          (settledRow row outcome now) } r
      = bookedDraws s.db r - bookedPrincipal s.db r := rfl
  cases applyOutcome_debt happ with
  | draw hkind hamount hdraw hrepayment =>
      rw [DebtBooked.net_draw hdraw hrepayment, hnet]
      have hrepay : onRow .creditLineRepay r k.intent = false := by
        simp [onRow, hkind]
      by_cases href : k.intent.refId = r
      · have hon : onRow .creditLineDraw r k.intent = true :=
          onRow_iff.mpr ⟨hkind, href⟩
        have hadded := hgood.booked_draw hup hlands hkind href hamount hxo
        simp only [href, hon, hrepay, if_true, Bool.false_eq_true, if_false]
        omega
      · have hon : onRow .creditLineDraw r k.intent = false := by
          simp [onRow, href]
        simp only [href, hon, hrepay, Bool.false_eq_true, if_false]
        omega
  | @repay ledger v amount onChain hkind hamount hread hdraw hrepayment =>
      rw [DebtBooked.net_repay hdraw hrepayment, hnet]
      have hdrawOff : onRow .creditLineDraw r k.intent = false := by
        simp [onRow, hkind]
      by_cases href : k.intent.refId = r
      · have hon : onRow .creditLineRepay r k.intent = true :=
          onRow_iff.mpr ⟨hkind, href⟩
        have hpaid := hgood.booked_repay hup hlands hkind href hamount hxo
        obtain ⟨onChain', hline, hnonneg⟩ :=
          hf.read w k ledger v read hk hphase hkind href
        have honChain : onChain' = onChain := by
          rcases hread with hread | hread
          · exact Option.some.inj (hline.symm.trans hread)
          · rw [hline] at hread
            cases hread
        subst honChain
        have hwaits : Waits (onRow .creditLineRepay r) s.db k.intent.txHash
            = true := by
          obtain ⟨i, hi, halike⟩ := hf.filed.workers w k hk
          rw [hrow] at hi
          injection hi with hi
          subst hi
          exact waits_iff.mpr
            ⟨row, hrow, by rw [halike.onRow]; exact hon, hpending⟩
        have hstep := hreads hdelivery k hk hwaits
        rw [hphase] at hstep
        obtain ⟨hbelow, habove⟩ := hstep read rfl onChain' hline x hx
        unfold unbookedDraws at hbelow habove
        unfold unbookedPrincipal at habove
        have hband := principalOf_band (p := -added line x) hnonneg hpaid
          hlow hhigh hbelow (by omega)
        simp only [href, hon, hdrawOff, if_true, Bool.false_eq_true,
          if_false]
        have hbefore : outstandingDebt { s.db with
            txIntent := s.db.txIntent.set k.intent.txHash
              (settledRow row (.success ledger v) now) } r
            = max (bookedDraws s.db r - bookedPrincipal s.db r) 0 := rfl
        rw [hbefore]
        omega
      · have hon : onRow .creditLineRepay r k.intent = false := by
          simp [onRow, href]
        simp only [href, hon, hdrawOff, Bool.false_eq_true, if_false]
        omega
  | other hother hdraw hrepayment =>
      have hsame : bookedDraws s'.db r - bookedPrincipal s'.db r
          = bookedDraws s.db r - bookedPrincipal s.db r := by
        rw [bookedDraws, bookedPrincipal, hdraw, hrepayment]
        rfl
      rw [hsame]
      -- an outcome that books nothing is a failure, or of another kind
      have hzero : (onRow .creditLineDraw r k.intent = true →
          added line x = 0)
          ∧ (onRow .creditLineRepay r k.intent = true →
            added line x = 0) := by
        cases outcome with
        | success ledger v =>
            obtain ⟨hneD, hneR⟩ := hother ledger v rfl
            constructor
            · intro hon
              exact absurd (onRow_iff.mp hon).1 hneD
            · intro hon
              exact absurd (onRow_iff.mp hon).1 hneR
        | failed ledger =>
            have hafter := hlands.failed_after hxo
            have hadded : added line x = 0 := by
              rw [added, hafter]
              omega
            exact ⟨fun _ => hadded, fun _ => hadded⟩
      obtain ⟨hzeroD, hzeroR⟩ := hzero
      cases honD : onRow .creditLineDraw r k.intent with
      | true =>
          have := hzeroD honD
          cases honR : onRow .creditLineRepay r k.intent with
          | true =>
              simp only [if_true]
              omega
          | false =>
              simp only [if_true, Bool.false_eq_true, if_false]
              omega
      | false =>
          cases honR : onRow .creditLineRepay r k.intent with
          | true =>
              have := hzeroR honR
              simp only [if_true, Bool.false_eq_true, if_false]
              omega
          | false =>
              simp only [Bool.false_eq_true, if_false]
              omega

/-- A write-off books nothing: what it writes off never landed. -/
theorem Balanced.writtenOff (hb : Balanced r line s) {w now : Nat}
    {delivery : Delivery} {k : Worker} {row : TxIntent}
    (hord : Orderly (.writeOff w delivery now : Act ChainTx) s)
    (hk : s.workers.get w = some k)
    (hrow : s.db.txIntent.get k.intent.txHash = some row)
    (hpending : row.status = .pending)
    (happ : applyOutcome { s.db with
        txIntent := s.db.txIntent.set k.intent.txHash
          { row with status := .expired, settledAt := some now } }
        s.chain.contracts k.intent (.failed 0) .unread now = .ok s'.db)
    (hchain : s'.chain = s.chain) (hland : s'.landed = s.landed) :
    Balanced r line s' := by
  have hnone : s.landed.get k.intent.txHash = none :=
    Option.isNone_iff_eq_none.mp (hord k hk)
  cases applyOutcome_debt happ with
  | other _ hdraw hrepayment =>
      refine hb.congr (by rw [hchain]) hdraw hrepayment ?_
      intro sort f _
      rw [unbooked_claimed hrow hpending (by simp)
        (applyOutcome_txIntent happ) hland, hnone]
      simp

/-- Every step keeps the band. -/
theorem balanced_step (hb : Balanced r line s)
    (hf : LineFiled d start db r line s)
    (hdid : Did (network d start) s s' a)
    (hthrough : ThroughBooks line a s) (hord : Orderly a s)
    (hreads : ∀ w delivery now, a = .commit w delivery now →
      delivery ≠ .rolledBack ∧ ReadsInStep r line a s) :
    Balanced r line s' := by
  cases hdid with
  | @outside tx chain happ hs' =>
      subst hs'
      refine hb.congr ?_ rfl rfl fun _ _ _ => rfl
      have hclose : ∀ env payee,
          tx ≠ .lending (.creditLine env (.closeLiquidated payee line)) := by
        intro env payee htx
        subst htx
        exact hthrough rfl
      cases (debt_step hf.up happ hclose).1 with
      | other _ hsame => exact hsame
      | draw => exact absurd rfl hthrough
      | repay => exact absurd rfl hthrough
  | started _ hs' => subst hs'; exact ⟨hb.low, hb.high⟩
  | recorded _ hdb hs' =>
      subst hs'
      obtain ⟨hdraw, hrepayment⟩ := record_debt hdb
      obtain ⟨db₁, -, hnew, rfl⟩ := record_ok hdb
      refine hb.congr rfl hdraw hrepayment fun sort f _ => ?_
      exact unbooked_recorded (hf.filed.not_landed hnew) rfl rfl
  | lapsed hdb hs' =>
      subst hs'
      obtain ⟨quotes, rfl⟩ := lapseQuote_ok hdb
      exact ⟨hb.low, hb.high⟩
  | landed he hnew hlands hs' =>
      subst hs'
      exact hb.landed hf hord he hnew hlands
  | moved _ _ hs' => subst hs'; exact ⟨hb.low, hb.high⟩
  | settled hk hphase hrun hp hs' =>
      subst hs'
      obtain ⟨row, hrow, hpending, happ⟩ := runWithDb_some hrun
      obtain ⟨hdelivery, hreads⟩ := hreads _ _ _ rfl
      exact hb.settled hf hk hphase hrow hpending happ hdelivery hreads rfl
        rfl
  | writtenOff hk _ hexp hs' =>
      subst hs'
      obtain ⟨row, hrow, hpending, happ⟩ := expire_outcome hexp
      exact hb.writtenOff hord hk hrow hpending (happ s.chain.contracts) rfl
        rfl
  | @erred w k err hk hphase hs' =>
      subst hs'
      obtain ⟨row, hrow, -⟩ := hf.filed.workers w k hk
      refine hb.congr rfl rfl rfl fun sort f hsort => ?_
      refine unbooked_kept (j :=
          { row with status := .pending, error := some err }) hrow
        (hsort _ _ ⟨rfl, rfl, rfl, rfl⟩) (hord k hk row hrow).symm ?_ rfl
      simp [moveTo, recordSettleError, Store.adjust_some _ hrow]

-- ========================================================= what was applied

/-- Every repayment that landed was applied in full, and every row of it
adds up to what was applied. -/
structure Applied (r : RowId) (line : Nat) (s : System Chain) : Prop where
  paid : ∀ h x payer amount,
    s.envelopes.get h = some (.creditLine (.repay payer line amount)) →
    s.landed.get h = some x →
    ∀ ledger v, x.outcome = .success ledger v → v = amount
  rows : ∀ row ∈ s.db.repayment, row.creditLineId = r →
    ∃ x ledger, s.landed.get row.txHash = some x
      ∧ x.outcome = .success ledger (row.principal + row.interest)

/-- What was applied depends on the envelopes, the landings and the rows. -/
theorem Applied.congr (ha : Applied r line s)
    (hrepayment : s'.db.repayment = s.db.repayment)
    (henv : s'.envelopes = s.envelopes) (hland : s'.landed = s.landed) :
    Applied r line s' := by
  constructor
  · rw [henv, hland]; exact ha.paid
  · rw [hrepayment, hland]; exact ha.rows

/-- An envelope that has just gone out has not landed. -/
theorem Applied.recorded (ha : Applied r line s) {h : TxHash}
    {e : Envelope} (hnew : s.landed.get h = none)
    (hrepayment : s'.db.repayment = s.db.repayment)
    (henv : s'.envelopes = s.envelopes.set h e)
    (hland : s'.landed = s.landed) : Applied r line s' := by
  constructor
  · intro k x payer amount he hx
    rw [hland] at hx
    rw [henv, Store.get_set_ne] at he
    · exact ha.paid k x payer amount he hx
    · intro hk
      rw [hk, hnew] at hx
      cases hx
  · rw [hrepayment, hland]; exact ha.rows

/-- A repayment that lands is applied in full, if it does not exceed what
is owed. -/
theorem Applied.landed (ha : Applied r line s)
    (hf : LineFiled d start db r line s) {h : TxHash} {env : Env}
    {e : Envelope} {x : Landing Chain} (he : s.envelopes.get h = some e)
    (hnew : s.landed.get h = none)
    (hlands : Lands (network d start) env e s.chain x)
    (hpays : PaysWhatIsOwed line (.land h env) s) :
    Applied r line
      { s with chain := x.after, landed := s.landed.set h x } := by
  constructor
  · intro k y payer amount he' hy ledger v hv
    rw [Store.get_set] at hy
    split at hy
    · next hk =>
      subst hk
      injection hy with hy
      subst hy
      have he₁ : s.envelopes.get k
          = some (.creditLine (.repay payer line amount)) := he'
      rw [he] at he₁
      injection he₁ with he₁
      subst he₁
      rcases hlands.repay hf.up with
        ⟨_, owed, _, hsuccess, howed, -⟩ | ⟨_, hfailed, -⟩
      · have hle : amount ≤ owed :=
          hpays _ he amount (by simp [Envelope.repays]) owed
            (by rw [howed]; rfl)
        rw [hsuccess] at hv
        injection hv with _ hv
        omega
      · rw [hfailed] at hv
        cases hv
    · exact ha.paid k y payer amount he' hy ledger v hv
  · intro row hrow href
    obtain ⟨y, ledger, hy, hout⟩ := ha.rows row hrow href
    refine ⟨y, ledger, ?_, hout⟩
    show (s.landed.set h x).get row.txHash = some y
    rw [Store.get_set_ne, hy]
    intro hk
    rw [hk, hnew] at hy
    cases hy

/-- The row a settlement writes adds up to what its transaction applied. -/
theorem Applied.settled (ha : Applied r line s)
    (hf : LineFiled d start db r line s) {w : Nat} {k : Worker}
    {outcome : Outcome} {read : ContractState}
    (hk : s.workers.get w = some k) (hphase : k.phase = .ready outcome read)
    {db₁ : Db} {now : Nat}
    (happ : applyOutcome db₁ s.chain.contracts k.intent outcome read now
      = .ok s'.db) (hsame : db₁.repayment = s.db.repayment)
    (henv : s'.envelopes = s.envelopes) (hland : s'.landed = s.landed) :
    Applied r line s' := by
  cases applyOutcome_debt happ with
  | draw _ _ _ hrepayment =>
      exact ha.congr (hrepayment.trans hsame) henv hland
  | other _ _ hrepayment =>
      exact ha.congr (hrepayment.trans hsame) henv hland
  | @repay ledger v amount onChain hkind hamount _ _ hrepayment =>
      constructor
      · rw [henv, hland]; exact ha.paid
      intro row hrow href
      rw [hrepayment, List.mem_append, List.mem_singleton, hsame] at hrow
      rw [hland]
      rcases hrow with hrow | rfl
      · exact ha.rows row hrow href
      · obtain ⟨x, e, env, hx, hxo, he, hlands, hgood⟩ :=
          hf.filed.told_of hk (by rw [hphase]; rfl)
        obtain ⟨payer, amount', rfl, hamount'⟩ := hgood.repay hkind href
        rw [hamount] at hamount'
        injection hamount' with hamount'
        subst hamount'
        have hv : v = amount := ha.paid _ x payer amount he hx ledger v hxo
        refine ⟨x, ledger, hx, ?_⟩
        rw [hxo, hv]
        show _ = Outcome.success ledger (_ + (amount - _))
        rw [add_sub_cancel]

/-- Every action under the condition keeps both. -/
theorem applied_step (ha : Applied r line s)
    (hf : LineFiled d start db r line s)
    (hdid : Did (network d start) s s' a)
    (hpays : PaysWhatIsOwed line a s) : Applied r line s' := by
  cases hdid with
  | outside _ hs' => subst hs'; exact ⟨ha.paid, ha.rows⟩
  | started _ hs' => subst hs'; exact ⟨ha.paid, ha.rows⟩
  | recorded _ hdb hs' =>
      subst hs'
      obtain ⟨-, hrepayment⟩ := record_debt hdb
      obtain ⟨db₁, -, hnew, rfl⟩ := record_ok hdb
      exact ha.recorded (hf.filed.not_landed hnew) hrepayment rfl rfl
  | lapsed hdb hs' =>
      subst hs'
      obtain ⟨quotes, rfl⟩ := lapseQuote_ok hdb
      exact ⟨ha.paid, ha.rows⟩
  | landed he hnew hlands hs' =>
      subst hs'
      exact ha.landed hf he hnew hlands hpays
  | moved _ _ hs' => subst hs'; exact ⟨ha.paid, ha.rows⟩
  | settled hk hphase hrun hp hs' =>
      subst hs'
      obtain ⟨row, hrow, hpending, happ⟩ := runWithDb_some hrun
      exact ha.settled hf hk hphase happ rfl rfl rfl
  | writtenOff hk _ hexp hs' =>
      subst hs'
      obtain ⟨row, hrow, hpending, happ⟩ := expire_outcome hexp
      cases applyOutcome_debt (happ s.chain.contracts) with
      | other _ _ hrepayment => exact ha.congr hrepayment rfl rfl
  | erred _ _ hs' => subst hs'; exact ⟨ha.paid, ha.rows⟩

-- ================================================================= the run

/-- A line that has just been opened: its row names it, and neither its
books nor the contract show anything drawn. -/
structure NewLine (db : Db) (start : Chain) (r : RowId) (line : Nat) :
    Prop where
  row : contractLine db r = some line
  only : ∀ r', contractLine db r' = some line → r' = r
  filed : ∀ h i, db.txIntent.get h = some i → i.txHash = h
  quiet : ∀ h i, db.txIntent.get h = some i → i.refId = r →
    i.kind = .creditLineOpen ∨ i.kind = .creditLineDraw
      ∨ i.kind = .creditLineRepay → i.status ≠ .pending
  up : LineUp start line
  undrawn : drawnOf start line = 0
  draws : ∀ row ∈ db.draw, row.creditLineId ≠ r
  repays : ∀ row ∈ db.repayment, row.creditLineId ≠ r

/-- No draw and no repayment of the row is pending. -/
def DebtQuiet (db : Db) (r : RowId) : Prop :=
  ∀ h i, db.txIntent.get h = some i → i.refId = r →
    i.kind = .creditLineDraw ∨ i.kind = .creditLineRepay →
    i.status ≠ .pending

/-- Books without intents of the line have nothing unbooked. -/
theorem DebtQuiet.waits {db : Db} (hquiet : DebtQuiet db r)
    {kind : IntentKind}
    (hkind : kind = .creditLineDraw ∨ kind = .creditLineRepay)
    (h : TxHash) : Waits (onRow kind r) db h = false := by
  rw [Bool.eq_false_iff]
  intro hwaits
  obtain ⟨i, hi, hon, hpending⟩ := waits_iff.mp hwaits
  obtain ⟨rfl, href⟩ := onRow_iff.mp hon
  exact hquiet h i hi href hkind hpending

/-- A line that is up has an id below the counter. -/
theorem LineUp.minted {c : Chain} (hup : LineUp c line) :
    line < c.lending.creditLine.nextLineId := by
  obtain ⟨l, hl, -⟩ := hup.line
  by_contra hle
  rw [hup.fresh line (by omega)] at hl
  cases hl

/-- The row of a new line is its own. -/
theorem NewLine.lineRows (hnew : NewLine db start r line) :
    LineRows r line (machine (network d start) db).init := by
  refine ⟨hnew.row, hnew.only, ?_, ?_, hnew.up.minted, ?_⟩
  · intro h i hi hkind href
    exact hnew.quiet h i hi href (.inl hkind)
  all_goals
    intros
    contradiction

/-- Nothing has gone out for a new line. -/
theorem NewLine.lineFiled (hnew : NewLine db start r line) :
    LineFiled d start db r line (machine (network d start) db).init := by
  refine ⟨filed_init hnew.filed, hnew.lineRows, hnew.up, ?_, ?_, ?_⟩
  all_goals
    intros
    contradiction

/-- A new line has drawn nothing and has nothing booked. -/
theorem NewLine.balanced (hnew : NewLine db start r line) :
    Balanced r line (machine (network d start) db).init := by
  have hdraws : bookedDraws db r = 0 := by
    have hnil : db.draw.filter (·.creditLineId = r) = [] := by
      simpa using hnew.draws
    rw [bookedDraws, hnil]
    rfl
  have hprincipal : bookedPrincipal db r = 0 := by
    have hnil : db.repayment.filter (·.creditLineId = r) = [] := by
      simpa using hnew.repays
    rw [bookedPrincipal, hnil]
    rfl
  have hundrawn : drawnOf (machine (network d start) db).init.chain line
      = 0 := hnew.undrawn
  have hbooks : (machine (network d start) db).init.db = db := rfl
  have hunbooked : ∀ sort (f : Landing Chain → Int),
      unbooked sort f (machine (network d start) db).init = 0 :=
    fun _ _ => Store.total_empty _
  constructor
  · rw [hundrawn, hbooks, hdraws, hprincipal, unbookedDraws, hunbooked]
    omega
  · rw [hundrawn, hbooks, hdraws, hprincipal, unbookedDraws,
      unbookedPrincipal, hunbooked, hunbooked]
    omega

/-- And nothing applied. -/
theorem NewLine.applied (hnew : NewLine db start r line) :
    Applied r line (machine (network d start) db).init := by
  constructor
  · intros
    contradiction
  · intro row hrow href
    exact absurd href (hnew.repays row hrow)

namespace Demo

/-- A draw of 100 lands and is settled, on row 7. -/
def drawn : List (Act ChainTx) :=
  hand 0 50 (.draw 3 7 100 Wired.Demo.borrower) ++ [.land 50 (env 0 3)]
    ++ settles 1 50

/-- It is repaid by 60, a year later. -/
def repaid : List (Act ChainTx) :=
  drawn ++ hand 1 51 (.repay 3 7 60) ++ [.land 51 (env 31536000 4)]
    ++ settles 1 51

/-- A repayment is made for 200. -/
def overpaid : List (Act ChainTx) :=
  drawn ++ hand 1 51 (.repay 3 7 200) ++ [.land 51 (env 0 4)]
    ++ settles 1 51

/-- Another 100 is drawn and 50 repaid; the repayment is settled first. -/
def lateDraw : List (Act ChainTx) :=
  drawn ++ hand 1 51 (.draw 3 7 100 Wired.Demo.borrower)
    ++ [.land 51 (env 0 4)]
    ++ hand 2 52 (.repay 3 7 50) ++ [.land 52 (env 0 5)]
    ++ settles 1 52 ++ settles 1 51

/-- The chain of the demonstration has its line under a fresh id. -/
theorem funded_fresh : CreditLine.FreshIds funded.lending.creditLine := by
  intro id hid
  have hkeys : ∀ k ∈ funded.lending.creditLine.lines.keys,
      k < funded.lending.creditLine.nextLineId := by
    decide +kernel
  apply Store.not_mem_keys.mp
  intro hmem
  have hlt := hkeys id hmem
  omega

/-- Its line is new to the books. -/
theorem newLine : NewLine lineBooks funded 7 0 := by
  have hnone : ∀ h i, lineBooks.txIntent.get h ≠ some i := by
    intro h i hi
    cases hi
  have hline : ∃ l, funded.lending.creditLine.lines.get 0 = some l
      ∧ 0 ≤ l.drawn ∧ 0 ≤ l.accruedInterest :=
    ⟨_, rfl, by decide +kernel, by decide +kernel⟩
  refine ⟨rfl, ?_, fun h i hi => absurd hi (hnone h i),
    fun h i hi => absurd hi (hnone h i), ⟨funded_fresh, hline⟩,
    by decide +kernel, ?_, ?_⟩
  · intro r' hr'
    by_contra hne
    simp [contractLine, lineBooks, Store.get_set_ne _ _ hne, Db.empty] at hr'
  · intro row hrow
    cases hrow
  · intro row hrow
    cases hrow

end Demo

end Ballast.Api
