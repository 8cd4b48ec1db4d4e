/-
What a committed step of the keeper's system did: one constructor of
`Did` for each kind of effect, with what the step had to find to get
there. The moves of a run that read and change nothing else are `Goes`.

# Two programs

The keeper and the API write the same rows of `repo_trade`. A step is of
one of them, and `Did` names which: `took`, `moved`, `sent`, `booked`
and `closed` belong to the keeper's run, `asked`, `read` and `settled`
to a top-up, and a landing to nobody, since any account may have sent
what lands.
-/
import Ballast.Keeper.RepoMargin

namespace Ballast.Keeper

open Soroban RepoDvp
open Api (TxHash RowId IntentStatus)

variable {self keeper : Address} {s s' : System}

/-- A run goes from one stage of a trade's turn to the next. -/
inductive Goes (s : System) : Stage → Stage → Prop
  | held {row : RowId} {id : Nat} {onChain : RepoTrade} :
      Goes s (.taken row id) (.held row id onChain)
  | defaulted {row : RowId} {id : Nat} : Goes s (.taken row id) (.closed row)
  | ended {row : RowId} {id : Nat} : Goes s (.taken row id) .idle
  | building {row : RowId} {id : Nat} {onChain : RepoTrade} {close : Bool} :
      Goes s (.held row id onChain) (.building row id close)
  | left {row : RowId} {id : Nat} {onChain : RepoTrade} :
      Goes s (.held row id onChain) .idle
  | closed {row : RowId} {id : Nat} {h : TxHash} :
      Goes s (.polling row id true h) (.closed row)
  | called {row : RowId} {id : Nat} {h : TxHash} :
      s.landed.get h = some true →
      Goes s (.polling row id false h) (.called row id)
  | booking {row : RowId} {id : Nat} {after : RepoTrade} :
      readTrade s.chain.store id = .ok after →
      Goes s (.called row id) (.booking row after)

/-- What a committed step did. -/
inductive Did (self keeper : Address) (s s' : System) : Act → Prop
  | outside {tx : RepoDvp.Tx} {chain : World RepoDvp.State} :
      (RepoDvp.machine self).apply tx s.chain = .ok chain →
      s' = { s with chain := chain } → Did self keeper s s' (.outside tx)
  | landed {h : TxHash} {env : Env} {e : Entry}
      {chain : World RepoDvp.State} :
      s.sent.get h = some e → s.landed.get h = none →
      call (env.at self) e s.chain = .ok chain →
      s' = { s with chain := chain, landed := s.landed.set h true } →
      Did self keeper s s' (.land h env)
  | refused {h : TxHash} {env : Env} : s.landed.get h = none →
      s' = { s with landed := s.landed.set h false } →
      Did self keeper s s' (.land h env)
  | asked {h : TxHash} {row : RepoTradeRow} {id : Nat}
      {borrower : Address} {units : Int} {env : Env} :
      row ∈ s.db.repoTrade → row.contractTradeId = some id → s.fresh h →
      s' = { s with
        sent := s.sent.set h (.topUp borrower id units)
        db := { s.db with
          txIntent := s.db.txIntent.set h ⟨row.id, .pending⟩ } } →
      Did self keeper s s' (.askTopUp h row.id borrower units env)
  | read {w : Nat} {h : TxHash} {intent : TopUpIntent} {row : RepoTradeRow}
      {id : Nat} {onChain : RepoTrade} :
      s.db.txIntent.get h = some intent → s.landed.get h = some true →
      row ∈ s.db.repoTrade → row.id = intent.refId →
      row.contractTradeId = some id →
      readTrade s.chain.store id = .ok onChain →
      s' = { s with readers := s.readers.set w (h, onChain) } →
      Did self keeper s s' (.settleRead w h)
  | settled {w now : Nat} {h : TxHash} {onChain : RepoTrade}
      {intent : TopUpIntent} :
      s.readers.get w = some (h, onChain) →
      s.db.txIntent.get h = some intent → intent.status = .pending →
      s' = { s with
        readers := s.readers.remove w
        db := bookTopUp s.db h intent onChain now } →
      Did self keeper s s' (.settle w now)
  | lost {w now : Nat} : s' = { s with readers := s.readers.remove w } →
      Did self keeper s s' (.settle w now)
  | began {now : Nat} : s.run = none →
      s' = { s with
        run := some ⟨now, s.db.repoTrade.filter (·.status = .settled),
          .idle⟩ } →
      Did self keeper s s' (.begin now)
  | took {run : Run} {row : RepoTradeRow} {todo : List RepoTradeRow}
      {stage : Stage} : s.run = some run → run.stage = .idle →
      run.todo = row :: todo →
      (stage = .idle
        ∨ ∃ id, row.contractTradeId = some id ∧ stage = .taken row.id id) →
      s' = { s with run := some ⟨run.now, todo, stage⟩ } →
      Did self keeper s s' .next
  | finished {run : Run} : s.run = some run → run.stage = .idle →
      s' = { s with run := none } → Did self keeper s s' .next
  | moved {run : Run} {stage : Stage} {a : Act} : s.run = some run →
      Goes s run.stage stage → a ≠ .fail → s' = moveTo s run stage →
      Did self keeper s s' a
  | sent {run : Run} {row : RowId} {id : Nat} {close : Bool} {h : TxHash}
      {env : Env} : s.run = some run →
      run.stage = .building row id close → s.fresh h →
      s' = moveTo
        { s with sent := s.sent.set h (submission keeper id close) } run
        (.polling row id close h) →
      Did self keeper s s' (.send h env)
  | booked {run : Run} {row : RowId} {after : RepoTrade} :
      s.run = some run → run.stage = .booking row after →
      s' = moveTo { s with db := bookCall s.db row after run.now } run
        .idle →
      Did self keeper s s' .write
  | closed {run : Run} {row : RowId} : s.run = some run →
      run.stage = .closed row →
      s' = moveTo { s with
        db := s.db.updateTrade row fun t => { t with status := .defaulted } }
        run .idle →
      Did self keeper s s' .write
  | failed {run : Run} : s.run = some run → s' = moveTo s run .idle →
      Did self keeper s s' .fail
  | stopped : s' = { s with run := none } → Did self keeper s s' .stop

/-- A step of the run needs one that is under way. -/
theorem current_ok {run : Run} : current s = .ok run ↔ s.run = some run :=
  expect_ok

/-- The row that is found is on file, under the id it was asked for. -/
theorem find_row {rows : List RepoTradeRow} {row : RowId}
    {t : RepoTradeRow} (h : rows.find? (·.id = row) = some t) :
    t ∈ rows ∧ t.id = row :=
  ⟨List.mem_of_find?_eq_some h, by simpa using List.find?_some h⟩

/-- The run takes its next row, or is over. -/
theorem next_did (h : next s = .ok s') : Did self keeper s s' .next := by
  simp only [next, bind_ok, current_ok, ensure_ok] at h
  obtain ⟨run, hrun, -, hidle, h⟩ := h
  cases htodo : run.todo with
  | nil =>
      simp only [htodo] at h
      exact .finished hrun hidle (pure_ok.mp h).symm
  | cons row todo =>
      simp only [htodo] at h
      cases hid : row.contractTradeId with
      | none =>
          simp only [hid] at h
          exact .took hrun hidle htodo (.inl rfl) (pure_ok.mp h).symm
      | some id =>
          simp only [hid] at h
          exact .took hrun hidle htodo (.inr ⟨id, hid, rfl⟩)
            (pure_ok.mp h).symm

/-- It reads the trade and holds it, defaults its row, or leaves it. -/
theorem readOnChain_did (h : readOnChain s = .ok s') :
    Did self keeper s s' .readOnChain := by
  simp only [readOnChain, bind_ok, current_ok] at h
  obtain ⟨run, hrun, h⟩ := h
  split at h
  · next row id hstage =>
    simp only [bind_ok] at h
    obtain ⟨onChain, -, h⟩ := h
    have hgo : ∀ {stage}, Goes s (.taken row id) stage →
        s' = moveTo s run stage → Did self keeper s s' .readOnChain := by
      intro stage hgoes hs'
      exact .moved hrun (hstage ▸ hgoes) (by simp) hs'
    split at h
    · exact hgo .held (pure_ok.mp h).symm
    · split at h
      · exact hgo .defaulted (pure_ok.mp h).symm
      · exact hgo .ended (pure_ok.mp h).symm
  · cases h

/-- It asks for the margin, and builds a call or a closing, or leaves the
trade. -/
theorem view_did {env : Env} (h : view self env s = .ok s') :
    Did self keeper s s' (.view env) := by
  simp only [view, bind_ok, current_ok] at h
  obtain ⟨run, hrun, h⟩ := h
  split at h
  · next row id onChain hstage =>
    simp only [bind_ok] at h
    obtain ⟨v, -, h⟩ := h
    have hgo : ∀ {stage}, Goes s (.held row id onChain) stage →
        s' = moveTo s run stage → Did self keeper s s' (.view env) := by
      intro stage hgoes hs'
      exact .moved hrun (hstage ▸ hgoes) (by simp) hs'
    split at h
    · exact hgo .left (pure_ok.mp h).symm
    · split at h
      · exact hgo .building (pure_ok.mp h).symm
      · split at h
        · exact hgo .building (pure_ok.mp h).symm
        · exact hgo .left (pure_ok.mp h).symm
  · cases h

/-- It sends what it built. -/
theorem send_did {h : TxHash} {env : Env}
    (hok : send self keeper h env s = .ok s') :
    Did self keeper s s' (.send h env) := by
  simp only [send, bind_ok, current_ok] at hok
  obtain ⟨run, hrun, hok⟩ := hok
  split at hok
  · next row id close hstage =>
    simp only [bind_ok, ensure_ok, pure_ok] at hok
    obtain ⟨-, hfresh, -, -, rfl⟩ := hok
    exact .sent hrun hstage hfresh rfl
  · cases hok

/-- It hears that the transaction went through. -/
theorem confirm_did (h : confirm s = .ok s') :
    Did self keeper s s' .confirm := by
  simp only [confirm, bind_ok, current_ok] at h
  obtain ⟨run, hrun, h⟩ := h
  split at h
  · next row id close hash hstage =>
    simp only [bind_ok, ensure_ok, pure_ok] at h
    obtain ⟨-, hlanded, rfl⟩ := h
    cases close with
    | true => exact .moved hrun (hstage ▸ .closed) (by simp) rfl
    | false => exact .moved hrun (hstage ▸ .called hlanded) (by simp) rfl
  · cases h

/-- It reads the trade again. -/
theorem readAfter_did (h : readAfter s = .ok s') :
    Did self keeper s s' .readAfter := by
  simp only [readAfter, bind_ok, current_ok] at h
  obtain ⟨run, hrun, h⟩ := h
  split at h
  · next row id hstage =>
    simp only [bind_ok, pure_ok] at h
    obtain ⟨after, hafter, rfl⟩ := h
    exact .moved hrun (hstage ▸ .booking hafter) (by simp) rfl
  · cases h

/-- It books the call, or closes the row. -/
theorem write_did (h : write s = .ok s') : Did self keeper s s' .write := by
  simp only [write, bind_ok, current_ok] at h
  obtain ⟨run, hrun, h⟩ := h
  split at h
  · next row after hstage => exact .booked hrun hstage (pure_ok.mp h).symm
  · next row hstage => exact .closed hrun hstage (pure_ok.mp h).symm
  · cases h

/-- A top-up is requested: its transaction and its intent are on file. -/
theorem askTopUp_did {h : TxHash} {row : RowId} {borrower : Address}
    {units : Int} {env : Env}
    (hok : askTopUp self h row borrower units env s = .ok s') :
    Did self keeper s s' (.askTopUp h row borrower units env) := by
  simp only [askTopUp, bind_ok, expect_ok, ensure_ok, pure_ok] at hok
  obtain ⟨trade, hfind, id, hid, -, hfresh, -, -, rfl⟩ := hok
  obtain ⟨hmem, rfl⟩ := find_row hfind
  exact .asked hmem hid hfresh rfl

/-- A transaction lands, or is refused with nothing changed. -/
theorem land_did {h : TxHash} {env : Env} (hok : land self h env s = .ok s') :
    Did self keeper s s' (.land h env) := by
  simp only [land, bind_ok, expect_ok, ensure_ok, Option.isNone_iff_eq_none]
    at hok
  obtain ⟨e, hsent, -, hnone, hok⟩ := hok
  split at hok
  · next chain hcall =>
    exact .landed hsent hnone hcall (pure_ok.mp hok).symm
  · exact .refused hnone (pure_ok.mp hok).symm

/-- The settler reads the trade after a top-up that landed. -/
theorem settleRead_did {w : Nat} {h : TxHash}
    (hok : settleRead w h s = .ok s') :
    Did self keeper s s' (.settleRead w h) := by
  simp only [settleRead, bind_ok, expect_ok, ensure_ok, pure_ok] at hok
  obtain ⟨intent, hintent, -, -, -, hlanded, trade, hfind, id, hid, onChain,
    hread, rfl⟩ := hok
  obtain ⟨hmem, hrow⟩ := find_row hfind
  exact .read hintent hlanded hmem hrow hid hread rfl

/-- It books what it read, unless another one has. -/
theorem settle_did {w now : Nat} (hok : settle w now s = .ok s') :
    Did self keeper s s' (.settle w now) := by
  simp only [settle, bind_ok, expect_ok] at hok
  obtain ⟨⟨h, onChain⟩, hreader, intent, hintent, hok⟩ := hok
  split at hok
  · next hpending =>
    exact .settled hreader hintent hpending (pure_ok.mp hok).symm
  · exact .lost (pure_ok.mp hok).symm

/-- Every committed step did one of these. -/
theorem step_did {a : Act} (h : step self keeper a s = .ok s') :
    Did self keeper s s' a := by
  cases a with
  | outside tx =>
      simp only [step, bind_ok, pure_ok] at h
      obtain ⟨chain, happ, rfl⟩ := h
      exact .outside happ rfl
  | land h env => exact land_did h
  | askTopUp h row borrower units env => exact askTopUp_did h
  | settleRead w h => exact settleRead_did h
  | settle w now => exact settle_did h
  | begin now =>
      simp only [step, begin, bind_ok, ensure_ok, pure_ok,
        Option.isNone_iff_eq_none] at h
      obtain ⟨-, hrun, rfl⟩ := h
      exact .began hrun rfl
  | next => exact next_did h
  | readOnChain => exact readOnChain_did h
  | view env => exact view_did h
  | send h env => exact send_did h
  | confirm => exact confirm_did h
  | readAfter => exact readAfter_did h
  | write => exact write_did h
  | fail =>
      simp only [step, fail, bind_ok, current_ok, pure_ok] at h
      obtain ⟨run, hrun, rfl⟩ := h
      exact .failed hrun rfl
  | stop =>
      simp only [step, stop, bind_ok, current_ok, pure_ok] at h
      obtain ⟨run, hrun, rfl⟩ := h
      exact .stopped rfl

end Ballast.Keeper
