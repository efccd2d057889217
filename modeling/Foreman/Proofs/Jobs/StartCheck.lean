import Foreman.Jobs.Type
import Foreman.Job.Call
import Foreman.Proofs.Backend

/-!
# Taking a row is one transaction

Before a job runs its executor takes the row in one transaction: it reads the status under a
lock that does not wait and moves a waiting row to running. Whatever the database answers,
for the history job (`HistoryRun.start_check`) and the test job (`TestRun.start_check`), the
statements are one transaction (`StartLog`), the update follows only a select that found the
row waiting, and the row counts as started (`Call.started`) exactly when COMMIT was sent and
succeeded.
-/

namespace Foreman

set_option autoImplicit false

/-- A start check's statements as the database receives them: nothing when the context was
already cancelled, else one transaction that begins, reads the row's status, updates it and
ends in one COMMIT or ROLLBACK, stopping early on a failure. -/
inductive StartLog (select update : Sent) : List Sent → Prop
  | refused : StartLog select update []
  | notBegun : StartLog select update [.begin]
  | readOnly : StartLog select update [.begin, select, .rollback]
  | undone : StartLog select update [.begin, select, update, .rollback]
  | committed : StartLog select update [.begin, select, update, .commit]

/-- A start check that sent `log` and answered `started`: one transaction whose update
follows a select finding the row `waiting`, whose COMMIT follows an update that went through
(`updated`), and that started the row exactly when COMMIT was sent and `committed`. -/
structure StartCheck (select update : Sent) (waiting updated committed : Prop) (log : List Sent)
    (started : Bool) : Prop where
  shape : StartLog select update log
  update_of_waiting : update ∈ log → waiting
  commit_of_updated : Sent.commit ∈ log → updated
  started_iff : started = true ↔ Sent.commit ∈ log ∧ committed

theorem HistoryRun.start_check (r : HistoryRun) (ctx : Ctx) (h : Handle) (now : Instant) (b : Backend) :
    let run := (r.start ctx h now).run b
    ∃ log, run.2.db.sent = b.db.sent ++ log ∧
      StartCheck
        (.query (h.rebind ("SELECT " ++ r.table.statusColumn ++ " FROM " ++ r.tableName h ++ " WHERE " ++
          r.table.keyColumn ++ " = ?" ++ h.dialect.lockNoWait)) [.text r.row.key])
        (.exec (r.statusUpdate h now HistoryTable.running "").1 (r.statusUpdate h now HistoryTable.running "").2)
        (∃ rs, b.db.nextSet = .ok rs ∧
          rs.first 1 (fun vs => Scan.col vs 0 Scan.textOrNull) = .ok (some (some HistoryTable.waiting)))
        (∃ n, b.db.nextCount = .ok n) (b.db.commitError = none) log (Call.started (.returned run.1)) := by
  intro run
  cases hc : ctx.err with
  | some e =>
    have eq : run = ((false, some e), b) := by
      simp only [run, HistoryRun.start, BackendM.run_bind, Backend.begin_refused b hc]; rfl
    exact ⟨[], by simp [eq], ⟨.refused, by simp, by simp, by simp [eq, Call.started]⟩⟩
  | none =>
  cases hb : b.db.beginError with
  | some m =>
    have eq : run = ((false, some (.plain m)), b.noted .begin) := by
      simp only [run, HistoryRun.start, BackendM.run_bind, Backend.begin_run b hc, hb]; rfl
    exact ⟨_, by simp [eq], ⟨.notBegun, by simp, by simp, by simp [eq, Call.started]⟩⟩
  | none =>
  simp only [run, HistoryRun.start, BackendM.run_bind, Backend.begin_run b hc, hb, Backend.query_run _ hc,
    HistoryRun.statusQuery, Backend.noted_nextSet]
  -- from here on every path but the committed one ends in ROLLBACK
  cases hs : b.db.nextSet with
  | error e =>
    simp only [BackendM.run_bind, BackendM.run_pure, Backend.rollback_run]
    exact ⟨_, by simp, ⟨.readOnly, by simp, by simp, by simp [Call.started]⟩⟩
  | ok rs =>
  simp only
  cases hread : rs.first 1 (fun vs => Scan.col vs 0 Scan.textOrNull) with
  | error e =>
    simp only [BackendM.run_bind, BackendM.run_pure, Backend.rollback_run]
    exact ⟨_, by simp, ⟨.readOnly, by simp, by simp, by simp [Call.started]⟩⟩
  | ok read =>
  rcases read with _ | _ | status
  · -- no row
    simp only [BackendM.run_bind, BackendM.run_pure, Backend.rollback_run]
    exact ⟨_, by simp, ⟨.readOnly, by simp, by simp, by simp [Call.started]⟩⟩
  · -- a null status reads as the empty text, which is not the waiting one
    simp only [BackendM.run_bind, BackendM.run_pure, Backend.rollback_run, Option.getD_none,
      show ("" != HistoryTable.waiting) = true by decide, if_true]
    exact ⟨_, by simp, ⟨.readOnly, by simp, by simp, by simp [Call.started]⟩⟩
  by_cases waiting : status = HistoryTable.waiting
  · subst waiting
    simp only [Option.getD_some, bne_self_eq_false, Bool.false_eq_true, if_false, BackendM.run_bind,
      HistoryRun.setStatus, Backend.exec_run _ hc, BackendM.run_pure, Backend.asked_nextCount,
      Backend.noted_nextCount]
    cases hn : b.db.nextCount with
    | error e =>
      simp only [Except.map, BackendM.run_bind, BackendM.run_pure, Backend.rollback_run]
      exact ⟨_, by simp, ⟨.undone, by simp [hread], by simp, by simp [Call.started]⟩⟩
    | ok n =>
      simp only [Except.map, BackendM.run_bind, Backend.commit_run, Backend.told_commitError,
        Backend.asked_commitError, Backend.noted_commitError]
      -- a failed COMMIT still answers "taken", with its error: not started
      cases b.db.commitError <;>
        exact ⟨_, by simp, ⟨.committed, by simp [hread], by simp, by simp [Call.started]⟩⟩
  · simp only [BackendM.run_bind, BackendM.run_pure, Backend.rollback_run, Option.getD_some, bne_iff_ne,
      ne_eq, waiting, not_false_eq_true, if_true]
    exact ⟨_, by simp, ⟨.readOnly, by simp, by simp, by simp [Call.started]⟩⟩

theorem TestRun.start_check (r : TestRun) (ctx : Ctx) (h : Handle) (now : Instant) (b : Backend) :
    let run := (r.start ctx h now).run b
    (∃ log, run.2.db.sent = b.db.sent ++ log ∧
      StartCheck
        (.query (h.rebind ("SELECT STATUS, WAIT_SECONDS FROM " ++ r.tableName h ++ " WHERE DATA_KEY = ?" ++
          h.dialect.lockNoWait)) [.text r.row.key])
        (.exec (h.rebind ("UPDATE " ++ r.tableName h ++ " SET STATUS = ?, LAST_UPDATE_TIMESTAMP = ? WHERE DATA_KEY = ?"))
          [.text TestJob.executing, .time now, .text r.row.key])
        (∃ rs w, b.db.nextSet = .ok rs ∧ rs.first 2 TestRun.readStatus = .ok (some (TestJob.notProcessing, w)))
        (∃ n, b.db.nextCount = .ok n) (b.db.commitError = none) log (Call.started (.returned run.1.1))) ∧
      (Call.started (.returned run.1.1) = false → run.1.2 = r) := by
  intro run
  cases hc : ctx.err with
  | some e =>
    have eq : run = (((false, some e), r), b) := by
      simp only [run, TestRun.start, BackendM.run_bind, Backend.begin_refused b hc]; rfl
    exact ⟨⟨[], by simp [eq], ⟨.refused, by simp, by simp, by simp [eq, Call.started]⟩⟩, by simp [eq]⟩
  | none =>
  cases hb : b.db.beginError with
  | some m =>
    have eq : run = (((false, some (.plain m)), r), b.noted .begin) := by
      simp only [run, TestRun.start, BackendM.run_bind, Backend.begin_run b hc, hb]; rfl
    exact ⟨⟨_, by simp [eq], ⟨.notBegun, by simp, by simp, by simp [eq, Call.started]⟩⟩, by simp [eq]⟩
  | none =>
  simp only [run, TestRun.start, BackendM.run_bind, Backend.begin_run b hc, hb, Backend.query_run _ hc,
    TestRun.statusQuery, Backend.noted_nextSet]
  cases hs : b.db.nextSet with
  | error e =>
    simp only [BackendM.run_bind, BackendM.run_pure, Backend.rollback_run]
    exact ⟨⟨_, by simp, ⟨.readOnly, by simp, by simp, by simp [Call.started]⟩⟩, by simp⟩
  | ok rs =>
  simp only
  cases hread : rs.first 2 TestRun.readStatus with
  | error e =>
    simp only [BackendM.run_bind, BackendM.run_pure, Backend.rollback_run]
    exact ⟨⟨_, by simp, ⟨.readOnly, by simp, by simp, by simp [Call.started]⟩⟩, by simp⟩
  | ok read =>
  rcases read with _ | ⟨status, wait⟩
  · -- no row
    simp only [BackendM.run_bind, BackendM.run_pure, Backend.rollback_run]
    exact ⟨⟨_, by simp, ⟨.readOnly, by simp, by simp, by simp [Call.started]⟩⟩, by simp⟩
  by_cases waiting : status = TestJob.notProcessing
  · subst waiting
    simp only [bne_self_eq_false, Bool.false_eq_true, if_false, BackendM.run_bind, TestRun.setStatus,
      TestRun.statusUpdate, Backend.exec_run _ hc, BackendM.run_pure, Backend.asked_nextCount, Backend.noted_nextCount]
    cases hn : b.db.nextCount with
    | error e =>
      simp only [Except.map, BackendM.run_bind, BackendM.run_pure, Backend.rollback_run]
      exact ⟨⟨_, by simp, ⟨.undone, by simp [hread], by simp, by simp [Call.started]⟩⟩, by simp⟩
    | ok n =>
      simp only [Except.map, BackendM.run_bind, Backend.commit_run, Backend.told_commitError,
        Backend.asked_commitError, Backend.noted_commitError]
      cases b.db.commitError <;>
        exact ⟨⟨_, by simp, ⟨.committed, by simp [hread], by simp, by simp [Call.started]⟩⟩, by simp [Call.started]⟩
  · simp only [BackendM.run_bind, BackendM.run_pure, Backend.rollback_run, bne_iff_ne, ne_eq, waiting,
      not_false_eq_true, if_true]
    exact ⟨⟨_, by simp, ⟨.readOnly, by simp, by simp, by simp [Call.started]⟩⟩, by simp⟩

/-- Taking a row, by either executor of the program, under any context and whatever the
database answers, is one transaction that starts the row exactly when its COMMIT succeeded. -/
theorem start_is_one_transaction (hr : HistoryRun) (tr : TestRun) (ctx : Ctx) (h : Handle)
    (now : Instant) (b : Backend) :
    (let run := (hr.start ctx h now).run b
    ∃ log, run.2.db.sent = b.db.sent ++ log ∧
      StartCheck
        (.query (h.rebind ("SELECT " ++ hr.table.statusColumn ++ " FROM " ++ hr.tableName h ++ " WHERE " ++
          hr.table.keyColumn ++ " = ?" ++ h.dialect.lockNoWait)) [.text hr.row.key])
        (.exec (hr.statusUpdate h now HistoryTable.running "").1 (hr.statusUpdate h now HistoryTable.running "").2)
        (∃ rs, b.db.nextSet = .ok rs ∧
          rs.first 1 (fun vs => Scan.col vs 0 Scan.textOrNull) = .ok (some (some HistoryTable.waiting)))
        (∃ n, b.db.nextCount = .ok n) (b.db.commitError = none) log (Call.started (.returned run.1))) ∧
    (let run := (tr.start ctx h now).run b
    (∃ log, run.2.db.sent = b.db.sent ++ log ∧
      StartCheck
        (.query (h.rebind ("SELECT STATUS, WAIT_SECONDS FROM " ++ tr.tableName h ++ " WHERE DATA_KEY = ?" ++
          h.dialect.lockNoWait)) [.text tr.row.key])
        (.exec (h.rebind ("UPDATE " ++ tr.tableName h ++ " SET STATUS = ?, LAST_UPDATE_TIMESTAMP = ? WHERE DATA_KEY = ?"))
          [.text TestJob.executing, .time now, .text tr.row.key])
        (∃ rs w, b.db.nextSet = .ok rs ∧ rs.first 2 TestRun.readStatus = .ok (some (TestJob.notProcessing, w)))
        (∃ n, b.db.nextCount = .ok n) (b.db.commitError = none) log (Call.started (.returned run.1.1))) ∧
      (Call.started (.returned run.1.1) = false → run.1.2 = tr)) :=
  ⟨hr.start_check ctx h now b, tr.start_check ctx h now b⟩

end Foreman
