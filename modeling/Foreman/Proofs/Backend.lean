import Foreman.Store.Backend

/-!
# Running backend work

`BackendM` is a state monad over the identity, so the run of `x >>= f` is the run of `f` on
what `x` returned from the backend `x` left. Stated once (`BackendM.run_bind` and its
companions), this lets `simp only` evaluate a model function step by step. Each call to the
scripted database has its run equation under a live context (`Backend.begin_run`,
`Backend.query_run`, ...): the call is recorded and answered by, and uses up, the script's
next answer (`ScriptedDb.nextSet`, `ScriptedDb.nextCount`).
-/

namespace Foreman

set_option autoImplicit false

namespace BackendM

variable {α β : Type}

@[simp 1100] theorem run_bind (x : BackendM α) (f : α → BackendM β) (b : Backend) :
    (x >>= f).run b = (f (x.run b).1).run (x.run b).2 := rfl

@[simp 1100] theorem run_pure (a : α) (b : Backend) : (pure a : BackendM α).run b = (a, b) := rfl

@[simp 1100] theorem run_map (f : α → β) (x : BackendM α) (b : Backend) :
    (f <$> x).run b = (f (x.run b).1, (x.run b).2) := rfl

end BackendM

namespace ScriptedDb

/-- The answer the script holds for the next query; a short row is padded with nulls. -/
def nextSet (db : ScriptedDb) : Except Fault ResultSet :=
  match db.queries with
  | [] => .ok emptySet
  | .rows rs :: _ =>
    .ok { rs with rows := rs.rows.map fun row => row ++ List.replicate (rs.columns.length - row.length) .null }
  | .failure m :: _ => .error (.plain m)

/-- The answer the script holds for the next statement: the rows it affects. -/
def nextCount (db : ScriptedDb) : Except Fault Int :=
  match db.execs with
  | [] => .ok 0
  | .affected n :: _ => .ok n
  | .failure m :: _ => .error (.plain m)

end ScriptedDb

namespace Backend

/-- The backend after its database was sent `s`, which took nothing from the script. -/
def noted (b : Backend) (s : Sent) : Backend := { b with db := { b.db with sent := b.db.sent ++ [s] } }

/-- The backend after its database answered the query `s` from its script. -/
def asked (b : Backend) (s : Sent) : Backend :=
  { b with db := { b.db with sent := b.db.sent ++ [s], queries := b.db.queries.tail } }

/-- The backend after its database answered the statement `s` from its script. -/
def told (b : Backend) (s : Sent) : Backend :=
  { b with db := { b.db with sent := b.db.sent ++ [s], execs := b.db.execs.tail } }

section Calls

variable (b : Backend) (s : Sent)

@[simp] theorem noted_sent : (b.noted s).db.sent = b.db.sent ++ [s] := rfl
@[simp] theorem noted_nextSet : (b.noted s).db.nextSet = b.db.nextSet := rfl
@[simp] theorem noted_nextCount : (b.noted s).db.nextCount = b.db.nextCount := rfl
@[simp] theorem noted_commitError : (b.noted s).db.commitError = b.db.commitError := rfl
@[simp] theorem asked_sent : (b.asked s).db.sent = b.db.sent ++ [s] := rfl
@[simp] theorem asked_nextCount : (b.asked s).db.nextCount = b.db.nextCount := rfl
@[simp] theorem asked_commitError : (b.asked s).db.commitError = b.db.commitError := rfl
@[simp] theorem told_sent : (b.told s).db.sent = b.db.sent ++ [s] := rfl
@[simp] theorem told_commitError : (b.told s).db.commitError = b.db.commitError := rfl

variable {ctx : Ctx}

/-- Under a cancelled context a transaction does not begin, and the database sees nothing. -/
theorem begin_refused {e : Fault} (cancelled : ctx.err = some e) :
    (onDb (ScriptedDb.begin ctx)).run b = (.error e, b) := by
  simp [ScriptedDb.begin, cancelled]; rfl

theorem begin_run (live : ctx.err = none) :
    (onDb (ScriptedDb.begin ctx)).run b =
      ((match b.db.beginError with | some m => .error (.plain m) | none => .ok ()), b.noted .begin) := by
  simp only [ScriptedDb.begin, live]
  rcases b with ⟨⟨_, _, _ | _, _⟩, _⟩ <;> rfl

theorem query_run (live : ctx.err = none) (q : String) (args : List SqlValue) :
    (onDb (ScriptedDb.query ctx q args)).run b = (b.db.nextSet, b.asked (.query q args)) := by
  simp only [ScriptedDb.query, live]
  rcases b with ⟨⟨_ | ⟨_ | _⟩, _⟩, _⟩ <;> rfl

theorem exec_run (live : ctx.err = none) (q : String) (args : List SqlValue) :
    (onDb (ScriptedDb.exec ctx q args)).run b = (b.db.nextCount, b.told (.exec q args)) := by
  simp only [ScriptedDb.exec, live]
  rcases b with ⟨⟨_, _ | ⟨_ | _⟩, _⟩, _⟩ <;> rfl

theorem commit_run :
    (onDb ScriptedDb.commit).run b =
      ((match b.db.commitError with | some m => .error (.plain m) | none => .ok ()), b.noted .commit) := by
  rcases b with ⟨⟨_, _, _, _ | _, _⟩, _⟩ <;> rfl

theorem rollback_run : (onDb ScriptedDb.rollback).run b = ((), b.noted .rollback) := rfl

end Calls

end Backend

end Foreman
