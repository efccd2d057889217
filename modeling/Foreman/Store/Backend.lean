import Foreman.Store.Scripted
import Foreman.Store.Handle

/-!
# The backend of job types

Job types work against a database and share a cache of the tenant schemas where each ready
view was found: a lookup asks once per dialect and view and keeps the answer, an empty one
included, a failed lookup nothing. It reads one text column per row; a failing query is
reported as "view schemas V: ...", a failing row as the database reports it. Handles are kept
by number; jobs pin theirs, so a replaced handle closes only once its last job lets it go.
-/

namespace Foreman

/-- The database, the schemas found so far (keyed by dialect and view), and the handles
opened on the database, by number. -/
structure Backend where
  db : ScriptedDb := {}
  views : List (String × List String) := []
  handles : List Handle := []

abbrev BackendM := StateM Backend

namespace Backend

def onDb {α : Type} (m : StateM ScriptedDb α) : BackendM α := fun b =>
  let (a, db) := m b.db
  (a, { b with db := db })

def viewKey (d : Dialect) (view : String) : String := d.name ++ "/" ++ view

/-- The schemas that hold `view`, from the cache or else from the database. -/
def viewSchemas (ctx : Ctx) (d : Dialect) (view : String) : BackendM (Except Fault (List String)) := do
  let key := viewKey d view
  match (← get).views.lookup key with
  | some schemas => return .ok schemas
  | none =>
    match ← onDb (ScriptedDb.query ctx d.viewSchemasQuery [.text view]) with
    | .error e => return .error (e.wrap ("view schemas " ++ view))
    | .ok rs =>
      match rs.all 1 (fun vs => Scan.col vs 0 Scan.text) with
      | .error e => return .error e
      | .ok schemas =>
        modify fun b => { b with views := b.views ++ [(key, schemas)] }
        return .ok schemas

/-- Pins a handle, if there is one. -/
def pin : Option Nat → BackendM Unit
  | some i => modify fun b => { b with handles := b.handles.modify i Handle.acquire }
  | none => pure ()

def unpin : Option Nat → BackendM Unit
  | some i => modify fun b => { b with handles := b.handles.modify i Handle.release }
  | none => pure ()

def openHandle (h : Handle) : BackendM Nat :=
  modifyGet fun b => (b.handles.length, { b with handles := b.handles ++ [h] })

/-- Retires a handle, if there is one: it closes once no job holds it. -/
def retire : Option Nat → BackendM Unit
  | some i => modify fun b => { b with handles := b.handles.modify i Handle.retire }
  | none => pure ()

/-- The handle with a number; a handle on the default dialect when there is none. -/
def handle (db : Option Nat) : BackendM Handle := do
  match db with
  | some i => return (← get).handles.getD i default
  | none => return default

def takeSent : BackendM (List Sent) := onDb ScriptedDb.takeSent

end Backend

end Foreman
