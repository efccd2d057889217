import Foreman.Store.Value
import Foreman.Runtime.Context
import Foreman.Number.IntText
import Foreman.Number.FloatText
import Foreman.Text.Quote

/-!
# A scripted database

Answers written in advance: each query takes the next result set (or error), each statement
the next affected-row count (or error), and a transaction can fail at its beginning or commit.
Past the script, queries answer one column `X` and no rows and statements affect nothing. The
database records what it was sent, in order; a call under a cancelled context is refused
("context canceled") and not recorded. Conversions read text from any scalar (numbers
shortest, times RFC 3339), integers from integers or text reading as one, null only where
the target allows; a short row is padded with nulls.
-/

namespace Foreman

/-- A prepared result set: its columns, its rows, and an error reported after the last row. -/
structure ResultSet where
  columns : List String
  rows : List (List SqlValue)
  rowsError : Option String := none
  deriving Inhabited

inductive QueryReply where
  | rows (r : ResultSet)
  | failure (msg : String)

inductive ExecReply where
  | affected (n : Int)
  | failure (msg : String)

/-- What the database is sent. -/
inductive Sent where
  | begin
  | commit
  | rollback
  | query (sql : String) (args : List SqlValue)
  | exec (sql : String) (args : List SqlValue)
  deriving BEq, Inhabited

/-- The scripted database: what is left of its script, and what it was sent. -/
structure ScriptedDb where
  queries : List QueryReply := []
  execs : List ExecReply := []
  beginError : Option String := none
  commitError : Option String := none
  sent : List Sent := []

namespace ScriptedDb

def emptySet : ResultSet := ⟨["X"], [], none⟩

def query (ctx : Ctx) (sql : String) (args : List SqlValue) :
    StateM ScriptedDb (Except Fault ResultSet) := do
  if let some e := ctx.err then return .error e
  let db ← get
  let sent := db.sent ++ [.query sql args]
  match db.queries with
  | [] =>
    set { db with sent := sent }
    return .ok emptySet
  | r :: rest =>
    set { db with sent := sent, queries := rest }
    match r with
    | .rows rs =>
      -- rows shorter than the column list are padded with nulls
      let pad (row : List SqlValue) := row ++ List.replicate (rs.columns.length - row.length) .null
      return .ok { rs with rows := rs.rows.map pad }
    | .failure m => return .error (.plain m)

/-- Runs a statement and answers the number of rows it affected. -/
def exec (ctx : Ctx) (sql : String) (args : List SqlValue) : StateM ScriptedDb (Except Fault Int) := do
  if let some e := ctx.err then return .error e
  let db ← get
  let sent := db.sent ++ [.exec sql args]
  match db.execs with
  | [] =>
    set { db with sent := sent }
    return .ok 0
  | r :: rest =>
    set { db with sent := sent, execs := rest }
    match r with
    | .affected n => return .ok n
    | .failure m => return .error (.plain m)

def begin (ctx : Ctx) : StateM ScriptedDb (Except Fault Unit) := do
  if let some e := ctx.err then return .error e
  modify fun db => { db with sent := db.sent ++ [.begin] }
  match (← get).beginError with
  | some m => return .error (.plain m)
  | none => return .ok ()

def commit : StateM ScriptedDb (Except Fault Unit) := do
  modify fun db => { db with sent := db.sent ++ [.commit] }
  match (← get).commitError with
  | some m => return .error (.plain m)
  | none => return .ok ()

def rollback : StateM ScriptedDb Unit :=
  modify fun db => { db with sent := db.sent ++ [.rollback] }

def takeSent : StateM ScriptedDb (List Sent) := do
  let db ← get
  set { db with sent := [] }
  return db.sent

end ScriptedDb

/-! ## Reading values -/

namespace Scan

def floatText (lit : String) : String :=
  match FloatText.read lit with
  | .value (.finite neg m) => (if neg then "-" else "") ++ FloatText.generalMagnitude m
  | .value (.inf neg) => if neg then "-Inf" else "+Inf"
  | _ => "NaN"

def asText : SqlValue → Option String
  | .text s => some s
  | .bytes s => some s
  | .int n => some (toString n)
  | .float lit => some (floatText lit)
  | .bool b => some (if b then "true" else "false")
  | .time t => some t.rfc3339
  | _ => none

def printed : SqlValue → String
  | .time t =>
    let w := t.wall 0
    TimeText.year w.year ++ "-" ++ TimeText.pad 2 w.month ++ "-" ++ TimeText.pad 2 w.day ++ " " ++
      TimeText.pad 2 w.hour ++ ":" ++ TimeText.pad 2 w.minute ++ ":" ++ TimeText.pad 2 w.second ++
      TimeText.fraction w.nano ++ " +0000 UTC"
  | v => (asText v).getD ""

/-- Reads a column as text; null is an error. -/
def text (v : SqlValue) : Except String String :=
  match asText v with
  | some s => .ok s
  | none => .error "converting NULL to string is unsupported"

def textOrNull (v : SqlValue) : Except String (Option String) :=
  match v with
  | .null => .ok none
  | v => (text v).map some

def intOrNull (v : SqlValue) : Except String (Option Int) :=
  match v with
  | .null => .ok none
  | .int n => .ok (some n)
  | v =>
    let s := printed v
    match IntText.readInt s 10 64 with
    | .value n => .ok (some n)
    | r =>
      .error ("converting driver.Value type " ++ v.typeName ++ " (" ++ Quote.text s ++
        ") to a int64: " ++ (if r == .outOfRange then "value out of range" else "invalid syntax"))

/-- Reads the columns of a row with one reader per column: the number of readers must be
the number of columns, and a failure names the column. -/
def row {α : Type} (columns : List String) (readers : Nat) (read : List SqlValue → Except (Nat × String) α)
    (values : List SqlValue) : Except Fault α :=
  if columns.length != readers then
    .error (.plain ("sql: expected " ++ toString columns.length ++ " destination arguments in Scan, not " ++
      toString readers))
  else
    match read values with
    | .ok a => .ok a
    | .error (i, m) =>
      .error (.plain ("sql: Scan error on column index " ++ toString i ++ ", name " ++
        Quote.text (columns.getD i "") ++ ": " ++ m))

/-- Reads one column with a reader, naming its index on failure. -/
def col {α : Type} (values : List SqlValue) (i : Nat) (read : SqlValue → Except String α) :
    Except (Nat × String) α :=
  (read (values.getD i .null)).mapError fun m => (i, m)

end Scan

/-- The first row of a result set read by `read`, as a single-row query reads it: no row
is `none`, after the error reported by the set if it has one. -/
def ResultSet.first {α : Type} (rs : ResultSet) (readers : Nat)
    (read : List SqlValue → Except (Nat × String) α) : Except Fault (Option α) :=
  match rs.rows with
  | [] =>
    match rs.rowsError with
    | some m => .error (.plain m)
    | none => .ok none
  | r :: _ => (Scan.row rs.columns readers read r).map some

/-- Every row of a result set read by `read`, then the error reported after the last row. -/
def ResultSet.all {α : Type} (rs : ResultSet) (readers : Nat)
    (read : List SqlValue → Except (Nat × String) α) : Except Fault (List α) := do
  let xs ← rs.rows.mapM (Scan.row rs.columns readers read)
  match rs.rowsError with
  | some m => .error (.plain m)
  | none => .ok xs

end Foreman
