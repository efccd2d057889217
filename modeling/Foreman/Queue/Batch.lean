import Foreman.Jobs.Type
import Foreman.Text.Space

/-!
# The queue of ready rows

One batch of ready rows, polled from the databases of the job types that may start and handed
out in fairness order.

* The poll is one statement: the ready queries of the startable types in the order named (a
  name twice polled twice, an unknown one not at all) joined by `UNION ALL`, oldest first,
  capped at the load limit if any; an empty query adds nothing, and no query makes no
  statement.
* Columns are found by name in any case and values read as text; the last update time is
  read as a timestamp, and a row whose time does not read stops the reading, keeping the rows
  before it.
* Handing out drops the rows of types that may no longer start; organizations with fewer
  running jobs go first, then older rows, ties in order, and the batch stays so ordered.
-/

namespace Foreman

structure Queue where
  limit : Int
  rows : List QueueRow := []
  deriving Inhabited

namespace Queue

def requiredColumns : List String :=
  ["ORGANIZATION_ID", "WORKSPACE_ID", "JOB_KEY", "LAST_UPDATE_TIMESTAMP", "JOB_NAME"]

/-- The ready queries of the startable job types, trimmed, empty ones left out. -/
def readyQueries (cat : Catalog JobType) (ctx : Ctx) (h : Handle) :
    List String → BackendM (Except Fault (List String))
  | [] => return .ok []
  | name :: rest => do
    match cat.lookup name with
    | none => readyQueries cat ctx h rest
    | some d =>
      match ← d.type.queueQuery ctx h d.config with
      | .error e => return .error (e.wrap ("queue query " ++ name))
      | .ok q =>
        match ← readyQueries cat ctx h rest with
        | .error e => return .error e
        | .ok qs =>
          let q := Text.trimSpace q
          return .ok (if q == "" then qs else q :: qs)

/-- The poll statement for the startable job types, or empty when none has a query. -/
def statement (q : Queue) (cat : Catalog JobType) (ctx : Ctx) (h : Handle) (startable : List String) :
    BackendM (Except Fault String) := do
  match ← readyQueries cat ctx h startable with
  | .error e => return .error e
  | .ok [] => return .ok ""
  | .ok parts =>
    let sql := "SELECT * FROM (" ++ " UNION ALL ".intercalate parts ++
      ") IV ORDER BY IV.LAST_UPDATE_TIMESTAMP"
    return .ok (if q.limit > 0 then sql ++ " LIMIT " ++ toString q.limit else sql)

/-- The position of each column by its name in upper case; of two equal names the later
counts. -/
def columnIndex (columns : List String) (name : String) : Option Nat :=
  ((columns.zipIdx.filter fun (c, _) => c.toUpper == name).getLast?).map (·.2)

def fieldText (v : SqlValue) : String := Scan.printed v

/-- Reads the rows of a result set after `acc`, stopping at the first unreadable time. -/
def readRows (at_ : String → Nat) : List (List SqlValue) → List QueueRow → List QueueRow × Option Fault
  | [], acc => (acc, none)
  | vs :: rest, acc =>
    let get (c : String) := vs.getD (at_ c) .null
    match Timestamp.ofValue (get "LAST_UPDATE_TIMESTAMP") with
    | .error e => (acc, some (e.wrap "queue"))
    | .ok t =>
      readRows at_ rest (acc ++ [⟨fieldText (get "ORGANIZATION_ID"), fieldText (get "WORKSPACE_ID"),
        fieldText (get "JOB_NAME"), fieldText (get "JOB_KEY"), t⟩])

/-- Replaces the batch with the rows now ready for the startable job types. -/
def query (q : Queue) (cat : Catalog JobType) (ctx : Ctx) (h : Handle) (startable : List String) :
    BackendM (Option Fault × Queue) := do
  let q := { q with rows := [] }
  match ← q.statement cat ctx h startable with
  | .error e => return (some e, q)
  | .ok "" => return (none, q)
  | .ok sql =>
    match ← Backend.onDb (ScriptedDb.query ctx sql []) with
    | .error e => return (some (e.wrap "queue"), q)
    | .ok rs =>
      match requiredColumns.find? fun c => (columnIndex rs.columns c).isNone with
      | some c => return (some (.plain ("queue: column " ++ c ++ " missing from ready view")), q)
      | none =>
        let (rows, err) := readRows (fun c => (columnIndex rs.columns c).getD 0) rs.rows []
        match err, rs.rowsError with
        | some e, _ => return (some e, { q with rows := rows })
        | none, some m => return (some ((Fault.plain m).wrap "queue"), { q with rows := rows })
        | none, none => return (none, { q with rows := rows })

/-- Whether `a` goes before or with `b`: fewer running jobs of its organization, then an
older row. -/
def before (running : String → Int) (a b : QueueRow) : Bool :=
  running a.org < running b.org || (running a.org == running b.org && a.queueTime.nanos ≤ b.queueTime.nanos)

/-- Hands out the next row to start, given the startable job types and the running jobs of
each organization. -/
def pop (q : Queue) (startable : List String) (running : String → Int) : Option QueueRow × Queue :=
  let rows := q.rows.filter fun r => startable.contains r.job
  match rows.mergeSort (before running) with
  | [] => (none, { q with rows := [] })
  | r :: rest => (some r, { q with rows := rest })

end Queue

end Foreman
