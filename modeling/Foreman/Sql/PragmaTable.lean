import Foreman.Sql.Catalog

/-!
# Pragmas read as tables

A reporting pragma reads as a table `pragma_` + its name, in `main` only
(`SELECT foreign_keys FROM pragma_foreign_keys`), its rows what the pragma reports. A setting
has one column named after the pragma (`busy_timeout` names it `timeout`) and one row; a
listing of a table or index (`table_info`, `index_list`, ...) takes its name first and the
schema second, with no rows without a name or for a name naming nothing. The table's
arguments are its hidden columns' values, the pragma's argument if any, then the schema when
told one; more arguments than hidden columns are refused.
-/

namespace Foreman.Sql

namespace PragmaTable

/-- What a pragma read as a table looks like: its columns, whether it takes an argument
(the name of a table or index), and whether it may be told a schema. -/
structure Shape where
  columns : List String
  takesArgument : Bool := false
  takesSchema : Bool := false
  deriving Inhabited

/-- The number of hidden columns of a pragma's table, which its arguments fill. -/
def Shape.hidden (s : Shape) : Nat :=
  (if s.takesArgument then 1 else 0) + (if s.takesSchema then 1 else 0)

/-- The pragmas that report a setting of the connection as a truth value. -/
def flags : List String :=
  ["automatic_index", "cell_size_check", "checkpoint_fullfsync", "count_changes",
   "defer_foreign_keys", "foreign_keys", "full_column_names", "fullfsync",
   "ignore_check_constraints", "legacy_alter_table", "query_only", "read_uncommitted",
   "recursive_triggers", "reverse_unordered_selects", "short_column_names", "trusted_schema",
   "writable_schema"]

/-- The pragmas that report one value of a database, each told the schema to look in. -/
def databaseValues : List String :=
  ["auto_vacuum", "cache_size", "journal_mode", "locking_mode", "page_size", "synchronous"]

/-- The pragmas that report one value of the connection or of the main database. -/
def connectionValues : List String := ["application_id", "encoding", "temp_store", "user_version"]

/-- The columns of the pragmas that list something of a table or an index. -/
def listings : List (String × List String) :=
  [("table_info", ["cid", "name", "type", "notnull", "dflt_value", "pk"]),
   ("table_xinfo", ["cid", "name", "type", "notnull", "dflt_value", "pk", "hidden"]),
   ("index_list", ["seq", "name", "unique", "origin", "partial"]),
   ("index_info", ["seqno", "cid", "name"]),
   ("index_xinfo", ["seqno", "cid", "name", "desc", "coll", "key"]),
   ("foreign_key_list", ["id", "seq", "table", "from", "to", "on_update", "on_delete", "match"])]

/-- The shape of the table of a pragma, by the table's name (`pragma_` and the pragma's
name), when the pragma reads as a table. -/
def shape? (tableName : String) : Option Shape :=
  let lower := tableName.map Char.toLower
  if !lower.startsWith "pragma_" then none
  else
    let name := lower.drop 7 |>.toString
    if name == "busy_timeout" then some { columns := ["timeout"] }
    else if flags.contains name || connectionValues.contains name then some { columns := [name] }
    else if databaseValues.contains name then some { columns := [name], takesSchema := true }
    else match listings.find? (·.1 == name) with
      | some (_, cols) => some { columns := cols, takesArgument := true, takesSchema := true }
      | none => none

def flag (b : Bool) : Value := .int (if b then 1 else 0)

/-- The words for what a foreign key does when its parent row goes or changes. -/
def actionText : FkAction → String
  | .noAction => "NO ACTION"
  | .restrict => "RESTRICT"
  | .setNull => "SET NULL"
  | .setDefault => "SET DEFAULT"
  | .cascade => "CASCADE"

def textOrNull : Option String → Value
  | some t => .text t
  | none => .null

/-- The rows of `table_info` (`extended` for `table_xinfo`): each column's position, name,
declared type, whether it refuses nulls, its default as written, and its place in the primary
key (0 for none). `table_info` leaves out generated and hidden columns, numbering the rest
without them; `table_xinfo` shows all, 1 marking a hidden column, 2 a generated one computed
when read, 3 a stored one. -/
def columnRows (t : Table) (extended : Bool) : List (List Value) :=
  let pkColumns : List Nat := match t.keys.find? (·.primary) with
    | some k => k.columns
    | none => t.rowidAlias.toList
  let (rows, _) := t.columns.toList.zipIdx.foldl (fun (acc, skipped) (c, i) =>
    let hiddenKind : Nat := if c.generated then (if c.stored then 3 else 2) else if c.hidden then 1 else 0
    if hiddenKind != 0 && !extended then (acc, skipped + 1)
    else
      let pk : Nat := match pkColumns.idxOf? i with
        | some k => k + 1
        | none => 0
      let dflt := if c.generated then .null else textOrNull c.defaultText
      let row : List Value := [.int (i - skipped : Nat), .text c.name, .text c.type, flag c.notNull, dflt,
        .int pk] ++ (if extended then [.int hiddenKind] else [])
      (acc ++ [row], skipped)) ([], 0)
  rows

/-- Where an index came from: `pk` for a primary key, `u` for another unique constraint,
`c` for `CREATE INDEX`. -/
def origin (t : Table) (i : Index) : String :=
  if !i.automatic then "c"
  else
    let number := (i.name.splitOn "_").getLast?.bind String.toNat?
    match number.bind fun n => t.keys[n - 1]? with
    | some k => if k.primary then "pk" else "u"
    | none => "u"

/-- The rows of `index_list`: the indexes of a table, the latest first, each with whether
it is unique, where it came from and whether it is partial. -/
def indexListRows (sc : Schema) (t : Table) : List (List Value) :=
  let own := (sc.indexes.filter (sameName ·.table t.name)).mergeSort fun a b => a.serial ≥ b.serial
  own.zipIdx.map fun (i, n) =>
    [.int n, .text i.name, flag i.unique, .text (origin t i), flag i.filter.isSome]

/-- The rows of `index_info` (`extended` for `index_xinfo`): an index's columns, each with
its table position (-2 for an expression) and name. `index_xinfo` adds order, collation and
whether it is a key column, and the columns after the key finding the row: the row number
(-1), or the primary key's columns for a table without row numbers. -/
def indexColumnRows (t : Table) (i : Index) (extended : Bool) : List (List Value) :=
  let col (c : Nat) : Column := t.columns.getD c default
  let collation (c : Option Nat) : String := (c.bind fun n => (col n).collation).getD "BINARY"
  let keyRows := i.columns.zipIdx.map fun (c, n) =>
    let (cid, name) : Int × Value := match c with
      | some k => (k, .text (col k).name)
      | none => (-2, .null)
    [.int n, .int cid, name] ++ (if extended then [.int 0, .text (collation c), .int 1] else [])
  if !extended then keyRows
  else
    let n := i.columns.length
    let trailing : List (Option Nat) :=
      if t.hasRowid then [none]
      else
        let pk := match t.keys.find? (·.primary) with
          | some k => k.columns
          | none => []
        let isPrimary := i.automatic && origin t i == "pk"
        let rest := if isPrimary then (List.range t.columns.size).filter (!pk.contains ·) else pk
        (rest.filter fun c => !i.columns.contains (some c)).map some
    keyRows ++ trailing.zipIdx.map fun (c, k) =>
      match c with
      | some j => [.int (n + k : Nat), .int j, .text (col j).name, .int 0, .text (collation c), .int 0]
      | none => [.int (n + k : Nat), .int (-1), .null, .int 0, .text "BINARY", .int 0]

/-- The rows of `foreign_key_list`: the foreign keys of a table, the latest first and
numbered from 0, one row for each column with the parent's column it refers to (null when
the parent's primary key is meant). -/
def foreignKeyRows (t : Table) : List (List Value) :=
  t.foreignKeys.reverse.zipIdx.flatMap fun (fk, id) =>
    fk.columns.zipIdx.map fun (c, seq) =>
      [.int id, .int seq, .text fk.parent, .text (t.columns.getD c default).name,
       textOrNull fk.parentColumns[seq]?, .text (actionText fk.actions.onUpdate),
       .text (actionText fk.actions.onDelete), .text "NONE"]

/-- The rows of the table of a pragma, given the values of its hidden columns; the failure
when it is told a schema that does not exist. -/
def rows (c : Catalog) (tableName : String) (args : List Value) : Except String (List (List Value)) := do
  let some sh := shape? tableName | return []
  let name := (tableName.map Char.toLower).drop 7 |>.toString
  let text (v : Value) : Option String := if v.isNull then none else v.asText
  let argument := if sh.takesArgument then (args.head?.bind text) else none
  let schemaArg := (if sh.takesArgument then args[1]? else args.head?).bind text
  let schema ← match schemaArg with
    | some s =>
      match c.schemaName? s with
      | some sn => pure (some sn)
      | none => throw ("unknown database " ++ s)
    | none => pure none
  let st := c.settings
  let main := (c.schema? "main").getD {}
  let one (v : Value) : Except String (List (List Value)) := pure [[v]]
  match name with
  | "busy_timeout" => one (.int st.busyTimeout)
  | "foreign_keys" => one (flag st.foreignKeys)
  | "recursive_triggers" => one (flag st.recursiveTriggers)
  | "query_only" => one (flag st.queryOnly)
  | "ignore_check_constraints" => one (flag st.ignoreChecks)
  | "automatic_index" | "short_column_names" | "trusted_schema" => one (flag true)
  | "user_version" => one (.int main.userVersion)
  | "application_id" => one (.int main.applicationId)
  | "encoding" => one (.text "UTF-8")
  | "temp_store" => one (.int 0)
  | "journal_mode" =>
    one (.text (if schema == some "temp" then "memory" else st.journalMode))
  | "auto_vacuum" => one (.int 0)
  | "cache_size" => one (.int (-2000))
  | "locking_mode" => one (.text "normal")
  | "page_size" => one (.int 4096)
  | "synchronous" => one (.int 2)
  | _ =>
    if flags.contains name then one (flag false)
    else
      let some arg := argument | return []
      let table? : Option (String × Table) := match c.relation? schema arg with
        | some (.table sn t) => some (sn, t)
        | _ => none
      match name with
      | "table_info" => return (table?.map fun (_, t) => columnRows t false).getD []
      | "table_xinfo" => return (table?.map fun (_, t) => columnRows t true).getD []
      | "index_list" =>
        return (table?.map fun (sn, t) => indexListRows ((c.schema? sn).getD {}) t).getD []
      | "foreign_key_list" => return (table?.map fun (_, t) => foreignKeyRows t).getD []
      | "index_info" | "index_xinfo" =>
        match c.index? schema arg with
        | some (sn, i) =>
          match ((c.schema? sn).getD {}).table? i.table with
          | some t => return indexColumnRows t i (name == "index_xinfo")
          | none => return []
        | none => return []
      | _ => return []

end PragmaTable

end Foreman.Sql
