import Foreman.Sql.Value

/-!
# The catalog of a database

Schema by schema (`main`, `temp`, attached ones): tables with their rows, views, indexes and
triggers, names matched up to ASCII case. Each schema has its schema table (`sqlite_master`
or `sqlite_schema`; in `temp` `sqlite_temp_master` or `sqlite_temp_schema`), which no
statement may change. An unqualified name is looked up in `temp`, `main`, then the attached
schemas in order.
-/

namespace Foreman.Sql

def sameName (a b : String) : Bool := a.map Char.toLower == b.map Char.toLower

/-- A column: its name and declared type, whether it refuses nulls and how a null is
settled by default, whether it is in the primary key, its default, its collation, and for a
generated column its expression and whether it is stored. A hidden column belongs to a
virtual table and is not shown by `*`. -/
structure Column where
  name : String
  type : String
  notNull : Bool := false
  onNull : Option Resolution := none
  primaryKey : Bool := false
  default : Option Expr := none
  collation : Option String := none
  /-- The default value as written. -/
  defaultText : Option String := none
  generated : Bool := false
  expression : Option Expr := none
  stored : Bool := false
  hidden : Bool := false
  deriving Inhabited

namespace Column

def affinity (c : Column) : Affinity := Affinity.ofType c.type

end Column

/-- A unique key of a table: its columns by position, whether it is the primary key, how
a statement settles a duplicate by default, and, for a partial index, the condition of the
rows it holds. -/
structure Key where
  columns : List Nat
  primary : Bool
  onConflict : Option Resolution := none
  filter : Option Expr := none
  deriving Inhabited

/-- A foreign key: its columns by position, the parent table in the same schema and the
parent's columns (none written: its primary key), what it does when a parent row goes or
changes, and whether it is checked only at commit. -/
structure ForeignKey where
  columns : List Nat
  parent : String
  parentColumns : List String
  actions : FkActions := {}
  deferred : Bool := false
  deriving Inhabited

/-- A table: its columns, its integer primary key column if any (holding the row numbers)
and how a duplicate row number is settled, its options, its checks (reported name and
condition), its unique keys in the order made, its foreign keys, its rows with their numbers,
and for `AUTOINCREMENT` the largest row number handed out. -/
structure Table where
  name : String
  columns : Array Column
  rowidAlias : Option Nat := none
  rowidConflict : Option Resolution := none
  withoutRowid : Bool := false
  strict : Bool := false
  autoincrement : Bool := false
  checks : List (String × Expr) := []
  keys : List Key := []
  foreignKeys : List ForeignKey := []
  rows : Array (Int × Array Value) := #[]
  /-- The module of a virtual table. -/
  module : Option String := none
  sequence : Int := 0
  /-- The text the schema table keeps for the table, its root page and its place in the
  schema table. -/
  sql : Option String := none
  rootPage : Nat := 0
  serial : Nat := 0
  /-- Where the column definitions end in `sql`: where a column added later is written. -/
  columnsEnd : Nat := 0
  deriving Inhabited

namespace Table

def columnIndex (t : Table) (name : String) : Option Nat :=
  t.columns.toList.findIdx? fun c => sameName c.name name

def hasRowid (t : Table) : Bool := !t.withoutRowid

end Table

/-- A view: its column names, if given, and its query. -/
structure View where
  name : String
  columns : List Name
  query : Select
  sql : Option String := none
  serial : Nat := 0
  deriving Inhabited

/-- An index: its table, whether it is unique, its columns (by position; none for an
expression), whether a constraint made it, and the condition of a partial index. -/
structure Index where
  name : String
  table : String
  unique : Bool
  columns : List (Option Nat)
  automatic : Bool
  filter : Option Expr := none
  sql : Option String := none
  rootPage : Nat := 0
  serial : Nat := 0
  deriving Inhabited

/-- A trigger: its table, when it fires and on what, its `WHEN` condition and its
statements. -/
structure Trigger where
  name : String
  table : String
  time : TriggerTime := .after
  event : TriggerEvent := .insert
  condition : Option Expr := none
  body : List Stmt := []
  sql : Option String := none
  serial : Nat := 0
  deriving Inhabited

structure Schema where
  tables : List Table := []
  views : List View := []
  indexes : List Index := []
  triggers : List Trigger := []
  /-- The number of objects the schema table has held, which numbers the next. -/
  serials : Nat := 0
  /-- The last page of the database file in use; the schema table is page 1. -/
  pages : Nat := 1
  /-- The free pages: the page that heads the list, and the pages it lists. -/
  freeTrunk : Option Nat := none
  freeLeaves : List Nat := []
  /-- The two numbers the database's header keeps for its users. -/
  userVersion : Int := 0
  applicationId : Int := 0
  deriving Inhabited

namespace Schema

def table? (s : Schema) (name : String) : Option Table := s.tables.find? (sameName ·.name name)

def view? (s : Schema) (name : String) : Option View := s.views.find? (sameName ·.name name)

def index? (s : Schema) (name : String) : Option Index := s.indexes.find? (sameName ·.name name)

def trigger? (s : Schema) (name : String) : Option Trigger :=
  s.triggers.find? (sameName ·.name name)

def putTable (s : Schema) (t : Table) : Schema :=
  if (s.table? t.name).isSome then
    { s with tables := s.tables.map fun u => if sameName u.name t.name then t else u }
  else { s with tables := s.tables ++ [t] }

end Schema

/-- Where a name was found: a table or a view, with the schema it is in. -/
inductive Relation where
  | table (schema : String) (t : Table)
  | view (schema : String) (v : View)
  deriving Inhabited

namespace Relation

/-- The name of a relation as stored. -/
def name : Relation → String
  | .table _ t => t.name
  | .view _ v => v.name

def schema : Relation → String
  | .table s _ => s
  | .view s _ => s

end Relation

def schemaTableColumns : Array Column :=
  #["type", "name", "tbl_name", "rootpage", "sql"].map fun n =>
    { name := n, type := if n == "rootpage" then "INT" else "TEXT" }

def isSchemaTableName (schema name : String) : Bool :=
  if schema == "temp" then sameName name "sqlite_temp_master" || sameName name "sqlite_temp_schema"
  else sameName name "sqlite_master" || sameName name "sqlite_schema"

/-- The schema table as a table, under the name it is stored by. -/
def schemaTable (schema : String) : Table :=
  { name := if schema == "temp" then "sqlite_temp_master" else "sqlite_master",
    columns := schemaTableColumns }

/-- The settings of a connection that statements can read: how `LIKE` treats case, whether
triggers may fire themselves, and the values the pragma functions show. -/
structure Settings where
  caseSensitiveLike : Bool := false
  recursiveTriggers : Bool := false
  foreignKeys : Bool := false
  journalMode : String := "delete"
  busyTimeout : Nat := 0
  /-- The connection's clock: the Julian day number, in milliseconds, that `now` reads. -/
  now : Int := 212633985600000
  queryOnly : Bool := false
  ignoreChecks : Bool := false
  deriving Inhabited

/-- The databases of a connection: `main`, `temp` and the attached ones by name, with the
connection's settings. -/
structure Catalog where
  main : Schema := {}
  temp : Schema := {}
  attached : List (String × Schema) := []
  settings : Settings := {}
  deriving Inhabited

namespace Catalog

/-- The schemas in the order names are looked up in: `temp`, `main`, then the attached. -/
def searchOrder (c : Catalog) : List (String × Schema) :=
  ("temp", c.temp) :: ("main", c.main) :: c.attached

/-- The name a schema is known by, as stored, if there is one of that name. -/
def schemaName? (c : Catalog) (name : String) : Option String :=
  if sameName name "main" then some "main"
  else if sameName name "temp" then some "temp"
  else (c.attached.find? (sameName ·.1 name)).map (·.1)

def schema? (c : Catalog) (name : String) : Option Schema :=
  (c.searchOrder.find? (·.1 == name)).map (·.2)

def setSchema (c : Catalog) (name : String) (s : Schema) : Catalog :=
  if name == "main" then { c with main := s }
  else if name == "temp" then { c with temp := s }
  else { c with attached := c.attached.map fun (n, t) => if n == name then (n, s) else (n, t) }

def relationIn (schema : String) (s : Schema) (name : String) : Option Relation :=
  if isSchemaTableName schema name then some (.table schema (schemaTable schema))
  else match s.table? name with
    | some t => some (.table schema t)
    | none => (s.view? name).map (.view schema)

/-- A table or view by name, in the named schema or in the search order. -/
def relation? (c : Catalog) (schema : Option String) (name : String) : Option Relation :=
  match schema with
  | some sn =>
    match c.schemaName? sn with
    | some n => (c.schema? n).bind fun s => relationIn n s name
    | none => none
  | none =>
    -- the schema tables of `main` are found under their own names only there
    (c.searchOrder.filterMap fun (n, s) => relationIn n s name).head?

/-- An index by name, in the named schema or in the search order, with its schema. -/
def index? (c : Catalog) (schema : Option String) (name : String) : Option (String × Index) :=
  let order : List (String × Schema) := match schema with
    | some sn => (c.schemaName? sn).map (fun n => c.searchOrder.filter (·.1 == n)) |>.getD []
    | none => c.searchOrder
  (order.filterMap fun (n, s) => (s.index? name).map (n, ·)).head?

/-- A trigger by name, in the named schema or in the search order, with its schema. -/
def trigger? (c : Catalog) (schema : Option String) (name : String) : Option (String × Trigger) :=
  let order : List (String × Schema) := match schema with
    | some sn => (c.schemaName? sn).map (fun n => c.searchOrder.filter (·.1 == n)) |>.getD []
    | none => c.searchOrder
  (order.filterMap fun (n, s) => (s.trigger? name).map (n, ·)).head?

def modifySchema (c : Catalog) (name : String) (f : Schema → Schema) : Catalog :=
  match c.schema? name with
  | some s => c.setSchema name (f s)
  | none => c

end Catalog

end Foreman.Sql
