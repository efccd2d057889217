import Foreman.Sql.Syntax.Parse

/-!
# Reading whole statements

Each statement read to its end (`;` or the end of the text), with a table definition's checks
made as the token after a column or constraint is taken:

* the name must be free (`table T already exists`, `there is already an index named T`),
  names starting `sqlite_` reserved;
* a column name is given once;
* at most one primary key, and `AUTOINCREMENT` only on an `INTEGER PRIMARY KEY`;
* a default is built of literals, operators and calls only;
* an unknown table option is refused.

`ORDER BY` and `LIMIT` on `DELETE` and `UPDATE` are refused when the statement ends.
-/

namespace Foreman.Sql

namespace Parse

/-- The fuel for reading what is left: enough for any tree the tokens left can make. -/
def budget : Parse Nat := do return 10 * (← remaining) + 100

def expression : Parse Expr := do expr (← budget) 1 false

def query : Parse Select := do select (← budget)

def queryAfter (ctes : List Cte) : Parse Select := do selectBody (← budget) ctes

def orderTerms : Parse (List OrderTerm) := do sortList (← budget)

def expressions : Parse (List Expr) := do nexprList (← budget)

def outputColumns : Parse (List ResultColumn) := do resultColumns (← budget)

def sources : Parse (List FromItem) := do fromList (← budget)

def commonTables : Parse (List Cte) := do withClause (← budget)

def whereOpt : Parse (Option Expr) := do
  if ← acceptKw "WHERE" then return some (← expression)
  return none

/-- Whether an expression is built only from literals, operators and calls that are not
windows: what a default value may be. -/
def Expr.isConstant : Nat → Expr → Bool
  | 0, _ => true
  | fuel + 1, e =>
    let go := Expr.isConstant fuel
    match e with
    | .column n _ => sameName n.text "true" || sameName n.text "false"
    | .qualified .. | .param .. | .subquery _ | .exists _ | .inSelect .. | .inTable .. => false
    | .raise .. => false
    | .call _ _ args _ _ f w => w.isNone && args.all go && (f.map go).getD true
    | .unary _ a | .isNull a | .notNull a | .collate a _ | .cast a _ => go a
    | .binary _ a b => go a && go b
    | .like _ _ a b c => go a && go b && (c.map go).getD true
    | .between _ a b c => go a && go b && go c
    | .inList _ a xs => go a && xs.all go
    | .case a arms d =>
      (a.map go).getD true && arms.all (fun (x, y) => go x && go y) && (d.map go).getD true
    | .vector xs => xs.all go
    | _ => true

/-- A literal term: `NULL`, a number, a string, a blob or a clock word. -/
def literal : Parse Expr := do
  let t ← peek
  if t.isKw "NULL" then
    advance
    return .null
  match t.kind with
  | .integer => advance; return .integer t.text
  | .float => advance; return .float t.text
  | .string => advance; return .string (dequote t.text)
  | .blob => advance; return .blob (String.ofList ((t.text.toList.drop 2).dropLast))
  | .quotedNumber =>
    advance
    match quotedNumber t.text with
    | .ok e => return e
    | .error m => throw m
  | _ =>
    if t.isAnyKw clockWords then
      advance
      return .clock ((t.keyword?).getD "")
    reject t

/-- A column's default value and the text it was written as: a literal, a signed literal,
a word (taken as a string) or an expression in parentheses. -/
def defaultValue : Parse (Expr × String) := do
  let t ← peek
  if t.isOp "(" then
    advance
    let e ← expression
    let u ← peek
    if !u.isOp ")" then reject u
    advance
    return (e, ← span t.stop u.start)
  if t.isOp "+" || t.isOp "-" then
    advance
    let u ← peek
    let e ← literal
    return (if t.isOp "-" then .unary .neg e else e, (if t.isOp "-" then "-" else "") ++ u.text)
  if t.isId && !t.isAnyKw clockWords then
    advance
    let word := dequote t.text
    let e := if sameName word "true" || sameName word "false" then Expr.column t.name false
      else Expr.string t.text
    return (e, t.text)
  let e ← literal
  return (e, t.text)

/-- A column of a table being defined, as far as the checks made while reading need. -/
structure DraftColumn where
  name : String
  type : String
  primaryKey : Bool := false
  generated : Bool := false
  hasDefault : Bool := false
  deriving Inhabited

/-- A table being defined: its name, its columns so far and whether it has a primary key.
When `live` does not hold, the table already existed and the statement does nothing, so
its checks are not made. -/
structure Draft where
  name : String
  live : Bool
  columns : Array DraftColumn := #[]
  hasPrimaryKey : Bool := false

def collations : List String := ["BINARY", "NOCASE", "RTRIM"]

def isIntegerType (type : String) : Bool := sameName (dequote type) "INTEGER"

/-- Checks a primary key over some columns of the draft: refused when the table has one
already, or when `AUTOINCREMENT` is asked for and the key is not one ascending column of
type `INTEGER`. A generated column may not be part of it. -/
def Draft.addPrimaryKey (d : Draft) (cols : List Nat) (single : Bool) (desc : Bool)
    (autoinc : Bool) : Draft × Option String :=
  if d.hasPrimaryKey then
    (d, some ("table \"" ++ d.name ++ "\" has more than one primary key"))
  else
    let marked := d.columns.mapIdx fun i c => if cols.contains i then { c with primaryKey := true } else c
    let d' := { d with hasPrimaryKey := true, columns := marked }
    let genFault := if cols.any (fun i => (d.columns.getD i default).generated) then
      some "generated columns cannot be part of the PRIMARY KEY" else none
    let ipk := single && !desc && (match cols with
      | [i] => isIntegerType (d.columns.getD i default).type
      | _ => false)
    if !ipk && autoinc then (d', some "AUTOINCREMENT is only allowed on an INTEGER PRIMARY KEY")
    else (d', genFault)

def noteIf (d : Draft) (fault : Option String) : Parse Unit := do
  if d.live then
    if let some m := fault then note m

/-- The clause `INITIALLY DEFERRED` or `INITIALLY IMMEDIATE`, if it comes. -/
def initiallyOpt : Parse Bool := do
  if ← acceptKw "INITIALLY" then
    let t ← peek
    if t.isKw "DEFERRED" then
      advance
      return true
    else if t.isKw "IMMEDIATE" then
      advance
      return false
    else reject t
  return false

/-- The actions of a foreign key: `MATCH name` (which changes nothing) and `ON event
action`, the last one written for each event counting (`ON INSERT` counts for none). -/
def refArgs : Parse FkActions := do
  let mut acts : FkActions := {}
  for _ in [0:← remaining] do
    let t ← peek
    if t.isKw "MATCH" then
      advance
      discard nm
    else if t.isKw "ON" then
      advance
      let u ← peek
      if u.isKw "DELETE" || u.isKw "UPDATE" || u.isKw "INSERT" then advance else reject u
      let v ← peek
      let act ←
        if v.isKw "SET" then do
          advance
          let w ← peek
          if w.isKw "NULL" then do advance; pure FkAction.setNull
          else if w.isKw "DEFAULT" then do advance; pure FkAction.setDefault
          else reject w
        else if v.isKw "CASCADE" then do advance; pure FkAction.cascade
        else if v.isKw "RESTRICT" then do advance; pure FkAction.restrict
        else if v.isKw "NO" then do
          advance
          expectKw "ACTION"
          pure FkAction.noAction
        else reject v
      if u.isKw "DELETE" then acts := { acts with onDelete := act }
      else if u.isKw "UPDATE" then acts := { acts with onUpdate := act }
    else break
  return acts

/-- The constraints of the column just added to the draft, each checked as it is read. -/
def columnConstraints (draft : Draft) : Parse (Draft × List ColumnConstraint) := do
  let mut d := draft
  let mut out : Array ColumnConstraint := #[]
  let last := d.columns.size - 1
  let col := d.columns.getD last default
  for _ in [0:← remaining] do
    let t ← peek
    if t.isKw "CONSTRAINT" then
      advance
      out := out.push (.named (← nm))
    else if t.isKw "DEFAULT" then
      advance
      let (e, text) ← defaultValue
      let fault := if !Expr.isConstant (← budget) e then
          some ("default value of column [" ++ col.name ++ "] is not constant")
        else if (d.columns.getD last default).generated then some "cannot use DEFAULT on a generated column"
        else none
      noteIf d fault
      d := { d with columns := d.columns.modify last fun c => { c with hasDefault := true } }
      out := out.push (.default e text)
    else if t.isKw "NULL" then
      advance
      discard onConflict
      out := out.push .null
    else if t.isKw "NOT" then
      advance
      let u ← peek
      if u.isKw "NULL" then
        advance
        out := out.push (.notNull (← onConflict))
      else if u.isKw "DEFERRABLE" then
        advance
        discard initiallyOpt
        out := out.push (.deferrable false)
      else reject u
    else if t.isKw "PRIMARY" then
      advance
      expectKw "KEY"
      let desc ← sortOrder
      let r ← onConflict
      let autoinc ← acceptKw "AUTOINCREMENT"
      let (d', fault) := d.addPrimaryKey [last] true (desc == some true) autoinc
      noteIf d fault
      d := d'
      out := out.push (.primaryKey desc r autoinc)
    else if t.isKw "UNIQUE" then
      advance
      out := out.push (.unique (← onConflict))
    else if t.isKw "CHECK" then
      advance
      let open_ ← peek
      expectOp "("
      let e ← expression
      let close ← peek
      expectOp ")"
      out := out.push (.check e (← span open_.stop close.start))
    else if t.isKw "REFERENCES" then
      advance
      let n ← nm
      let cols ← eidListOpt
      let acts ← refArgs
      if cols.length > 1 then
        noteIf d (some ("foreign key on " ++ col.name ++
          " should reference only one column of table " ++ n.written))
      out := out.push (.references n cols acts)
    else if t.isKw "DEFERRABLE" then
      advance
      out := out.push (.deferrable (← initiallyOpt))
    else if t.isKw "COLLATE" then
      advance
      let n ← ids
      if !collations.any (sameName · n.text) then
        noteIf d (some ("no such collation sequence: " ++ n.text))
      out := out.push (.collate n)
    else if t.isKw "GENERATED" || t.isKw "AS" then
      advance
      if t.isKw "GENERATED" then
        expectKw "ALWAYS"
        expectKw "AS"
      expectOp "("
      let e ← expression
      expectOp ")"
      let u ← peek
      let kind ← if u.kind == .name || u.fallsBack then do advance; pure (some u) else pure none
      let c := d.columns.getD last default
      let badKind := match kind with
        | some k => !(sameName k.text "virtual" || sameName k.text "stored")
        | none => false
      let stored := match kind with
        | some k => sameName k.text "stored"
        | none => false
      if c.hasDefault || badKind then
        noteIf d (some ("error in generated column \"" ++ c.name ++ "\""))
      else if c.primaryKey then
        noteIf d (some "generated columns cannot be part of the PRIMARY KEY")
      d := { d with columns := d.columns.modify last fun c => { c with generated := true } }
      out := out.push (.generated e stored)
    else break
  return (d, out.toList)

/-- The column a term of a key names, if it is a bare name of a column of the draft. -/
def Draft.keyColumn (d : Draft) (e : Expr) : Option Nat :=
  let bare := match e with
    | .collate inner _ => inner
    | _ => e
  match bare with
  | .column n _ => d.columns.toList.findIdx? (sameName ·.name n.text)
  | .string s => d.columns.toList.findIdx? (sameName ·.name s)
  | _ => none

/-- The failure of the terms of a key written in a table's constraints: each must name a
column of the table. -/
def Draft.keyFault (d : Draft) (terms : List OrderTerm) : Option String :=
  terms.findSome? fun t =>
    match d.keyColumn t.expr with
    | some _ => none
    | none =>
      match t.expr with
      | .column n _ | .collate (.column n _) _ => some ("no such column: " ++ n.text)
      | .string s | .collate (.string s) _ => some ("no such column: " ++ s)
      | _ => some "expressions prohibited in PRIMARY KEY and UNIQUE constraints"

/-- The constraints of a table after its columns, each checked as it is read. -/
def tableConstraints (draft : Draft) : Parse (Draft × List TableConstraint) := do
  let mut d := draft
  let mut out : Array TableConstraint := #[]
  for _ in [0:← remaining] do
    let t ← peek
    if t.isKw "CONSTRAINT" then
      advance
      out := out.push (.named (← nm))
      continue
    if t.isKw "PRIMARY" then
      advance
      expectKw "KEY"
      expectOp "("
      let terms ← orderTerms
      let autoinc ← acceptKw "AUTOINCREMENT"
      expectOp ")"
      let r ← onConflict
      let cols := terms.filterMap fun term => d.keyColumn term.expr
      -- the order of the column of a key written apart from it does not keep it from
      -- naming the row
      let single := terms.length == 1 && cols.length == 1
      let (d', fault) := d.addPrimaryKey cols single false autoinc
      let ipk := single && (match cols with
        | [i] => isIntegerType (d.columns.getD i default).type
        | _ => false)
      let fault := if fault.isNone && !ipk && !d.hasPrimaryKey then d.keyFault terms else fault
      noteIf d fault
      d := d'
      out := out.push (.primaryKey terms autoinc r)
    else if t.isKw "UNIQUE" then
      advance
      expectOp "("
      let terms ← orderTerms
      expectOp ")"
      let r ← onConflict
      noteIf d (d.keyFault terms)
      out := out.push (.unique terms r)
    else if t.isKw "CHECK" then
      advance
      let open_ ← peek
      expectOp "("
      let e ← expression
      let close ← peek
      expectOp ")"
      discard onConflict
      out := out.push (.check e (← span open_.stop close.start))
    else if t.isKw "FOREIGN" then
      advance
      expectKw "KEY"
      expectOp "("
      let cols ← eidList
      expectOp ")"
      expectKw "REFERENCES"
      let table ← nm
      let refs ← eidListOpt
      let acts ← refArgs
      let mut deferred := false
      if (← peek).isKw "NOT" && (← peekAt 1).isKw "DEFERRABLE" then
        advance
        advance
        discard initiallyOpt
      else if ← acceptKw "DEFERRABLE" then deferred ← initiallyOpt
      let fault := if !refs.isEmpty && refs.length != cols.length then
          some "number of columns in foreign key does not match the number of columns in the referenced table"
        else (cols.find? fun c => !(d.columns.any (sameName ·.name c.text))).map fun c =>
          "unknown column \"" ++ c.text ++ "\" in foreign key definition"
      noteIf d fault
      out := out.push (.foreignKey cols table refs acts deferred)
    else reject t
    let u ← peek
    if u.isOp "," then advance
    else if u.isOp ")" then break
    else if !(u.isKw "CONSTRAINT" || u.isKw "PRIMARY" || u.isKw "UNIQUE" || u.isKw "CHECK" ||
        u.isKw "FOREIGN") then reject u
  return (d, out.toList)

def startsTableConstraint (t : Token) : Bool :=
  t.isKw "CONSTRAINT" || t.isKw "PRIMARY" || t.isKw "UNIQUE" || t.isKw "CHECK" || t.isKw "FOREIGN"

/-- The options after a table's definition: `WITHOUT ROWID` and `STRICT`, separated by
commas. The first may be left out, so the list may start with a comma; every comma must be
followed by an option. -/
def tableOptions (live : Bool) : Parse (Bool × Bool) := do
  let mut withoutRowid := false
  let mut strict := false
  let mut first := true
  for _ in [0:← remaining] do
    let t ← peek
    if t.isKw "WITHOUT" then
      advance
      let n ← peek
      discard nm
      if n.text.length == 5 && sameName n.text "rowid" then withoutRowid := true
      else if live then note ("unknown table option: " ++ n.text)
    else if t.isNm then
      advance
      if t.text.length == 6 && sameName t.text "strict" then strict := true
      else if live then note ("unknown table option: " ++ t.text)
    else if !first then reject t
    else if !t.isOp "," then break
    first := false
    if !(← acceptOp ",") then break
  return (withoutRowid, strict)

/-- The failure of starting a new table or view `name`, if any: a missing schema, a
qualified name for a temporary table, a reserved name, or a name taken by a table, view or
index of the schema; with `IF NOT EXISTS` a taken name makes the statement do nothing
(`false`). -/
def startFault (catalog : Catalog) (temp view ifNotExists : Bool) (q : QName) :
    Except String (String × Bool) := do
  let schema ← match q.schema with
    | some s => match catalog.schemaName? s.text with
      | some n =>
        if temp && n != "temp" then
          throw ("temporary " ++ (if view then "view" else "table") ++ " name must be unqualified")
        pure n
      | none => throw ("unknown database " ++ s.written)
    | none => pure (if temp then "temp" else "main")
  let name := q.name.text
  if (name.take 7).toString.map Char.toLower == "sqlite_" then
    throw ("object name reserved for internal use: " ++ name)
  let s := (catalog.schema? schema).getD {}
  if let some r := Catalog.relationIn schema s name then
    if ifNotExists then return (schema, false)
    let what := match r with
      | .view .. => "view"
      | .table .. => "table"
    throw (what ++ " " ++ q.name.written ++ " already exists")
  if (s.index? name).isSome then throw ("there is already an index named " ++ name)
  return (schema, true)

def createTable (temp : Bool) : Parse Stmt := do
  let ine ← ifNotExists
  let name ← fullName
  let t ← peek
  if !(t.isOp "(" || t.isKw "AS") then reject t
  let live ← match startFault (← get).catalog temp false ine name with
    | .ok (_, live) => pure live
    | .error m => do note m; pure false
  if ← acceptKw "AS" then
    return .createTable temp ine name (.query (← query))
  advance
  let mut d : Draft := { name := name.name.text, live }
  let mut cols : Array ColumnDef := #[]
  let mut cons : List TableConstraint := []
  for _ in [0:← remaining] do
    let n ← nm
    let type ← typeToken true
    if d.columns.any (sameName ·.name n.text) then
      if d.live then note ("duplicate column name: " ++ n.text)
    d := { d with columns := d.columns.push { name := n.text, type } }
    let (d', cs) ← columnConstraints d
    d := d'
    cols := cols.push ⟨n, type, cs⟩
    let u ← peek
    if u.isOp "," then
      advance
      if startsTableConstraint (← peek) then
        let (d', tc) ← tableConstraints d
        d := d'
        cons := tc
        break
    else if u.isOp ")" then break
    else reject u
  expectOp ")"
  let (withoutRowid, strict) ← tableOptions d.live
  return .createTable temp ine name (.columns cols.toList cons withoutRowid strict)

def createView (temp : Bool) : Parse Stmt := do
  let ine ← ifNotExists
  let name ← fullName
  let cols ← eidListOpt
  expectKw "AS"
  return .createView temp ine name cols (← query)

def createIndex (unique : Bool) : Parse Stmt := do
  let ine ← ifNotExists
  let name ← fullName
  expectKw "ON"
  let table ← nm
  expectOp "("
  let terms ← orderTerms
  expectOp ")"
  let filter ← whereOpt
  return .createIndex unique ine name table terms filter

/-- A table named in a trigger's body: it may not be qualified. -/
def triggerTarget : Parse Target := do
  let a ← nm
  if ← acceptOp "." then
    let b ← nm
    note "qualified table names are not allowed on INSERT, UPDATE, and DELETE statements within triggers"
    return ⟨⟨none, b⟩, none⟩
  return ⟨⟨none, a⟩, none⟩

/-- The table a statement writes to: a name, perhaps qualified, with an alias. -/
def writeTarget : Parse Target := do
  let q ← fullName
  let asName ← if ← acceptKw "AS" then some <$> nm else pure none
  return ⟨q, asName⟩

/-- The clause `INDEXED BY name` or `NOT INDEXED`, if one comes; in a trigger's body either is
refused. -/
def indexedOpt : Parse Unit := do
  let inTrigger := (← get).inTrigger
  if ← acceptKw "INDEXED" then
    expectKw "BY"
    discard nm
    if inTrigger then
      note "the INDEXED BY clause is not allowed on UPDATE or DELETE statements within triggers"
  else if (← peek).isKw "NOT" then
    advance
    expectKw "INDEXED"
    if inTrigger then
      note "the NOT INDEXED clause is not allowed on UPDATE or DELETE statements within triggers"

/-- The clause `RETURNING` and its columns, if it comes; refused in a trigger's body. -/
def returningOpt : Parse (Option (List ResultColumn)) := do
  if ← acceptKw "RETURNING" then
    let cols ← outputColumns
    if (← get).inTrigger then note "cannot use RETURNING in a trigger"
    return some cols
  return none

/-- The assignments of `SET`: a column or a list of columns in parentheses, and its
value. A list must be given as many values as it has columns. -/
def assignments : Parse Assignments := do
  let mut out : Array (List Name × Expr) := #[]
  for _ in [0:← remaining] do
    if ← acceptOp "(" then
      let cols ← idList
      expectOp ")"
      expectOp "="
      let e ← expression
      let width := match e with
        | .vector items => items.length
        | .subquery _ => cols.length
        | _ => 1
      if width != cols.length then
        note (toString cols.length ++ " columns assigned " ++ toString width ++ " values")
      out := out.push (cols, e)
    else
      let n ← nm
      expectOp "="
      out := out.push ([n], ← expression)
    if !(← acceptOp ",") then break
  return out.toList

/-- The `ON CONFLICT` clauses of an `INSERT` and its `RETURNING`. -/
def upsertClauses : Parse (List Upsert × Option (List ResultColumn)) := do
  let mut out : Array Upsert := #[]
  for _ in [0:← remaining] do
    if (← peek).isKw "RETURNING" then return (out.toList, ← returningOpt)
    if !(← acceptKw "ON") then break
    expectKw "CONFLICT"
    if ← acceptOp "(" then
      let target ← orderTerms
      expectOp ")"
      let targetWhere ← whereOpt
      expectKw "DO"
      if ← acceptKw "NOTHING" then
        out := out.push ⟨target, targetWhere, none⟩
      else
        expectKw "UPDATE"
        expectKw "SET"
        let set ← assignments
        let w ← whereOpt
        out := out.push ⟨target, targetWhere, some (set, w)⟩
    else
      expectKw "DO"
      if ← acceptKw "NOTHING" then
        out := out.push ⟨[], none, none⟩
      else
        expectKw "UPDATE"
        expectKw "SET"
        let set ← assignments
        let w ← whereOpt
        out := out.push ⟨[], none, some (set, w)⟩
      return (out.toList, ← returningOpt)
  return (out.toList, none)

def insertStmt (ctes : List Cte) : Parse Stmt := do
  let orElse ← if ← acceptKw "REPLACE" then pure (some Resolution.replace)
    else
      expectKw "INSERT"
      if ← acceptKw "OR" then some <$> resolveType else pure none
  expectKw "INTO"
  let target ← if (← get).inTrigger then triggerTarget else writeTarget
  let cols ← if ← acceptOp "(" then
      let names ← idList
      expectOp ")"
      pure (some names)
    else pure none
  if !(← get).inTrigger && (← peek).isKw "DEFAULT" then
    advance
    expectKw "VALUES"
    return .insert ctes orElse target cols .defaults [] (← returningOpt)
  let t ← peek
  if !startsSelect t then reject t
  let q ← query
  let (upserts, ret) ← upsertClauses
  return .insert ctes orElse target cols (.query q) upserts ret

def updateStmt (ctes : List Cte) : Parse Stmt := do
  advance
  let orElse ← if ← acceptKw "OR" then some <$> resolveType else pure none
  let target ← if (← get).inTrigger then triggerTarget else writeTarget
  indexedOpt
  expectKw "SET"
  let set ← assignments
  let source ← if ← acceptKw "FROM" then sources else pure []
  let filter ← whereOpt
  let ret ← if (← get).inTrigger then pure none else returningOpt
  return .update ctes orElse target set source filter ret

def deleteStmt (ctes : List Cte) : Parse Stmt := do
  advance
  expectKw "FROM"
  let target ← if (← get).inTrigger then triggerTarget else writeTarget
  indexedOpt
  let filter ← whereOpt
  let ret ← if (← get).inTrigger then pure none else returningOpt
  return .delete ctes target filter ret

def statementEnd : Parse Unit := do
  let t ← peek
  if t.isOp ";" || t.isFinish then advance else reject t

/-- The failure of a trigger's table, once the schema the trigger goes in is known. When
`fixed` holds the table is looked up in that schema only. -/
def triggerTableFault (catalog : Catalog) (schema : String) (fixed ifNotExists : Bool)
    (q : QName) (time : TriggerTime) (table : QName) : Option String :=
  let crossed := match table.schema with
    | some ts => fixed && catalog.schemaName? ts.text != some schema
    | none => false
  if crossed then
    some ("trigger " ++ q.name.written ++ " cannot reference objects in database " ++
      ((table.schema.map (·.text)).getD ""))
  else
  let rel := if fixed then catalog.relation? (some schema) table.name.text
    else catalog.relation? (table.schema.map (·.text)) table.name.text
  let prefix_ := if fixed then schema ++ "."
    else match table.schema with
      | some ts => ts.text ++ "."
      | none => ""
  match rel with
  | none => some ("no such table: " ++ prefix_ ++ table.name.text)
  | some r =>
    let virtual := match r with
      | .table _ t => t.module.isSome
      | _ => false
    let s := (catalog.schema? schema).getD {}
    if virtual then some "cannot create triggers on virtual tables"
    else if (q.name.text.take 7).toString.map Char.toLower == "sqlite_" then
      some ("object name reserved for internal use: " ++ q.name.text)
    else if (s.trigger? q.name.text).isSome then
      if ifNotExists then none else some ("trigger " ++ q.name.written ++ " already exists")
    else if (r.name.take 7).toString.map Char.toLower == "sqlite_" then
      some "cannot create trigger on system table"
    else match r, time with
      | .view .., .insteadOf => none
      | .view .., t =>
        some ("cannot create " ++ (if t == .before then "BEFORE" else "AFTER") ++
          " trigger on view: " ++ table.name.text)
      | .table .., .insteadOf =>
        some ("cannot create INSTEAD OF trigger on table: " ++ table.name.text)
      | _, _ => none

/-- The failure of starting a trigger, if any: the schema it goes in is the one its name
is qualified by, `temp` for a temporary trigger or one on a temporary table, else `main`. -/
def triggerFault (catalog : Catalog) (temp ifNotExists : Bool) (q : QName) (time : TriggerTime)
    (table : QName) : Option String :=
  match q.schema, temp with
  | some _, true => some "temporary trigger may not have qualified name"
  | some s, false =>
    match catalog.schemaName? s.text with
    | none => some ("unknown database " ++ s.written)
    | some n => triggerTableFault catalog n (n != "temp") ifNotExists q time table
  | none, true => triggerTableFault catalog "temp" false ifNotExists q time table
  | none, false =>
    let found := catalog.relation? (table.schema.map (·.text)) table.name.text
    let schema := match found with
      | some r => if r.schema == "temp" then "temp" else "main"
      | none => "main"
    triggerTableFault catalog schema (schema != "temp") ifNotExists q time table

def triggerCommand : Parse Stmt := do
  let t ← peek
  let s ← if t.isKw "UPDATE" then updateStmt []
    else if t.isKw "INSERT" || t.isKw "REPLACE" then insertStmt []
    else if t.isKw "DELETE" then deleteStmt []
    else if startsSelect t then Stmt.select <$> query
    else reject t
  statementEnd
  return s

def createTrigger (temp : Bool) : Parse Stmt := do
  let ine ← ifNotExists
  let name ← fullName
  let time ← if ← acceptKw "BEFORE" then pure TriggerTime.before
    else if ← acceptKw "AFTER" then pure TriggerTime.after
    else if ← acceptKw "INSTEAD" then do expectKw "OF"; pure TriggerTime.insteadOf
    else pure TriggerTime.before
  let t ← peek
  let event ← if t.isKw "DELETE" then do advance; pure TriggerEvent.delete
    else if t.isKw "INSERT" then do advance; pure TriggerEvent.insert
    else if t.isKw "UPDATE" then do
      advance
      if ← acceptKw "OF" then pure (TriggerEvent.update (← idList)) else pure (TriggerEvent.update [])
    else reject t
  expectKw "ON"
  let table ← fullName
  if ← acceptKw "FOR" then
    expectKw "EACH"
    expectKw "ROW"
  let condition ← whereOptWhen
  let u ← peek
  if !u.isKw "BEGIN" then reject u
  if let some m := triggerFault (← get).catalog temp ine name time table then note m
  advance
  modify fun c => { c with inTrigger := true }
  let mut body : Array Stmt := #[]
  for _ in [0:← remaining] do
    body := body.push (← triggerCommand)
    if (← peek).isKw "END" then break
  expectKw "END"
  modify fun c => { c with inTrigger := false }
  return .createTrigger temp ine name time event table condition body.toList
where
  whereOptWhen : Parse (Option Expr) := do
    if ← acceptKw "WHEN" then return some (← expression)
    return none

/-- The statement `CREATE VIRTUAL TABLE`, after `TABLE`: the module and its arguments as text. -/
def createVirtual : Parse Stmt := do
  let ine ← ifNotExists
  let name ← fullName
  expectKw "USING"
  let module ← nm
  let mut args : Array String := #[]
  if ← acceptOp "(" then
    let mut depth := 0
    let mut start := (← current).start
    for _ in [0:← remaining] do
      let t ← peek
      if t.isFinish then reject t
      if depth == 0 && (t.isOp "," || t.isOp ")") then
        args := args.push (← span start t.start)
        advance
        if t.isOp ")" then break
        start := (← current).start
      else
        if t.isOp "(" then depth := depth + 1
        if t.isOp ")" then depth := depth - 1
        advance
  return .createVirtual ine name module args.toList

def createStmt : Parse Stmt := do
  let temp ← acceptKw "TEMP"
  let t ← peek
  if t.isKw "TABLE" then
    advance
    createTable temp
  else if t.isKw "VIEW" then
    advance
    createView temp
  else if t.isKw "TRIGGER" then
    advance
    createTrigger temp
  else if !temp && t.isKw "UNIQUE" then
    advance
    expectKw "INDEX"
    createIndex true
  else if !temp && t.isKw "INDEX" then
    advance
    createIndex false
  else if !temp && t.isKw "VIRTUAL" then
    advance
    expectKw "TABLE"
    createVirtual
  else reject t

def dropStmt : Parse Stmt := do
  let t ← peek
  let kind ← if t.isKw "TABLE" then pure DropKind.table
    else if t.isKw "VIEW" then pure DropKind.view
    else if t.isKw "INDEX" then pure DropKind.index
    else if t.isKw "TRIGGER" then pure DropKind.trigger
    else reject t
  advance
  let ie ← ifExists
  return .drop kind ie (← fullName)

def transactionOpt : Parse Unit := do
  if ← acceptKw "TRANSACTION" then
    if (← peek).isNm then advance

/-- The value of a `PRAGMA`: a signed number, a name, `ON`, `DELETE` or `DEFAULT`. -/
def pragmaValue : Parse PragmaValue := do
  let t ← peek
  if t.isOp "-" || t.isOp "+" then
    advance
    let u ← peek
    if !u.isNumber then reject u
    advance
    return ⟨u.text, t.isOp "-"⟩
  if t.isNumber then
    advance
    return ⟨t.text, false⟩
  if t.isNm || t.isKw "ON" || t.isKw "DELETE" || t.isKw "DEFAULT" then
    advance
    return ⟨dequote t.text, false⟩
  reject t

def pragmaStmt : Parse Stmt := do
  let a ← nm
  let (schema, name) ← if ← acceptOp "." then pure (some a, ← nm) else pure (none, a)
  if ← acceptOp "=" then return .pragma schema name (some (← pragmaValue))
  if ← acceptOp "(" then
    let v ← pragmaValue
    expectOp ")"
    return .pragma schema name (some v)
  return .pragma schema name none

/-- The failure of starting to add a column to a table, if any: the table must exist and be
an ordinary table that is not the engine's own. -/
def addColumnStart (catalog : Catalog) (q : QName) : Option String :=
  match catalog.relation? (q.schema.map (·.text)) q.name.text with
  | none =>
    some ("no such table: " ++ (match q.schema with
      | some s => s.text ++ "."
      | none => "") ++ q.name.text)
  | some (.view ..) => some "Cannot add a column to a view"
  | some (.table _ t) =>
    if t.module.isSome then some "virtual tables may not be altered"
    else if (t.name.take 7).toString.map Char.toLower == "sqlite_" then
      some ("table " ++ t.name ++ " may not be altered")
    else none

def alterStmt : Parse Stmt := do
  expectKw "TABLE"
  let table ← fullName
  let t ← peek
  if t.isKw "RENAME" then
    advance
    if ← acceptKw "TO" then return .renameTable table (← nm)
    discard (acceptKw "COLUMN")
    let old ← nm
    expectKw "TO"
    return .renameColumn table old (← nm)
  if t.isKw "ADD" then
    let catalog := (← get).catalog
    let existing : Option Table := match catalog.relation? (table.schema.map (·.text)) table.name.text with
      | some (.table _ tb) => some tb
      | _ => none
    if let some m := addColumnStart catalog table then note m
    advance
    discard (acceptKw "COLUMN")
    let n ← nm
    let type ← typeToken true
    let cols : Array DraftColumn := match existing with
      | some tb => tb.columns.map fun c => { name := c.name, type := c.type }
      | none => #[]
    if existing.isSome && cols.any (sameName ·.name n.text) then note ("duplicate column name: " ++ n.text)
    let draft : Draft := { name := table.name.text, live := existing.isSome, columns := cols.push { name := n.text, type } }
    let (_, cs) ← columnConstraints draft
    return .addColumn table ⟨n, type, cs⟩
  if t.isKw "DROP" then
    advance
    discard (acceptKw "COLUMN")
    return .dropColumn table (← nm)
  reject t

/-- A name of a schema object, perhaps qualified, if one comes. -/
def fullNameOpt : Parse (Option QName) := do
  if (← peek).isNm then return some (← fullName)
  return none

def command : Parse Stmt := do
  let t ← peek
  if t.isKw "BEGIN" then
    advance
    let u ← peek
    let mode ← if u.isKw "DEFERRED" || u.isKw "IMMEDIATE" || u.isKw "EXCLUSIVE" then
        advance
        pure (u.keyword?)
      else pure none
    transactionOpt
    return .begin mode
  if t.isKw "COMMIT" || t.isKw "END" then
    advance
    transactionOpt
    return .commit
  if t.isKw "ROLLBACK" then
    advance
    transactionOpt
    if ← acceptKw "TO" then
      discard (acceptKw "SAVEPOINT")
      return .rollbackTo (← nm)
    return .rollback
  if t.isKw "SAVEPOINT" then
    advance
    return .savepoint (← nm)
  if t.isKw "RELEASE" then
    advance
    discard (acceptKw "SAVEPOINT")
    return .release (← nm)
  if t.isKw "CREATE" then
    advance
    return ← createStmt
  if t.isKw "DROP" then
    advance
    return ← dropStmt
  if t.isKw "SELECT" || t.isKw "VALUES" then return .select (← query)
  if t.isKw "WITH" then
    let ctes ← commonTables
    let u ← peek
    if u.isKw "SELECT" || u.isKw "VALUES" then return .select (← queryAfter ctes)
    if u.isKw "INSERT" || u.isKw "REPLACE" then return ← insertStmt ctes
    if u.isKw "UPDATE" then return ← updateStmt ctes
    if u.isKw "DELETE" then return ← deleteStmt ctes
    reject u
  if t.isKw "INSERT" || t.isKw "REPLACE" then return ← insertStmt []
  if t.isKw "UPDATE" then return ← updateStmt []
  if t.isKw "DELETE" then return ← deleteStmt []
  if t.isKw "PRAGMA" then
    advance
    return ← pragmaStmt
  if t.isKw "VACUUM" then
    advance
    let schema ← if (← peek).isNm then some <$> nm else pure none
    let into ← if ← acceptKw "INTO" then some <$> expression else pure none
    return .vacuum schema into
  if t.isKw "ANALYZE" then
    advance
    return .analyze (← fullNameOpt)
  if t.isKw "REINDEX" then
    advance
    return .reindex (← fullNameOpt)
  if t.isKw "ATTACH" then
    advance
    discard (acceptKw "DATABASE")
    let file ← expression
    expectKw "AS"
    let schema ← expression
    let key ← if ← acceptKw "KEY" then some <$> expression else pure none
    return .attach file schema key
  if t.isKw "DETACH" then
    advance
    discard (acceptKw "DATABASE")
    return .detach (← expression)
  if t.isKw "ALTER" then
    advance
    return ← alterStmt
  reject t

/-- The next statement of a script with its `;`, or none when only `;` are left.
`EXPLAIN` and `EXPLAIN QUERY PLAN` before it are noted. -/
def statement : Parse (Option (Stmt × Bool)) := do
  for _ in [0:← remaining] do
    if !(← acceptOp ";") then break
  if (← peek).isFinish then return none
  let explain ← acceptKw "EXPLAIN"
  if explain then
    if ← acceptKw "QUERY" then expectKw "PLAN"
  let s ← command
  statementEnd
  return some (s, explain)

end Parse

/-- Reads the statement of a script that starts at token `pos`: the statement as prepared
and the position after it, none when only `;` are left, or the message of its failure. -/
def prepareAt (catalog : Catalog) (text : Array Char) (tokens : Array Token) (pos : Nat) :
    Except String (Option (Prepared × Nat)) :=
  match Parse.statement.run { tokens, text, catalog, pos } with
  | .error m => .error m
  | .ok (none, _) => .ok none
  | .ok (some (s, explain), c) => .ok (some (⟨s, explain, c.params⟩, c.pos))

end Foreman.Sql
