import Foreman.Sql.Check
import Foreman.Sql.Reference

/-!
# Preparing definitions and commands

The checks of a statement defining, removing or managing objects, in the order the engine
meets their failures: views and triggers against other schemas and parameters, indexes
against their table, `tableEndFault` for tables, `DROP` against the kind named, schemas named
by `PRAGMA`, `VACUUM` or `REINDEX`, `ALTER TABLE` against the engine's own tables, and the
triggers a change of rows fires. `prepareFault` gathers the checks of every statement.
-/

namespace Foreman.Sql

/-- The failure the marks of a view's or trigger's text give, if any: a parameter, or a
table of another schema than the object's own unless the object is temporary. -/
def fixFault (catalog : Catalog) (home : String) (temp : Bool) (kind written : String)
    (marks : List FixMark) : Except String Unit :=
  match marks.find? (fun m => match m with
      | .param => true
      | .table s => !temp && catalog.schemaName? s.text != some home) with
  | some .param => .error (kind ++ " cannot use variables")
  | some (.table s) => .error (kind ++ " " ++ written ++ " cannot reference objects in database " ++ s.text)
  | none => .ok ()

def Stmt.marks : Stmt → List FixMark
  | .select q => selectMarks checkFuel q
  | .insert _ _ _ _ source upserts _ =>
    (match source with
      | .query q => selectMarks checkFuel q
      | .defaults => []) ++
    (upserts.map fun u =>
      (u.target.map (exprMarks checkFuel ·.expr)).flatten ++ (u.targetWhere.toList.map (exprMarks checkFuel)).flatten ++
      (match u.update with
        | some (set, w) => (set.map (exprMarks checkFuel ·.2)).flatten ++ (w.toList.map (exprMarks checkFuel)).flatten
        | none => [])).flatten
  | .update _ _ _ set source filter _ =>
    (filter.toList.map (exprMarks checkFuel)).flatten ++ (set.map (exprMarks checkFuel ·.2)).flatten ++
      sourceMarks source ++ (source.map (itemMarks checkFuel)).flatten
  | .delete _ _ filter _ => (filter.toList.map (exprMarks checkFuel)).flatten
  | _ => []

/-- The failure of a new view, or whether it is made (not when it exists and `IF NOT
EXISTS` was written), with its schema. -/
def viewCreateFault (catalog : Catalog) (params temp ifNotExists : Bool) (name : QName) (q : Select) :
    Except String (Option String) := do
  if params then throw "parameters are not allowed in views"
  let (sn, live) ← Parse.startFault catalog temp true ifNotExists name
  if !live then return none
  fixFault catalog sn (sn == "temp") "view" name.name.written (selectMarks checkFuel q)
  return some sn

/-- The schema a new trigger goes in: the one its name is qualified by, `temp` for a
temporary trigger or one on a temporary table, else `main`. -/
def triggerSchema (catalog : Catalog) (temp : Bool) (name table : QName) : String :=
  if temp then "temp"
  else match name.schema with
    | some s => (catalog.schemaName? s.text).getD "main"
    | none =>
      match catalog.relation? (table.schema.map (·.text)) table.name.text with
      | some r => if r.schema == "temp" then "temp" else "main"
      | none => "main"

def triggerCreateFault (catalog : Catalog) (temp : Bool) (name table : QName) (condition : Option Expr)
    (body : List Stmt) : Except String Unit := do
  let sn := triggerSchema catalog temp name table
  let marks := (body.map Stmt.marks).flatten ++ (condition.toList.map (exprMarks checkFuel)).flatten
  fixFault catalog sn (sn == "temp") "trigger" name.name.written marks

/-- A term of an index as the engine reads it: a string names a column. -/
def indexTerm (e : Expr) : Expr :=
  match e with
  | .string s => .column ⟨s, s⟩ false
  | .collate (.string s) c => .collate (.column ⟨s, s⟩ false) c
  | _ => e

/-- The failure of a new index, or the schema and table it is made on (none when it exists
and `IF NOT EXISTS` was written). -/
def indexCreateFault (catalog : Catalog) (ifNotExists : Bool) (name : QName) (table : Name)
    (terms : List OrderTerm) (filter : Option Expr) : Except String (Option (String × Table)) := do
  nullsFault terms
  let given ← match name.schema with
    | some s => match catalog.schemaName? s.text with
      | some n => pure (some n)
      | none => throw ("unknown database " ++ s.written)
    | none => pure none
  let inTemp := match catalog.relation? none table.text with
    | some r => r.schema == "temp"
    | none => false
  let sn := match given with
    | some n => n
    | none => if inTemp then "temp" else "main"
  let s := (catalog.schema? sn).getD {}
  let t ← match Catalog.relationIn sn s table.text with
    | none => throw ("no such table: " ++ sn ++ "." ++ table.text)
    | some (.view ..) =>
      if (table.text.take 7).toString.map Char.toLower == "sqlite_" then
        throw ("table " ++ table.text ++ " may not be indexed")
      throw "views may not be indexed"
    | some (.table _ t) => pure t
  if (t.name.take 7).toString.map Char.toLower == "sqlite_" then
    throw ("table " ++ t.name ++ " may not be indexed")
  if t.module.isSome then throw "virtual tables may not be indexed"
  let iname := name.name.text
  if (iname.take 7).toString.map Char.toLower == "sqlite_" then
    throw ("object name reserved for internal use: " ++ iname)
  if (Catalog.relationIn sn s iname).isSome then throw ("there is already a table named " ++ iname)
  if (s.index? iname).isSome then
    if ifNotExists then return none
    throw ("index " ++ iname ++ " already exists")
  let self := targetSource t.name sn t
  let env : Env := { catalog }
  let whereFault := match filter with
    | some w => (resolveTop checkFuel env [{ sources := [self], context := some "partial index WHERE clauses" }] w).toOption.isNone
    | none => false
  let whereMessage := match filter with
    | some w => match resolveTop checkFuel env [{ sources := [self], context := some "partial index WHERE clauses" }] w with
      | .error m => m
      | .ok () => ""
    | none => ""
  for (term, i) in terms.zipIdx do
    let e := indexTerm term.expr
    resolveTop checkFuel env [{ sources := [self], context := some "index expressions" }] e
    if i == 0 && whereFault then throw whereMessage
    if let .collate _ c := e then
      if !knownCollation c.text then throw ("no such collation sequence: " ++ c.text)
  if terms.isEmpty && whereFault then throw whereMessage
  return some (sn, t)

def dropFault (catalog : Catalog) (kind : DropKind) (ifExists : Bool) (q : QName) : Except String Unit := do
  let label := q.label
  match kind with
  | .table | .view =>
    match catalog.relation? (q.schema.map (·.text)) q.name.text with
    | none =>
      if (builtinTable? q.name.text).isSome && kind == .table && (q.schema.map (sameName ·.text "main")).getD true then
        throw ("table " ++ q.name.text.map Char.toLower ++ " may not be dropped")
      if ifExists then return
      throw ((if kind == .view then "no such view: " else "no such table: ") ++ label)
    | some r =>
      let n := r.name
      let lower := n.map Char.toLower
      if lower.startsWith "sqlite_" && !(lower.drop 7).startsWith "stat" &&
          !(lower.drop 7).startsWith "parameters" then
        throw ("table " ++ n ++ " may not be dropped")
      match r, kind with
      | .table .., .view => throw ("use DROP TABLE to delete table " ++ n)
      | .view .., .table => throw ("use DROP VIEW to delete view " ++ n)
      | _, _ => pure ()
  | .index =>
    match catalog.index? (q.schema.map (·.text)) q.name.text with
    | none => if !ifExists then throw ("no such index: " ++ label)
    | some (_, i) =>
      if i.automatic then
        throw "index associated with UNIQUE or PRIMARY KEY constraint cannot be dropped"
  | .trigger =>
    if (catalog.trigger? (q.schema.map (·.text)) q.name.text).isNone && !ifExists then
      throw ("no such trigger: " ++ label)

def schemaFault (catalog : Catalog) (s : Name) : Except String String :=
  match catalog.schemaName? s.text with
  | some n => .ok n
  | none => .error ("unknown database " ++ s.written)

/-- The failure of an `ANALYZE`, if any: a schema, or an index or table of one. -/
def analyzeFault (catalog : Catalog) (target : Option QName) : Except String Unit := do
  let some q := target | return
  if q.schema.isNone && (catalog.schemaName? q.name.text).isSome then return
  let sn ← match q.schema with
    | some s => some <$> schemaFault catalog s
    | none => pure none
  if (catalog.index? sn q.name.text).isSome then return
  match catalog.relation? sn q.name.text with
  | some _ => return
  | none =>
    throw ("no such table: " ++ (match sn with
      | some n => n ++ "."
      | none => "") ++ q.name.text)

/-- The failure of a `REINDEX`, if any: a collation, or a table or index. -/
def reindexFault (catalog : Catalog) (target : Option QName) : Except String Unit := do
  let some q := target | return
  if q.schema.isNone && knownCollation q.name.text then return
  let sn ← match q.schema with
    | some s => some <$> schemaFault catalog s
    | none => pure none
  if (catalog.relation? sn q.name.text).isSome then return
  if (catalog.index? sn q.name.text).isSome then return
  throw "unable to identify the object to be reindexed"

/-- An expression naming a file or a schema for `ATTACH` or `DETACH`: a bare name is the
text of the name. -/
def attachName (e : Expr) : Expr :=
  match e with
  | .column n _ => .string n.text
  | _ => e

/-- The failure of the expressions of an `ATTACH` or `DETACH`, if any. -/
def attachFault (catalog : Catalog) (es : List Expr) : Except String Unit := do
  for e in es do
    let e := attachName e
    resolveTop checkFuel { catalog } [{ sources := [] }] e
    exprFault checkFuel { catalog } false false e

/-- The table an `ALTER TABLE` changes, or the failure of naming it: it must exist and not
be the engine's own. -/
def alterTarget (catalog : Catalog) (q : QName) : Except String (String × Relation) := do
  match catalog.relation? (q.schema.map (·.text)) q.name.text with
  | none => throw ("no such table: " ++ q.label)
  | some r =>
    if (r.name.take 7).toString.map Char.toLower == "sqlite_" then
      throw ("table " ++ r.name ++ " may not be altered")
    return (r.schema, r)

def renameTableFault (catalog : Catalog) (q : QName) (newName : Name) : Except String Unit := do
  let (sn, r) ← match catalog.relation? (q.schema.map (·.text)) q.name.text with
    | none => throw ("no such table: " ++ q.label)
    | some r => pure (r.schema, r)
  let s := (catalog.schema? sn).getD {}
  let z := newName.text
  if (Catalog.relationIn sn s z).isSome || (s.index? z).isSome then
    throw ("there is already another table or index with this name: " ++ z)
  if (r.name.take 7).toString.map Char.toLower == "sqlite_" then
    throw ("table " ++ r.name ++ " may not be altered")
  if (z.take 7).toString.map Char.toLower == "sqlite_" then
    throw ("object name reserved for internal use: " ++ z)
  if let .view _ v := r then throw ("view " ++ v.name ++ " may not be altered")

/-- The failure of an `ALTER TABLE ... RENAME COLUMN` or `DROP COLUMN`, if any. -/
def columnAlterFault (catalog : Catalog) (q : QName) (col : Name) (drop : Bool) : Except String Unit := do
  let (_, r) ← alterTarget catalog q
  let t ← match r with
    | .view _ v => throw ("cannot " ++ (if drop then "drop column from" else "rename columns of") ++
        " view \"" ++ v.name ++ "\"")
    | .table _ t => pure t
  if t.module.isSome then
    throw ("cannot " ++ (if drop then "drop column from" else "rename columns of") ++
      " virtual table \"" ++ t.name ++ "\"")
  let some j := t.columnIndex col.text | throw ("no such column: \"" ++ col.written ++ "\"")
  if drop then
    let c := t.columns.getD j default
    let unique := t.keys.any fun k => !k.primary && k.columns.contains j
    if c.primaryKey || t.rowidAlias == some j then
      throw ("cannot drop PRIMARY KEY column: \"" ++ col.text ++ "\"")
    if unique then throw ("cannot drop UNIQUE column: \"" ++ col.text ++ "\"")
    if t.columns.size ≤ 1 then
      throw ("cannot drop column \"" ++ col.text ++ "\": no other columns exist")

/-- The failure found when an `ALTER TABLE ... ADD COLUMN` ends, if any: the new column
may not be a key. -/
def addColumnFault (column : ColumnDef) : Except String Unit := do
  for k in column.constraints do
    match k with
    | .primaryKey .. => throw "Cannot add a PRIMARY KEY column"
    | _ => pure ()
  for k in column.constraints do
    match k with
    | .unique _ => throw "Cannot add a UNIQUE column"
    | _ => pure ()

/-- A change of one row, as triggers tell changes apart: an insertion, a deletion, or an
update that sets some columns. -/
inductive RowEvent where
  | insert | delete
  | update (columns : List String)
  deriving Inhabited

/-- Whether a trigger fires on a change of a row: one of its kind, and for an update, one
that sets a column the trigger watches (a trigger that names no columns watches them
all). -/
def Trigger.firesOn (tr : Trigger) (e : RowEvent) : Bool :=
  match tr.event, e with
  | .insert, .insert => true
  | .delete, .delete => true
  | .update watched, .update cols => watched.isEmpty || watched.any fun w => cols.any (sameName w.text ·)
  | _, _ => false

def Assignments.columnNames (set : Assignments) : List String := set.flatMap fun (cols, _) => cols.map (·.text)

/-- The triggers on a table or view of a schema, with their schemas, in the order they
fire: those of the temporary database first (unless it has a table or view of that name of
its own), then the schema's own, the newest first in each. -/
def Catalog.triggersOn (c : Catalog) (sn name : String) : List (String × Trigger) :=
  let on (s : Schema) : List Trigger := (s.triggers.filter (sameName ·.table name)).reverse
  let own := ((c.schema? sn).map on).getD []
  let temp := if sn == "temp" then [] else
    match c.schema? "temp" with
    | some s => if (Catalog.relationIn "temp" s name).isSome then [] else on s
    | none => []
  temp.map (("temp" : String), ·) ++ own.map (sn, ·)

/-- What a change's rows belong to, as its triggers see them: the schema and name of a
table or view, the names of the columns of its rows, and whether they have row numbers. -/
structure Subject where
  schema : String
  name : String
  columns : List String
  rowid : Bool
  deriving Inhabited

/-- The names of the columns of a view's rows: those it declares, else its query's. -/
def viewColumnNames (catalog : Catalog) (sn : String) (v : View) : List String :=
  if !v.columns.isEmpty then v.columns.map (·.text)
  else
    let viewEnv : Env := { catalog, fixed := if sn == "temp" then none else some sn }
    (expandSelect checkFuel viewEnv v.query).toOption.getD []

/-- The subject of the table or view a name stands for, if any. -/
def Catalog.subject? (c : Catalog) (q : QName) : Option Subject :=
  match c.relation? (q.schema.map (·.text)) q.name.text with
  | some (.table sn t) => some { schema := sn, name := t.name, columns := t.visibleColumns, rowid := t.hasRowid }
  | some (.view sn v) => some { schema := sn, name := v.name, columns := viewColumnNames c sn v, rowid := false }
  | none => none

/-- The source a trigger's statements read a row of a subject by: `new` or `old`, reached
only by qualified names. -/
def Subject.source (subj : Subject) (name : String) : Source :=
  { name, columns := subj.columns, rowid := subj.rowid, qualifiedOnly := true }

/-- The rows a trigger sees for a change, before their values are known: `new` unless
the change is a deletion, `old` unless it is an insertion. -/
def Subject.pseudo (subj : Subject) (e : RowEvent) : List SourceRow :=
  let new : List SourceRow := match e with
    | .delete => []
    | _ => [{ source := subj.source "new", values := #[] }]
  let old : List SourceRow := match e with
    | .insert => []
    | _ => [{ source := subj.source "old", values := #[] }]
  new ++ old

/-- The schema the statements of a trigger of a schema look table names up in: their own,
unless the trigger is temporary. -/
def triggerFixed (tsn : String) : Option String := if tsn == "temp" then none else some tsn

/-- A target of a trigger's statement, looked up in the schema the trigger fixes. -/
def Target.fixedTo (t : Target) (fixed : Option String) : Target :=
  match fixed, t.table.schema with
  | some sn, none => { t with table := { t.table with schema := some ⟨sn, sn⟩ } }
  | _, _ => t

/-- The failure of the foreign keys a change of a table's rows checks, if any: first the
table's own keys (for an update, those over a column it sets and those referring to the table
itself), whose parent must exist with a key; then the keys of the schema's tables referring
to it (for an insertion only when it may write several rows; for an update, those whose
parent columns it sets), which need a key over the columns they refer to. -/
def Table.foreignKeyFault (t : Table) (catalog : Catalog) (sn : String) (event : RowEvent) (several : Bool) :
    Except String Unit := do
  let s := (catalog.schema? sn).getD {}
  let sets (cols : List String) (j : Nat) : Bool := cols.any (sameName · (t.columns.getD j default).name)
  for fk in t.foreignKeys do
    let watched := match event with
      | .update cols => sameName fk.parent t.name || fk.columns.any (sets cols)
      | _ => true
    if watched then
      if let some m := s.parentFault sn t fk then throw m
  let parentSide := match event with
    | .insert => several
    | _ => true
  if !parentSide then return
  for c in s.tables do
    for fk in c.foreignKeys do
      if !sameName fk.parent t.name then continue
      let modified := match event with
        | .update cols =>
          if fk.parentColumns.isEmpty then
            (List.range t.columns.size).any fun j => (t.columns.getD j default).primaryKey && sets cols j
          else fk.parentColumns.any fun k => cols.any (sameName k ·)
        | _ => true
      if modified && (s.parentKey? t fk).isNone then throw (mismatchMessage c.name fk.parent)

/-- The failure of the foreign keys of a statement's target, when they are enforced. -/
def Catalog.foreignKeyFault (catalog : Catalog) (enforced : Bool) (target : QName) (event : RowEvent)
    (several : Bool) : Except String Unit :=
  if !enforced then pure () else
  match catalog.relation? (target.schema.map (·.text)) target.name.text with
  | some (.table sn t) => t.foreignKeyFault catalog sn event several
  | _ => pure ()

/-- Whether an `INSERT` may write several rows: its rows come from a query, or its table
has triggers. -/
def InsertSource.several (catalog : Catalog) (target : QName) (source : InsertSource) : Bool :=
  let query := match source with
    | .query (.mk [] (.values [_] _) []) => false
    | .query _ => true
    | .defaults => false
  query || match catalog.subject? target with
    | some subj => !(catalog.triggersOn subj.schema subj.name).isEmpty
    | none => false

/-- The failure of preparing the triggers a change of a subject fires, if any: each
trigger's condition and statements are prepared as it sees them, and in turn the triggers
those fire. A trigger being prepared (`running`) is not prepared again, as it never fires
itself. -/
def triggersFault : Nat → Catalog → Bool → List String → Subject → RowEvent → Except String Unit
  | 0, _, _, _, _, _ => .error Parse.tooDeep
  | fuel + 1, catalog, enforced, running, subj, event => do
    for (tsn, tr) in catalog.triggersOn subj.schema subj.name do
      if !tr.firesOn event || running.any (sameName · tr.name) then continue
      let fixed := triggerFixed tsn
      let env : Env := { catalog, fixed, pseudo := subj.pseudo event }
      if let some w := tr.condition then
        resolveTop checkFuel env [] w
        exprFault checkFuel env true false w
      let inner := tr.name :: running
      for st in tr.body do
        match st with
        | .insert ctes _ target cols source upserts returning =>
          let target := target.fixedTo fixed
          insertFault catalog (env.withCtes ctes) target cols source upserts returning
          if let some sub := catalog.subject? target.table then
            triggersFault fuel catalog enforced inner sub .insert
            for u in upserts do
              if let some (set, _) := u.update then
                triggersFault fuel catalog enforced inner sub (.update set.columnNames)
          catalog.foreignKeyFault enforced target.table .insert true
        | .update ctes _ target set source filter returning =>
          let target := target.fixedTo fixed
          updateFault catalog (env.withCtes ctes) target set source filter returning
          if let some sub := catalog.subject? target.table then
            triggersFault fuel catalog enforced inner sub (.update set.columnNames)
          catalog.foreignKeyFault enforced target.table (.update set.columnNames) true
        | .delete ctes target filter returning =>
          let target := target.fixedTo fixed
          deleteFault catalog (env.withCtes ctes) target filter returning
          if let some sub := catalog.subject? target.table then
            triggersFault fuel catalog enforced inner sub .delete
          catalog.foreignKeyFault enforced target.table .delete true
        | .select q =>
          resolveQuery env checkFuel q
          selectFault checkFuel env true q
        | _ => pure ()

/-- Whether a text is a 32-bit integer as a pragma's argument may be one: a sign, then
decimal digits or `0x` and hexadecimal digits, and nothing else. -/
def isInt32Text (s : String) : Bool :=
  let cs := match s.toList with
    | '-' :: r | '+' :: r => r
    | cs => cs
  match cs with
  | '0' :: x :: r =>
    if (x == 'x' || x == 'X') && !r.isEmpty then r.all Scan.isHex && r.length ≤ 8
    else (x :: r).all Char.isDigit && Value.digitsValue ('0' :: x :: r) ≤ 2147483648
  | _ => !cs.isEmpty && cs.all Char.isDigit && cs.length ≤ 11 && Value.digitsValue cs ≤ 2147483648

/-- The failure of a check pragma given a table to check that does not exist: the
argument of `integrity_check` and `quick_check` that is no number, and that of
`foreign_key_check`, names a table, looked up in the pragma's schema when it names one. -/
def pragmaTableFault (catalog : Catalog) (schema : Option Name) (name : Name)
    (value : Option PragmaValue) : Option String :=
  let word := name.text.map Char.toLower
  match value with
  | some v =>
    let given := (if v.negative then "-" else "") ++ v.text
    let checks := word == "integrity_check" || word == "quick_check"
    if !(checks || word == "foreign_key_check") || (checks && isInt32Text given) then none
    else
      match catalog.relation? (schema.map (·.text)) given with
      | some _ => none
      | none =>
        let shown := match schema with
          | some s => ((catalog.schemaName? s.text).getD s.text) ++ "."
          | none => ""
        some ("no such table: " ++ shown ++ given)
  | none => none

/-- The failure of preparing a statement on a catalog, if any. `params` holds when the
statement uses parameters. -/
def prepareFault (catalog : Catalog) (params enforced : Bool) (s : Stmt) : Except String Unit := do
  let env : Env := { catalog }
  match s with
  | .select q =>
    resolveQuery env checkFuel q
    selectFault checkFuel env false q
  | .insert ctes _ target cols source upserts returning =>
    insertFault catalog (env.withCtes ctes) target cols source upserts returning
    if let some sub := catalog.subject? target.table then
      triggersFault checkFuel catalog enforced [] sub .insert
      for u in upserts do
        if let some (set, _) := u.update then
          triggersFault checkFuel catalog enforced [] sub (.update set.columnNames)
    catalog.foreignKeyFault enforced target.table .insert (source.several catalog target.table)
  | .update ctes _ target set source filter returning =>
    updateFault catalog (env.withCtes ctes) target set source filter returning
    if let some sub := catalog.subject? target.table then
      triggersFault checkFuel catalog enforced [] sub (.update set.columnNames)
    catalog.foreignKeyFault enforced target.table (.update set.columnNames) true
  | .delete ctes target filter returning =>
    deleteFault catalog (env.withCtes ctes) target filter returning
    if let some sub := catalog.subject? target.table then
      triggersFault checkFuel catalog enforced [] sub .delete
    catalog.foreignKeyFault enforced target.table .delete true
  | .createTable temp ine name body =>
    let (_, live) ← Parse.startFault catalog temp false ine name
    if !live then return
    match body with
    | .columns cols cons withoutRowid strict =>
      tableEndFault env name.name.text cols cons withoutRowid strict
    | .query q =>
      resolveQuery env checkFuel q
      selectFault checkFuel env false q
  | .createView temp ine name _ q => discard (viewCreateFault catalog params temp ine name q)
  | .createIndex _ ine name table terms filter =>
    discard (indexCreateFault catalog ine name table terms filter)
  | .createTrigger temp ine name _ _ table condition body =>
    let sn := triggerSchema catalog temp name table
    let exists_ := ((catalog.schema? sn).bind (·.trigger? name.name.text)).isSome
    if ine && exists_ then return
    triggerCreateFault catalog temp name table condition body
  | .createVirtual ine name _ _ => discard (Parse.startFault catalog false false ine name)
  | .drop kind ie name => dropFault catalog kind ie name
  | .pragma schema name value =>
    if let some s := schema then discard (schemaFault catalog s)
    if let some f := pragmaTableFault catalog schema name value then throw f
  | .vacuum schema into =>
    if let some s := schema then discard (schemaFault catalog s)
    if let some e := into then
      resolveTop checkFuel env [{ sources := [] }] e
      exprFault checkFuel env false false e
  | .analyze target => analyzeFault catalog target
  | .reindex target => reindexFault catalog target
  | .attach file schema key => attachFault catalog ([file, schema] ++ key.toList)
  | .detach schema => attachFault catalog [schema]
  | .renameTable q n => renameTableFault catalog q n
  | .renameColumn q old _ => columnAlterFault catalog q old false
  | .dropColumn q col => columnAlterFault catalog q col true
  | .addColumn _ column => addColumnFault column
  | _ => pure ()

end Foreman.Sql
