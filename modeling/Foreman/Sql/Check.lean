import Foreman.Sql.Eval
import Foreman.Sql.Syntax.Statement

/-!
# Preparing a statement

A parsed statement is checked against the catalog before it runs, refused in the order the
engine meets the failure:

* the objects it names must exist and allow what it does (`no such table: t`, `table
  sqlite_master may not be modified`, `cannot modify v because it is a view`, `use DROP
  VIEW to delete view v`, ...);
* its expressions' names are resolved (`Resolve`);
* building its program refuses what no program can do: a row value where one value is
  needed (`row value misused`, `sub-select returns 2 columns - expected 1`), `RAISE` outside
  a trigger, a hexadecimal literal past 64 bits, an unknown collation where values compare.

A statement that passes is bound and run by the session.
-/

namespace Foreman.Sql

/-- The fuel resolution and checking get: more levels than any statement has. -/
def checkFuel : Nat := 100000

/-- A name as messages show an item of a `FROM` clause: with its schema when one was
written. -/
def QName.label (q : QName) : String :=
  match q.schema with
  | some s => s.text ++ "." ++ q.name.text
  | none => q.name.text

def knownCollation (c : String) : Bool := Parse.collations.any (sameName · c)

/-- The collation an expression compares with when one was written: the first `COLLATE`
found going down its left side first. -/
def Expr.collation? : Nat → Expr → Option Name
  | 0, _ => none
  | fuel + 1, e =>
    match e with
    | .collate _ c => some c
    | .binary _ l r => (Expr.collation? fuel l).orElse fun _ => Expr.collation? fuel r
    | .unary _ a => Expr.collation? fuel a
    | _ => none

/-- The failure of comparing values under the collation of some operands, if it does
not exist. -/
def collationFault (es : List Expr) : Except String Unit :=
  match es.findSome? (Expr.collation? 64) with
  | some c => if knownCollation c.text then .ok () else .error ("no such collation sequence: " ++ c.text)
  | none => .ok ()

def BinaryOp.compares (op : BinaryOp) : Bool :=
  [BinaryOp.eq, .ne, .lt, .le, .gt, .ge, .is, .isNot].contains op

/-- The message for a row value where `want` values are needed: a subquery says how many
columns it returns. -/
def vectorFault (env : Env) (e : Expr) (want : Nat) : String :=
  match e with
  | .subquery q => "sub-select returns " ++ toString (q.widthIn env checkFuel) ++
      " columns - expected " ++ toString want
  | _ => "row value misused"

/-- The name of the first call of an aggregate (not over a window) an expression holds at
its own level, outside its subqueries. -/
def Expr.aggregateCall? : Nat → Expr → Option String
  | 0, _ => none
  | fuel + 1, e =>
    let here := match e with
      | .call fn _ args _ _ _ none =>
        match lookupFunction fn.text args.length with
        | .found f => if f.kind == FunctionKind.aggregate then some fn.text else none
        | _ => none
      | _ => none
    here.orElse fun _ => e.parts.findSome? fun (p : Part) => match p with
      | .expr x => Expr.aggregateCall? fuel x
      | .query _ => none

/-- Whether an expression holds, at its own level, a call of an aggregate (not over a
window) that takes `DISTINCT` with other than one argument. -/
def Expr.holdsWideDistinct : Nat → Expr → Bool
  | 0, _ => false
  | fuel + 1, e =>
    let here := match e with
      | .call fn true args _ _ _ none =>
        args.length != 1 && match lookupFunction fn.text args.length with
          | .found f => f.kind == FunctionKind.aggregate
          | _ => false
      | _ => false
    here || e.parts.any fun (p : Part) => match p with
      | .expr x => Expr.holdsWideDistinct fuel x
      | .query _ => false

/-- The failure of an aggregate where the program of a query cannot compute one: in the
`WHERE` of a query that folds rows, or in the order of one that does not. -/
def misusedAggregate (es : List Expr) : Except String Unit :=
  match es.findSome? (Expr.aggregateCall? checkFuel) with
  | some n => .error ("misuse of aggregate: " ++ n ++ "()")
  | none => .ok ()

/-- The queries of the items of a `FROM` clause that are built with the query: its
subqueries and the queries of the views it reads, each with the environment it is read
in. The queries of common table expressions are built with their `WITH` clause. -/
def builtQueries (env : Env) : List FromItem → List (Env × Select)
  | [] => []
  | item :: rest =>
    let here : List (Env × Select) := match item with
      | .subquery q _ _ _ _ => [(env, q)]
      | .nested inner _ _ _ _ => builtQueries env inner
      | .table schema name args _ _ _ _ _ =>
        let cte := schema.isNone && args.isNone && (env.cte? name.text).isSome
        if cte then []
        else match env.catalog.relation? ((schema.map (·.text)).orElse fun _ => env.fixed) name.text with
          | some (.view sn v) =>
            if env.expanding.any (sameName · v.name) then []
            else [({ catalog := env.catalog, fixed := if sn == "temp" then none else some sn,
                     expanding := v.name :: env.expanding }, v.query)]
          | _ => []
    here ++ builtQueries env rest

/-- The name of the last call of an aggregate not over a window at an expression's own
level, in the order the expression's program is built. -/
def Expr.lastAggregate : Nat → Expr → Option String
  | 0, _ => none
  | fuel + 1, e =>
    let inner := (e.parts.filterMap fun p => match p with
      | .expr x => Expr.lastAggregate fuel x
      | .query _ => none).getLast?
    match e with
    | .call fn _ args _ _ _ none =>
      match lookupFunction fn.text args.length with
      | .found f => if f.kind == .aggregate then some fn.text else inner
      | _ => inner
    | _ => inner

/-- The failure of producing a `VALUES` list's rows as plain rows of constants, as a list of
several rows none of which joined a run of constant rows is when it is a query of its own and
no row uses a window: an aggregate there has no group to fold, and the last built is reported. -/
def plainRowsFault (rows : List (List Expr)) : Except String Unit :=
  if rows.any (·.any (Expr.holdsCall true checkFuel)) then .ok () else
  match (rows.flatten.filterMap (Expr.lastAggregate checkFuel)).getLast? with
  | some name => .error ("misuse of aggregate: " ++ name ++ "()")
  | none => .ok ()

mutual

/-- The failure of building the program of an expression, if any. `many` holds where a
row value may stand (an operand of a comparison); `trigger` inside a trigger's body. -/
def exprFault : Nat → Env → Bool → Bool → Expr → Except String Unit
  | 0, _, _, _, _ => .ok ()
  | fuel + 1, env, trigger, many, e => do
    let width := fun (x : Expr) => x.widthWith (Select.widthIn env checkFuel)
    match e with
    | .integer t =>
      if hexTooBig t false then throw ("hex literal too big: " ++ t)
    | .unary .neg (.integer t) =>
      if hexTooBig t true then throw ("hex literal too big: -" ++ t)
    | .vector items =>
      if !many then throw "row value misused"
      for x in items do exprFault fuel env trigger false x
    | .subquery q =>
      let w := q.widthIn env checkFuel
      if !many && w != 1 then
        throw ("sub-select returns " ++ toString w ++ " columns - expected 1")
      selectFault fuel env trigger q
    | .binary op l r =>
      if op.compares then
        collationFault [l, r]
        exprFault fuel env trigger true l
        exprFault fuel env trigger true r
      else
        exprFault fuel env trigger false l
        exprFault fuel env trigger false r
    | .between _ a lo hi =>
      collationFault [a, lo, hi]
      for x in [a, lo, hi] do exprFault fuel env trigger true x
    | .inList _ a items =>
      if items.isEmpty then return
      if width a != 1 then throw (vectorFault env a 1)
      collationFault [a]
      exprFault fuel env trigger false a
      for x in items do exprFault fuel env trigger false x
    | .inSelect _ a q =>
      let w := q.widthIn env checkFuel
      if w != width a then
        throw ("sub-select returns " ++ toString w ++ " columns - expected " ++ toString (width a))
      exprFault fuel env trigger true a
      selectFault fuel env trigger q
    | .inTable _ a s t args =>
      let q := tableQuery s t args
      let w := q.widthIn env checkFuel
      if w != width a then
        throw ("sub-select returns " ++ toString w ++ " columns - expected " ++ toString (width a))
      exprFault fuel env trigger true a
      selectFault fuel env trigger q
    | .exists q => selectFault fuel env trigger q
    | .raise _ m =>
      if !trigger then throw "RAISE() may only be used within a trigger-program"
      if let some x := m then exprFault fuel env trigger false x
    | _ =>
      for p in e.parts do
        match p with
        | .expr x => exprFault fuel env trigger false x
        | .query q => selectFault fuel env trigger q

/-- The failure of building the program of a query, if any: its common table
expressions, then its parts. -/
def selectFault : Nat → Env → Bool → Select → Except String Unit
  | 0, _, _, _ => .ok ()
  | fuel + 1, env, trigger, sel => do
    let env := env.withCtes sel.ctes
    for c in sel.ctes do
      match c with
      | .mk _ _ body => selectFault fuel env trigger body
    for (_, core) in sel.units do coreFault fuel env trigger (sel.units.length == 1) core
    match sel with
    | .mk _ (.values rows false) [] => if rows.length > 1 then plainRowsFault rows
    | _ => pure ()

/-- The failure of building the program of one part of a query, if any: its limit, sources,
`WHERE`, results, grouping and order. A standalone query's order is built only when it can
change the rows' order: not without `FROM`, nor for the single row of an aggregate without
`GROUP BY`. -/
def coreFault : Nat → Env → Bool → Bool → Core → Except String Unit
  | 0, _, _, _, _ => .ok ()
  | fuel + 1, env, trigger, alone, core => do
    match core with
    | .values rows joined =>
      for e in rows.flatten do exprFault fuel env trigger false e
      if rows.length > 1 && !joined then plainRowsFault rows
    | .select _ cols source filter groupBy having _ orderBy limit =>
      if let some (l, o) := limit then
        for x in l :: o.toList do exprFault fuel env trigger false x
      for (qenv, q) in builtQueries env source do selectFault fuel qenv trigger q
      for x in itemArgs source do exprFault fuel env trigger false x
      if let some (name, most) := crowdedTable source then
        throw s!"too many arguments on {name}() - max {most}"
      let results := cols.filterMap fun c => match c with
        | .expr x _ _ => some x
        | _ => none
      let folds := !groupBy.isEmpty || results.any (·.holdsCall false checkFuel)
      if folds then misusedAggregate filter.toList
      for x in filter.toList do exprFault fuel env trigger false x
      for x in results do exprFault fuel env trigger false x
      collationFault groupBy
      for x in groupBy do exprFault fuel env trigger false x
      for x in having.toList do exprFault fuel env trigger false x
      let ordered := !alone || !(source.isEmpty || (folds && groupBy.isEmpty))
      if !folds && ordered then misusedAggregate (orderBy.map (·.expr))
      for t in orderBy do
        collationFault [t.expr]
        if ordered then exprFault fuel env trigger false t.expr
      let folded := results ++ having.toList ++ (if ordered then orderBy.map (·.expr) else [])
      if folds && folded.any (Expr.holdsWideDistinct checkFuel) then
        throw "DISTINCT aggregates must have exactly one argument"

end

/-- The source a statement's expressions see for the table it writes: under its alias
when it has one. -/
def targetSource (name : String) (sn : String) (t : Table) : Source :=
  { name, schema := some sn, columns := t.visibleColumns, rowid := t.hasRowid && t.module.isNone }

/-- The environment a view's query is read in: its names stand in the view's schema. -/
def viewEnv (catalog : Catalog) (sn : String) : Env :=
  { catalog, fixed := if sn == "temp" then none else some sn }

/-- The failure of reading a view's columns, if any: its query must resolve, and give as
many columns as the view names. -/
def viewFault (catalog : Catalog) (sn : String) (v : View) : Except String Unit := do
  let env := viewEnv catalog sn
  resolveQuery env checkFuel v.query
  let names ← expandSelect checkFuel env v.query
  if !v.columns.isEmpty && v.columns.length != names.length then
    throw ("expected " ++ toString v.columns.length ++ " columns for '" ++ v.name ++
      "' but got " ++ toString names.length)

/-- Whether a trigger of the catalog fires on a table or view of a name. -/
def Catalog.triggered (c : Catalog) (name : String) : Bool :=
  c.searchOrder.any fun (_, s) => s.triggers.any (sameName ·.table name)

/-- The table a statement writes to, with its schema, or the failure of naming it: a
table that does not exist, one no statement may change, or a view with no trigger to do
the work. A view with a trigger is `none`: its trigger does the work. -/
def writableTable (catalog : Catalog) (q : QName) : Except String (Option (String × Table)) := do
  match catalog.relation? (q.schema.map (·.text)) q.name.text with
  | some (.table sn t) =>
    if isSchemaTableName sn t.name then throw ("table " ++ t.name ++ " may not be modified")
    return some (sn, t)
  | some (.view sn v) =>
    viewFault catalog sn v
    if catalog.triggered v.name then return none
    throw ("cannot modify " ++ v.name ++ " because it is a view")
  | none =>
    if (builtinTable? q.name.text).isSome && (q.schema.map (sameName ·.text "main")).getD true then
      throw ("table " ++ q.name.text.map Char.toLower ++ " may not be modified")
    throw ("no such table: " ++ q.label)

/-- The failure of a key's terms written with `NULLS FIRST` or `NULLS LAST`, which only
an `ORDER BY` may use. The message names where the nulls were asked to go: `FIRST` when
that is where they go anyway. -/
def nullsFault (terms : List OrderTerm) : Except String Unit :=
  match terms.find? (fun t => match t with | .mk _ _ n => n.isSome) with
  | some (.mk _ desc (some first)) =>
    let asDefault := (desc == some true) != first
    .error ("unsupported use of NULLS " ++ if asDefault then "FIRST" else "LAST")
  | _ => .ok ()

/-- The failure of a `RETURNING` clause, if any: read as a query of the table, then each
expression once more where no aggregate may stand, and `T.*` is refused. -/
def returningFault (catalog : Catalog) (env : Env) (sn : String) (t : Table)
    (cols : List ResultColumn) : Except String Unit := do
  let q : Select := .mk [] (.select false cols
    [.table (some ⟨sn, sn⟩) ⟨t.name, t.name⟩ none none none .inner none none] none [] none [] [] none) []
  resolveQuery env checkFuel q
  if cols.any (fun c => match c with | .tableStar _ => true | _ => false) then
    throw "RETURNING may not use \"TABLE.*\" wildcards"
  let frame : Frame := { sources := [targetSource t.name sn t] }
  let _ := catalog
  for c in cols do
    if let .expr e _ _ := c then resolveTop checkFuel env [frame] e

/-- The unique keys of a table: those its definition made and the unique indexes made
on it after, each as its columns, with the condition of the rows it holds when it holds
only some. -/
def uniqueKeys (catalog : Catalog) (sn : String) (t : Table) : List (List (Option Nat) × Option Expr) :=
  let made := t.keys.map fun k => (k.columns.map some, none)
  let indexes := ((catalog.schema? sn).map (·.indexes)).getD []
  made ++ (indexes.filter fun i => i.unique && !i.automatic && sameName i.table t.name).map
    fun i => (i.columns, i.filter)

/-- The column of a table a name stands for, `none` for the row number, if it names one. -/
def namedColumn (t : Table) (n : Name) : Option (Option Nat) :=
  match t.columnIndex n.text with
  | some j => if t.rowidAlias == some j then some none else some (some j)
  | none => if isRowidName n.text && t.hasRowid then some none else none

/-- The column of a table a resolved term names, `none` for the row number. -/
def termColumn (t : Table) (e : Expr) : Option (Option Nat) :=
  match e.uncollated with
  | .column n _ | .qualified _ _ n => namedColumn t n
  | _ => none

/-- Whether two expressions over a table's columns are written alike: same operators and
literals as written, function and collation names alike but for case, names of one column
however qualified. A partial index serves an `ON CONFLICT` target only when the target's
condition is written alike its own. -/
def Expr.alike (t : Table) : Nat → Expr → Expr → Bool
  | 0, _, _ => false
  | fuel + 1, a, b =>
    let same := Expr.alike t fuel
    let sameAll := fun (xs ys : List Expr) =>
      xs.length == ys.length && (xs.zip ys).all fun (x, y) => same x y
    let sameOpt := fun (x y : Option Expr) => match x, y with
      | none, none => true
      | some x, some y => same x y
      | _, _ => false
    let named := fun (e : Expr) => match e with
      | .column n _ => some n
      | .qualified _ _ n => some n
      | _ => none
    match named a, named b with
    | some n, some m => match namedColumn t n, namedColumn t m with
      | some x, some y => x == y
      | none, none => n.text == m.text
      | _, _ => false
    | some _, none | none, some _ => false
    | none, none =>
      match a, b with
      | .null, .null => true
      | .integer x, .integer y | .float x, .float y | .string x, .string y
      | .blob x, .blob y => x == y
      | .call f d xs s o w v, .call g e ys r p x u =>
        sameName f.text g.text && d == e && s == r && sameAll xs ys &&
          o.isEmpty && p.isEmpty && w.isNone && x.isNone && v.isNone && u.isNone
      | .unary o x, .unary p y => o == p && same x y
      | .binary o x y, .binary p z w => o == p && same x z && same y w
      | .like n w x y e, .like m v z u f =>
        n == m && sameName w v && same x z && same y u && sameOpt e f
      | .isNull x, .isNull y | .notNull x, .notNull y => same x y
      | .between n x y z, .between m u v w => n == m && same x u && same y v && same z w
      | .inList n x xs, .inList m y ys => n == m && same x y && sameAll xs ys
      | .case o arms e, .case p brms f =>
        sameOpt o p && sameOpt e f && arms.length == brms.length &&
          (arms.zip brms).all fun ((x, y), (z, w)) => same x z && same y w
      | .cast x n, .cast y m => n == m && same x y
      | .collate x n, .collate y m => sameName n.text m.text && same x y
      | .vector xs, .vector ys => sameAll xs ys
      | _, _ => false

/-- Whether an `ON CONFLICT` target's condition suits a key: any does for a key of all
rows, and one written alike the index's own for a partial index. -/
def conditionSuits (t : Table) (target : Option Expr) (filter : Option Expr) : Bool :=
  match filter, target with
  | none, _ => true
  | some f, some w => Expr.alike t checkFuel w f
  | some _, none => false

/-- The failure of the targets of `ON CONFLICT` clauses: each must name the row number or
the columns of a unique key. -/
def upsertTargetFault (catalog : Catalog) (env : Env) (frame : Frame) (sn : String) (t : Table)
    (upserts : List Upsert) : Except String Unit := do
  let n := upserts.length
  for (u, k) in upserts.zipIdx do
    if u.target.isEmpty then continue
    resolveList checkFuel env [frame] (u.target.map (·.expr))
    if let some w := u.targetWhere then resolveTop checkFuel env [frame] w
    let cols := u.target.map (termColumn t ·.expr)
    if cols == [some none] then continue
    let matched := (uniqueKeys catalog sn t).any fun (key, filter) =>
      conditionSuits t u.targetWhere filter && key.length == cols.length &&
        key.all fun c => cols.contains (some c)
    if !matched then
      let which := if k == 0 && n == 1 then "" else ordinal (k + 1) ++ " "
      throw (which ++ "ON CONFLICT clause does not match any PRIMARY KEY or UNIQUE constraint")

/-- The failure of naming the columns a statement assigns: each must be a column of the
table that is not generated, or its row number. -/
def assignedFault (t : Table) (what : String) (c : Name) : Except String Unit :=
  match t.columnIndex c.text with
  | some j =>
    let col := t.columns.getD j default
    if col.generated && t.rowidAlias != some j then
      .error ("cannot " ++ what ++ " generated column \"" ++ col.name ++ "\"")
    else .ok ()
  | none =>
    if isRowidName c.text && t.hasRowid then .ok ()
    else .error ("no such column: " ++ c.text)

/-- The failure of building the assignments of an `UPDATE` (or of `DO UPDATE`): a value
given to several columns must be a row of as many values. -/
def assignmentsBuildFault (env : Env) (set : Assignments) : Except String Unit := do
  for (cols, e) in set do
    if cols.length > 1 then
      match e with
      | .subquery q =>
        let w := q.widthIn env checkFuel
        if w != cols.length then
          throw (toString cols.length ++ " columns assigned " ++ toString w ++ " values")
        selectFault checkFuel env env.inTrigger q
      | _ => exprFault checkFuel env env.inTrigger true e
    else exprFault checkFuel env env.inTrigger false e

def insertFault (catalog : Catalog) (env : Env) (target : Target) (columns : Option (List Name))
    (source : InsertSource) (upserts : List Upsert) (returning : Option (List ResultColumn)) :
    Except String Unit := do
  let label := match target.asName with
    | some a => a.text
    | none => target.table.label
  let some (sn, t) ← writableTable catalog target.table | return ()
  if let some cs := columns then
    for c in cs do
      match t.columnIndex c.text with
      | some j =>
        let col := t.columns.getD j default
        if col.generated then throw ("cannot INSERT into generated column \"" ++ col.name ++ "\"")
      | none =>
        if !(isRowidName c.text && t.hasRowid) then
          throw ("table " ++ label ++ " has no column named " ++ c.text)
  let single := match source with
    | .query (.mk [] (.values [row] _) []) => some row
    | _ => none
  let n ← match source, single with
    | _, some row => do
      resolveList checkFuel env [{ sources := [] }] row
      pure row.length
    | .query q, none => do
      resolveQuery env checkFuel q
      selectFault checkFuel env env.inTrigger q
      pure (q.widthIn env checkFuel)
    | .defaults, none => pure 0
  let visible := (t.columns.toList.filter fun c => !c.hidden && !c.generated).length
  match columns with
  | none =>
    if n > 0 && n != visible then
      throw ("table " ++ label ++ " has " ++ toString visible ++ " columns but " ++ toString n ++
        " values were supplied")
  | some cs =>
    if n != cs.length then throw (toString n ++ " values for " ++ toString cs.length ++ " columns")
  let self := targetSource label sn t
  if !upserts.isEmpty then
    if t.module.isSome then throw ("UPSERT not implemented for virtual table \"" ++ t.name ++ "\"")
    for u in upserts do nullsFault u.target
    upsertTargetFault catalog env { sources := [self] } sn t upserts
  if let some row := single then
    for e in row do exprFault checkFuel env env.inTrigger false e
  let excluded : Source := { name := "excluded", columns := t.visibleColumns, qualifiedOnly := true }
  for u in upserts do
    if let some (set, cond) := u.update then
      let frame : Frame := { sources := [self, excluded] }
      for (cols, e) in set do
        resolveTop checkFuel env [frame] e
        for c in cols do assignedFault t "UPDATE" c
      if let some w := cond then resolveTop checkFuel env [frame] w
      assignmentsBuildFault env set
  if let some cols := returning then returningFault catalog env sn t cols

/-- The tables a `FROM` clause names as its own items: its table items, and those of joins
in parentheses without a name, which the clause takes in as its own. Each is its schema,
its name and the name it is given. -/
def namedTables : Nat → List FromItem → List (Option Name × Name × Option Name)
  | 0, _ => []
  | fuel + 1, items => items.flatMap fun item => match item with
    | .table schema name none asName _ _ _ _ => [(schema, name, asName)]
    | .nested inner none _ _ _ => namedTables fuel inner
    | _ => []

/-- The failure of an `UPDATE`'s `FROM` clause naming the target again: the same table
under the same name, or under no name as the target has none. -/
def updateSourceFault (env : Env) (target : Target) (sn : String) (t : Table)
    (source : List FromItem) : Except String Unit := do
  for (schema, name, asName) in namedTables checkFuel source do
    let cte := schema.isNone && (env.cte? name.text).isSome
    let same := !cte && match env.catalog.relation? ((schema.map (·.text)).orElse fun _ => env.fixed) name.text with
      | some (.table un u) => un == sn && sameName u.name t.name
      | _ => false
    let sameAlias := match target.asName, asName with
      | none, none => true
      | some a, some b => sameName a.text b.text
      | _, _ => false
    if same && sameAlias then
      throw ("target object/alias may not appear in FROM clause: " ++ (target.asName.map (·.text)).getD t.name)

def updateFault (catalog : Catalog) (env : Env) (target : Target) (set : Assignments)
    (source : List FromItem) (filter : Option Expr) (returning : Option (List ResultColumn)) :
    Except String Unit := do
  let label := match target.asName with
    | some a => a.text
    | none => target.table.name.text
  let some (sn, t) ← writableTable catalog target.table | return ()
  let self := targetSource label sn t
  if source.isEmpty then
    let frame : Frame := { sources := [self] }
    for (cols, e) in set do
      resolveTop checkFuel env [frame] e
      for c in cols do assignedFault t "UPDATE" c
    if let some w := filter then resolveTop checkFuel env [frame] w
  else
    for (cols, _) in set do
      for c in cols do assignedFault t "UPDATE" c
    let more ← fromSources checkFuel env source
    for (qenv, q) in itemQueries env checkFuel source do resolveSelect checkFuel qenv [] q
    let frame : Frame := { sources := self :: more }
    resolveList checkFuel env [frame] (set.map (·.2))
    if let some w := filter then resolveTop checkFuel env [frame] w
    updateSourceFault env target sn t source
  assignmentsBuildFault env set
  if let some w := filter then exprFault checkFuel env env.inTrigger false w
  if let some cols := returning then returningFault catalog env sn t cols

def deleteFault (catalog : Catalog) (env : Env) (target : Target) (filter : Option Expr)
    (returning : Option (List ResultColumn)) : Except String Unit := do
  let label := match target.asName with
    | some a => a.text
    | none => target.table.name.text
  let some (sn, t) ← writableTable catalog target.table | return ()
  if let some w := filter then
    resolveTop checkFuel env [{ sources := [targetSource label sn t] }] w
    exprFault checkFuel env env.inTrigger false w
  if let some cols := returning then returningFault catalog env sn t cols

def strictTypes : List String := ["INT", "INTEGER", "REAL", "TEXT", "BLOB", "ANY"]

/-- The column names and the row number a table's own expressions see while it is being
defined. -/
def draftSource (name : String) (cols : List ColumnDef) (withoutRowid : Bool) : Source :=
  { name, columns := cols.map (·.name.text), rowid := !withoutRowid }

/-- The failures found when a table's definition ends, the last standing: a strict table's
columns need known datatypes; a table without row numbers needs a primary key and may not
count rows up; checks and generated columns must resolve against its columns; and not every
column may be generated. -/
def tableEndFault (env : Env) (name : String) (cols : List ColumnDef) (cons : List TableConstraint)
    (withoutRowid strict : Bool) : Except String Unit := do
  if strict then
    for c in cols do
      let ty := dequote c.type
      if !strictTypes.any (sameName · ty) then
        if c.type.isEmpty then throw ("missing datatype for " ++ name ++ "." ++ c.name.text)
        throw ("unknown datatype for " ++ name ++ "." ++ c.name.text ++ ": \"" ++ ty ++ "\"")
  let columnKeys := cols.flatMap fun c => c.constraints.filterMap fun k => match k with
    | .primaryKey _ _ autoinc => some autoinc
    | _ => none
  let tableKeys := cons.filterMap fun k => match k with
    | .primaryKey _ autoinc _ => some autoinc
    | _ => none
  if withoutRowid then
    if (columnKeys ++ tableKeys).any id then
      throw "AUTOINCREMENT not allowed on WITHOUT ROWID tables"
    if (columnKeys ++ tableKeys).isEmpty then throw ("PRIMARY KEY missing on table " ++ name)
  let self := draftSource name cols withoutRowid
  let checks := cols.flatMap (fun c => c.constraints.filterMap fun k => match k with
      | .check e _ => some e
      | _ => none) ++
    cons.filterMap fun k => match k with
      | .check e _ => some e
      | _ => none
  let mut last : Option String := none
  match resolveList checkFuel env [{ sources := [self], context := some "CHECK constraints" }] checks with
  | .error m => last := some m
  | .ok () => pure ()
  let generated := cols.filterMap fun c => c.constraints.findSome? fun k => match k with
    | .generated e _ => some e
    | _ => none
  for g in generated do
    match resolveTop checkFuel env [{ sources := [self], context := some "generated columns" }] g with
    | .error m => last := some m
    | .ok () => pure ()
  if !generated.isEmpty && generated.length == cols.length then
    last := some "must have at least one non-generated column"
  if let some m := last then throw m

/-- A mark a walk over a view's or trigger's text leaves: a table named with its schema,
or a parameter. -/
inductive FixMark where
  | table (schema : Name)
  | param
  deriving Inhabited

def sourceMarks (items : List FromItem) : List FixMark :=
  items.filterMap fun it => match it with
    | .table (some s) _ _ _ _ _ _ _ => some (FixMark.table s)
    | _ => none

mutual

/-- The marks of a query, in the order a view's or trigger's text is checked: each part
from the last, its own sources first (and the common table expressions of the last
part's clause), then its expressions, then the queries of its sources. -/
def selectMarks : Nat → Select → List FixMark
  | 0, _ => []
  | fuel + 1, sel =>
    let cores := sel.cores.reverse
    (cores.zipIdx.map fun (c, i) =>
      sourceMarks c.source ++
        (if i == 0 then (sel.ctes.map fun d => match d with
          | .mk _ _ body => selectMarks fuel body).flatten else []) ++
        (c.exprs.map (exprMarks fuel)).flatten ++
        (c.source.map (itemMarks fuel)).flatten).flatten

/-- The marks below one item of a `FROM` clause: its query, its arguments and its
condition. -/
def itemMarks : Nat → FromItem → List FixMark
  | 0, _ => []
  | fuel + 1, item =>
    match item with
    | .table _ _ args _ _ _ on _ =>
      ((args.getD []).map (exprMarks fuel)).flatten ++ (on.toList.map (exprMarks fuel)).flatten
    | .subquery q _ _ on _ => selectMarks fuel q ++ (on.toList.map (exprMarks fuel)).flatten
    | .nested items _ _ on _ =>
      sourceMarks items ++ (items.map (itemMarks fuel)).flatten ++ (on.toList.map (exprMarks fuel)).flatten

def exprMarks : Nat → Expr → List FixMark
  | 0, _ => []
  | fuel + 1, e =>
    let here := match e with
      | .param _ _ => [FixMark.param]
      | .inTable _ _ (some s) _ _ => [FixMark.table s]
      | _ => []
    here ++ (e.parts.map fun p => match p with
      | .expr x => exprMarks fuel x
      | .query q => selectMarks fuel q).flatten

end

end Foreman.Sql
