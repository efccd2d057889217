import Foreman.Sql.Functions
import Foreman.Sql.Syntax.Parse
import Foreman.Sql.Collating
import Foreman.Sql.PragmaTable

/-!
# Resolving names

Every name of a statement is matched to what it names in two passes over each query. The
first expands each part of a compound query, the last first: its `FROM` items are found, its
joins checked, its stars replaced by columns; a missing table is `no such table: T`. The
second resolves, again from the last part, `LIMIT` and `OFFSET`, the subqueries of `FROM`, the
result columns, `HAVING`, `WHERE`, `ORDER BY` and `GROUP BY`, and checks the column counts. A
name is looked up in its query's sources, then those of the queries around it; in a list, the
first failing expression ends it.
-/

namespace Foreman.Sql

/-- A source of rows as a query's names see it: the name qualified references use (alias,
else table name), a table's schema, its columns, whether `rowid` names its row numbers, the
columns shared with earlier sources by `USING` or `NATURAL`, and whether only names qualified
by it reach it (`excluded`, and a trigger's `new` and `old`). -/
structure Source where
  name : String
  schema : Option String := none
  columns : List String
  rowid : Bool := false
  shared : List String := []
  qualifiedOnly : Bool := false
  /-- The affinity and collation of each column, where known. -/
  kinds : List ColumnKind := []
  deriving Inhabited

/-- The row of one source: its values, in the order of the source's columns, and its row
number. -/
structure SourceRow where
  source : Source
  values : Array Value
  rowid : Option Int := none
  deriving Inhabited

/-- A common table expression in scope: its name, the names it gives its columns, and its
query. -/
structure CteDef where
  name : String
  columns : List Name
  body : Select
  deriving Inhabited

/-- What names are looked up in: the catalog; the common table expressions in scope, by
`WITH` clause from the innermost; expressions refused now with the reason (one referring to
itself); those a recursive part reads directly, with their columns; the schema table names
stand in while a view's query is read, and the views being read, which may not read
themselves; the trigger rows `new` and `old` at every level (while a trigger is prepared only
their sources count); and whether written rows are held to the tables' checks. -/
structure Env where
  catalog : Catalog
  ctes : List (List CteDef) := []
  blocked : List (String × String) := []
  bound : List (String × List String) := []
  fixed : Option String := none
  expanding : List String := []
  pseudo : List SourceRow := []
  checks : Bool := true
  deriving Inhabited

namespace Env

def withCtes (env : Env) (ctes : List Cte) : Env :=
  if ctes.isEmpty then env
  else { env with ctes := ctes.map (fun c => match c with | .mk n cols body => ⟨n.text, cols, body⟩) :: env.ctes }

/-- A common table expression by name, with the environment its query is read in. -/
def cte? (env : Env) (name : String) : Option (CteDef × Env) :=
  let rec go : List (List CteDef) → Option (CteDef × Env)
    | [] => none
    | g :: rest =>
      match g.find? (sameName ·.name name) with
      | some d => some (d, { env with ctes := g :: rest })
      | none => go rest
  go env.ctes

end Env

/-- A result column after its stars are expanded: a column a star brought (its source and
name), or an expression with its alias and the text it was written as. -/
inductive Item where
  | column (source : Nat) (name : String)
  | expr (e : Expr) (asName : Option String) (span : String)
  deriving Inhabited

namespace Item

def alias? : Item → Option String
  | .expr _ a _ => a
  | _ => none

def expr? : Item → Option Expr
  | .expr e _ _ => some e
  | _ => none

end Item

def Expr.uncollated : Expr → Expr
  | .collate e _ => e.uncollated
  | e => e

/-- The name a result column gives its column: its alias, the name of a column it reads,
else the text it was written as. -/
def Item.baseName : Item → String
  | .column _ n => n
  | .expr e asName span =>
    match asName with
    | some a => a
    | none =>
      match e.uncollated with
      | .column n _ => n.text
      | .qualified _ _ c => c.text
      | _ => span

/-- Names made distinct: a name met before gets `:1`, `:2`, ... (after any such suffix it
had is taken off), and `true` or `false` is replaced by `columnN`. -/
def distinctNames (names : List String) : List String := Id.run do
  let mut out : Array String := #[]
  let mut i := 0
  for n in names do
    i := i + 1
    let base := if sameName n "true" || sameName n "false" then "column" ++ toString i else n
    let mut name := base
    let mut cnt := 0
    for _ in [0:out.size + 1] do
      if !out.any (sameName · name) then break
      let cs := name.toList
      let digits := (cs.reverse.takeWhile Char.isDigit).length
      let stem := if digits < cs.length && cs.getD (cs.length - digits - 1) ' ' == ':' && digits > 0
        then String.ofList (cs.take (cs.length - digits - 1)) else name
      cnt := cnt + 1
      name := stem ++ ":" ++ toString cnt
    out := out.push name
  return out.toList

def isRowidName (s : String) : Bool :=
  sameName s "rowid" || sameName s "oid" || sameName s "_rowid_"

/-- What sources say of the column a name reads: the kind of the first source that has the
column (a source of the named table, when the name is qualified); the row number has
integer affinity. -/
def Source.lookup (sources : List Source) : KindLookup := fun schema table col =>
  sources.findSome? fun s =>
    let named := match table with
      | none => !s.qualifiedOnly
      | some t => sameName t.text s.name && (match schema with
        | some sc => s.schema.any (sameName sc.text ·)
        | none => true)
    if !named then none
    else match s.columns.findIdx? (sameName · col) with
      | some j => some (s.kinds.getD j {})
      | none => if isRowidName col && s.rowid then some { affinity := some .integer } else none

/-- What a result column of a query says of its values, given the query's sources. -/
def Item.kind (sources : List Source) (fuel : Nat) : Item → ColumnKind
  | .column i nm =>
    let s := sources.getD i default
    match s.columns.findIdx? (sameName · nm) with
    | some j => s.kinds.getD j {}
    | none => {}
  | .expr e _ _ => e.kind (Source.lookup sources) (fun _ => none) fuel

/-- A number as messages write its place: `1st`, `2nd`, `3rd`, `4th`, `11th`, `21st`. -/
def ordinal (n : Nat) : String :=
  let suffix := if (n / 10) % 10 == 1 then "th"
    else match n % 10 with
      | 1 => "st"
      | 2 => "nd"
      | 3 => "rd"
      | _ => "th"
  toString n ++ suffix

/-- The columns of the table-valued functions that need no table: `json_each` and
`json_tree`. -/
def jsonTableColumns : List String :=
  ["key", "value", "type", "atom", "id", "parent", "fullkey", "path"]

def isJsonTable (name : String) : Bool := sameName name "json_each" || sameName name "json_tree"

/-- The tables that need no schema to be made in, the table-valued functions: the JSON
tables and the tables of pragmas, each with its columns and the number of its hidden
columns, which the function's arguments fill. -/
def builtinTable? (name : String) : Option (List String × Nat) :=
  if isJsonTable name then some (jsonTableColumns, 2)
  else (PragmaTable.shape? name).map fun sh => (sh.columns, sh.hidden)

def Table.visibleColumns (t : Table) : List String :=
  (t.columns.toList.filter (!·.hidden)).map (·.name)

/-- The query `SELECT * FROM t(args)` that `x IN t(args)` reads. -/
def tableQuery (schema : Option Name) (table : Name) (args : Option (List Expr)) : Select :=
  .mk [] (.select false [.star] [.table schema table args none none .inner none none] none [] none
    [] [] none) []

/-- The number of values an expression stands for, given the width of a query. -/
def Expr.widthWith (width : Select → Nat) : Expr → Nat
  | .vector items => items.length
  | .subquery q => width q
  | _ => 1

/-- The parts of a query, with the operator joining each to the part before it. Each row
of a first `VALUES` list is a part of its own, joined by `UNION ALL`; a later `VALUES` list
stays one part, a query of its own over its rows. -/
def Select.units (s : Select) : List (Option CompoundOp × Core) :=
  match s with
  | .mk _ first rest =>
    let head := match first with
      | .values (r :: more) _ =>
        (none, .values [r] false) :: more.map fun row => (some CompoundOp.unionAll, .values [row] false)
      | c => [(none, c)]
    head ++ rest.map fun (op, c) => (some op, c)

/-- The expressions of a part of a query, in the order the first pass walks them: results,
`WHERE`, `GROUP BY`, `HAVING`, `ORDER BY`, `LIMIT` and `OFFSET`, and the windows. -/
def Core.exprs : Core → List Expr
  | .values rows _ => rows.flatten
  | .select _ cols _ filter groupBy having windows orderBy limit =>
    (cols.filterMap fun c => match c with
      | .expr e _ _ => some e
      | _ => none) ++ filter.toList ++ groupBy ++ having.toList ++ orderBy.map (·.expr) ++
    (match limit with
      | some (l, o) => l :: o.toList
      | none => []) ++
    (windows.map fun (_, w) => match w with
      | .mk _ p o f _ => p ++ o.map (·.expr) ++ f).flatten

/-- The sources, result columns and windows of a part of a query. -/
def Core.source : Core → List FromItem
  | .select _ _ s _ _ _ _ _ _ => s
  | .values .. => []

/-- A part of a walk over an expression: an expression or a query. -/
inductive Part where
  | expr (e : Expr)
  | query (q : Select)
  deriving Inhabited

/-- The parts directly below an expression, in the order the walks visit them. A pattern
match is a call with its pattern first; `x IN ()` is a constant and has none. -/
def Expr.parts : Expr → List Part
  | .call _ _ args _ orderBy filter windowSpec =>
    args.map .expr ++ orderBy.map (.expr ·.expr) ++ (filter.toList.map .expr) ++
      (match windowSpec with
        | some (.mk _ p o f _) => p.map .expr ++ o.map (.expr ·.expr) ++ f.map .expr
        | none => [])
  | .unary _ a | .isNull a | .notNull a | .cast a _ | .collate a _ => [.expr a]
  | .binary _ a b => [.expr a, .expr b]
  | .like _ _ a b c => [.expr b, .expr a] ++ c.toList.map .expr
  | .between _ a b c => [.expr a, .expr b, .expr c]
  | .inList _ a xs => if xs.isEmpty then [] else .expr a :: xs.map .expr
  | .inSelect _ a q => [.expr a, .query q]
  | .inTable _ a s t args => [.expr a, .query (tableQuery s t args)]
  | .exists q | .subquery q => [.query q]
  | .case a arms d =>
    a.toList.map .expr ++ (arms.map fun (x, y) => [Part.expr x, .expr y]).flatten ++ d.toList.map .expr
  | .vector xs => xs.map .expr
  | .raise _ m => m.toList.map .expr
  | _ => []

/-- The expression a comparison with `IS` looks at on its right: the operand of a collation
or of a call of `likely`, `unlikely` or `likelihood`, which change no value. -/
def Expr.skipCollateAndLikely : Nat → Expr → Expr
  | 0, e => e
  | fuel + 1, e =>
    match e with
    | .collate x _ => Expr.skipCollateAndLikely fuel x
    | .call fn _ (x :: _) _ _ _ _ =>
      if ["likely", "unlikely", "likelihood"].any (sameName fn.text ·) then
        Expr.skipCollateAndLikely fuel x
      else e
    | _ => e

/-- Whether an expression is a probability as `likelihood` takes one: a literal with a
fraction or an exponent, at most one. -/
def Expr.isProbability : Expr → Bool
  | .float t =>
    match Value.readNumber t with
    | some (.real r) => r ≤ 1.0
    | some (.int i) => i ≤ 1
    | _ => false
  | _ => false

/-- Whether an expression holds, at its own level (not inside a subquery), a call of an
aggregate that is not over a window (`windows := false`), or a call over a window
(`windows := true`). -/
def Expr.holdsCall (windows : Bool) : Nat → Expr → Bool
  | 0, _ => false
  | fuel + 1, e =>
    let here := match e with
      | .call fn _ args _ _ _ windowSpec =>
        if windows then windowSpec.isSome
        else windowSpec.isNone && match lookupFunction fn.text args.length with
          | .found f => f.kind == .aggregate
          | _ => false
      | _ => false
    here || e.parts.any fun p => match p with
      | .expr x => Expr.holdsCall windows fuel x
      | .query _ => false

/-- The functions whose value may change between calls with the same arguments. -/
def nonDeterministic (name : String) : Bool := variesByCall name || variesByStatement name

/-- Whether a context bars the functions whose value may change: the expressions of an
index, the condition of a partial index and generated columns, whose stored values must
not change; a `CHECK` constraint may use them. -/
def barsChange (context : String) : Bool :=
  context == "index expressions" || context == "partial index WHERE clauses" ||
    context == "generated columns"

/-- The failure a `CHECK`, index or generated column reports for what it may not hold. -/
def notValid (what : String) (context : String) : String := what ++ " prohibited in " ++ context

/-- The names an expression's query sees at one level: its sources, the aliases of its
results when they may be used, whether aggregates and windows may be used, the windows its
`WINDOW` clause defines, and, for the expressions of a table's definition, what they are
(`CHECK constraints`, `index expressions`, ...). -/
structure Frame where
  sources : List Source
  aliases : List (String × Expr) := []
  allowAgg : Bool := false
  allowWin : Bool := false
  windows : List (Name × Window) := []
  context : Option String := none
  deriving Inhabited

/-- The frame of the rows a trigger's statements see, past every level of a query. -/
def Env.pseudoFrames (env : Env) : List Frame :=
  if env.pseudo.isEmpty then [] else [{ sources := env.pseudo.map (·.source) }]

def Env.inTrigger (env : Env) : Bool := !env.pseudo.isEmpty

/-- Resolution steps: the last failure so far is kept, and a failure that ends the walk is
thrown. -/
abbrev Check := StateT (Option String) (Except String)

def Check.fail (m : String) : Check Unit := set (some m)

def Check.stopIfFailed : Check Unit := do
  if let some m ← get then throw m

/-- Runs an outcome that may fail, keeping its failure and ending the walk with it. -/
def Check.lift (r : Except String α) : Check α :=
  match r with
  | .ok a => pure a
  | .error m => do
    set (some m)
    throw m

/-- Counts the columns named `col` in the sources of one level, and the sources whose row
number it may name, as a lookup does. A source joined by `USING` or `NATURAL` on the
column does not count it again. -/
def countMatches (catalog : Catalog) (sources : List Source) (schema table : Option Name)
    (col : String) : Nat × Nat := Id.run do
  let mut cnt := 0
  let mut cntTab := 0
  for s in sources do
    if s.qualifiedOnly && table.isNone then continue
    if let some t := table then
      if !sameName t.text s.name then continue
      if let some sc := schema then
        match catalog.schemaName? sc.text, s.schema with
        | some a, some b => if a != b then continue
        | _, _ => continue
    if s.columns.any (sameName · col) then
      if cnt > 0 && s.shared.any (sameName · col) then continue
      cnt := cnt + 1
    else if cnt == 0 && s.rowid then
      cntTab := cntTab + 1
  return (cnt, cntTab)

/-- Looks a column name up through the query's levels, innermost first, ending when it
names nothing or several columns. Unqualified it may name a result alias; double-quoted and
naming nothing it is a string; `true` and `false` are truth values. -/
def lookupName (catalog : Catalog) (frames : List Frame) (schema table : Option Name) (col : Name)
    (quoted : Bool) (fuel : Nat) (width : Expr → Nat) : Check Unit := do
  let mut found : Option Nat := none
  let mut level := 0
  for f in frames do
    let (cnt, cntTab) := countMatches catalog f.sources schema table col.text
    let cnt := if cnt == 0 && cntTab ≥ 1 && isRowidName col.text && f.context.isNone then cntTab
      else cnt
    if cnt == 0 && table.isNone then
      if let some (a, orig) := f.aliases.find? (sameName ·.1 col.text) then
        if !f.allowAgg && orig.holdsCall false fuel then
          throw ("misuse of aliased aggregate " ++ a)
        if orig.holdsCall true fuel && (!f.allowWin || level != 0) then
          throw ("misuse of aliased window function " ++ a)
        if width orig != 1 then throw "row value misused"
        return
    if cnt > 0 then
      found := some cnt
      break
    level := level + 1
  match found with
  | some 1 => return
  | some _ => Check.lift (.error ("ambiguous column name: " ++ qualifiedText schema table col))
  | none =>
    if table.isNone && (quoted || sameName col.text "true" || sameName col.text "false") then return
    Check.lift (.error ("no such column: " ++ qualifiedText schema table col))
where
  qualifiedText (schema table : Option Name) (col : Name) : String :=
    (match schema with
      | some s => s.text ++ "."
      | none => "") ++
    (match table with
      | some t => t.text ++ "."
      | none => "") ++ col.text

/-- The message for an `ORDER BY` or `GROUP BY` term whose number is out of range. -/
def outOfRange (kind : String) (i n : Nat) : String :=
  ordinal i ++ " " ++ kind ++ " BY term out of range - should be between 1 and " ++ toString n

/-- The value of an integer literal that fits in 32 bits, as a column's number must: a
decimal one of at most ten digits after its leading zeros and below 2^31, or a
hexadecimal one of at most eight digits after its leading zeros and below 2^31. -/
def smallInteger? (t : String) : Option Int :=
  match t.toList with
  | '0' :: x :: ds =>
    if x == 'x' || x == 'X' then
      let sig := ds.dropWhile (· == '0')
      let n : Nat := sig.foldl (fun a d => a * 16 + (if d.isDigit then d.toNat - 48 else d.toLower.toNat - 87)) 0
      if sig.length ≤ 8 && n < 2147483648 then some (n : Int) else none
    else decimal (x :: ds)
  | cs => decimal cs
where
  decimal (cs : List Char) : Option Int :=
    let sig := cs.dropWhile (· == '0')
    let n : Nat := sig.foldl (fun a d => a * 10 + (d.toNat - 48)) 0
    if cs.all Char.isDigit && sig.length ≤ 10 && n < 2147483648 then some (n : Int) else none

/-- The value of a term that is an integer literal under signs, as an `ORDER BY` or
`GROUP BY` term that numbers a result column is. -/
def Expr.integerValue? : Expr → Option Int
  | .integer t => smallInteger? t
  | .unary .neg e => e.integerValue?.map (- ·)
  | .unary .pos e => e.integerValue?
  | _ => none

/-- The alias a bare name in an `ORDER BY` names, by its place among the results. -/
def aliasIndex (items : List Item) (e : Expr) : Option Nat :=
  match e with
  | .column n _ => items.findIdx? fun i => (i.alias?.map (sameName · n.text)).getD false
  | _ => none

mutual

/-- Expands a query: its parts from the last to the first, each with its sources and
stars, and the subqueries of its expressions. The names of its result columns, and what
its first part says of each. -/
def expandColumns : Nat → Env → Select → Except String (List String × List ColumnKind)
  | 0, _, _ => .error Parse.tooDeep
  | fuel + 1, env, sel => do
    let env := env.withCtes sel.ctes
    let units := sel.units
    let mut names : List String := []
    let mut kinds : List ColumnKind := []
    for (_, core) in units.reverse do
      let (sources, items) ← expandCore fuel env core
      names := distinctNames (items.map Item.baseName)
      kinds := items.map (Item.kind sources fuel)
    return (names, kinds)

/-- Expands one part of a query: its sources and its result columns. -/
def expandCore : Nat → Env → Core → Except String (List Source × List Item)
  | 0, _, _ => .error Parse.tooDeep
  | fuel + 1, env, core => do
    match core with
    | .values rows _ =>
      let items := (rows.headD []).zipIdx.map fun (e, i) => Item.expr e (some ("column" ++ toString (i + 1))) ""
      for e in rows.flatten do expandExpr fuel env e
      return ([], items)
    | .select _ cols source _ _ _ _ _ _ =>
      let sources ← fromSources fuel env source
      let items ← starItems sources cols
      for e in core.exprs do expandExpr fuel { env with bound := [] } e
      return (sources, items)

/-- The sources of the items of a `FROM` clause, their joins checked. -/
def fromSources : Nat → Env → List FromItem → Except String (List Source)
  | 0, _, _ => .error Parse.tooDeep
  | fuel + 1, env, items => do
    let mut out : List Source := []
    let mut firsts : List (List Source) := []
    for item in items do
      let srcs ← itemSources fuel env item
      firsts := firsts ++ [srcs]
    let mut seen : List Source := []
    for (item, srcs) in items.zip firsts do
      let (join, cond, shared) := match item with
        | .table _ _ _ _ _ j c u | .subquery _ _ j c u | .nested _ _ j c u => (j, c, u)
      let natural := match join with
        | .keyed ws => ws.contains "NATURAL"
        | _ => false
      let right := srcs.flatMap (·.columns)
      let usingNames ← if natural && !seen.isEmpty then
          if cond.isSome || shared.isSome then
            .error "a NATURAL join may not have an ON or USING clause"
          else pure (right.filter fun c => seen.any (·.columns.any (sameName · c)))
        else match shared with
          | some ns =>
            match ns.find? fun n => !(right.any (sameName · n.text)) ||
                !(seen.any (·.columns.any (sameName · n.text))) with
            | some n => .error ("cannot join using column " ++ n.text ++
                " - column not present in both tables")
            | none => pure (ns.map (·.text))
          | none => pure []
      let srcs := srcs.map fun s => { s with shared := usingNames }
      seen := seen ++ srcs
      out := out ++ srcs
    return out

def itemSources : Nat → Env → FromItem → Except String (List Source)
  | 0, _, _ => .error Parse.tooDeep
  | fuel + 1, env, item => do
    match item with
    | .subquery q asName _ _ _ =>
      let (names, kinds) ← expandColumns fuel { env with bound := [] } q
      return [{ name := (asName.map (·.text)).getD "", columns := names, kinds }]
    | .nested inner asName _ _ _ =>
      let srcs ← fromSources fuel { env with bound := [] } inner
      match asName with
      | some a =>
        let kinds := srcs.flatMap fun src => src.columns.zipIdx.map fun (_, j) => src.kinds.getD j {}
        return [{ name := a.text, columns := srcs.flatMap (·.columns), kinds }]
      | none => return srcs
    | .table schema name args asName indexed _ _ _ =>
      let label := (asName.map (·.text)).getD name.text
      if schema.isNone && args.isNone then
        if let some (_, cols) := env.bound.find? (sameName ·.1 name.text) then
          return [{ name := label, columns := cols }]
        if let some (_, m) := env.blocked.find? (sameName ·.1 name.text) then
          .error (m ++ name.text)
        if let some (d, cteEnv) := env.cte? name.text then
          if let some i := indexed then .error ("no such index: \"" ++ i.text ++ "\"")
          let (cols, kinds) ← cteColumns fuel cteEnv d
          return [{ name := label, columns := cols, kinds }]
      let where_ := match schema with
        | some s => some s.text
        | none => env.fixed
      match env.catalog.relation? where_ name.text with
      | some (.table sn t) =>
        if args.isSome && t.module.isNone then .error ("'" ++ name.text ++ "' is not a function")
        if let some i := indexed then
          let found := match env.catalog.index? (some sn) i.text with
            | some (_, ix) => sameName ix.table t.name
            | none => false
          if !found then .error ("no such index: " ++ i.text)
        let rowid := t.hasRowid && t.module.isNone
        let kinds := (t.columns.toList.filter (!·.hidden)).map Column.kind
        return [{ name := label, schema := some sn, columns := t.visibleColumns, rowid, kinds }]
      | some (.view sn v) =>
        if args.isSome then .error ("'" ++ name.text ++ "' is not a function")
        if env.expanding.any (sameName · v.name) then
          .error ("view " ++ v.name ++ " is circularly defined")
        let viewEnv : Env := { catalog := env.catalog, fixed := if sn == "temp" then none else some sn,
                               expanding := v.name :: env.expanding }
        let (names, kinds) ← expandColumns fuel viewEnv v.query
        let cols := if v.columns.isEmpty then names else v.columns.map (·.text)
        if !v.columns.isEmpty && v.columns.length != names.length then
          .error ("expected " ++ toString v.columns.length ++ " columns for '" ++ v.name ++
            "' but got " ++ toString names.length)
        return [{ name := label, schema := some sn, columns := cols, kinds }]
      | none =>
        let mainOnly := match schema with
          | some s => sameName s.text "main"
          | none => true
        if mainOnly then
          if let some (cols, _) := builtinTable? name.text then
            return [{ name := label, schema := some "main", columns := cols }]
        let prefix_ := match where_ with
          | some s => s ++ "."
          | none => ""
        .error ("no such table: " ++ prefix_ ++ name.text)

/-- The columns of a common table expression: expanding its query, with a part that reads
the expression itself taken as recursive when it is joined by `UNION` or `UNION ALL`. -/
def cteColumns : Nat → Env → CteDef → Except String (List String × List ColumnKind)
  | 0, _, _ => .error Parse.tooDeep
  | fuel + 1, env, d => do
    let (ctes, first, rest) := match d.body with
      | .mk c f r => (c, f, r)
    let direct (c : Core) : Bool := c.source.any fun it => match it with
      | .table none n none _ _ _ _ _ => sameName n.text d.name
      | _ => false
    let lastOp := (rest.getLast?.map (·.1))
    let mayRecurse := lastOp == some .union || lastOp == some .unionAll
    let recursive := if mayRecurse then
        (rest.reverse.takeWhile fun (op, c) => some op == lastOp && direct c).length
      else 0
    let base := rest.take (rest.length - recursive)
    for (_, c) in rest.drop (rest.length - recursive) do
      let refs := c.source.filter fun it => match it with
        | .table none n none _ _ _ _ _ => sameName n.text d.name
        | _ => false
      if refs.length > 1 then .error ("multiple references to recursive table: " ++ d.name)
    let blocked := { env with blocked := (d.name, "circular reference: ") :: env.blocked }
    let (names, kinds) ← expandColumns fuel blocked (.mk ctes first base)
    let cols := if d.columns.isEmpty then names else d.columns.map (·.text)
    if !d.columns.isEmpty && d.columns.length != names.length then
      .error ("table " ++ d.name ++ " has " ++ toString names.length ++ " values for " ++
        toString d.columns.length ++ " columns")
    if recursive > 0 then
      let again := { env with
        blocked := (d.name, "multiple recursive references: ") :: env.blocked,
        bound := (d.name, cols) :: env.bound }
      let env' := again.withCtes ctes
      for (_, c) in rest.drop (rest.length - recursive) do
        discard (expandCore fuel env' c)
    return (cols, kinds)

/-- The result columns of a part of a query with its stars expanded: `*` brings the
columns of every source (a column a source shares through `USING` once), `T.*` those of
the source `T`. -/
def starItems : List Source → List ResultColumn → Except String (List Item)
  | sources, cols => do
    let mut out : Array Item := #[]
    for c in cols do
      match c with
      | .star =>
        if sources.isEmpty then .error "no tables specified"
        for (i, s) in sources.zipIdx.map (fun (s, i) => (i, s)) do
          for col in s.columns do
            if i > 0 && s.shared.any (sameName · col) then continue
            out := out.push (.column i col)
      | .tableStar t =>
        let matching := sources.zipIdx.filter fun (s, _) => sameName s.name t.text
        if matching.isEmpty then .error ("no such table: " ++ t.text)
        for (s, i) in matching do
          for col in s.columns do
            out := out.push (.column i col)
      | .expr e asName span => out := out.push (.expr e (asName.map (·.text)) span)
    return out.toList

/-- The failure of looking up a column a star brought into a query reading several
sources, if any: it is looked up by its source's schema and name, so another source of that
schema and name with the column makes it ambiguous; an unnamed subquery has a name of its
own. -/
def starFault (sources : List Source) (i : Nat) (col : String) : Option String :=
  let s := sources.getD i default
  if sources.length < 2 || s.name.isEmpty then none else
  let count := sources.foldl (fun (n : Nat) t =>
    if t.schema != s.schema || !sameName t.name s.name || !t.columns.any (sameName · col) then n
    else if n > 0 && t.shared.any (sameName · col) then n
    else n + 1) 0
  if count > 1 then some ("ambiguous column name: " ++ s.schema.getD "*" ++ "." ++ s.name ++ "." ++ col)
  else none

def expandExpr : Nat → Env → Expr → Except String Unit
  | 0, _, _ => .error Parse.tooDeep
  | fuel + 1, env, e => do
    for p in e.parts do
      match p with
      | .expr x => expandExpr fuel env x
      | .query q => discard (expandColumns fuel env q)

end

/-- The names of the result columns of a query, its stars expanded. -/
def expandSelect (fuel : Nat) (env : Env) (q : Select) : Except String (List String) :=
  (·.1) <$> expandColumns fuel env q

def Select.widthIn (env : Env) (fuel : Nat) (q : Select) : Nat :=
  match expandSelect fuel env q with
  | .ok names => names.length
  | .error _ => 1

/-- The queries of the items of a `FROM` clause that are resolved with the query: the
subqueries, and the queries of the views and common table expressions it reads, each
with the environment it is read in. -/
def itemQueries (env : Env) (fuel : Nat) : List FromItem → List (Env × Select)
  | [] => []
  | item :: rest =>
    let here : List (Env × Select) := match item with
      | .subquery q _ _ _ _ => [(env, q)]
      | .nested _ _ _ _ _ => []
      | .table schema name args _ _ _ _ _ =>
        let cte := if schema.isNone && args.isNone && !(env.bound.any (sameName ·.1 name.text))
          then env.cte? name.text else none
        match cte with
        | some (d, cteEnv) =>
          let cols := ((cteColumns fuel cteEnv d).toOption.map (·.1)).getD []
          [({ cteEnv with bound := (d.name, cols) :: cteEnv.bound }, d.body)]
        | none =>
          let where_ := match schema with
            | some s => some s.text
            | none => env.fixed
          match env.catalog.relation? where_ name.text with
          | some (.view sn v) =>
            if env.expanding.any (sameName · v.name) then []
            else [({ catalog := env.catalog, fixed := if sn == "temp" then none else some sn,
                     expanding := v.name :: env.expanding }, v.query)]
          | _ => []
    let nested := match item with
      | .nested inner _ _ _ _ => itemQueries env fuel inner
      | _ => []
    here ++ nested ++ itemQueries env fuel rest

/-- The arguments of the table-valued functions among the items of a `FROM` clause. -/
def itemArgs : List FromItem → List Expr
  | [] => []
  | item :: rest =>
    (match item with
      | .table _ _ (some args) _ _ _ _ _ => args
      | _ => []) ++ itemArgs rest

/-- The name of the first table-valued function of a `FROM` clause given more arguments
than it has hidden columns, with that number. -/
def crowdedTable : List FromItem → Option (String × Nat)
  | [] => none
  | item :: rest =>
    match item with
    | .table _ name (some args) _ _ _ _ _ =>
      match builtinTable? name.text with
      | some (_, hidden) =>
        if args.length > hidden then some (name.text.map Char.toLower, hidden) else crowdedTable rest
      | none => crowdedTable rest
    | _ => crowdedTable rest

mutual

def resolveSelect : Nat → Env → List Frame → Select → Except String Unit
  | 0, _, _, _ => .error Parse.tooDeep
  | fuel + 1, env, outer, sel => do
    let env := env.withCtes sel.ctes
    let units := sel.units
    let n := units.length
    let widths ← units.mapM fun (_, c) => do
      let (_, items) ← expandCore fuel env c
      pure items.length
    for k in (List.range n).reverse do
      let (_, core) := units.getD k default
      resolveCore fuel env outer core (n > 1 && k == n - 1)
      if k + 1 < n && widths.getD k 0 != widths.getD (k + 1) 0 then
        let (op, right) := units.getD (k + 1) default
        match right with
        | .values [_] _ => .error "all VALUES must have the same number of terms"
        | _ => .error ("SELECTs to the left and right of " ++ ((op.map CompoundOp.word).getD "UNION") ++
            " do not have the same number of result columns")
    if n > 1 then
      let (_, last) := units.getD (n - 1) default
      compoundOrder fuel env units last.orderBy

/-- Resolves one part of a query. The `ORDER BY` of the last part of a compound query is
left to `compoundOrder`. -/
def resolveCore : Nat → Env → List Frame → Core → Bool → Except String Unit
  | 0, _, _, _, _ => .error Parse.tooDeep
  | fuel + 1, env, outer, core, deferOrder => do
    let (sources, items) ← expandCore fuel env core
    let width := fun (e : Expr) => e.widthWith (Select.widthIn env fuel)
    match core with
    | .values rows _ =>
      -- rows are resolved from the last, each matched with the one after it; a row is the
      -- result list of a query of its own, which may fold or use windows
      let rows := rows.toArray
      for k in (List.range rows.size).reverse do
        let row := rows.getD k []
        resolveList fuel env ({ sources := [], allowAgg := true, allowWin := true } :: outer) row
        if k + 1 < rows.size && row.length != (rows.getD (k + 1) []).length then
          .error "all VALUES must have the same number of terms"
      let _ := width
      return
    | .select _ _ source filter groupBy having windows orderBy limit =>
      match limit with
      | some (l, o) =>
        resolveTop fuel env [{ sources := [] }] l
        if let some o := o then resolveTop fuel env [{ sources := [] }] o
      | none => pure ()
      for (qenv, q) in itemQueries env fuel source do
        resolveSelect fuel qenv outer q
      let exprs := items.filterMap Item.expr?
      let frame : Frame := { sources, allowAgg := true, allowWin := true, windows }
      for it in items do
        match it with
        | .expr e _ _ => resolveTop fuel env (frame :: outer) e
        | .column i col => if let some m := starFault sources i col then .error m
      let aggregate := !groupBy.isEmpty || exprs.any (·.holdsCall false fuel)
      let aliases := items.filterMap fun i => match i with
        | .expr e (some a) _ => some (a, e)
        | _ => none
      let frame := { frame with allowWin := false, allowAgg := aggregate, aliases }
      if let some h := having then
        if !aggregate then .error "HAVING clause on a non-aggregate query"
        resolveTop fuel env (frame :: outer) h
      if let some w := filter then resolveTop fuel env (frame :: outer) w
      resolveList fuel env (frame :: outer) (itemArgs source)
      let local_ := { frame with allowAgg := true, allowWin := true }
      if !deferOrder && !orderBy.isEmpty then
        orderGroup fuel env local_ items (orderBy.map (·.expr)) "ORDER"
      if !groupBy.isEmpty then
        let grouping := { local_ with allowWin := false }
        orderGroup fuel env grouping items groupBy "GROUP"
        let refersAgg (e : Expr) : Bool :=
          match e.uncollated.integerValue? with
          | some k => match items.getD (k.toNat - 1) default with
            | .expr x _ _ => k ≥ 1 && x.holdsCall false fuel
            | _ => false
          | none => e.holdsCall false fuel
        if groupBy.any refersAgg then
          .error "aggregate functions are not allowed in the GROUP BY clause"
      let _ := width
      return

/-- Resolves the terms of an `ORDER BY` or `GROUP BY` of a simple query: an alias or a
number names a result column, anything else is an expression of the query. -/
def orderGroup : Nat → Env → Frame → List Item → List Expr → String → Except String Unit
  | 0, _, _, _, _, _ => .error Parse.tooDeep
  | fuel + 1, env, frame, items, terms, kind => do
    let n := items.length
    let mut refs : List (Nat × Nat) := []
    for (t, i) in terms.zipIdx do
      let e := t.uncollated
      if kind == "ORDER" && (aliasIndex items e).isSome then continue
      match e.integerValue? with
      | some k =>
        if k < 1 || k > 65535 then .error (outOfRange kind (i + 1) n)
        refs := refs ++ [(i + 1, k.toNat)]
      | none => resolveTop fuel env [frame] t
    for (i, k) in refs do
      if k > n then .error (outOfRange kind i n)

/-- Resolves the `ORDER BY` of a compound query: each term must be the number of a result
column, or name one of some part's results. -/
def compoundOrder : Nat → Env → List (Option CompoundOp × Core) → List OrderTerm → Except String Unit
  | 0, _, _, _ => .error Parse.tooDeep
  | fuel + 1, env, units, terms => do
    let itemLists ← units.mapM fun (_, c) => do
      let (sources, items) ← expandCore fuel env c
      pure (sources, items)
    let n : Nat := ((itemLists.head?.map (·.2.length)).getD 0)
    for (t, i) in terms.zipIdx do
      let e := t.expr.uncollated
      match e.integerValue? with
      | some k =>
        if k ≤ 0 || k > (n : Int) then .error (outOfRange "ORDER" (i + 1) n)
      | none =>
        let matches_ := itemLists.any fun (sources, items) =>
          (aliasIndex items e).isSome || items.any fun it => match e, it with
            | .column c _, .expr x _ _ => match x.uncollated with
              | .column d _ => sameName c.text d.text
              | .qualified _ _ d => sameName c.text d.text
              | _ => false
            | .qualified _ tb c, .expr x _ _ => match x.uncollated with
              | .qualified _ tb2 d => sameName tb.text tb2.text && sameName c.text d.text
              | .column d _ => sameName c.text d.text
              | _ => false
            | .column c _, .column _ nm => sameName c.text nm
            | .qualified _ tb c, .column si nm =>
              sameName c.text nm && ((sources.getD si default).name |> sameName tb.text)
            | _, _ => false
        if !matches_ then
          .error (ordinal (i + 1) ++ " ORDER BY term does not match any column in the result set")

/-- Resolves the expressions of a list: the first that fails ends it. -/
def resolveList : Nat → Env → List Frame → List Expr → Except String Unit
  | 0, _, _, _ => .error Parse.tooDeep
  | fuel + 1, env, frames, es => do
    for e in es do resolveTop fuel env frames e

/-- Resolves one expression: the last failure of its walk is its failure. -/
def resolveTop : Nat → Env → List Frame → Expr → Except String Unit
  | 0, _, _, _ => .error Parse.tooDeep
  | fuel + 1, env, frames, e =>
    match (resolveExpr fuel env frames e).run none with
    | .error m => .error m
    | .ok ((), some m) => .error m
    | .ok ((), none) => .ok ()

def resolveExpr : Nat → Env → List Frame → Expr → Check Unit
  | 0, _, _, _ => throw Parse.tooDeep
  | fuel + 1, env, frames, e => do
    let width := fun (x : Expr) => x.widthWith (Select.widthIn env fuel)
    match e with
    | .column n quoted => lookupName env.catalog (frames ++ env.pseudoFrames) none none n quoted fuel width
    | .qualified s t c => lookupName env.catalog (frames ++ env.pseudoFrames) s (some t) c false fuel width
    | .call fn _ args _ orderBy filter windowSpec => resolveCall fuel env frames fn args orderBy filter windowSpec
    | .like negated word l r esc =>
      if negated then Check.stopIfFailed
      resolveCall fuel env frames ⟨word, word⟩ ([r, l] ++ esc.toList) [] none none
    | .binary (.extract _) l r =>
      try
        for x in [l, r] do resolveExpr fuel env frames x
      catch m => Check.fail m
    | .isNull a | .notNull a =>
      -- the operand is walked on its own, and the walk goes on past its failure
      try resolveExpr fuel env frames a catch m => Check.fail m
    | .binary op l r =>
      -- a name on the right of `IS` is looked up first; a truth value then makes the
      -- comparison a test of truth, whose operands are walked whatever failed before
      let truth ← match op, r.skipCollateAndLikely fuel with
        | .is, .column n quoted | .isNot, .column n quoted => do
          resolveExpr fuel env frames (.column n quoted)
          pure (!quoted && (sameName n.text "true" || sameName n.text "false") &&
            !(frames ++ env.pseudoFrames).any fun f =>
              (countMatches env.catalog f.sources none none n.text).1 > 0)
        | _, _ => pure false
      if truth then
        resolveExpr fuel env frames l
        resolveExpr fuel env frames r
        Check.stopIfFailed
      else resolveOperator fuel env frames e
    | _ => resolveOperator fuel env frames e

/-- The walk below an operator, a literal or a subquery: its own checks, then, unless a
failure was kept before, its operands. -/
def resolveOperator : Nat → Env → List Frame → Expr → Check Unit
  | 0, _, _, _ => throw Parse.tooDeep
  | fuel + 1, env, frames, e => do
    let width := fun (x : Expr) => x.widthWith (Select.widthIn env fuel)
    let context := (frames.head?.bind (·.context))
    match e with
    | .binary op l r =>
      if [BinaryOp.eq, .ne, .lt, .le, .gt, .ge, .is, .isNot].contains op && width l != width r then
        Check.fail "row value misused"
    | .between _ a lo hi =>
      let wa := width a
      if wa != width lo || (wa == width lo && wa != width hi) then Check.fail "row value misused"
    | .param _ _ =>
      if let some c := context then Check.fail (notValid "parameters" c)
    | .clock _ =>
      if let some c := context then
        if barsChange c then Check.fail (notValid "non-deterministic functions" c)
    | .subquery q | .exists q | .inSelect _ _ q =>
      match context with
      | some c => Check.fail (notValid "subqueries" c)
      | none => Check.lift (resolveSelect fuel env frames q)
    | .inTable _ _ s t args =>
      match context with
      | some c => Check.fail (notValid "subqueries" c)
      | none => Check.lift (resolveSelect fuel env frames (tableQuery s t args))
    | _ => pure ()
    Check.stopIfFailed
    for p in e.parts do
      match p with
      | .expr x => resolveExpr fuel env frames x
      | .query _ => pure ()

/-- Resolves a call: the function must exist with that many arguments, an aggregate stand
only where aggregates may, a window function only over a window, and a window only where
windows may. Its arguments are walked with aggregates barred below an aggregate and windows
below any aggregate. -/
def resolveCall : Nat → Env → List Frame → Name → List Expr → List OrderTerm → Option Expr →
    Option Window → Check Unit
  | 0, _, _, _, _, _, _, _ => throw Parse.tooDeep
  | fuel + 1, env, frames, fn, args, orderBy, filter, windowSpec => do
    let frame := frames.headD default
    let shown := fn.text
    let found := lookupFunction fn.text args.length
    let (kind, wrongArgs, unknown) := match found with
      | .found f => (some f.kind, false, false)
      | .wrongArguments => (none, true, false)
      | .unknown => (none, false, true)
    let mut isAgg := kind == some .aggregate || kind == some .window
    if kind.isSome && sameName fn.text "likelihood" && args.length == 2 &&
        !(args.getD 1 .null).isProbability then
      Check.fail ("second argument to " ++ shown ++ "() must be a constant between 0.0 and 1.0")
    if kind.isSome && nonDeterministic fn.text then
      if let some c := frame.context then
        if barsChange c then Check.fail (notValid "non-deterministic functions" c)
    if kind == some .scalar && windowSpec.isSome then
      Check.fail (shown ++ "() may not be used as a window function")
    else if (isAgg && !frame.allowAgg) || (kind == some .window && windowSpec.isNone) ||
        (isAgg && windowSpec.isSome && !frame.allowWin) then
      let what := if kind == some .window || windowSpec.isSome then "window" else "aggregate"
      Check.fail ("misuse of " ++ what ++ " function " ++ shown ++ "()")
      isAgg := false
    else if unknown then Check.fail ("no such function: " ++ shown)
    else if wrongArgs then Check.fail ("wrong number of arguments to function " ++ shown ++ "()")
    else if !isAgg && filter.isSome then
      Check.fail ("FILTER may not be used with non-aggregate " ++ shown ++ "()")
    else if !isAgg && !orderBy.isEmpty then
      Check.fail ("ORDER BY may not be used with non-aggregate " ++ shown ++ "()")
    if kind == some .scalar && windowSpec.isSome then isAgg := false
    let inner := if isAgg then
        { frame with allowWin := false, allowAgg := frame.allowAgg && windowSpec.isSome }
      else frame
    let innerFrames := inner :: frames.drop 1
    try
      for a in args do resolveExpr fuel env innerFrames a
    catch m => Check.fail m
    if isAgg then
      try
        for o in orderBy do resolveExpr fuel env innerFrames o.expr
      catch m => Check.fail m
      match windowSpec with
      | some w =>
        if (← get).isNone then
          let (eff, chainFault) := w.effective frame.windows
          if let some m := chainFault then Check.fail m
          if eff.rangeFault then
            Check.fail "RANGE with offset PRECEDING/FOLLOWING requires one ORDER BY expression"
          else if kind == some .window && filter.isSome then
            Check.fail "FILTER clause may only be used with aggregate window functions"
          try
            for x in eff.partition ++ eff.orderBy.map (·.expr) ++ filter.toList do
              resolveExpr fuel env innerFrames x
          catch m => Check.fail m
      | none =>
        if let some f := filter then
          try resolveExpr fuel env innerFrames f catch m => Check.fail m

end

/-- Resolves a whole query at the top of a statement: expands it, then resolves it. -/
def resolveQuery (env : Env) (fuel : Nat) (q : Select) : Except String Unit := do
  discard (expandSelect fuel env q)
  resolveSelect fuel env [] q

end Foreman.Sql
