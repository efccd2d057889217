import Foreman.Sql.Prepare

/-!
# Writing rows

How `INSERT`, `UPDATE` and `DELETE` change rows, each checked in the engine's order: the row
number, `NOT NULL`, a strict table's datatypes, the `CHECK` constraints, the row number's and
each unique key's freshness. A broken constraint is settled by the statement's `OR` clause,
else the constraint's `ON CONFLICT`, else `ABORT`; an `INSERT`'s `ON CONFLICT` clauses settle
their keys themselves (`DO NOTHING`, `DO UPDATE`).
-/

namespace Foreman.Sql

/-- How a broken constraint is settled: the statement's `OR` clause, else the constraint's
own clause, else `ABORT`. -/
def settle (stmt own : Option Resolution) : Resolution := (stmt.orElse fun _ => own).getD .abort

/-- A failure while writing, with how it was settled: `abort`, `fail` or `rollback`. -/
structure WriteFailure where
  failure : Failure
  settled : Resolution
  deriving Inhabited

abbrev Write := Except WriteFailure

/-- How a `RAISE` ends the statement: as the conflict resolution of its name. -/
def RaiseKind.settled : RaiseKind → Resolution
  | .ignore => .ignore
  | .rollback => .rollback
  | .abort => .abort
  | .fail => .fail

/-- Runs evaluation steps while writing: their failures undo the statement, unless a
trigger's `RAISE` threw them, which ends it as the `RAISE` says. -/
def Write.run (r : Run α) : Write α :=
  match r with
  | .ok a => .ok a
  | .error f => .error ⟨f, (f.raised.map RaiseKind.settled).getD .abort⟩

def Write.refuse (settled : Resolution) (code : Nat) (msg : String) : Write α :=
  .error ⟨{ code, message := msg }, settled⟩

/-- Whether a character is a blank the engine trims around a check's text. -/
def isBlankChar (c : Char) : Bool :=
  c == ' ' || c == '\t' || c == '\n' || c == '\r' || c.toNat == 11 || c.toNat == 12

def trimBlanks (s : String) : String :=
  String.ofList (((s.toList.dropWhile isBlankChar).reverse.dropWhile isBlankChar).reverse)

/-- The standard datatype a declared type names, in upper case, if it is one. -/
def standardType? (type : String) : Option String :=
  let d := (dequote type).map Char.toUpper
  if strictTypes.contains d then some d else none

/-- The column a term of a key written in a table's constraints names. -/
def keyTermColumn (names : List String) (e : Expr) : Option Nat :=
  let bare := match e with
    | .collate inner _ => inner
    | _ => e
  match bare with
  | .column n _ => names.findIdx? (sameName · n.text)
  | .string s => names.findIdx? (sameName · s)
  | _ => none

/-- The table a definition declares, with no rows. A column declared `INTEGER PRIMARY KEY`
(not descending, in a table with row numbers) holds the row number; every other primary key
and `UNIQUE` constraint is a unique key, in written order. A check reports its `CONSTRAINT`
name, else its text. A column's `DEFERRABLE` applies to the foreign key made last. The
primary key columns of a table without row numbers, or a strict one, are `NOT NULL`. -/
def Table.ofDefinition (name : String) (defs : List ColumnDef) (cons : List TableConstraint)
    (withoutRowid strict : Bool) : Table := Id.run do
  let names := defs.map (·.name.text)
  let mut cols : Array Column := #[]
  let mut keys : Array Key := #[]
  let mut checks : Array (String × Expr) := #[]
  let mut rowidColumn : Option Nat := none
  let mut aliasConflict : Option Resolution := none
  let mut autoinc := false
  let mut fks : Array ForeignKey := #[]
  for (d, j) in defs.zipIdx do
    let mut c : Column := { name := d.name.text, type := d.type }
    let mut label : Option String := none
    for k in d.constraints do
      match k with
      | .named n => label := some n.text
      | .default e text => c := { c with default := some e, defaultText := some text }
      | .notNull r => c := { c with notNull := true, onNull := r }
      | .primaryKey desc r ai =>
        c := { c with primaryKey := true }
        if !withoutRowid && desc != some true && Parse.isIntegerType d.type then
          rowidColumn := some j
          aliasConflict := r
          autoinc := ai
        else keys := keys.push { columns := [j], primary := true, onConflict := r }
      | .unique r => keys := keys.push { columns := [j], primary := false, onConflict := r }
      | .check e text => checks := checks.push (label.getD (trimBlanks text), e)
      | .collate n => c := { c with collation := some n.text }
      | .generated e stored => c := { c with generated := true, expression := some e, stored }
      | .references table refs actions =>
        fks := fks.push { columns := [j], parent := table.text, parentColumns := refs.map (·.text), actions }
      | .deferrable deferred =>
        if fks.size > 0 then fks := fks.modify (fks.size - 1) fun k => { k with deferred }
      | _ => pure ()
    cols := cols.push c
  let mut label : Option String := none
  for k in cons do
    match k with
    | .named n => label := some n.text
    | .primaryKey terms ai r =>
      let js := terms.filterMap fun t => keyTermColumn names t.expr
      cols := cols.mapIdx fun i c => if js.contains i then { c with primaryKey := true } else c
      let single := match js with
        | [j] => if !withoutRowid && Parse.isIntegerType (cols.getD j default).type then some j else none
        | _ => none
      match single with
      | some j =>
        rowidColumn := some j
        aliasConflict := r
        autoinc := ai
      | none => keys := keys.push { columns := js, primary := true, onConflict := r }
      label := none
    | .unique terms r =>
      keys := keys.push { columns := terms.filterMap (fun t => keyTermColumn names t.expr),
                          primary := false, onConflict := r }
      label := none
    | .check e text =>
      checks := checks.push (label.getD (trimBlanks text), e)
      label := none
    | .foreignKey cs table refs actions deferred =>
      let js := cs.filterMap fun c => names.findIdx? (sameName · c.text)
      fks := fks.push { columns := js, parent := table.text, parentColumns := refs.map (·.text), actions, deferred }
      label := none
  if withoutRowid || strict then
    cols := cols.mapIdx fun i c =>
      if c.primaryKey && !c.notNull && rowidColumn != some i then { c with notNull := true } else c
  return { name, columns := cols, rowidAlias := rowidColumn, rowidConflict := aliasConflict, withoutRowid,
           strict, autoincrement := autoinc, checks := checks.toList, keys := keys.toList,
           foreignKeys := fks.toList }

namespace Table

/-- The values of a row with each column's affinity applied. A strict table's column of a
standard type takes that type's affinity, and `ANY` keeps the value as it is. -/
def withAffinities (t : Table) (vals : Array Value) : Array Value :=
  vals.mapIdx fun j v =>
    let c := t.columns.getD j default
    if t.strict then
      match standardType? c.type with
      | some "ANY" => v
      | some ty => Value.withAffinity (Affinity.ofType ty) v
      | none => v
    else Value.withAffinity c.affinity v

def kindWord : Value → String
  | .null => "NULL"
  | .int _ => "INT"
  | .real _ => "REAL"
  | .text _ | .rawText _ => "TEXT"
  | .blob _ => "BLOB"

/-- The failure of a strict table's datatypes for a row, if any. -/
def strictFault (t : Table) (vals : Array Value) : Option Failure :=
  if !t.strict then none
  else (List.range t.columns.size).findSome? fun j =>
    let c := t.columns.getD j default
    let v := vals.getD j .null
    if (c.generated && !c.stored) || v.isNull then none
    else
      let fits := match standardType? c.type, v with
        | some "INT", .int _ | some "INTEGER", .int _ => true
        | some "REAL", .real _ | some "REAL", .int _ => true
        | some "TEXT", .text _ | some "TEXT", .rawText _ => true
        | some "BLOB", .blob _ => true
        | some "ANY", _ => true
        | none, _ => true
        | _, _ => false
      if fits then none
      else some { code := 3091, message := "cannot store " ++ kindWord v ++ " value in " ++
        ((standardType? c.type).getD "") ++ " column " ++ t.name ++ "." ++ c.name }

/-- The row number after the largest the table holds, or, when that is the largest there
can be, the first one not taken. -/
def nextRowid (t : Table) : Int :=
  let top := t.rows.foldl (fun m (r, _) => max m r) 0
  if top < Value.maxInt then top + 1
  else (((List.range (t.rows.size + 1)).map fun (i : Nat) => (i : Int) + 1).find?
    fun r => !t.rows.any (·.1 == r)).getD 1

/-- The row number of a new row given none. An `AUTOINCREMENT` table never hands out a
number twice: it takes one past both the largest it holds and the largest it handed out, the
database being full once either is the largest possible. -/
def freshRowid (t : Table) : Write Int :=
  let top := t.rows.foldl (fun m (r, _) => max m r) 0
  if !t.autoincrement then pure t.nextRowid
  else if top == Value.maxInt || t.sequence == Value.maxInt then Write.refuse .abort 13 "database or disk is full"
  else pure (max top t.sequence + 1)

def rowAt? (t : Table) (rid : Int) : Option (Array Value) :=
  (t.rows.find? (·.1 == rid)).map (·.2)

/-- The table with a row put in the place of its row number, the rows kept in the order
of their numbers. -/
def putRow (t : Table) (rid : Int) (vals : Array Value) : Table :=
  let others := t.rows.filter (·.1 != rid)
  let before := others.filter (·.1 < rid)
  let after := others.filter (·.1 > rid)
  { t with rows := before.push (rid, vals) ++ after }

def dropRow (t : Table) (rid : Int) : Table := { t with rows := t.rows.filter (·.1 != rid) }

/-- Whether two rows agree on the columns of a key, each column compared under its
collation. -/
def sameKey (t : Table) (cols : List Nat) (a b : Array Value) : Bool :=
  cols.all fun j =>
    let nocase := ((t.columns.getD j default).collation.map (sameName · "NOCASE")).getD false
    Value.compare nocase (a.getD j .null) (b.getD j .null) == 0

/-- The rows other than `self` that a row duplicates on a key; none when a column of the
key is null. -/
def duplicates (t : Table) (cols : List Nat) (self : Option Int) (vals : Array Value) : List Int :=
  if cols.any (fun j => (vals.getD j .null).isNull) then []
  else (t.rows.toList.filter fun (r, other) => some r != self && t.sameKey cols vals other).map (·.1)

/-- The message of a duplicate on a key: its columns, each with the table's name. -/
def keyMessage (t : Table) (cols : List Nat) : String :=
  ", ".intercalate (cols.map fun j => t.name ++ "." ++ (t.columns.getD j default).name)

end Table

/-- What an expression sees of one row of a table: its visible columns under the source's
name, and its row number. -/
def rowOf (src : Source) (t : Table) (rid : Option Int) (vals : Array Value) : SourceRow :=
  let visible := (List.range t.columns.size).filter fun i => !(t.columns.getD i default).hidden
  { source := src, values := (visible.map fun i => vals.getD i .null).toArray,
    rowid := if t.hasRowid then rid else none }

def evalOn (env : Env) (rows : List SourceRow) (e : Expr) : Run Value :=
  eval checkFuel { env, levels := [{ rows }] } e

def Table.generate (env : Env) (src : Source) (t : Table) (rid : Option Int) (vals : Array Value) :
    Run (Array Value) := do
  let mut out := vals
  for j in [0:t.columns.size] do
    let c := t.columns.getD j default
    if let some e := c.expression then
      let v ← evalOn env [rowOf src t rid out] e
      out := out.set! j (Value.withAffinity c.affinity v)
  return out

/-- A value as a row number: an integer after numeric affinity, else a datatype mismatch. -/
def rowNumber (v : Value) : Write Int :=
  match Value.withAffinity .numeric v with
  | .int n => .ok n
  | _ => Write.refuse .abort 20 "datatype mismatch"

/-- A table's unique keys in the order rows are checked against them: the last made first
(unique indexes made after the table before its own keys), those settled by `REPLACE` after
all others; keys over expressions and partial keys are not checked. -/
def uniqueOrder (catalog : Catalog) (sn : String) (t : Table) : List Key :=
  let indexes := ((catalog.schema? sn).map (·.indexes)).getD []
  let made := (indexes.filter fun i => i.unique && !i.automatic && sameName i.table t.name &&
      i.columns.all Option.isSome).map fun i =>
    ({ columns := i.columns.filterMap id, primary := false, filter := i.filter } : Key)
  let natural := made.reverse ++ t.keys.reverse
  natural.filter (·.onConflict != some .replace) ++ natural.filter (·.onConflict == some .replace)

inductive Guard where
  | rowid
  | key (k : Key)
  deriving Inhabited

/-- The guard an `ON CONFLICT` target names: the row number or the key of its columns. -/
def upsertGuard (t : Table) (keys : List Key) (u : Upsert) : Option Guard :=
  let cols := u.target.map (termColumn t ·.expr)
  if cols == [some none] then some .rowid
  else (keys.find? fun k => conditionSuits t u.targetWhere k.filter &&
      k.columns.length == cols.length && k.columns.all fun c => cols.contains (some (some c))).map .key

def Guard.same : Guard → Guard → Bool
  | .rowid, .rowid => true
  | .key a, .key b => a.columns == b.columns && a.filter.isSome == b.filter.isSome
  | _, _ => false

/-- The values assignments give a row: each assignment's value, or the values of a row
it gives several columns. -/
def assignedValues (env : Env) (rows : List SourceRow) (set : Assignments) :
    Run (List (Name × Value)) := do
  let mut out : List (Name × Value) := []
  for (cols, e) in set do
    match cols with
    | [c] => out := out ++ [(c, ← evalOn env rows e)]
    | _ =>
      let vs ← match e with
        | .vector items => items.mapM (evalOn env rows)
        | .subquery q => do
          let got ← runSelect checkFuel { env, levels := [{ rows }] } q (some 1)
          pure (got.headD (cols.map fun _ => Value.null))
        | _ => pure (cols.map fun _ => Value.null)
      out := out ++ cols.zip vs
  return out

/-- Checks a row against `NOT NULL`, the datatypes and the checks, settling a null of a
column whose constraint is settled by `REPLACE` with its default. The row as checked, or
none when it is dropped. -/
def checkRow (env : Env) (src : Source) (t : Table) (orElse : Option Resolution) (rid : Option Int)
    (vals : Array Value) : Write (Option (Array Value)) := do
  let mut vals := vals
  for j in [0:t.columns.size] do
    let c := t.columns.getD j default
    if t.rowidAlias == some j || !c.notNull || !(vals.getD j .null).isNull then continue
    let message := "NOT NULL constraint failed: " ++ t.name ++ "." ++ c.name
    match settle orElse c.onNull with
    | .ignore => return none
    | .replace =>
      let v ← match c.default with
        | some d => Write.run (evalOn env [] d)
        | none => pure .null
      if v.isNull then Write.refuse .abort 1299 message
      vals := vals.set! j (Value.withAffinity c.affinity v)
    | r => Write.refuse r 1299 message
  if let some f := t.strictFault vals then Write.refuse (settle orElse none) f.code f.message
  for (label, e) in (if env.checks then t.checks else []) do
    let v ← Write.run (evalOn env [rowOf src t rid vals] e)
    if Value.truth v == some false then
      match settle orElse none with
      | .ignore => return none
      | .replace => Write.refuse .abort 275 ("CHECK constraint failed: " ++ label)
      | r => Write.refuse r 275 ("CHECK constraint failed: " ++ label)
  return some vals

/-- The failure, if any, of a table's rows once it gained a column: row by row, a null in a
`NOT NULL` column, a value a strict table refuses, then a failing check, each reported as a
logic error naming only the kind of constraint. -/
def Table.gainedColumnFault (env : Env) (src : Source) (t : Table) : Option Failure :=
  t.rows.toList.findSome? fun (rid, vals) =>
    let full := ((t.generate env src (some rid) vals).toOption).getD vals
    let nullHit := (List.range t.columns.size).any fun j =>
      (t.columns.getD j default).notNull && t.rowidAlias != some j && (full.getD j .null).isNull
    let checkHit := env.checks && t.checks.any fun (_, e) =>
      (((evalOn env [rowOf src t (some rid) full] e).toOption).bind Value.truth) == some false
    if nullHit then some (Failure.logic "NOT NULL constraint failed")
    else if (t.strictFault full).isSome then some (Failure.logic "type mismatch on DEFAULT")
    else if checkHit then some (Failure.logic "CHECK constraint failed")
    else none

/-- Whether a key holds a row: every key of all rows does, and the key of a partial index
holds the rows its condition is true of. -/
def Key.holds (catalog : Catalog) (sn : String) (t : Table) (k : Key) (rid : Int)
    (vals : Array Value) : Bool :=
  match k.filter with
  | none => true
  | some w =>
    let row := rowOf (targetSource t.name sn t) t (some rid) vals
    (((evalOn { catalog } [row] w).toOption).bind Value.truth) == some true

/-- The rows a row collides with on a guard: on a key, the rows the key holds, when it
holds the row. -/
def collisions (catalog : Catalog) (sn : String) (t : Table) (self : Option Int) (rid : Int)
    (vals : Array Value) : Guard → List Int
  | .rowid => if some rid != self && (t.rowAt? rid).isSome then [rid] else []
  | .key k =>
    if !k.holds catalog sn t rid vals then []
    else (t.duplicates k.columns self vals).filter fun r =>
      k.holds catalog sn t r ((t.rowAt? r).getD #[])

def collisionFault (t : Table) (settled : Resolution) : Guard → Write Unit
  | .rowid =>
    match t.rowidAlias with
    | some j => Write.refuse settled 1555 ("UNIQUE constraint failed: " ++ t.name ++ "." ++ (t.columns.getD j default).name)
    | none => Write.refuse settled 2579 ("UNIQUE constraint failed: " ++ t.name ++ ".rowid")
  | .key k => Write.refuse settled (if k.primary then 1555 else 2067)
      ("UNIQUE constraint failed: " ++ t.keyMessage k.columns)

inductive Settled where
  /-- The row may be written; the rows in its way were removed. -/
  | write (t : Table)
  /-- The row is dropped. -/
  | drop
  /-- The row collides with `other` and an `ON CONFLICT` clause updates it. -/
  | upsert (u : Upsert) (other : Int)

/-- Checks a row's uniqueness on every guard in order: the guards `ON CONFLICT` targets
first, then the row number and the keys. A collision goes to the clause guarding it (or
the one without a target), else is settled by the statement's clause or the
constraint's. -/
def settleUnique (catalog : Catalog) (sn : String) (t : Table) (orElse : Option Resolution)
    (upserts : List Upsert) (self : Option Int) (rid : Int) (rowidChanged : Bool)
    (vals : Array Value) : Write Settled := do
  let keys := uniqueOrder catalog sn t
  let targeted := upserts.filterMap fun u => (upsertGuard t (keys ++ t.keys) u).map (u, ·)
  let catchAll := upserts.find? (·.target.isEmpty)
  let rest : List Guard := (if rowidChanged && t.hasRowid then [Guard.rowid] else []) ++ keys.map .key
  let rest := rest.filter fun g => !targeted.any fun (_, h) => g.same h
  let mut t := t
  for (u, g) in targeted do
    if let some other := (collisions catalog sn t self rid vals g).head? then
      if u.update.isNone then return .drop
      return .upsert u other
  for g in rest do
    let hits := collisions catalog sn t self rid vals g
    let some other := hits.head? | continue
    if let some u := catchAll then
      if u.update.isNone then return .drop
      return .upsert u other
    let own := match g with
      | .rowid => t.rowidConflict
      | .key k => k.onConflict
    match settle orElse own with
    | .ignore => return .drop
    | .replace => t := hits.foldl Table.dropRow t
    | r => collisionFault t r g
  return .write t

/-- A row of a table with values assigned to its columns, each with the column's affinity;
a value assigned to the row number's column, or to a name of the row number, gives the
row its new number. -/
def Table.assign (t : Table) (rid : Int) (old : Array Value) (assigned : List (Name × Value)) :
    Write (Int × Array Value) := do
  let mut vals := old
  let mut newRid := rid
  for (c, v) in assigned do
    match t.columnIndex c.text with
    | some j =>
      if t.rowidAlias == some j then
        newRid ← rowNumber v
        vals := vals.set! j (.int newRid)
      else
        vals := vals.set! j (t.withAffinities (vals.set! j v) |>.getD j v)
    | none => newRid ← rowNumber v
  return (newRid, vals)

/-- Computes a changed row from its old values and the values assigned to its columns (a
row number name changing the row number), then checks and writes it: the table after, with
the row's number and values, or none when the row is dropped. -/
def changeRow (env : Env) (catalog : Catalog) (sn : String) (src : Source) (t : Table)
    (orElse : Option Resolution) (rid : Int) (old : Array Value) (assigned : List (Name × Value)) :
    Write (Option (Table × Int × Array Value)) := do
  let (newRid, vals) ← t.assign rid old assigned
  let full ← Write.run (t.generate env src (some newRid) vals)
  let some checked ← checkRow env src t orElse (some newRid) full | return none
  let keysChanged := newRid != rid || assigned.any fun (c, _) => (t.columnIndex c.text).isSome
  if !keysChanged then return some (t.putRow rid checked, rid, checked)
  match ← settleUnique catalog sn t orElse [] (some rid) newRid (newRid != rid) checked with
  | .drop => return none
  | .upsert _ _ => return none
  | .write t' => return some ((t'.dropRow rid).putRow newRid checked, newRid, checked)

/-- The row number a new row asks for: the value given to it read as an integer, or none
when no value or null was given. -/
def askedRowid (given : Option Value) : Write (Option Int) :=
  match given with
  | some v => if v.isNull then pure none else some <$> rowNumber v
  | none => pure none

inductive Proposal where
  /-- The row was written at its row number: the table after, and the row as written. -/
  | inserted (t : Table) (rid : Int) (vals : Array Value)
  /-- The row collides with the row `other`, which the `ON CONFLICT ... DO UPDATE` clause
  `u` updates, seeing the proposed row as `excluded`. -/
  | update (u : Upsert) (other : Int) (rid : Int) (vals : Array Value)
  /-- The row was dropped. -/
  | dropped

/-- Proposes a new row to a table at a row number: its values by column with affinities
applied (the row number's column taking it) and generated columns computed, checked and
written unless its uniqueness is settled by dropping it or an `ON CONFLICT` clause.
`explicit` holds when the statement gave the row number. -/
def proposeRow (env : Env) (catalog : Catalog) (sn : String) (src : Source) (t : Table)
    (orElse : Option Resolution) (upserts : List Upsert) (rid : Int) (explicit : Bool)
    (vals : Array Value) : Write Proposal := do
  let vals := match t.rowidAlias with
    | some j => vals.set! j (.int rid)
    | none => vals
  let vals ← Write.run (t.generate env src (some rid) vals)
  let some vals ← checkRow env src t orElse (some rid) vals | return .dropped
  match ← settleUnique catalog sn t orElse upserts none rid explicit vals with
  | .drop => return .dropped
  | .write t' => return .inserted (t'.putRow rid vals) rid vals
  | .upsert u other => return .update u other rid vals

end Foreman.Sql
