import Foreman.Sql.Change
import Foreman.Sql.SchemaText
import Foreman.Text.Quote

/-!
# A connection's session

A session is one connection: the catalog it sees, its transaction and savepoints, and its
settings. A script runs statement by statement, each read and checked on the catalog the ones
before left, bound and run; the first failure ends the script, keeping earlier work. No
parameter is ever bound, so a statement with one fails to bind. A `query_only` connection
refuses every statement that writes, and a WAL database another connection has open cannot
leave WAL.
-/

namespace Foreman.Sql

/-- The journal modes, in the order a mode is matched by its first letters. -/
def journalModes : List String := ["delete", "persist", "off", "truncate", "memory", "wal"]

structure Session where
  catalog : Catalog := {}
  /-- The catalog as the open transaction found it, when one is open. -/
  begun : Option Catalog := none
  /-- Whether the open transaction began with a savepoint, so that releasing its
  outermost savepoint commits it. -/
  bySavepoint : Bool := false
  /-- Whether the open transaction took the database's locks when it began. -/
  locked : Bool := false
  /-- The savepoints, innermost first, each with the catalog it saved. -/
  savepoints : List (String × Catalog) := []
  /-- The journal mode of the main database. -/
  journal : String := "delete"
  /-- Whether the main database lives in memory, private to the connection. -/
  memory : Bool := false
  /-- Whether another connection has the database open. -/
  shared : Bool := false
  /-- Whether statements that write are refused. -/
  queryOnly : Bool := false
  /-- Whether foreign keys are enforced. -/
  foreignKeys : Bool := false
  /-- Whether rows are held to their tables' checks. -/
  checks : Bool := true
  /-- Whether the temporary database has been opened. -/
  tempOpen : Bool := false
  /-- Whether the text encoding is settled, as it is once a schema has been written. -/
  encodingFixed : Bool := false
  /-- Whether `LIKE` tells upper from lower case. -/
  caseSensitiveLike : Bool := false
  /-- Whether a trigger's statements may fire triggers again, itself among them. -/
  recursiveTriggers : Bool := false
  /-- How long, in milliseconds, the connection waits for a lock. -/
  busyTimeout : Nat := 0
  deriving Inhabited

inductive Refusal where
  /-- The engine refused a statement: the result code and the message. -/
  | engine (code : Nat) (message : String)
  /-- A parameter of a statement had no value to bind. -/
  | unbound (message : String)
  deriving Inhabited

def resultText (code : Nat) : String :=
  match code % 256 with
  | 0 => "not an error"
  | 1 => "SQL logic error"
  | 3 => "access permission denied"
  | 4 => "query aborted"
  | 5 => "database is locked"
  | 6 => "database table is locked"
  | 7 => "out of memory"
  | 8 => "attempt to write a readonly database"
  | 9 => "interrupted"
  | 10 => "disk I/O error"
  | 11 => "database disk image is malformed"
  | 13 => "database or disk is full"
  | 14 => "unable to open database file"
  | 15 => "locking protocol"
  | 17 => "database schema has changed"
  | 18 => "string or blob too big"
  | 19 => "constraint failed"
  | 20 => "datatype mismatch"
  | 21 => "bad parameter or other API misuse"
  | 23 => "authorization denied"
  | 25 => "column index out of range"
  | 26 => "file is not a database"
  | _ => "unknown error"

/-- The failure of a statement that writes on a connection that may not. -/
def readOnly : Failure := { code := 8, message := "attempt to write a readonly database" }

def lockedFailure : Failure := { code := 5, message := "database is locked" }

/-- A pragma's value as text: with its minus sign when it has one. -/
def PragmaValue.words (v : PragmaValue) : String := (if v.negative then "-" else "") ++ v.text

/-- A pragma's value read as a truth value: a number is true when its last byte is not
zero; `on`, `yes` and `true` are true; anything else is false. -/
def PragmaValue.truth (v : PragmaValue) : Bool :=
  let z := v.words
  match z.toList with
  | c :: _ =>
    if c.isDigit then (Value.digitsValue (z.toList.takeWhile Char.isDigit)) % 256 != 0
    else ["on", "yes", "true"].any (sameName · z)
  | [] => false

/-- A pragma's value as a 32-bit integer, read as the engine reads a small number: a sign
and decimal digits, anything after ignored, or `0x` and at most eight hexadecimal digits
below `0x80000000`; none otherwise or when it does not fit. -/
def PragmaValue.int32 (v : PragmaValue) : Option Int :=
  let hexDigit (c : Char) : Bool := c.isDigit || ('a' ≤ c.toLower && c.toLower ≤ 'f')
  let hexValue (c : Char) : Nat := if c.isDigit then c.toNat - 48 else c.toLower.toNat - 87
  let decimal (neg : Bool) (cs : List Char) : Option Int :=
    if cs.head?.any Char.isDigit then
      let ds := (cs.dropWhile (· == '0')).takeWhile Char.isDigit
      let n : Int := Value.digitsValue ds
      if ds.length > 10 || n - (if neg then 1 else 0) > 2147483647 then none
      else some (if neg then -n else n)
    else none
  let cs := v.words.toList
  match cs with
  | '-' :: r => decimal true r
  | '+' :: r => decimal false r
  | '0' :: x :: d :: rest =>
    if (x == 'x' || x == 'X') && hexDigit d then
      let taken := ((d :: rest).dropWhile (· == '0')).takeWhile hexDigit
      let u := taken.foldl (fun a c => a * 16 + hexValue c) 0
      if taken.length > 8 || u ≥ 2147483648 then none else some u
    else decimal false cs
  | _ => decimal false cs

def Stmt.writes : Stmt → Bool
  | .insert .. | .update .. | .delete .. | .createTable .. | .createView .. | .createIndex ..
  | .createTrigger .. | .createVirtual .. | .drop .. | .renameTable .. | .renameColumn ..
  | .addColumn .. | .dropColumn .. | .vacuum .. | .analyze .. => true
  | .begin (some m) => sameName m "IMMEDIATE" || sameName m "EXCLUSIVE"
  | .pragma _ n (some _) => sameName n.text "user_version" || sameName n.text "application_id"
  | _ => false

def virtualModules : List String := ["fts3", "fts4", "fts5", "rtree", "rtree_i32", "geopoly", "dbstat"]

namespace Session

def withCatalog (s : Session) (c : Catalog) : Session := { s with catalog := c }

/-- The session after its transaction ends, with the catalog it ends with. -/
def closeTransaction (s : Session) (c : Catalog) : Session :=
  { s with catalog := c, begun := none, bySavepoint := false, locked := false, savepoints := [] }

def inTransaction (s : Session) : Bool := s.begun.isSome

/-- Where the session's statements change rows: at the top, with its foreign keys and its
checks. -/
def scope (s : Session) : Scope := { foreignKeys := s.foreignKeys, checks := s.checks }

/-- Where a statement that changes the rows of a target runs, with its `RETURNING`
clause. -/
def scopeFor (s : Session) (target : Target) (returning : Option (List ResultColumn)) : Scope :=
  let label := (target.asName.map (·.text)).getD target.table.name.text
  { s.scope with returning := returning.map (label, ·) }

/-- The failure of committing the open transaction when it leaves more rows breaking the
deferred foreign keys than it found, if any. -/
def commitFault (s : Session) : Option Failure :=
  let deferred := fun (fk : ForeignKey) => fk.deferred
  if s.foreignKeys && s.catalog.orphans deferred > ((s.begun).getD s.catalog).orphans deferred then
    some { code := 787, message := foreignKeyMessage }
  else none

end Session

/-- The automatic indexes of a new table's keys, named as the engine names them. -/
def automaticIndexes (t : Table) : List Index :=
  t.keys.zipIdx.map fun (k, i) =>
    { name := "sqlite_autoindex_" ++ t.name ++ "_" ++ toString (i + 1), table := t.name,
      unique := true, columns := k.columns.map some, automatic := true }

/-- The table that keeps the counters of tables whose row numbers only count up. -/
def sequenceTable : Table :=
  { name := "sqlite_sequence", columns := #[{ name := "name", type := "" }, { name := "seq", type := "" }] }

/-- The place in the schema table of the next object, and its root page when it takes
one: a free page when there is one (the lowest the head of the free list lists, else the
head itself), else a new page at the end of the file. -/
def Schema.reserve (s : Schema) (paged : Bool) : (Nat × Nat) × Schema :=
  let s' := { s with serials := s.serials + 1 }
  if !paged then ((s.serials, 0), s')
  else match s.freeTrunk, s.freeLeaves with
    | none, _ => ((s.serials, s.pages + 1), { s' with pages := s.pages + 1 })
    | some t, [] => ((s.serials, t), { s' with freeTrunk := none })
    | some _, l :: ls =>
      let lowest := ls.foldl min l
      ((s.serials, lowest), { s' with freeLeaves := (l :: ls).erase lowest })

/-- A schema with a page given back: it heads the free list when the list is empty, and is
listed by the head otherwise. -/
def Schema.freePage (s : Schema) (page : Nat) : Schema :=
  if page == 0 then s
  else match s.freeTrunk with
    | none => { s with freeTrunk := some page }
    | some _ => { s with freeLeaves := s.freeLeaves ++ [page] }

/-- A schema with the root pages of a table and of its indexes given back, the highest
first. -/
def Schema.freeTablePages (s : Schema) (t : Table) : Schema :=
  let pages := t.rootPage :: (s.indexes.filter (sameName ·.table t.name)).map (·.rootPage)
  let pages := (pages.filter (· != 0)).eraseDups.mergeSort (· ≥ ·)
  pages.foldl Schema.freePage s

/-- A schema with a new table, its automatic indexes, and the counters' table when the new
table counts row numbers up, each taking its place in the schema table and its root page in
turn. A table without row numbers lives in its primary key's b-tree, whose index takes no
page. -/
def Schema.addTable (s : Schema) (t : Table) : Schema :=
  let ((serial, rootPage), s) := s.reserve t.module.isNone
  let t := { t with serial, rootPage }
  let (autos, s) := (automaticIndexes t).zip t.keys |>.foldl (fun (acc, s) (i, k) =>
    if t.withoutRowid && k.primary then
      let ((serial, _), s) := s.reserve false
      (acc ++ [{ i with serial, rootPage := t.rootPage }], s)
    else
      let ((serial, rootPage), s) := s.reserve true
      (acc ++ [{ i with serial, rootPage }], s)) ([], s)
  let s := { s with tables := s.tables ++ [t], indexes := s.indexes ++ autos }
  if t.autoincrement && (s.table? "sqlite_sequence").isNone then
    let ((serial, rootPage), s) := s.reserve true
    let text := "CREATE TABLE sqlite_sequence(name,seq)"
    let counters : Table := { sequenceTable with serial := serial, rootPage := rootPage, sql := some text }
    { s with tables := s.tables ++ [counters] }
  else s

/-- A name as the schema table's generated text writes it: in double quotes unless it is a
plain word that is no keyword. -/
def generatedName (n : String) : String :=
  let cs := n.toList
  let plain := !cs.isEmpty && cs.all (fun c => (c.toNat < 128 && c.isAlphanum) || c == '_') &&
    !(cs.headD ' ').isDigit && !keywords.contains (n.map Char.toUpper)
  if plain then n else "\"" ++ n.replace "\"" "\"\"" ++ "\""

/-- The text the schema table keeps for a table made from a query: its name and each column
with the type of its affinity, on one line when short and one column a line otherwise. -/
def generatedTableText (name : String) (cols : List (String × Option Affinity)) : String :=
  let typeText (a : Option Affinity) : String := match a with
    | some .text => " TEXT"
    | some .numeric => " NUM"
    | some .integer => " INT"
    | some .real => " REAL"
    | _ => ""
  let identLength (x : String) : Nat := x.length + (x.toList.filter (· == '"')).length + 2
  let n := cols.foldl (fun acc (c, _) => acc + identLength c + 5) 0 + identLength name
  let (sep, sep2, close) := if n < 50 then ("", ",", ")") else ("\n  ", ",\n  ", "\n)")
  let body := cols.zipIdx.map fun ((c, a), i) => (if i == 0 then sep else sep2) ++ generatedName c ++ typeText a
  "CREATE TABLE " ++ generatedName name ++ "(" ++ String.join body ++ close

/-- The duplicate a unique index over the rows of a table it holds finds, as its message,
if any. -/
def indexDuplicate (t : Table) (cols : List Nat) (holds : Int → Array Value → Bool) : Option String :=
  let rows := t.rows.toList.filter fun (r, vals) => holds r vals
  let dup := rows.zipIdx.any fun ((r, vals), i) =>
    (t.duplicates cols (some r) vals).any fun other =>
      (rows.findIdx? (·.1 == other)).any (· < i)
  if dup then some ("UNIQUE constraint failed: " ++ t.keyMessage cols) else none

/-- The column an index term names, if it is a column of the table. -/
def indexColumn (t : Table) (e : Expr) : Option Nat :=
  match termColumn t (indexTerm e) with
  | some (some j) => some j
  | some none => t.rowidAlias
  | none => none

/-- The columns of the arguments of a virtual table: the first word of each argument that
is not an option. -/
def virtualColumns (args : List String) : Array Column :=
  (args.filterMap fun a =>
    let a := trimBlanks a
    if a.isEmpty || (a.toList.contains '=') then none
    else some ({ name := dequote (String.ofList (a.toList.takeWhile (!isBlankChar ·))), type := "" } : Column)).toArray

/-- Whether an expression reads a column of a name, outside subqueries. -/
def Expr.readsColumn (name : String) : Nat → Expr → Bool
  | 0, _ => false
  | fuel + 1, e =>
    match e with
    | .column n _ => sameName n.text name
    | .qualified _ _ n => sameName n.text name
    | _ => e.parts.any fun p => match p with
      | .expr x => Expr.readsColumn name fuel x
      | .query _ => false

/-- Whether an expression is a value as written: a literal, `TRUE` or `FALSE`, perhaps
signed or cast. Only such a default can fill a column added to a table that already has
rows, since the rows take it without being written again. -/
def Expr.isWrittenValue : Nat → Expr → Bool
  | 0, _ => false
  | fuel + 1, e =>
    match e with
    | .null | .integer _ | .float _ | .string _ | .blob _ => true
    | .column n false => sameName n.text "true" || sameName n.text "false"
    | .unary .neg x | .unary .pos x | .cast x _ => Expr.isWrittenValue fuel x
    | _ => false

/-- A table with one column removed, its keys and checks moved to the columns after. -/
def Table.withoutColumn (t : Table) (j : Nat) : Table :=
  let shift := fun (i : Nat) => if i > j then i - 1 else i
  { t with columns := t.columns.eraseIdxIfInBounds j,
           rowidAlias := t.rowidAlias.map shift,
           keys := t.keys.map fun k => { k with columns := k.columns.map shift },
           rows := t.rows.map fun (r, vals) => (r, vals.eraseIdxIfInBounds j) }

/-- The session after a change of rows: with the catalog it left on success or a `FAIL`;
as before on `ABORT`; with the transaction rolled back on `ROLLBACK`. A change leaving more
rows breaking the enforced foreign keys than it found fails as a whole. -/
def Session.finish (s : Session) (ch : Change Unit) : Session × Option Failure :=
  let (r, c) := (ch.run).run s.catalog
  match r with
  | .ok () =>
    -- a deferred key waits for the commit, which in autocommit mode ends the statement
    let counts := fun (fk : ForeignKey) => !fk.deferred || !s.inTransaction
    if s.foreignKeys && c.orphans counts > s.catalog.orphans counts then
      (s, some { code := 787, message := foreignKeyMessage })
    else (s.withCatalog c, none)
  | .error w =>
    match w.settled with
    | .rollback => (s.closeTransaction ((s.begun).getD s.catalog), some w.failure)
    | .fail => (s.withCatalog c, some w.failure)
    | _ => (s, some w.failure)

/-- Empties a table about to be dropped while foreign keys are enforced and keys refer to
it, carrying out their actions and firing no triggers of its own. The drop fails, and
nothing is dropped, when that leaves rows without a parent. -/
def Session.emptyReferred (s : Session) (sn : String) (t : Table) : Session × Option Failure :=
  let referred := ((s.catalog.schema? sn).map fun sch =>
    sch.tables.any fun c => c.foreignKeys.any (sameName ·.parent t.name)).getD false
  if !s.foreignKeys || !referred then (s, none)
  else
    let target : Target := { table := { schema := some ⟨sn, sn⟩, name := ⟨t.name, t.name⟩ }, asName := none }
    s.finish (runDelete checkFuel { s.scope with quiet := true } [] target none)

def textEncodings : List String :=
  ["UTF8", "UTF-8", "UTF-16le", "UTF-16be", "UTF16le", "UTF16be", "UTF-16", "UTF16"]

/-- The session with the settings its statements read written into its catalog. -/
def Session.synced (s : Session) : Session :=
  { s with catalog := { s.catalog with settings :=
    { foreignKeys := s.foreignKeys, journalMode := s.journal, caseSensitiveLike := s.caseSensitiveLike,
      recursiveTriggers := s.recursiveTriggers, busyTimeout := s.busyTimeout, queryOnly := s.queryOnly,
      ignoreChecks := !s.checks } } }

/-- Runs a statement that has been prepared, on a session. The session after it and the
failure if it failed. -/
def Session.run (s : Session) (stmt : Stmt) (stored : Option (String × Nat) := none) :
    Session × Option Failure :=
  let s := s.synced
  let catalog := s.catalog
  let env : Env := { catalog, checks := s.checks }
  let fail := fun (f : Failure) => (s, some f)
  if s.queryOnly && stmt.writes then fail readOnly else
  match stmt with
  | .select q =>
    match runSelect checkFuel { env } q (some 1) with
    | .error f => fail f
    | .ok _ => (s, none)
  | .insert ctes orElse target cols source upserts returning =>
    s.finish (runInsert checkFuel (s.scopeFor target returning) ctes orElse target cols source upserts)
  | .update ctes orElse target set _ filter returning =>
    s.finish (runUpdate checkFuel (s.scopeFor target returning) ctes orElse target set filter)
  | .delete ctes target filter returning =>
    s.finish (runDelete checkFuel (s.scopeFor target returning) ctes target filter)
  | .createTable temp ine name body =>
    match Parse.startFault catalog temp false ine name with
    | .error m => fail (Failure.logic m)
    | .ok (_, false) => (s, none)
    | .ok (sn, true) =>
      let made : Run Table := match body with
        | .columns cols cons withoutRowid strict =>
          pure (Table.ofDefinition name.name.text cols cons withoutRowid strict)
        | .query q => do
          let rows ← runSelect checkFuel { env } q none
          let (names, kinds) := (expandColumns checkFuel env q).toOption.getD ([], [])
          let affinities := names.zipIdx.map fun (_, i) => ((kinds.getD i {}).affinity).getD .blob
          let typeName (a : Affinity) : String := match a with
            | .text => "TEXT"
            | .numeric => "NUM"
            | .integer => "INT"
            | .real => "REAL"
            | .blob => "BLOB"
          let cols := (names.zip affinities).toArray.map fun (n, a) => ({ name := n, type := typeName a } : Column)
          let numbered := rows.toArray.zipIdx.map fun (r, i) => ((i + 1 : Nat) , r.toArray)
          let numberedRows := numbered.map fun (i, r) => ((i : Int), r)
          let sql := generatedTableText name.name.text (names.zip (affinities.map some))
          pure { name := name.name.text, columns := cols, rows := numberedRows, sql := some sql }
      match made with
      | .error f => fail f
      | .ok t =>
        let t := match stored, body with
          | some (sql, columnsEnd), .columns .. => { t with sql := some sql, columnsEnd }
          | _, _ => t
        let s' := s.withCatalog (catalog.modifySchema sn (·.addTable t))
        (if sn == "temp" then { s' with tempOpen := true } else s', none)
  | .createView temp ine name cols q =>
    match viewCreateFault catalog false temp ine name q with
    | .error m => fail (Failure.logic m)
    | .ok none => (s, none)
    | .ok (some sn) =>
      let s' := s.withCatalog (catalog.modifySchema sn fun sc =>
        let ((serial, _), sc) := sc.reserve false
        let v : View := { name := name.name.text, columns := cols, query := q, sql := stored.map (·.1), serial }
        { sc with views := sc.views ++ [v] })
      (if sn == "temp" then { s' with tempOpen := true } else s', none)
  | .createIndex unique ine name table terms filter =>
    match indexCreateFault catalog ine name table terms filter with
    | .error m => fail (Failure.logic m)
    | .ok none => (s, none)
    | .ok (some (sn, t)) =>
      let columns := terms.map fun o => indexColumn t o.expr
      let key : Key := { columns := columns.filterMap id, primary := false, filter }
      let dup := if unique && columns.all Option.isSome then
          indexDuplicate t key.columns (key.holds catalog sn t) else none
      match dup with
      | some m => fail { code := 2067, message := m }
      | none =>
        (s.withCatalog (catalog.modifySchema sn fun sc =>
          let ((serial, rootPage), sc) := sc.reserve true
          let i : Index := { name := name.name.text, table := t.name, unique, columns, automatic := false,
                             filter, sql := stored.map (·.1), rootPage, serial }
          { sc with indexes := sc.indexes ++ [i] }), none)
  | .createTrigger temp ine name time event table condition body =>
    let sn := triggerSchema catalog temp name table
    if ine && ((catalog.schema? sn).bind (·.trigger? name.name.text)).isSome then (s, none) else
    let s' := s.withCatalog (catalog.modifySchema sn fun sc =>
      let ((serial, _), sc) := sc.reserve false
      let tr : Trigger := { name := name.name.text, table := table.name.text, time, event, condition, body,
                            sql := stored.map (·.1), serial }
      { sc with triggers := sc.triggers ++ [tr] })
    (if sn == "temp" then { s' with tempOpen := true } else s', none)
  | .createVirtual ine name module args =>
    match Parse.startFault catalog false false ine name with
    | .error m => fail (Failure.logic m)
    | .ok (_, false) => (s, none)
    | .ok (sn, true) =>
      if !virtualModules.any (sameName · module.text) then fail (Failure.logic ("no such module: " ++ module.text))
      else
        (s.withCatalog (catalog.modifySchema sn fun sc =>
          let ((serial, _), sc) := sc.reserve false
          let t : Table := { name := name.name.text, columns := virtualColumns args, module := some module.text,
                             sql := stored.map (·.1), serial }
          { sc with tables := sc.tables ++ [t] }), none)
  | .drop kind _ q =>
    let sn := q.schema.map (·.text)
    let (s, emptied) := match kind, catalog.relation? sn q.name.text with
      | .table, some (.table tsn t) => s.emptyReferred tsn t
      | _, _ => (s, none)
    if let some f := emptied then (s, some f) else
    let catalog := s.catalog
    let removed : Option Catalog := match kind with
      | .table | .view =>
        (catalog.relation? sn q.name.text).map fun r =>
          catalog.modifySchema r.schema fun sc =>
            let sc := match r with
              | .table _ t => sc.freeTablePages t
              | _ => sc
            { sc with tables := sc.tables.filter (!sameName ·.name r.name),
                      views := sc.views.filter (!sameName ·.name r.name),
                      indexes := sc.indexes.filter (!sameName ·.table r.name),
                      triggers := sc.triggers.filter (!sameName ·.table r.name) }
      | .index =>
        (catalog.index? sn q.name.text).map fun (isn, i) =>
          catalog.modifySchema isn fun sc =>
            { sc.freePage i.rootPage with indexes := sc.indexes.filter (!sameName ·.name i.name) }
      | .trigger =>
        (catalog.trigger? sn q.name.text).map fun (tsn, tr) =>
          catalog.modifySchema tsn fun sc => { sc with triggers := sc.triggers.filter (!sameName ·.name tr.name) }
    match removed with
    | some c => (s.withCatalog c, none)
    | none => (s, none)
  | .begin mode =>
    if s.inTransaction then fail (Failure.logic "cannot start a transaction within a transaction")
    else
      let immediate := match mode with
        | some m => sameName m "IMMEDIATE" || sameName m "EXCLUSIVE"
        | none => false
      ({ s with begun := some catalog, locked := immediate, bySavepoint := false }, none)
  | .commit =>
    if !s.inTransaction then fail (Failure.logic "cannot commit - no transaction is active")
    else match s.commitFault with
      | some f => fail f
      | none => (s.closeTransaction catalog, none)
  | .rollback =>
    match s.begun with
    | none => fail (Failure.logic "cannot rollback - no transaction is active")
    | some c => (s.closeTransaction c, none)
  | .savepoint n =>
    let s' := if s.inTransaction then s else { s with begun := some catalog, bySavepoint := true }
    ({ s' with savepoints := (n.text, catalog) :: s'.savepoints }, none)
  | .release n =>
    match s.savepoints.findIdx? (sameName ·.1 n.text) with
    | none => fail (Failure.logic ("no such savepoint: " ++ n.text))
    | some i =>
      if i + 1 == s.savepoints.length && s.bySavepoint then
        match s.commitFault with
        | some f => fail f
        | none => (s.closeTransaction catalog, none)
      else ({ s with savepoints := s.savepoints.drop (i + 1) }, none)
  | .rollbackTo n =>
    match s.savepoints.findIdx? (sameName ·.1 n.text) with
    | none => fail (Failure.logic ("no such savepoint: " ++ n.text))
    | some i =>
      let saved := ((s.savepoints.getD i default).2)
      ({ s with catalog := saved, savepoints := s.savepoints.drop i }, none)
  | .pragma schema name value =>
    let word := name.text.map Char.toLower
    match word, value with
    | "journal_mode", some v =>
      let z := v.words.map Char.toLower
      match journalModes.find? (fun m => m.startsWith z) with
      | none => (s, none)
      | some wanted =>
        let onMain := match schema with
          | some sc => sameName sc.text "main"
          | none => true
        if !onMain then (s, none)
        else
          let wanted := if s.memory && !(wanted == "memory" || wanted == "off") then s.journal else wanted
          let wanted := if wanted == "wal" && s.memory then s.journal else wanted
          if wanted == s.journal || !(wanted == "wal" || s.journal == "wal") then
            ({ s with journal := wanted }, none)
          else if s.inTransaction then
            fail (Failure.logic ("cannot change " ++ (if wanted == "wal" then "into" else "out of") ++
              " wal mode from within a transaction"))
          else if s.journal == "wal" && s.shared then fail lockedFailure
          else ({ s with journal := wanted }, none)
    | "encoding", some v =>
      let given := (if v.negative then "-" else "") ++ v.text
      if s.encodingFixed || textEncodings.any (sameName · given) then (s, none)
      else fail (Failure.logic ("unsupported encoding: " ++ given))
    | "query_only", some v => ({ s with queryOnly := v.truth }, none)
    | "ignore_check_constraints", some v => ({ s with checks := !v.truth }, none)
    | "foreign_keys", some v =>
      if s.inTransaction then (s, none) else ({ s with foreignKeys := v.truth }, none)
    | "case_sensitive_like", some v => ({ s with caseSensitiveLike := v.truth }, none)
    | "recursive_triggers", some v => ({ s with recursiveTriggers := v.truth }, none)
    | "busy_timeout", some v => ({ s with busyTimeout := (v.int32.getD 0).toNat }, none)
    | "user_version", some v | "application_id", some v =>
      let n : Int := (v.int32.getD 0)
      let sn := (schema.map (·.text)).getD "main"
      match catalog.schemaName? sn with
      | none => fail (Failure.logic ("unknown database " ++ sn))
      | some sn =>
        (s.withCatalog (catalog.modifySchema sn fun sc =>
          if word == "user_version" then { sc with userVersion := n } else { sc with applicationId := n }), none)
    | _, _ => (s, none)
  | .vacuum _ into =>
    match (match into with
      | some e => (evalOn env [] e).map some
      | none => pure none) with
    | .error f => fail f
    | .ok target =>
      if s.inTransaction then fail (Failure.logic "cannot VACUUM from within a transaction")
      else match target with
        | some (.text _) | some (.rawText _) | none => (s, none)
        | some _ => fail (Failure.logic "non-text filename")
  | .analyze _ =>
    if (catalog.main.table? "sqlite_stat1").isSome then (s, none)
    else
      let statColumns : Array Column := #["tbl", "idx", "stat"].map fun n => { name := n, type := "" }
      let stat : Table := { name := "sqlite_stat1", columns := statColumns }
      (s.withCatalog (catalog.modifySchema "main" fun sc => { sc with tables := sc.tables ++ [stat] }), none)
  | .attach file schema _ =>
    match evalOn env [] (attachName file), evalOn env [] (attachName schema) with
    | .error f, _ | _, .error f => fail f
    | .ok _, .ok nv =>
      let n := (nv.asText).getD ""
      if catalog.attached.length ≥ 10 then fail (Failure.logic "too many attached databases - max 10")
      else if sameName n "main" || sameName n "temp" || catalog.attached.any (sameName ·.1 n) then
        fail (Failure.logic ("database " ++ n ++ " is already in use"))
      else (s.withCatalog { catalog with attached := catalog.attached ++ [(n, {})] }, none)
  | .detach schema =>
    match evalOn env [] (attachName schema) with
    | .error f => fail f
    | .ok nv =>
      let n := (nv.asText).getD ""
      if sameName n "main" then fail (Failure.logic ("cannot detach database " ++ n))
      else if sameName n "temp" then
        fail (Failure.logic (if s.tempOpen then "cannot detach database " ++ n else "no such database: " ++ n))
      else if !catalog.attached.any (sameName ·.1 n) then fail (Failure.logic ("no such database: " ++ n))
      else if s.inTransaction && s.locked then fail (Failure.logic ("database " ++ n ++ " is locked"))
      else (s.withCatalog { catalog with attached := catalog.attached.filter (!sameName ·.1 n) }, none)
  | .renameTable q newName =>
    match catalog.relation? (q.schema.map (·.text)) q.name.text with
    | some (.table sn t) =>
      let onNew (sql : Option String) : Option String :=
        sql.map fun x => SchemaText.renameTarget x t.name newName.text
      let renamed := catalog.modifySchema sn fun sc =>
        { sc with tables := sc.tables.map (fun u => if sameName u.name t.name then
                    { u with name := newName.text, sql := u.sql.map (SchemaText.renameTable · newName.text) } else u),
                  indexes := sc.indexes.map (fun i => if sameName i.table t.name then
                    { i with table := newName.text, sql := onNew i.sql } else i),
                  triggers := sc.triggers.map (fun tr => if sameName tr.table t.name then
                    { tr with table := newName.text, sql := onNew tr.sql } else tr) }
      (s.withCatalog renamed, none)
    | _ => (s, none)
  | .renameColumn q old new =>
    match catalog.relation? (q.schema.map (·.text)) q.name.text with
    | some (.table sn t) =>
      let quote := (new.written.toList.head?.map fun c => c == '"' || c == '`' || c == '[' || c == '\'').getD false
      let t' := { t with columns := t.columns.map (fun c => if sameName c.name old.text then { c with name := new.text } else c),
                         sql := t.sql.map fun x => SchemaText.renameColumn x t.name old.text new.text quote }
      let dup := t.columns.any fun c => sameName c.name new.text && !sameName c.name old.text
      let onIndex (i : Index) : Index :=
        if sameName i.table t.name then { i with sql := i.sql.map fun x => SchemaText.renameIndexColumn x old.text new.text quote }
        else i
      if dup then
        fail (Failure.logic ("error in table " ++ t.name ++ " after rename: duplicate column name: " ++ new.text))
      else
        (s.withCatalog (catalog.modifySchema sn fun sc => { sc.putTable t' with indexes := sc.indexes.map onIndex }), none)
    | _ => (s, none)
  | .addColumn q column =>
    match catalog.relation? (q.schema.map (·.text)) q.name.text with
    | some (.table sn t) =>
      let single := Table.ofDefinition t.name [column] [] false false
      let added := single.columns.getD 0 default
      let dflt := added.default
      let nullDefault := match dflt with
        | some .null | none => true
        | _ => false
      let constantDefault := match dflt with
        | some e => Expr.isWrittenValue checkFuel e
        | none => true
      let refuse := fun (m : String) => if t.rows.isEmpty then none else some (Failure.logic m)
      let problem :=
        if added.generated then (if added.stored then refuse "cannot add a STORED column" else none)
        else if s.foreignKeys && !single.foreignKeys.isEmpty && !nullDefault then
          refuse "Cannot add a REFERENCES column with non-NULL default value"
        else if added.notNull && nullDefault then refuse "Cannot add a NOT NULL column with default value NULL"
        else if !constantDefault then refuse "Cannot add a column with non-constant default"
        else none
      match problem with
      | some f => fail f
      | none =>
        match (match dflt with
          | some e => if added.generated then pure Value.null else evalOn env [] e
          | none => pure Value.null) with
        | .error f => fail f
        | .ok v =>
          let newIndex := t.columns.size
          let t' := { t with columns := t.columns.push added,
                             checks := t.checks ++ single.checks,
                             foreignKeys := t.foreignKeys ++ single.foreignKeys.map ({ · with columns := [newIndex] }),
                             rows := t.rows.map fun (r, vals) => (r, vals.push (Value.withAffinity added.affinity v)) }
          let verify := !t'.checks.isEmpty || (added.generated && added.notNull) || t.strict
          let t' := match t.sql, stored with
            | some sql, some (definition, _) =>
              let (sql', columnsEnd) := SchemaText.addColumn sql t.columnsEnd definition
              { t' with sql := some sql', columnsEnd }
            | _, _ => t'
          match (if verify then t'.gainedColumnFault env (targetSource t.name sn t') else none) with
          | some f => fail f
          | none => (s.withCatalog (catalog.modifySchema sn (·.putTable t')), none)
    | _ => (s, none)
  | .dropColumn q col =>
    match catalog.relation? (q.schema.map (·.text)) q.name.text with
    | some (.table sn t) =>
      match t.columnIndex col.text with
      | none => (s, none)
      | some j =>
        let sc := (catalog.schema? sn).getD {}
        let cname := (t.columns.getD j default).name
        let checkHit := t.checks.any fun (_, e) => e.readsColumn cname checkFuel
        let indexHit := sc.indexes.find? fun i => sameName i.table t.name && !i.automatic && i.columns.contains (some j)
        if checkHit then
          fail (Failure.logic ("error in table " ++ t.name ++ " after drop column: no such column: " ++ cname))
        else match indexHit with
          | some i => fail (Failure.logic ("error in index " ++ i.name ++ " after drop column: no such column: " ++ cname))
          | none =>
            let t' := t.withoutColumn j
            let t' := match t.sql with
              | some sql =>
                let (sql', columnsEnd) := SchemaText.dropColumn sql t.name t.columnsEnd j
                { t' with sql := some sql', columnsEnd }
              | none => t'
            (s.withCatalog (catalog.modifySchema sn (·.putTable t')), none)
    | _ => (s, none)
  | _ => (s, none)

/-- The message of a statement whose first parameter has no value bound. -/
def unboundMessage (name : Option String) : String :=
  match name with
  | none => "missing argument with index 1"
  | some n => "missing named argument " ++ Quote.text (String.ofList (n.toList.drop 1))

/-- The result code of a statement that could not be prepared: a collation sequence that
does not exist has a code of its own, every other failure is a logic error. -/
def preparingCode (m : String) : Nat :=
  if m.startsWith "no such collation sequence: " then 257 else 1

/-- Runs a script on a session: its statements one after another, each read and checked on
the catalog the statements before it left, bound and run. The text ends at its first NUL.
The session after the script, and why it stopped if a statement failed. -/
def Session.exec (s : Session) (script : String) : Session × Option Refusal :=
  let text := (script.toList.takeWhile (· != '\x00')).toArray
  let tokens := tokenize (String.ofList text.toList)
  let rec loop : Nat → Session → Nat → Session × Option Refusal
    | 0, s, _ => (s, none)
    | fuel + 1, s, pos =>
      match prepareAt s.catalog text tokens pos with
      | .error m => (s, some (.engine (preparingCode m) m))
      | .ok none => (s, none)
      | .ok (some (p, next)) =>
        match prepareFault s.catalog (p.params.size > 0) s.foreignKeys p.stmt with
        | .error m => (s, some (.engine (preparingCode m) m))
        | .ok () =>
          match p.params[0]? with
          | some name => (s, some (.unbound (unboundMessage name)))
          | none =>
            if p.explain then loop fuel s next
            else
              let stored := SchemaText.ofStatement text (tokens.extract pos next).toList
              match s.run p.stmt stored with
              | (s', some f) => (s', some (.engine f.code f.message))
              | (s', none) =>
                let fixes := match p.stmt with
                  | .createTable .. | .createView .. | .createIndex .. | .createTrigger ..
                  | .createVirtual .. => true
                  | _ => false
                loop fuel (if fixes then { s' with encodingFixed := true } else s') next
  loop (tokens.size + 1) s 0

end Foreman.Sql
