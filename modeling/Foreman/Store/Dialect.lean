import Foreman.Fault
import Foreman.Text.Space

/-!
# SQL dialects

The three databases differ in placeholders (`?`, or `$1`, `$2` … for PostgreSQL), identifier
quotes (backquotes for MySQL, double quotes otherwise), locking a row without waiting (SQLite
has no row locks: transactions take the write lock as they begin), and listing the schemas
defining a view. Tenant tables may live in a schema named by a pattern with
`{organization_id}` and `{workspace_id}`; SQLite's `main` is written unqualified.
-/

namespace Foreman

structure Dialect where
  name : String
  /-- Whether placeholders are numbered (`$1`, `$2`, …). -/
  dollar : Bool
  /-- The character that quotes identifiers. -/
  quoteChar : Char
  /-- The clause that locks a selected row without waiting, or nothing. -/
  lockNoWait : String
  /-- The query for the schemas that define a view, with one placeholder for its name. -/
  viewQuery : String
  deriving BEq, Inhabited

namespace Dialect

def mysql : Dialect :=
  ⟨"mysql", false, '`', " FOR UPDATE NOWAIT",
    "SELECT TABLE_SCHEMA FROM INFORMATION_SCHEMA.VIEWS WHERE TABLE_NAME = ?"⟩

def postgres : Dialect :=
  ⟨"postgres", true, '"', " FOR UPDATE NOWAIT",
    "SELECT table_schema FROM information_schema.views WHERE upper(table_name) = upper(?)"⟩

def sqlite : Dialect :=
  ⟨"sqlite", false, '"', "", "SELECT 'main' FROM sqlite_master WHERE type = 'view' AND name = ?"⟩

/-- The dialect of a driver name (in any case, blanks ignored). -/
def ofDriver? (driver : String) : Option Dialect :=
  match Text.lower (Text.trimSpace driver) with
  | "mysql" => some mysql
  | "postgres" | "postgresql" => some postgres
  | "sqlite" | "sqlite3" => some sqlite
  | _ => none

/-- Numbers the `?` placeholders outside single-quoted literals, from `n + 1` on. -/
def numberPlaceholders : Nat → Bool → List Char → List Char
  | _, _, [] => []
  | n, quoted, c :: rest =>
    if c == '\'' then c :: numberPlaceholders n (!quoted) rest
    else if c == '?' && !quoted then
      '$' :: (toString (n + 1)).toList ++ numberPlaceholders (n + 1) quoted rest
    else c :: numberPlaceholders n quoted rest

/-- A statement with its placeholders written in the dialect's style. -/
def rebind (d : Dialect) (q : String) : String :=
  if !d.dollar || !Text.hasChar q '?' then q
  else String.ofList (numberPlaceholders 0 false q.toList)

def quote (d : Dialect) (ident : String) : String :=
  let q := d.quoteChar
  String.ofList (q :: (ident.toList.flatMap fun c => if c == q then [q, q] else [c]) ++ [q])

/-- A table qualified by its schema; no schema (or SQLite's `main`) leaves it bare. -/
def qualify (d : Dialect) (schema table : String) : String :=
  if schema == "" || (d.name == sqlite.name && schema == "main") then table
  else d.quote schema ++ "." ++ table

def viewSchemasQuery (d : Dialect) : String := d.rebind d.viewQuery

end Dialect

namespace SchemaPattern

/-- Replaces the placeholders of a schema pattern, from left to right; the replacements are
not read again. -/
def fill (org ws : String) : List Char → List Char
  | [] => []
  | c :: rest =>
    let s := String.ofList (c :: rest)
    if s.startsWith "{organization_id}" then
      org.toList ++ fill org ws (rest.drop 16)
    else if s.startsWith "{workspace_id}" then
      ws.toList ++ fill org ws (rest.drop 13)
    else c :: fill org ws rest
termination_by cs => cs.length
decreasing_by all_goals simp only [List.length_drop, List.length_cons]; omega

end SchemaPattern

/-- Whether a failure means another session holds the row (or, for SQLite, the write lock)
and a lock that does not wait was refused. -/
def Fault.isLockNotAvailable (f : Fault) : Bool :=
  f.causes.any fun c => match c with
    | .mysql n => n == 3572 || n == 1205 || n == 1213
    | .postgres code => code == "55P03"
    | .sqlite code => code % 256 == 5 || code % 256 == 6
    | _ => false

end Foreman
