import Foreman.Sql.Catalog

/-!
# The built-in functions

Every function the engine knows, with its argument counts and kind: scalar (one value per
row), aggregate (folding a group, also over a window), or window only (`row_number`, `rank`,
`lag`, ...). Names match up to ASCII case; an unknown name is `no such function`, a wrong
count `wrong number of arguments`. `min` and `max` aggregate with one argument and are scalar
with more.
-/

namespace Foreman.Sql

inductive FunctionKind where
  | scalar | aggregate | window
  deriving Inhabited, BEq, Repr

inductive Arity where
  /-- Any number. -/
  | any
  /-- At least so many. -/
  | atLeast (n : Nat)
  /-- One of these. -/
  | oneOf (ns : List Nat)
  deriving Inhabited, Repr

def Arity.admits : Arity → Nat → Bool
  | .any, _ => true
  | .atLeast m, n => m ≤ n
  | .oneOf ns, n => ns.contains n

/-- A form of a function: its name, the arguments it takes and its kind. -/
structure FunctionForm where
  name : String
  arity : Arity
  kind : FunctionKind
  deriving Inhabited

def scalarForm (name : String) (arity : Arity) : FunctionForm := ⟨name, arity, .scalar⟩

def fixed (names : List String) (ns : List Nat) : List FunctionForm :=
  names.map fun n => scalarForm n (.oneOf ns)

/-- The built-in functions, in the order they are looked up: for a name with several forms
the first that admits the number of arguments is taken. -/
def builtinForms : List FunctionForm :=
  [ ⟨"min", .oneOf [1], .aggregate⟩, ⟨"max", .oneOf [1], .aggregate⟩,
    scalarForm "min" (.atLeast 1), scalarForm "max" (.atLeast 1),
    ⟨"count", .oneOf [0, 1], .aggregate⟩, ⟨"sum", .oneOf [1], .aggregate⟩,
    ⟨"total", .oneOf [1], .aggregate⟩, ⟨"avg", .oneOf [1], .aggregate⟩,
    ⟨"group_concat", .oneOf [1, 2], .aggregate⟩, ⟨"string_agg", .oneOf [2], .aggregate⟩,
    ⟨"json_group_array", .oneOf [1], .aggregate⟩, ⟨"jsonb_group_array", .oneOf [1], .aggregate⟩,
    ⟨"json_group_object", .oneOf [2], .aggregate⟩, ⟨"jsonb_group_object", .oneOf [2], .aggregate⟩,
    ⟨"row_number", .oneOf [0], .window⟩, ⟨"rank", .oneOf [0], .window⟩,
    ⟨"dense_rank", .oneOf [0], .window⟩, ⟨"percent_rank", .oneOf [0], .window⟩,
    ⟨"cume_dist", .oneOf [0], .window⟩, ⟨"ntile", .oneOf [1], .window⟩,
    ⟨"lead", .oneOf [1, 2, 3], .window⟩, ⟨"lag", .oneOf [1, 2, 3], .window⟩,
    ⟨"first_value", .oneOf [1], .window⟩, ⟨"last_value", .oneOf [1], .window⟩,
    ⟨"nth_value", .oneOf [2], .window⟩ ] ++
  fixed ["abs", "hex", "length", "octet_length", "lower", "upper", "quote", "typeof",
    "subtype", "unicode", "zeroblob", "randomblob", "soundex", "likely", "unlikely",
    "sqlite_compileoption_get", "sqlite_compileoption_used", "sqlite_offset", "sign",
    "unistr", "unistr_quote", "json", "jsonb", "json_quote", "json_error_position",
    "acos", "asin", "atan", "acosh", "asinh", "atanh", "ceil", "ceiling", "cos", "cosh",
    "degrees", "exp", "floor", "ln", "log10", "log2", "radians", "sin", "sinh", "sqrt",
    "tan", "tanh", "trunc"] [1] ++
  fixed ["changes", "last_insert_rowid", "random", "sqlite_source_id", "sqlite_version",
    "total_changes", "pi", "current_date", "current_time", "current_timestamp",
    "fts5_source_id"] [0] ++
  fixed ["glob", "ifnull", "instr", "likelihood", "nullif", "atan2", "mod", "pow", "power",
    "timediff", "json_patch", "jsonb_patch", "match"] [2] ++
  fixed ["replace"] [3] ++
  fixed ["like"] [2, 3] ++
  fixed ["substr", "substring"] [2, 3] ++
  fixed ["ltrim", "rtrim", "trim", "round", "load_extension", "unhex", "log",
    "json_array_length", "json_type", "json_valid", "json_pretty", "jsonb_type"] [1, 2] ++
  [ scalarForm "coalesce" (.atLeast 2), scalarForm "concat" (.atLeast 1),
    scalarForm "concat_ws" (.atLeast 2), scalarForm "iif" (.atLeast 2),
    scalarForm "if" (.atLeast 2) ] ++
  ["char", "printf", "format", "date", "time", "datetime", "julianday", "unixepoch",
    "strftime", "json_array", "jsonb_array", "json_extract", "jsonb_extract", "json_insert",
    "jsonb_insert", "json_object", "jsonb_object", "json_remove", "jsonb_remove",
    "json_replace", "jsonb_replace", "json_set", "jsonb_set"].map (scalarForm · .any)

/-- The functions whose value may differ from one call to the next within a statement. -/
def variesByCall (name : String) : Bool :=
  ["random", "randomblob", "changes", "last_insert_rowid", "total_changes", "load_extension",
    "match", "fts5_source_id"].any (sameName name ·)

/-- The functions whose value holds within a statement but not from one statement to the
next: those of the clock words. -/
def variesByStatement (name : String) : Bool :=
  ["current_date", "current_time", "current_timestamp"].any (sameName name ·)

inductive FunctionMatch where
  | found (form : FunctionForm)
  | wrongArguments
  | unknown
  deriving Inhabited

def lookupFunction (name : String) (n : Nat) : FunctionMatch :=
  let forms := builtinForms.filter (sameName ·.name name)
  match forms.find? (·.arity.admits n) with
  | some f => .found f
  | none => if forms.isEmpty then .unknown else .wrongArguments

end Foreman.Sql
