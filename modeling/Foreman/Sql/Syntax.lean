import Foreman.Sql.Token

/-!
# SQL statements as trees

The statements the parser builds. Names keep their unquoted text (what they mean) and their
text as written (what messages quote); an expression keeps its written text where a message
or column name needs it. `ORDER BY` and `LIMIT` belong to each compound part as written; only
the last may have them, and the parser refuses the others.
-/

namespace Foreman.Sql

/-- A name: its text without quotes and its text as written. -/
structure Name where
  text : String
  written : String
  deriving Inhabited, BEq, Repr

inductive UnaryOp where
  | neg | pos | bitNot | not
  deriving Inhabited, BEq, Repr

inductive BinaryOp where
  | or | and | eq | ne | lt | le | gt | ge | is | isNot
  | bitAnd | bitOr | shl | shr | add | sub | mul | div | rem | concat
  /-- The operators `->` (`long := false`) and `->>`. -/
  | extract (long : Bool)
  deriving Inhabited, BEq, Repr

inductive RaiseKind where
  | ignore | rollback | abort | fail
  deriving Inhabited, BEq, Repr

inductive CompoundOp where
  | union | unionAll | intersect | except
  deriving Inhabited, BEq, Repr

/-- The name of a compound operator in messages. -/
def CompoundOp.word : CompoundOp → String
  | .union => "UNION"
  | .unionAll => "UNION ALL"
  | .intersect => "INTERSECT"
  | .except => "EXCEPT"

inductive Resolution where
  | rollback | abort | fail | ignore | replace
  deriving Inhabited, BEq, Repr

inductive FrameUnit where
  | range | rows | groups
  deriving Inhabited, BEq, Repr

/-- A bound of a window's frame. The expression of an offset is kept with the window. -/
inductive BoundKind where
  | unboundedPreceding | preceding | currentRow | following | unboundedFollowing
  deriving Inhabited, BEq, Repr

def BoundKind.hasOffset : BoundKind → Bool
  | .preceding | .following => true
  | _ => false

/-- The shape of a window's frame: its unit and its bounds, and whether it was left out,
which makes it `RANGE BETWEEN UNBOUNDED PRECEDING AND CURRENT ROW`. -/
structure FrameShape where
  unit : FrameUnit := .range
  start : BoundKind := .unboundedPreceding
  finish : BoundKind := .currentRow
  implicit : Bool := true
  deriving Inhabited, BEq, Repr

mutual

/-- An expression. -/
inductive Expr where
  | null
  | integer (text : String)
  | float (text : String)
  | string (text : String)
  /-- A blob literal: its hexadecimal digits. -/
  | blob (hex : String)
  /-- The words `CURRENT_DATE`, `CURRENT_TIME` or `CURRENT_TIMESTAMP`. -/
  | clock (word : String)
  /-- A parameter: its number and, when written with one, its name as written. -/
  | param (index : Nat) (name : Option String)
  /-- A bare name; `quoted` when it was written in double quotes. -/
  | column (name : Name) (quoted : Bool)
  /-- A name qualified by a table and perhaps a schema. -/
  | qualified (schema : Option Name) (table : Name) (column : Name)
  | call (fn : Name) (distinct : Bool) (args : List Expr) (star : Bool)
      (orderBy : List OrderTerm) (filter : Option Expr) (windowSpec : Option Window)
  | unary (op : UnaryOp) (operand : Expr)
  | binary (op : BinaryOp) (left right : Expr)
  /-- A pattern match, `LIKE`, `GLOB`, `REGEXP` or `MATCH` (the word as written), perhaps negated. -/
  | like (negated : Bool) (word : String) (left right : Expr) (escape : Option Expr)
  | isNull (operand : Expr)
  | notNull (operand : Expr)
  | between (negated : Bool) (operand low high : Expr)
  | inList (negated : Bool) (operand : Expr) (items : List Expr)
  | inSelect (negated : Bool) (operand : Expr) (query : Select)
  | inTable (negated : Bool) (operand : Expr) (schema : Option Name) (table : Name)
      (args : Option (List Expr))
  | exists (query : Select)
  | subquery (query : Select)
  | case (operand : Option Expr) (arms : List (Expr × Expr)) (otherwise : Option Expr)
  | cast (operand : Expr) (type : String)
  | collate (operand : Expr) (collation : Name)
  | vector (items : List Expr)
  | raise (kind : RaiseKind) (message : Option Expr)

/-- A term of an `ORDER BY` list: the expression, `DESC` or not, and where nulls go. -/
inductive OrderTerm where
  | mk (expr : Expr) (desc : Option Bool) (nullsFirst : Option Bool)

/-- A window: the window it builds on, its partition, its order, the offsets of its frame,
and the frame's shape. A window only named after `OVER`, outside parentheses, has no
shape: it is the window of that name as defined. -/
inductive Window where
  | mk (base : Option Name) (partition : List Expr) (orderBy : List OrderTerm)
      (frame : List Expr) (shape : Option FrameShape)

inductive ResultColumn where
  | star
  | tableStar (table : Name)
  /-- An expression, its alias, and the text it was written as. -/
  | expr (e : Expr) (asName : Option Name) (span : String)

/-- How an item of a `FROM` clause is joined to the items before it. -/
inductive Join where
  /-- The first item, or one after a comma or a plain `JOIN`. -/
  | inner
  /-- A join written with join keywords: the words in upper case. -/
  | keyed (words : List String)

/-- An item of a `FROM` clause with its join and its join constraint. -/
inductive FromItem where
  /-- A table or a table-valued function, with the index it is to be read through when
  `INDEXED BY` names one. -/
  | table (schema : Option Name) (name : Name) (args : Option (List Expr)) (asName : Option Name)
      (indexed : Option Name) (join : Join) (on : Option Expr) (shared : Option (List Name))
  | subquery (query : Select) (asName : Option Name) (join : Join) (on : Option Expr)
      (shared : Option (List Name))
  | nested (items : List FromItem) (asName : Option Name) (join : Join) (on : Option Expr)
      (shared : Option (List Name))

/-- One part of a compound query: a `SELECT` or a `VALUES` list. A `VALUES` list notes
whether a row was read along with the one before into a run of constant rows: such rows are
produced together, and when none was, each row is a plain row of constants with no aggregate
of its own. -/
inductive Core where
  | select (distinct : Bool) (columns : List ResultColumn) (source : List FromItem)
      (filter : Option Expr) (groupBy : List Expr) (having : Option Expr)
      (windows : List (Name × Window)) (orderBy : List OrderTerm)
      (limit : Option (Expr × Option Expr))
  | values (rows : List (List Expr)) (joined : Bool)

/-- A common table expression: its name, its column names and its query. -/
inductive Cte where
  | mk (name : Name) (columns : List Name) (body : Select)

/-- A query: its common table expressions, its first part and the parts joined to it. -/
inductive Select where
  | mk (ctes : List Cte) (first : Core) (rest : List (CompoundOp × Core))

end

/-- The null expression. -/
instance : Inhabited Expr := ⟨.null⟩

/-- The empty list of values. -/
instance : Inhabited Core := ⟨.values [] false⟩

/-- The query of the empty list of values. -/
instance : Inhabited Select := ⟨.mk [] default []⟩

namespace OrderTerm

/-- The expression of an order term. -/
def expr : OrderTerm → Expr
  | .mk e _ _ => e

end OrderTerm

namespace Core

def orderBy : Core → List OrderTerm
  | .select _ _ _ _ _ _ _ o _ => o
  | .values .. => []

def limit : Core → Option (Expr × Option Expr)
  | .select _ _ _ _ _ _ _ _ l => l
  | .values .. => none

end Core

namespace Select

def cores : Select → List Core
  | .mk _ first rest => first :: rest.map (·.2)

def ctes : Select → List Cte
  | .mk c _ _ => c

end Select

namespace Window

/-- Builds a window on the window `b` it names, called `name`: refused when it gives a
partition, when both give an order, or when `b` has a frame of its own; otherwise it takes
`b`'s partition, and `b`'s order when `b` has one. -/
def chainOn (w : Window) (name : String) (b : Window) : Except String Window :=
  match w, b with
  | .mk _ p o f s, .mk _ bp bo _ bs =>
    if !p.isEmpty then .error ("cannot override PARTITION clause of window: " ++ name)
    else if !bo.isEmpty && !o.isEmpty then .error ("cannot override ORDER BY clause of window: " ++ name)
    else if !((bs.map (·.implicit)).getD true) then
      .error ("cannot override frame specification of window: " ++ name)
    else .ok (.mk none bp (if bo.isEmpty then o else bo) f s)

/-- The window a call is computed over, given its query's windows (a name's last definition
counts): a window named after `OVER` is the definition, one building on a definition is
chained to it; a failure to find or chain comes with the window as written. -/
def effective (defs : List (Name × Window)) (w : Window) : Window × Option String :=
  let find := fun (b : Name) =>
    (defs.reverse.find? (·.1.text.map Char.toLower == b.text.map Char.toLower)).map (·.2)
  match w with
  | .mk (some b) _ _ _ none =>
    match find b with
    | some d => (d, none)
    | none => (w, some ("no such window: " ++ b.text))
  | .mk (some b) _ _ _ (some _) =>
    match find b with
    | some d =>
      match w.chainOn b.text d with
      | .ok w' => (w', none)
      | .error m => (w, some m)
    | none => (w, some ("no such window: " ++ b.text))
  | _ => (w, none)

/-- Whether a window's frame counts a range by offsets without exactly one ordering
expression to measure it by. -/
def rangeFault : Window → Bool
  | .mk _ _ o _ (some sh) => sh.unit == .range && (sh.start.hasOffset || sh.finish.hasOffset) && o.length != 1
  | _ => false

def partition : Window → List Expr
  | .mk _ p _ _ _ => p

def orderBy : Window → List OrderTerm
  | .mk _ _ o _ _ => o

end Window

structure QName where
  schema : Option Name
  name : Name
  deriving Inhabited

/-- What a foreign key does to the rows that refer to a parent row when the parent row is
deleted or its key changes. -/
inductive FkAction where
  | noAction | restrict | setNull | setDefault | cascade
  deriving Inhabited, BEq, Repr

/-- The actions of a foreign key: on deletion and on update of the parent row. -/
structure FkActions where
  onDelete : FkAction := .noAction
  onUpdate : FkAction := .noAction
  deriving Inhabited, Repr

inductive ColumnConstraint where
  | named (name : Name)
  /-- A default value and the text it was written as. -/
  | default (value : Expr) (text : String)
  | null
  | notNull (onConflict : Option Resolution)
  | primaryKey (desc : Option Bool) (onConflict : Option Resolution) (autoincrement : Bool)
  | unique (onConflict : Option Resolution)
  /-- A check and the text of its expression. -/
  | check (cond : Expr) (text : String)
  | references (table : Name) (columns : List Name) (actions : FkActions)
  /-- The `DEFERRABLE` clauses: whether the foreign key before it waits for the commit. -/
  | deferrable (deferred : Bool)
  | collate (name : Name)
  | generated (value : Expr) (stored : Bool)
  deriving Inhabited

structure ColumnDef where
  name : Name
  type : String
  constraints : List ColumnConstraint
  deriving Inhabited

inductive TableConstraint where
  | named (name : Name)
  | primaryKey (columns : List OrderTerm) (autoincrement : Bool) (onConflict : Option Resolution)
  | unique (columns : List OrderTerm) (onConflict : Option Resolution)
  | check (cond : Expr) (text : String)
  | foreignKey (columns : List Name) (table : Name) (refColumns : List Name) (actions : FkActions)
      (deferred : Bool)
  deriving Inhabited

/-- What a new table is made of: columns and constraints with its options, or a query. -/
inductive TableBody where
  | columns (columns : List ColumnDef) (constraints : List TableConstraint)
      (withoutRowid strict : Bool)
  | query (q : Select)
  deriving Inhabited

structure Target where
  table : QName
  asName : Option Name
  deriving Inhabited

/-- The assignments of an `UPDATE`: columns and the value each gets. -/
abbrev Assignments := List (List Name × Expr)

/-- An `ON CONFLICT` clause of an `INSERT`: its target columns and what it does. -/
structure Upsert where
  target : List OrderTerm
  targetWhere : Option Expr
  /-- What an upsert does: nothing (`none`) for `DO NOTHING`. -/
  update : Option (Assignments × Option Expr)
  deriving Inhabited

inductive InsertSource where
  | query (q : Select)
  | defaults
  deriving Inhabited

/-- The value of a `PRAGMA`: its text, and whether it was written with a minus sign. -/
structure PragmaValue where
  text : String
  negative : Bool
  deriving Inhabited, BEq, Repr

inductive TriggerEvent where
  | delete | insert
  | update (columns : List Name)
  deriving Inhabited

inductive TriggerTime where
  | before | after | insteadOf
  deriving Inhabited, BEq, Repr

inductive DropKind where
  | table | view | index | trigger
  deriving Inhabited, BEq, Repr

/-- The word of what a statement removes. -/
def DropKind.word : DropKind → String
  | .table => "table"
  | .view => "view"
  | .index => "index"
  | .trigger => "trigger"

/-- A statement. -/
inductive Stmt where
  | select (q : Select)
  | insert (ctes : List Cte) (orElse : Option Resolution) (target : Target)
      (columns : Option (List Name)) (source : InsertSource) (upserts : List Upsert)
      (returning : Option (List ResultColumn))
  | update (ctes : List Cte) (orElse : Option Resolution) (target : Target)
      (set : Assignments) (source : List FromItem) (filter : Option Expr)
      (returning : Option (List ResultColumn))
  | delete (ctes : List Cte) (target : Target) (filter : Option Expr)
      (returning : Option (List ResultColumn))
  | createTable (temp ifNotExists : Bool) (name : QName) (body : TableBody)
  | createView (temp ifNotExists : Bool) (name : QName) (columns : List Name) (q : Select)
  | createIndex (unique ifNotExists : Bool) (name : QName) (table : Name)
      (columns : List OrderTerm) (filter : Option Expr)
  | createTrigger (temp ifNotExists : Bool) (name : QName) (time : TriggerTime)
      (event : TriggerEvent) (table : QName) (condition : Option Expr) (body : List Stmt)
  | createVirtual (ifNotExists : Bool) (name : QName) (module : Name) (args : List String)
  | drop (kind : DropKind) (ifExists : Bool) (name : QName)
  | begin (mode : Option String)
  | commit
  | rollback
  | savepoint (name : Name)
  | release (name : Name)
  | rollbackTo (name : Name)
  | pragma (schema : Option Name) (name : Name) (value : Option PragmaValue)
  | vacuum (schema : Option Name) (into : Option Expr)
  | analyze (target : Option QName)
  | reindex (target : Option QName)
  | attach (file schema : Expr) (key : Option Expr)
  | detach (schema : Expr)
  | renameTable (table : QName) (newName : Name)
  | renameColumn (table : QName) (old new : Name)
  | addColumn (table : QName) (column : ColumnDef)
  | dropColumn (table : QName) (column : Name)
  deriving Inhabited

/-- A statement as prepared: the statement, whether it is only explained, and the names of
its parameters by number (`none` for a parameter written `?`). -/
structure Prepared where
  stmt : Stmt
  explain : Bool
  params : Array (Option String)
  deriving Inhabited

end Foreman.Sql
