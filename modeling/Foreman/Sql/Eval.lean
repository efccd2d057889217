import Foreman.Sql.Resolve
import Foreman.Sql.Json
import Foreman.Sql.Scalar
import Foreman.Sql.Aggregate
import Foreman.Sql.Frame

/-!
# Evaluating expressions and queries

A resolved statement runs against the catalog's rows, computing only what its outcome depends
on: a query yields rows in order, and a caller wanting one row asks for one, so later rows are
not looked at unless an order, grouping or compound operator needs them all.

Arithmetic follows the engine: integers stay integers until they overflow 64 bits, then
become reals; text is read for its leading number; division by zero is null. A run failure
carries the engine's result code: `integer overflow` (`abs` of the least integer, an
overflowing `sum`), `not authorized` (`load_extension`), `malformed JSON`,
`bad JSON path: '...'`, `string or blob too big` (18) and `datatype mismatch` (20).
-/

namespace Foreman.Sql

namespace Value

/-- Whether a value may be the offset of a frame's bound: a number at least zero, and for
a frame that counts rows or groups a whole one. -/
def offsetFits (range : Bool) (v : Value) : Bool :=
  match Value.withAffinity .numeric v with
  | .int n => n ≥ 0
  | .real x => if range then x ≥ 0 else ((Value.integral? x).map (fun n => decide (n ≥ 0))).getD false
  | _ => false

/-- Whether a value is a whole number above zero, read as a number. -/
def positiveWhole (v : Value) : Bool :=
  match Value.withAffinity .numeric v with
  | .int n => n > 0
  | .real x => ((Value.integral? x).map (fun n => decide (n > 0))).getD false
  | _ => false

/-- The bit operators on two values, each read as an integer. -/
def bits (op : BinaryOp) (a b : Value) : Value :=
  match a, b with
  | .null, _ | _, .null => .null
  | _, _ =>
    let x := a.toInt
    let y := b.toInt
    let wrap (n : Int) : Int := Int.emod (n + 9223372036854775808) 18446744073709551616 - 9223372036854775808
    let shift (left : Bool) (k : Int) : Int :=
      let (left, k) := if k < 0 then (!left, if k > -64 then -k else 64) else (left, k)
      if k ≥ 64 then (if x ≥ 0 || left then 0 else -1)
      else if left then wrap (x * Int.pow 2 k.toNat)
      else Int.fdiv x (Int.pow 2 k.toNat)
    let word (n : Int) : Nat := (Int.emod n 18446744073709551616).toNat
    let back (n : Nat) : Int := if n ≥ 9223372036854775808 then (n : Int) - 18446744073709551616 else n
    match op with
    | .bitAnd => .int (back (word x &&& word y))
    | .bitOr => .int (back (word x ||| word y))
    | .shl => .int (shift true y)
    | .shr => .int (shift false y)
    | _ => .null

def concat (a b : Value) : Value :=
  match a, b with
  | .text x, .text y => .text (x ++ y)
  | _, _ =>
    match a.bytes?, b.bytes? with
    | some x, some y => Value.ofTextBytes (x ++ y)
    | _, _ => .null

/-- A comparison of two values under an affinity and a collation: null when either is
null. -/
def compareUnder (aff : Option Affinity) (coll : Collation) (op : BinaryOp) (a b : Value) : Value :=
  if a.isNull || b.isNull then .null
  else
    let (x, y) := underAffinity aff a b
    let c := compareBy coll x y
    ofBool (match op with
      | .eq => c == 0
      | .ne => c != 0
      | .lt => c < 0
      | .le => c ≤ 0
      | .gt => c > 0
      | .ge => c ≥ 0
      | _ => false)

/-- Whether two values are the same under an affinity and a collation, as `IS` finds:
two nulls are, a null and a value are not. -/
def sameUnder (aff : Option Affinity) (coll : Collation) (a b : Value) : Bool :=
  (a.isNull && b.isNull) ||
    (!a.isNull && !b.isNull && (let (x, y) := underAffinity aff a b; compareBy coll x y == 0))

def hexBytes (hex : String) : List UInt8 :=
  let digit (c : Char) : Nat :=
    if c.isDigit then c.toNat - 48 else (c.toLower.toNat - 87)
  let rec go : List Char → List UInt8
    | a :: b :: rest => (digit a * 16 + digit b).toUInt8 :: go rest
    | _ => []
  go hex.toList

end Value

/-- What an expression sees at one level of a query: the row of each source, the aliases of
the results, and the rows of its group when the query folds rows. -/
structure Level where
  rows : List SourceRow
  aliases : List (String × Expr) := []
  group : Option (List (List SourceRow)) := none
  /-- The windows the level's query defines. -/
  windows : List (Name × Window) := []
  /-- When the query computes windows: the rows of the query (each with its group) in the
  order of its first window, and the place of this row among them. -/
  peers : List (List SourceRow × Option (List (List SourceRow))) := []
  position : Nat := 0
  deriving Inhabited

/-- What evaluation needs: the names in scope (with the rows a trigger's statements see)
and the levels of the query, innermost first. -/
structure Ctx where
  env : Env
  levels : List Level := []
  deriving Inhabited

/-- The value of a column by name at the levels, innermost first: the first source that
has it, then an alias of the results; past the levels, the rows a trigger's statements
see. -/
def Ctx.column? (c : Ctx) (schema table : Option Name) (col : String) : Option (Sum Value (Ctx × Expr)) :=
  let inRows (rows : List SourceRow) : Option Value := rows.findSome? fun r =>
    let s := r.source
    let named := match table with
      | none => !s.qualifiedOnly
      | some t => sameName t.text s.name && (match schema with
        | some sc => (c.env.catalog.schemaName? sc.text) == s.schema && s.schema.isSome
        | none => true)
    if !named then none
    else match s.columns.findIdx? (sameName · col) with
      | some j => some (r.values.getD j .null)
      | none => if isRowidName col && s.rowid then some ((r.rowid.map Value.int).getD .null) else none
  let rec go : List Level → Option (Sum Value (Ctx × Expr))
    | [] => (inRows c.env.pseudo).map .inl
    | l :: rest =>
      let fromRows := inRows l.rows
      match fromRows with
      | some v => some (.inl v)
      | none =>
        match table with
        | none =>
          match l.aliases.find? (sameName ·.1 col) with
          | some (_, e) => some (.inr ({ c with levels := l :: rest }, e))
          | none => go rest
        | some _ => go rest
  go c.levels

/-- What the sources in scope say of the column a name reads, looked up as `Ctx.column?`
looks up its value; a result's alias says what its expression says. -/
def Ctx.lookup (c : Ctx) (fuel : Nat) : KindLookup := fun schema table col =>
  let inRows (rows : List SourceRow) : Option ColumnKind := rows.findSome? fun r =>
    let s := r.source
    let named := match table with
      | none => !s.qualifiedOnly
      | some t => sameName t.text s.name && (match schema with
        | some sc => (c.env.catalog.schemaName? sc.text) == s.schema && s.schema.isSome
        | none => true)
    if !named then none
    else match s.columns.findIdx? (sameName · col) with
      | some j => some (s.kinds.getD j {})
      | none => if isRowidName col && s.rowid then some { affinity := some .integer } else none
  let rec go : List Level → Option ColumnKind
    | [] => inRows c.env.pseudo
    | l :: rest =>
      match inRows l.rows with
      | some k => some k
      | none =>
        match table with
        | none =>
          match l.aliases.find? (sameName ·.1 col) with
          | some (_, e) =>
            let sources := (l :: rest).flatMap fun lv => lv.rows.map (·.source)
            some (e.kind (Source.lookup sources) (fun _ => none) fuel)
          | none => go rest
        | some _ => go rest
  go c.levels

def Ctx.subqueryAffinity (c : Ctx) (fuel : Nat) (q : Select) : Option Affinity :=
  ((expandColumns fuel c.env q).toOption.bind fun (_, ks) => ks.head?).bind (·.affinity)

/-- What an expression's values are in a context: their affinity and collation. -/
def Ctx.kindOf (c : Ctx) (fuel : Nat) (e : Expr) : ColumnKind :=
  e.kind (c.lookup fuel) (c.subqueryAffinity fuel) fuel

/-- The affinity and the collation two operands compare under in a context. -/
def Ctx.comparison (c : Ctx) (fuel : Nat) (a b : Expr) : Option Affinity × Collation :=
  (comparisonAffinity (c.kindOf fuel a).affinity (c.kindOf fuel b).affinity,
    Expr.comparisonCollation (c.lookup fuel) fuel a b)

/-- The collation of an expression in a context, `binary` when it has none. -/
def Ctx.collationOf (c : Ctx) (fuel : Nat) (e : Expr) : Collation :=
  ((c.kindOf fuel e).collation).getD .binary

def tableRows (s : Source) (t : Table) : List SourceRow :=
  let visible := (List.range t.columns.size).filter fun i => !(t.columns.getD i default).hidden
  t.rows.toList.map fun (rid, vals) =>
    { source := s, values := (visible.map fun i => vals.getD i .null).toArray, rowid := some rid }

/-- The rows of the schema table of a schema: one for each table, index, view and
trigger, in the order they were made, with its root page (none for a view or a trigger)
and the text that made it (null for an index a constraint made). -/
def schemaRows (s : Source) (sc : Schema) : List SourceRow :=
  let row (serial : Nat) (kind name table : String) (page : Nat) (sql : Option String) : Nat × SourceRow :=
    let text : Value := match sql with
      | some x => .text x
      | none => .null
    (serial, { source := s, values := #[.text kind, .text name, .text table, .int page, text] })
  let rows :=
    sc.tables.map (fun t => row t.serial "table" t.name t.name t.rootPage t.sql) ++
    sc.indexes.map (fun i => row i.serial "index" i.name i.table i.rootPage i.sql) ++
    sc.views.map (fun v => row v.serial "view" v.name v.name 0 v.sql) ++
    sc.triggers.map (fun t => row t.serial "trigger" t.name t.table 0 t.sql)
  (rows.mergeSort fun a b => a.1 ≤ b.1).map (·.2)

def nullRow (s : Source) : SourceRow := { source := s, values := (s.columns.map fun _ => Value.null).toArray }

/-- The text of a hexadecimal literal too large for 64 bits: its digits after leading
zeros exceed sixteen, or it is the smallest integer negated. -/
def hexTooBig (text : String) (negated : Bool) : Bool :=
  let cs := text.toList
  match cs with
  | '0' :: x :: ds =>
    if x == 'x' || x == 'X' then
      let sig := ds.dropWhile (· == '0')
      sig.length > 16 || (negated && sig.length == 16 && sig == "8000000000000000".toList)
    else false
  | _ => false

/-- The value of an integer literal, negated or not: an integer when it fits, a real
otherwise; a hexadecimal literal is read as 64 bits. -/
def integerLiteral (text : String) (negated : Bool) : Value :=
  let cs := text.toList
  match cs with
  | '0' :: x :: ds =>
    if x == 'x' || x == 'X' then
      let n : Nat := ds.foldl (fun a d => a * 16 + (if d.isDigit then d.toNat - 48 else d.toLower.toNat - 87)) 0
      let v : Int := if n ≥ 9223372036854775808 then (n : Int) - 18446744073709551616 else n
      .int (if negated then -v else v)
    else
      decimal
  | _ => decimal
where
  /-- A decimal literal: an integer when it fits, else the real its text reads as. -/
  decimal : Value :=
    let n : Int := (Value.digitsValue text.toList : Int)
    let v := if negated then -n else n
    if Value.fits v then .int v
    else
      let x := (Decimal.readReal text).1
      .real (if negated then -x else x)

/-- Whether a value an expression gave is JSON text that the JSON functions take as an
element rather than as a string: the result of a function that builds JSON, of `->`, or a
container that `json_extract` found. -/
def Expr.givesJson (e : Expr) (v : Value) : Bool :=
  match e with
  | .call fn _ _ _ _ _ _ =>
    Json.givesJson fn.text || (sameName fn.text "json_extract" && match v with
      | .text t => t.startsWith "[" || t.startsWith "\x7b"
      | _ => false)
  | .binary (.extract false) _ _ => true
  | _ => false

/-- How one key of an ordering sorts: descending or not, where its nulls go (first when
ascending, unless said otherwise), and its collation. -/
structure SortKey where
  desc : Bool := false
  nullsFirst : Option Bool := none
  coll : Collation := .binary

/-- Compares two values as a key sorts them: negative when the first goes before. -/
def SortKey.compare (k : SortKey) (x y : Value) : Int :=
  let nullsFirst := k.nullsFirst.getD !k.desc
  match x.isNull, y.isNull with
  | true, true => 0
  | true, false => if nullsFirst then -1 else 1
  | false, true => if nullsFirst then 1 else -1
  | false, false =>
    let c := Value.compareBy k.coll x y
    if k.desc then -c else c

/-- Sorts rows by their keys; rows whose keys are equal stay in the order they came. -/
def sortKeyed {α : Type} (keys : List SortKey) (rows : List (List Value × α)) : List (List Value × α) :=
  let before (a b : List Value × α) : Bool := Id.run do
    for ((x, y), k) in (a.1.zip b.1).zip keys do
      let c := k.compare x y
      if c != 0 then return c < 0
    return false
  rows.mergeSort fun a b => !(before b a)

/-- Whether two rows of values are the same under the collations of their columns, as
`DISTINCT`, `GROUP BY` and compound queries compare them: two nulls are the same. -/
def sameRowUnder (colls : List Collation) (a b : List Value) : Bool :=
  a.length == b.length && ((a.zip b).zipIdx.all fun ((x, y), i) =>
    Value.sameUnder none (colls.getD i .binary) x y)

/-- Whether two rows of values are the same, comparing text by its bytes. -/
def sameRow (a b : List Value) : Bool := sameRowUnder [] a b

/-- Rows without repeats under the collations of their columns, the first of each kept. -/
def distinctRows (colls : List Collation) (rows : List (List Value)) : List (List Value) :=
  rows.foldl (fun acc r => if acc.any (sameRowUnder colls r) then acc else acc ++ [r]) []

/-- Rows as a compound query's `UNION` keeps them: of rows that are the same the last one,
and all sorted by their columns in order. -/
def unionRows (colls : List Collation) (rows : List (List Value)) : List (List Value) :=
  let kept := rows.foldl (fun acc r =>
    match acc.findIdx? (sameRowUnder colls r) with
    | some i => acc.set i r
    | none => acc ++ [r]) []
  let width := (rows.head?.map List.length).getD 0
  let keys := (List.range width).map fun i => ({ coll := colls.getD i .binary } : SortKey)
  (sortKeyed keys (kept.map fun r => (r, r))).map (·.2)

/-- The window of the first call over a window in an expression, outside its subqueries. -/
def Expr.firstWindow : Nat → Expr → Option Window
  | 0, _ => none
  | fuel + 1, e =>
    match e with
    | .call _ _ _ _ _ _ (some w) => some w
    | _ => e.parts.findSome? fun p => match p with
      | .expr x => x.firstWindow fuel
      | .query _ => none

def Ctx.sortKey (c : Ctx) (fuel : Nat) (t : OrderTerm) : SortKey :=
  match t with
  | .mk e d nf => { desc := d == some true, nullsFirst := nf, coll := c.collationOf fuel e }

/-- The collation of a result column of a query in a context of its sources. -/
def Ctx.itemCollation (c : Ctx) (fuel : Nat) (sources : List Source) : Item → Collation
  | .expr e _ _ => c.collationOf fuel e
  | it => ((it.kind sources fuel).collation).getD .binary

/-- The most rows a recursive common table expression is run to. -/
def recursionLimit : Nat := 10000

/-- The value of `x IN (values)`: true when one equals it, else null when any is null or
it is null, else false. -/
def inResult (aff : Option Affinity) (coll : Collation) (negated : Bool) (v : Value) (vs : List Value) : Value :=
  if vs.isEmpty then Value.ofBool negated
  else if v.isNull then .null
  else if vs.any fun w => (Value.truth (Value.compareUnder aff coll .eq v w)).getD false then
    Value.ofBool !negated
  else if vs.any (·.isNull) then .null
  else Value.ofBool negated

/-- Rows after an offset and up to a limit (a negative limit is none). -/
def applyLimit (limit : Option Int) (offset : Int) (rows : List (List Value)) : List (List Value) :=
  let rows := rows.drop offset.toNat
  match limit with
  | some l => if l < 0 then rows else rows.take l.toNat
  | none => rows

/-- A part of a query without its order and limit, which belong to the whole compound
query. -/
def Core.withoutOrder : Core → Core
  | .select d c s f g h w _ _ => .select d c s f g h w [] none
  | c => c

mutual

def eval : Nat → Ctx → Expr → Run Value
  | 0, _, _ => throw (Failure.logic Parse.tooDeep)
  | fuel + 1, c, e => do
    match e with
    | .null => return .null
    | .integer t =>
      if hexTooBig t false then throw (Failure.logic ("hex literal too big: " ++ t))
      return integerLiteral t false
    | .float t => return ((Value.readNumber t).getD (.real 0))
    | .string s => return .text s
    | .blob h => return .blob (Value.hexBytes h)
    | .clock w => return Clock.currentText c.env.catalog.settings.now w
    | .param _ _ => return .null
    | .column n quoted =>
      match c.column? none none n.text with
      | some (.inl v) => return v
      | some (.inr (c', x)) => eval fuel c' x
      | none =>
        if sameName n.text "true" then return .int 1
        if sameName n.text "false" then return .int 0
        return (if quoted then .text n.text else .null)
    | .qualified s t col =>
      match c.column? s (some t) col.text with
      | some (.inl v) => return v
      | some (.inr (c', x)) => eval fuel c' x
      | none => return .null
    | .unary op a =>
      match op, a with
      | .neg, .integer t =>
        if hexTooBig t true then throw (Failure.logic ("hex literal too big: -" ++ t))
        return integerLiteral t true
      | _, _ =>
        let v ← eval fuel c a
        match op with
        | .pos => return v
        | .neg => return Value.arith .sub (.int 0) v
        | .bitNot => return if v.isNull then .null else .int (-(Value.toInt v) - 1)
        | .not => return Value.ofTruth ((Value.truth v).map (!·))
    | .binary op a b =>
      match op with
      | .and =>
        let x := Value.truth (← eval fuel c a)
        if x == some false then return Value.ofBool false
        let y := Value.truth (← eval fuel c b)
        return match x, y with
          | _, some false => Value.ofBool false
          | some true, some true => Value.ofBool true
          | _, _ => .null
      | .or =>
        let x := Value.truth (← eval fuel c a)
        if x == some true then return Value.ofBool true
        let y := Value.truth (← eval fuel c b)
        return match x, y with
          | _, some true => Value.ofBool true
          | some false, some false => Value.ofBool false
          | _, _ => .null
      | _ =>
        let x ← eval fuel c a
        let y ← eval fuel c b
        match op with
        | .add | .sub | .mul | .div | .rem => return Value.arith op x y
        | .bitAnd | .bitOr | .shl | .shr => return Value.bits op x y
        | .concat => return Value.concat x y
        | .is | .isNot =>
          let (aff, coll) := c.comparison fuel a b
          let same := Value.sameUnder aff coll x y
          return Value.ofBool (if op == .is then same else !same)
        | .extract long =>
          match Json.arrow long (x, a.givesJson x) y with
          | .ok v => return v
          | .error m => throw (Failure.logic m)
        | _ =>
          let (aff, coll) := c.comparison fuel a b
          return Value.compareUnder aff coll op x y
    | .like negated word a b esc =>
      let pat ← eval fuel c b
      let subject ← eval fuel c a
      let escV ← match esc with
        | some x => some <$> eval fuel c x
        | none => pure none
      let args := [pat, subject] ++ escV.toList
      let fn := if sameName word "GLOB" then "glob" else if sameName word "MATCH" then "match" else "like"
      let r ← Scalar.call c.env.catalog.settings .binary fn args
      return if negated then Value.ofTruth ((Value.truth r).map (!·)) else r
    | .isNull a => return Value.ofBool (← eval fuel c a).isNull
    | .notNull a => return Value.ofBool !(← eval fuel c a).isNull
    | .between negated a lo hi =>
      let v ← eval fuel c a
      let l ← eval fuel c lo
      let h ← eval fuel c hi
      let (affLo, collLo) := c.comparison fuel a lo
      let (affHi, collHi) := c.comparison fuel a hi
      let r := match Value.truth (Value.compareUnder affLo collLo .ge v l),
          Value.truth (Value.compareUnder affHi collHi .le v h) with
        | some false, _ | _, some false => some false
        | some true, some true => some true
        | _, _ => none
      return Value.ofTruth (if negated then r.map (!·) else r)
    | .inList negated a items =>
      if items.isEmpty then return Value.ofBool negated
      let v ← eval fuel c a
      let vs ← items.mapM (eval fuel c)
      let k := c.kindOf fuel a
      return inResult k.affinity (k.collation.getD .binary) negated v vs
    | .inSelect negated a q =>
      let v ← eval fuel c a
      let rows ← runSelect fuel c q none
      let k := c.kindOf fuel a
      let inner : ColumnKind := (((expandColumns fuel c.env q).toOption.bind fun (_, ks) => ks.head?)).getD {}
      let coll := if a.hasCollate fuel then k.collation else k.collation.orElse fun _ => inner.collation
      return inResult (comparisonAffinity k.affinity inner.affinity) (coll.getD .binary) negated v
        (rows.filterMap List.head?)
    | .inTable negated a s t args =>
      let v ← eval fuel c a
      let q := tableQuery s t args
      let rows ← runSelect fuel c q none
      let k := c.kindOf fuel a
      let inner : ColumnKind := (((expandColumns fuel c.env q).toOption.bind fun (_, ks) => ks.head?)).getD {}
      let coll := if a.hasCollate fuel then k.collation else k.collation.orElse fun _ => inner.collation
      return inResult (comparisonAffinity k.affinity inner.affinity) (coll.getD .binary) negated v
        (rows.filterMap List.head?)
    | .exists q => return Value.ofBool !(← runSelect fuel c q (some 1)).isEmpty
    | .subquery q =>
      let rows ← runSelect fuel c q (some 1)
      return ((rows.head?.bind List.head?).getD .null)
    | .case operand arms otherwise =>
      let base ← match operand with
        | some x => some <$> eval fuel c x
        | none => pure none
      for (w, t) in arms do
        let wv ← eval fuel c w
        let hit := match base, operand with
          | some b, some x =>
            let (aff, coll) := c.comparison fuel x w
            (Value.truth (Value.compareUnder aff coll .eq b wv)).getD false
          | _, _ => (Value.truth wv).getD false
        if hit then return ← eval fuel c t
      match otherwise with
      | some x => eval fuel c x
      | none => return .null
    | .cast a ty => return Value.cast ty (← eval fuel c a)
    | .collate a _ => eval fuel c a
    | .vector items =>
      match items with
      | [x] => eval fuel c x
      | _ => return .null
    | .raise kind m =>
      let msg ← match m with
        | some x => pure (((← eval fuel c x).asText).getD "")
        | none => pure ""
      -- `RAISE(IGNORE)` is no failure of the statement: the row that fired the trigger is dropped
      throw { code := if kind == .ignore then 0 else 1811, message := msg, raised := some kind }
    | .call fn distinct args star order filter windowSpec =>
      match lookupFunction fn.text args.length with
      | .found f =>
        if let some w := windowSpec then
          let defs := (c.levels.head?.map (·.windows)).getD []
          -- the ranking functions, `lead` and `lag` set frames of their own
          let ownFrame := ["row_number", "dense_rank", "rank", "percent_rank", "cume_dist", "ntile",
            "lead", "lag"].any (sameName fn.text ·)
          if let (.mk _ _ _ offsets (some sh), _) := w.effective defs then
            let range := sh.unit == .range
            let bounds := if ownFrame then []
              else [("starting", sh.start), ("ending", sh.finish)].filter (·.2.hasOffset)
            for ((which, _), e) in bounds.zip offsets do
              if !Value.offsetFits range (← eval fuel { c with levels := [] } e) then
                throw (Failure.logic ("frame " ++ which ++ " offset must be a non-negative " ++
                  (if range then "number" else "integer")))
          if sameName fn.text "ntile" && Value.toInt (← eval fuel c (args.getD 0 .null)) ≤ 0 then
            throw (Failure.logic "argument of ntile must be a positive integer")
          if sameName fn.text "nth_value" && !Value.positiveWhole (← eval fuel c (args.getD 1 .null)) then
            throw (Failure.logic "second argument to nth_value must be a positive integer")
          return ← windowCall fuel c fn args star filter w
        if f.kind == .aggregate then
          let coll := match args.head? with
            | some x => c.collationOf fuel x
            | none => .binary
          match (c.levels.find? (·.group.isSome)).bind (·.group) with
          | some rows =>
            let mut collected : List (List Value × List (Value × Bool)) := []
            for r in rows do
              let c' := match c.levels with
                | l :: rest => { c with levels := { l with rows := r } :: rest }
                | [] => c
              let keep ← match filter with
                | some fx => pure ((Value.truth (← eval fuel c' fx)).getD false)
                | none => pure true
              if keep then
                let vs ← args.mapM (eval fuel c')
                let keys ← order.mapM fun t => eval fuel c' t.expr
                collected := collected ++ [(keys, args.zipWith (fun x v => (v, x.givesJson v)) vs)]
            let kept := if distinct then
                collected.foldl (fun acc (ks, r) =>
                  let v := (r.headD (.null, false)).1
                  if v.isNull || acc.any (fun (_, s) => Value.sameUnder none coll v (s.headD (.null, false)).1)
                  then acc else acc ++ [(ks, r)]) []
              else collected
            let ordered := if order.isEmpty then kept
              else sortKeyed (order.map (c.sortKey fuel)) kept
            Aggregate.fold fn.text star coll (ordered.map (·.2))
          | none => Aggregate.fold fn.text star coll []
        else if sameName fn.text "coalesce" || sameName fn.text "ifnull" then
          for a in args do
            let v ← eval fuel c a
            if !v.isNull then return v
          return .null
        else if sameName fn.text "iif" || sameName fn.text "if" then
          -- conditions and values in pairs, then what is left over; only what is chosen runs
          let mut rest := args
          for _ in args do
            match rest with
            | cond :: v :: more =>
              if (Value.truth (← eval fuel c cond)).getD false then return ← eval fuel c v
              rest := more
            | [v] => return ← eval fuel c v
            | [] => return .null
          return .null
        else
          let vs ← args.mapM (eval fuel c)
          if Json.isFunction fn.text then
            match Json.call fn.text (vs.zip (args.zipWith (fun e v => e.givesJson v) vs)) with
            | .ok v => return v
            | .error m => throw (Failure.logic m)
          let coll := (args.findSome? fun x => (c.kindOf fuel x).collation).getD .binary
          Scalar.call c.env.catalog.settings coll fn.text vs
      | _ => return .null

/-- The rows of a query, all of them or, with `want`, at least so many when there are. -/
def runSelect : Nat → Ctx → Select → Option Nat → Run (List (List Value))
  | 0, _, _, _ => throw (Failure.logic Parse.tooDeep)
  | fuel + 1, c, sel, want => do
    let c := { c with env := c.env.withCtes sel.ctes }
    let units := sel.units
    match units with
    | [(_, core)] => runCore fuel c core want
    | _ =>
      let (_, last) := units.getLast?.getD default
      let plainUnion := units.all (fun (op, _) => op.isNone || op == some .unionAll) &&
        last.orderBy.isEmpty && last.limit.isNone
      if plainUnion then
        let mut out : List (List Value) := []
        for (_, core) in units do
          if let some w := want then
            if out.length ≥ w then break
          out := out ++ (← runCore fuel c core (want.map (· - out.length)))
        return out
      -- the collation of each column: that of the first part that gives it one
      let kindsOf (core : Core) : List ColumnKind := match expandCore fuel c.env core with
        | .ok (sources, items) => items.map (Item.kind sources fuel)
        | .error _ => []
      let allKinds := units.map fun (_, core) => kindsOf core
      let width := (allKinds.head?.map List.length).getD 0
      let colls := (List.range width).map fun i =>
        (allKinds.findSome? fun ks => (ks.getD i {}).collation).getD .binary
      -- without an order the rows of `UNION`, `INTERSECT` and `EXCEPT` come out sorted, of
      -- equal rows the last kept; with one, the first of equal rows is kept
      let ordered := !last.orderBy.isEmpty
      let settle (rows : List (List Value)) : List (List Value) :=
        if ordered then distinctRows colls rows else unionRows colls rows
      let mut acc : List (List Value) := []
      for (op, core) in units do
        let rows ← runCore fuel c (core.withoutOrder) none
        acc := match op with
          | none => rows
          | some .unionAll => acc ++ rows
          | some .union => settle (acc ++ rows)
          | some .intersect => (settle acc).filter fun r => rows.any (sameRowUnder colls r)
          | some .except => (settle acc).filter fun r => !(rows.any (sameRowUnder colls r))
      let (_, items) := (expandCore fuel c.env ((units.head?.map (·.2)).getD default)).toOption.getD ([], [])
      let keyOf (row : List Value) (t : OrderTerm) : Value :=
        match t.expr.uncollated.integerValue? with
        | some k => row.getD (k.toNat - 1) .null
        | none =>
          let idx := (aliasIndex items t.expr.uncollated).orElse fun _ =>
            items.findIdx? fun it => match t.expr.uncollated with
              | .column n _ => sameName it.baseName n.text
              | _ => false
          match idx with
          | some i => row.getD i .null
          | none => .null
      let terms := last.orderBy
      let keyColl (t : OrderTerm) : Collation :=
        if t.expr.hasCollate fuel then (t.expr.collation (fun _ _ _ => none) fuel).getD .binary
        else
          let idx := match t.expr.uncollated.integerValue? with
            | some k => some (k.toNat - 1)
            | none => (aliasIndex items t.expr.uncollated).orElse fun _ =>
              items.findIdx? fun (it : Item) => match t.expr.uncollated with
                | .column n _ => sameName it.baseName n.text
                | _ => false
          (idx.map (colls.getD · .binary)).getD .binary
      let sortKeys := terms.map fun t => match t with
        | .mk _ d nf => ({ desc := d == some true, nullsFirst := nf, coll := keyColl t } : SortKey)
      let sorted := if terms.isEmpty then acc
        else (sortKeyed sortKeys (acc.map fun r => (terms.map (keyOf r), r))).map (·.2)
      let (limit, offset) ← limitOf fuel c last
      return applyLimit limit offset sorted

/-- The limit and offset of a part of a query, each read as an integer. -/
def limitOf : Nat → Ctx → Core → Run (Option Int × Int)
  | 0, _, _ => throw (Failure.logic Parse.tooDeep)
  | fuel + 1, c, core =>
    match core.limit with
    | none => return (none, 0)
    | some (l, o) => do
      let asInt (v : Value) : Run Int :=
        match Value.withAffinity .numeric v with
        | .int n => pure n
        | .real x => match Value.integral? x with
          | some n => pure n
          | none => throw Failure.mismatch
        | _ => throw Failure.mismatch
      let lv ← asInt (← eval fuel { c with levels := [] } l)
      let ov ← match o with
        | some x => asInt (← eval fuel { c with levels := [] } x)
        | none => pure 0
      return (some lv, ov)

def joinedRows : Nat → Ctx → List FromItem → List Source → Run (List (List SourceRow))
  | 0, _, _, _ => throw (Failure.logic Parse.tooDeep)
  | fuel + 1, c, items, sources => do
    let mut combos : List (List SourceRow) := [[]]
    let mut used := 0
    for item in items do
      let count := (itemSources fuel c.env item).toOption.map (·.length) |>.getD 1
      let srcs := (sources.drop used).take count
      used := used + count
      let rowsOf ← itemRows fuel c item srcs
      let (join, cond, shared) := match item with
        | .table _ _ _ _ _ j cd u | .subquery _ _ j cd u | .nested _ _ j cd u => (j, cd, u)
      let outer := match join with
        | .keyed ws => ws.contains "LEFT" || ws.contains "FULL"
        | _ => false
      let mut next : List (List SourceRow) := []
      for left in combos do
        let mut matched := false
        for right in rowsOf do
          let combo := left ++ right
          let ok ← match cond with
            | some e =>
              pure ((Value.truth (← eval fuel { c with levels := { rows := combo } :: c.levels } e)).getD false)
            | none =>
              match shared with
              | some names => pure (names.all fun nm =>
                  let find (rs : List SourceRow) : Value :=
                    (rs.findSome? fun r => (r.source.columns.findIdx? (sameName · nm.text)).map
                      (fun j => r.values.getD j .null)).getD .null
                  let x := find left
                  let y := find right
                  !x.isNull && !y.isNull && Value.compare false x y == 0)
              | none => pure true
          if ok then
            matched := true
            next := next ++ [combo]
        if outer && !matched then next := next ++ [left ++ srcs.map nullRow]
      combos := next
    return combos

/-- The rows of one item of a `FROM` clause, given the sources it brings. -/
def itemRows : Nat → Ctx → FromItem → List Source → Run (List (List SourceRow))
  | 0, _, _, _ => throw (Failure.logic Parse.tooDeep)
  | fuel + 1, c, item, srcs => do
    let src := srcs.headD default
    let asRows (rows : List (List Value)) : List (List SourceRow) :=
      rows.map fun vs => [{ source := src, values := vs.toArray }]
    match item with
    | .subquery q _ _ _ _ => return asRows (← runSelect fuel c q none)
    | .nested inner _ _ _ _ => joinedRows fuel c inner srcs
    | .table schema name args _ _ _ _ _ =>
      let env := c.env
      if schema.isNone && args.isNone then
        if let some (d, cteEnv) := env.cte? name.text then
          return asRows (← runCte fuel { c with env := cteEnv } d)
      let where_ := match schema with
        | some s => some s.text
        | none => env.fixed
      match env.catalog.relation? where_ name.text with
      | some (.table sn t) =>
        if isSchemaTableName sn name.text then
          return (schemaRows src ((env.catalog.schema? sn).getD {})).map fun r => [r]
        return (tableRows src t).map fun r => [r]
      | some (.view sn v) =>
        let viewEnv : Env := { catalog := env.catalog, fixed := if sn == "temp" then none else some sn }
        return asRows (← runSelect fuel { env := viewEnv } v.query none)
      | none =>
        if (PragmaTable.shape? name.text).isSome then
          let vs ← (args.getD []).mapM (eval fuel c)
          match PragmaTable.rows env.catalog name.text vs with
          | .ok rows => return asRows rows
          | .error m => throw (Failure.logic m)
        let some a := args | return []
        let vs ← a.mapM (eval fuel c)
        match Json.tableRows (sameName name.text "json_tree") (vs.getD 0 .null) vs[1]? with
        | .ok rows => return asRows rows
        | .error m => throw (Failure.logic m)

/-- The rows of a common table expression; a recursive one is run until it adds no rows
or reaches the limit. -/
def runCte : Nat → Ctx → CteDef → Run (List (List Value))
  | 0, _, _ => throw (Failure.logic Parse.tooDeep)
  | fuel + 1, c, d => do
    let rest := match d.body with
      | .mk _ _ r => r
    let direct (core : Core) : Bool := core.source.any fun it => match it with
      | .table none n none _ _ _ _ _ => sameName n.text d.name
      | _ => false
    let recursive := rest.any fun (_, core) => direct core
    if !recursive then return ← runSelect fuel c d.body none
    let (ctes, first, parts) := match d.body with
      | .mk ct f r => (ct, f, r)
    let base := parts.filter fun (_, core) => !direct core
    let steps := parts.filter fun (_, core) => direct core
    -- the limit of the last part bounds the rows of the whole expression
    let lastCore := (parts.getLast?.map (·.2)).getD first
    let (limit, offset) ← limitOf fuel c lastCore
    let stop : Nat := match limit with
      | some l => if l < 0 then recursionLimit else min recursionLimit (l + max offset 0).toNat
      | none => recursionLimit
    let distinct := steps.any fun (op, _) => op == .union
    let cols := ((cteColumns fuel c.env d).toOption.map (·.1)).getD []
    let bound := { c.env with bound := (d.name, cols) :: c.env.bound }
    let mut seen : Array (List Value) := #[]
    let mut queue : Array (List Value) := #[]
    for r in ← runSelect fuel c (.mk ctes first base) none do
      if distinct then
        if seen.any (sameRow r) then continue
        seen := seen.push r
      queue := queue.push r
    -- rows are taken from the queue one at a time, each running the recursive parts
    let mut out : Array (List Value) := #[]
    let mut next := 0
    for _ in [0:recursionLimit] do
      if next ≥ queue.size || out.size ≥ stop then break
      let r := queue.getD next []
      next := next + 1
      out := out.push r
      if out.size ≥ stop then break
      for (_, core) in steps do
        let produced ← runCoreWith fuel { c with env := bound } core.withoutOrder (some (d.name, [r]))
        for p in produced do
          if distinct then
            if seen.any (sameRow p) then continue
            seen := seen.push p
          queue := queue.push p
    return out.toList.drop (max offset 0).toNat

def runCore : Nat → Ctx → Core → Option Nat → Run (List (List Value))
  | 0, _, _, _ => throw (Failure.logic Parse.tooDeep)
  | fuel + 1, c, core, want => do
    let rows ← runCoreWith fuel c core none
    return match want with
      | some w => rows.take (max w 1)
      | none => rows

/-- The rows of one part of a query; `bound` gives the rows a recursive expression's name
reads in this step. -/
def runCoreWith : Nat → Ctx → Core → Option (String × List (List Value)) → Run (List (List Value))
  | 0, _, _, _ => throw (Failure.logic Parse.tooDeep)
  | fuel + 1, c, core, bound => do
    match core with
    | .values rows _ => rows.mapM fun r => r.mapM (eval fuel c)
    | .select distinct cols source filter groupBy having windows orderBy _ =>
      let (limit, offset) ← limitOf fuel c core
      if limit == some 0 then return []
      let sources := ((fromSources fuel c.env source).toOption).getD []
      let items := ((starItems sources cols).toOption).getD []
      let combos ← match bound with
        | some (name, brows) =>
          let plain := source.filter fun it => match it with
            | .table none n none _ _ _ _ _ => !sameName n.text name
            | _ => true
          let rest ← joinedRows fuel c plain (sources.filter fun s => !sameName s.name name)
          let src := (sources.find? fun s => sameName s.name name).getD default
          pure (rest.flatMap fun r => brows.map fun vs => r ++ [{ source := src, values := vs.toArray }])
        | none => joinedRows fuel c source sources
      let aliases := items.filterMap fun i => match i with
        | .expr e (some a) _ => some (a, e)
        | _ => none
      let exprs := items.filterMap Item.expr?
      let aggregate := !groupBy.isEmpty || exprs.any (·.holdsCall false fuel) ||
        (having.map (·.holdsCall false fuel)).getD false
      let windowed := exprs.any (·.holdsCall true fuel) ||
        orderBy.any fun t => t.expr.holdsCall true fuel
      -- without a `FROM` clause, or for the single row of an aggregate, the order is not
      -- read at all
      let orderBy := if source.isEmpty || (aggregate && groupBy.isEmpty) then [] else orderBy
      let needAll := aggregate || windowed || !orderBy.isEmpty || distinct
      let levelOf (combo : List SourceRow) : Ctx :=
        { c with levels := { rows := combo, aliases, windows } :: c.levels }
      let kindCtx := levelOf (sources.map nullRow)
      let resultOf (cx : Ctx) (combo : List SourceRow) : Run (List Value) :=
        items.mapM fun it => match it with
          | .column i nm =>
            let r := combo.getD i default
            pure ((r.source.columns.findIdx? (sameName · nm)).map (fun j => r.values.getD j .null) |>.getD .null)
          | .expr e _ _ => eval fuel cx e
      let keysOf (cx : Ctx) (row : List Value) : Run (List Value) :=
        orderBy.mapM fun t => match t.expr.uncollated.integerValue? with
          | some k => pure (row.getD (k.toNat - 1) .null)
          | none => match aliasIndex items t.expr.uncollated with
            | some i => pure (row.getD i .null)
            | none => eval fuel cx t.expr
      -- an ordering term that names a result column sorts by that column's collation
      let sortKeys := orderBy.map fun t =>
        let key := kindCtx.sortKey fuel t
        if t.expr.hasCollate fuel then key
        else
          let idx := match t.expr.uncollated.integerValue? with
            | some k => some (k.toNat - 1)
            | none => aliasIndex items t.expr.uncollated
          match idx with
          | some i => { key with coll := kindCtx.itemCollation fuel sources (items.getD i default) }
          | none => key
      let stop := match limit with
        | some l => if l < 0 then none else some (l + offset).toNat
        | none => none
      let mut out : List (List Value × List Value) := []
      let mut pending : List Level := []
      if !aggregate then
        for combo in combos do
          if !needAll then
            if let some s := stop then
              if out.length ≥ s then break
          let cx := levelOf combo
          let keep ← match filter with
            | some w => pure ((Value.truth (← eval fuel cx w)).getD false)
            | none => pure true
          if keep then
            if windowed then pending := pending ++ [{ rows := combo, aliases, windows }]
            else
              let row ← resultOf cx combo
              let keys ← keysOf cx row
              out := out ++ [(keys, row)]
      else
        let mut passing : List (List SourceRow) := []
        for combo in combos do
          let cx := levelOf combo
          let keep ← match filter with
            | some w => pure ((Value.truth (← eval fuel cx w)).getD false)
            | none => pure true
          if keep then passing := passing ++ [combo]
        let mut groups : List (List Value × List (List SourceRow)) := []
        let groupColls := groupBy.map fun g => match g.uncollated.integerValue? with
          | some k => kindCtx.itemCollation fuel sources (items.getD (k.toNat - 1) default)
          | none => kindCtx.collationOf fuel g
        if groupBy.isEmpty then groups := [([], passing)]
        else
          for combo in passing do
            let cx := levelOf combo
            let key ← groupBy.mapM fun g => match g.uncollated.integerValue? with
              | some k => match items.getD (k.toNat - 1) default with
                | .expr x _ _ => eval fuel cx x
                | _ => pure .null
              | none => eval fuel cx g
            if groups.any (sameRowUnder groupColls key ·.1) then
              groups := groups.map fun (k, rs) =>
                if sameRowUnder groupColls key k then (k, rs ++ [combo]) else (k, rs)
            else groups := groups ++ [(key, [combo])]
          groups := sortKeyed (groupColls.map fun g => ({ coll := g } : SortKey)) groups
        for (_, rs) in groups do
          let lastRow := rs.getLast?.getD (sources.map nullRow)
          let level : Level := { rows := lastRow, aliases, group := some rs, windows }
          let cx : Ctx := { c with levels := level :: c.levels }
          let keep ← match having with
            | some h => pure ((Value.truth (← eval fuel cx h)).getD false)
            | none => pure true
          if keep then
            if windowed then pending := pending ++ [level]
            else
              let row ← resultOf cx lastRow
              let keys ← keysOf cx row
              out := out ++ [(keys, row)]
      if windowed then
        let first := (exprs ++ orderBy.map (·.expr)).findSome? (·.firstWindow fuel)
        let (partition, order) := match first.map (·.effective windows) with
          | some (.mk _ p o _ _, _) => (p, o)
          | none => ([], [])
        let keyed ← pending.mapM fun lv => do
          let cx : Ctx := { c with levels := lv :: c.levels }
          let ks ← (partition ++ order.map (·.expr)).mapM (eval fuel cx)
          pure (ks, lv)
        let windowKeys := partition.map (fun x => ({ coll := kindCtx.collationOf fuel x } : SortKey)) ++
          order.map (kindCtx.sortKey fuel)
        let sorted := (sortKeyed windowKeys keyed).map (·.2)
        let peers := sorted.map fun lv => (lv.rows, lv.group)
        for (lv, i) in sorted.zipIdx do
          let cx : Ctx := { c with levels := { lv with peers, position := i } :: c.levels }
          let row ← resultOf cx lv.rows
          let keys ← keysOf cx row
          out := out ++ [(keys, row)]
      let rows := if orderBy.isEmpty then out else sortKeyed sortKeys out
      let rows := rows.map (·.2)
      let rows := if distinct then distinctRows (items.map (kindCtx.itemCollation fuel sources)) rows
        else rows
      return applyLimit limit offset rows

/-- The value of a call over a window for the current row: the rows of its partition are
the query's rows whose partition keys equal the current row's, in the window's order. -/
def windowCall : Nat → Ctx → Name → List Expr → Bool → Option Expr → Window → Run Value
  | 0, _, _, _, _, _, _ => throw (Failure.logic Parse.tooDeep)
  | fuel + 1, c, fn, args, star, filter, w => do
    let some l := c.levels.head? | return .null
    if l.peers.isEmpty then return .null
    let (partition, order, offsetExprs, shape) := match w.effective l.windows with
      | (.mk _ p o f s, _) => (p, o, f, s)
    let rowAt (i : Nat) : Ctx :=
      let (rows, group) := l.peers.getD i ([], none)
      { c with levels := { l with rows, group, peers := [], position := 0 } :: c.levels.drop 1 }
    let n := l.peers.length
    let partitionKeys ← (List.range n).mapM fun i => partition.mapM (eval fuel (rowAt i))
    let partitionColls := partition.map (c.collationOf fuel)
    let mine := partitionKeys.getD l.position []
    let members := (List.range n).filter fun i =>
      sameRowUnder partitionColls (partitionKeys.getD i []) mine
    let keyed ← members.mapM fun i => do
      let ks ← order.mapM fun t => eval fuel (rowAt i) t.expr
      pure (ks, i)
    let sorted := sortKeyed (order.map (c.sortKey fuel)) keyed
    let keys := (sorted.map (·.1)).toArray
    let places := (sorted.map (·.2)).toArray
    let size := places.size
    let me := (places.toList.findIdx? (· == l.position)).getD 0
    let orderColls := order.map fun t => c.collationOf fuel t.expr
    let same (a b : Nat) : Bool := sameRowUnder orderColls (keys.getD a []) (keys.getD b [])
    let row (j : Nat) : Ctx := rowAt (places.getD j 0)
    let name := fn.text.map Char.toLower
    match name with
    | "row_number" => return .int (me + 1)
    | "rank" => return .int (Frame.rank same size me)
    | "dense_rank" => return .int (Frame.denseRank same size me)
    | "percent_rank" =>
      return .real (if size ≤ 1 then 0.0
        else (Frame.rank same size me - 1).toFloat / (size - 1).toFloat)
    | "cume_dist" => return .real (((Frame.peers same size me).2 + 1).toFloat / size.toFloat)
    | "ntile" =>
      let k := Value.toInt (← eval fuel c (args.getD 0 .null))
      return .int (Frame.ntile k.toNat size me)
    | "lag" | "lead" =>
      let off ← match args[1]? with
        | some x => pure (Value.toInt (← eval fuel c x))
        | none => pure 1
      let target : Int := if name == "lag" then (me : Int) - off else (me : Int) + off
      if 0 ≤ target && target < size then eval fuel (row target.toNat) (args.getD 0 .null)
      else match args[2]? with
        | some d => eval fuel c d
        | none => return .null
    | _ =>
      let offsets ← offsetExprs.mapM fun x => eval fuel { c with levels := [] } x
      let desc := match order.head? with
        | some (.mk _ d _) => d == some true
        | none => false
      let frame := Frame.members shape offsets desc (keys.map fun ks => ks.headD .null) same size me
      match name with
      | "first_value" =>
        match frame.head? with
        | some j => eval fuel (row j) (args.getD 0 .null)
        | none => return .null
      | "last_value" =>
        match frame.getLast? with
        | some j => eval fuel (row j) (args.getD 0 .null)
        | none => return .null
      | "nth_value" =>
        let k := Value.toInt (← eval fuel c (args.getD 1 .null))
        match frame[(k - 1).toNat]? with
        | some j => if k ≥ 1 then eval fuel (row j) (args.getD 0 .null) else return .null
        | none => return .null
      | _ =>
        let mut collected : List (List (Value × Bool)) := []
        for j in frame do
          let cx := row j
          let keep ← match filter with
            | some fx => pure ((Value.truth (← eval fuel cx fx)).getD false)
            | none => pure true
          if keep then
            let vs ← args.mapM (eval fuel cx)
            collected := collected ++ [args.zipWith (fun x v => (v, x.givesJson v)) vs]
        let coll := match args.head? with
          | some x => c.collationOf fuel x
          | none => .binary
        Aggregate.fold fn.text star coll collected

end

end Foreman.Sql
