import Foreman.Sql.Catalog
import Foreman.Sql.Functions

/-!
# Reading statements

A script is read one statement at a time, token by token, refusing the first token that
cannot continue: `unrecognized token: "T"`, `near "T": syntax error`, or `incomplete input`.
The grammar is read by descent with one token of lookahead, deciding as a table-driven reader
of it would. Checks made while reading fail once the token showing the phrase complete is
taken. Parameters are numbered as read: `?` the next number, `?N` N, a named one its earlier
number or the next.
-/

namespace Foreman.Sql

/-- The text without its quotes: a doubled quote inside stands for one. -/
def dequote (s : String) : String :=
  match s.toList with
  | [] => s
  | q :: rest =>
    if q == '[' then String.ofList (rest.takeWhile (· != ']'))
    else if q == '\'' || q == '"' || q == '`' then
      let rec go : List Char → List Char
        | c :: d :: more => if c == q then (if d == q then q :: go more else []) else c :: go (d :: more)
        | [c] => if c == q then [] else [c]
        | [] => []
      String.ofList (go rest)
    else s

def Token.name (t : Token) : Name := ⟨dequote t.text, t.text⟩

/-- The state of reading: the tokens, the text, the catalog the checks look at, where
reading is, a failure waiting for the next token to be taken, the parameters by number,
whether a trigger's body is being read, and whether a common table has been named. -/
structure Cursor where
  tokens : Array Token
  text : Array Char
  catalog : Catalog
  pos : Nat := 0
  pending : Option String := none
  params : Array (Option String) := #[]
  inTrigger : Bool := false
  sawWith : Bool := false
  deriving Inhabited

abbrev Parse := StateT Cursor (Except String)

namespace Parse

def finishToken (c : Cursor) : Token := ⟨.finish, "", c.text.size, c.text.size⟩

def current : Parse Token := do
  let c ← get
  return c.tokens.getD c.pos (finishToken c)

/-- The next token; text that is no token is refused here. -/
def peek : Parse Token := do
  let t ← current
  if t.kind == .illegal then throw ("unrecognized token: \"" ++ t.text ++ "\"")
  return t

def peekAt (n : Nat) : Parse Token := do
  let c ← get
  return c.tokens.getD (c.pos + n) (finishToken c)

/-- Takes the next token; a failure noted while it was looked at is reported now. -/
def advance : Parse Unit := do
  let c ← get
  if c.pos < c.tokens.size && !(c.tokens.getD c.pos (finishToken c)).isFinish then
    set { c with pos := c.pos + 1 }
  if let some e := c.pending then throw e

def nearMessage (t : Token) : String :=
  if t.isFinish then "incomplete input" else "near \"" ++ t.text ++ "\": syntax error"

def reject {α : Type} (t : Token) : Parse α := throw (nearMessage t)

def stuck {α : Type} : Parse α := do reject (← peek)

/-- Notes a failure to report when the next token is taken. -/
def note (msg : String) : Parse Unit := modify fun c => { c with pending := some msg }

def expectKw (w : String) : Parse Unit := do
  let t ← peek
  if t.isKw w then advance else reject t

def expectOp (s : String) : Parse Unit := do
  let t ← peek
  if t.isOp s then advance else reject t

def acceptKw (w : String) : Parse Bool := do
  if (← peek).isKw w then advance; return true
  return false

def acceptOp (s : String) : Parse Bool := do
  if (← peek).isOp s then advance; return true
  return false

/-- Takes a name that may name a table or column (`nm`). -/
def nm : Parse Name := do
  let t ← peek
  if t.isNm then advance; return t.name
  reject t

/-- Takes a name or a string (`ids`). -/
def ids : Parse Name := do
  let t ← peek
  if t.isIds then advance; return t.name
  reject t

/-- A name that may be qualified by a schema: `name` or `schema.name`. -/
def fullName : Parse QName := do
  let a ← nm
  if ← acceptOp "." then return ⟨some a, ← nm⟩
  return ⟨none, a⟩

def remaining : Parse Nat := do
  let c ← get
  return c.tokens.size - c.pos + 1

/-- The text between two offsets, blanks at either end removed. -/
def span (start stop : Nat) : Parse String := do
  let c ← get
  let cs := (c.text.extract start stop).toList
  let isSp (ch : Char) := ch == ' ' || (ch.toNat ≥ 9 && ch.toNat ≤ 13)
  return String.ofList ((cs.dropWhile isSp).reverse.dropWhile isSp).reverse

def startsSelect (t : Token) : Bool := t.isKw "SELECT" || t.isKw "VALUES" || t.isKw "WITH"

def maxParam : Nat := 32766

def param (text : String) : Parse Expr := do
  let c ← get
  let chars := text.toList
  if chars.length == 1 then
    set { c with params := c.params.push none }
    return .param (c.params.size + 1) none
  if chars.head? == some '?' then
    let digits := chars.drop 1
    let ok := digits.all Char.isDigit && !digits.isEmpty
    let n := digits.foldl (fun a d => a * 10 + (d.toNat - 48)) 0
    if !ok || n < 1 || n > maxParam || digits.length > 19 then
      throw ("variable number must be between ?1 and ?" ++ toString maxParam)
    let params := if n > c.params.size then
        c.params ++ (List.replicate (n - c.params.size) none).toArray else c.params
    let params := if (params.getD (n - 1) none).isNone then params.set! (n - 1) (some text)
      else params
    set { c with params := params }
    return .param n (some text)
  match c.params.toList.findIdx? (· == some text) with
  | some i => return .param (i + 1) (some text)
  | none =>
    set { c with params := c.params.push (some text) }
    if c.params.size + 1 > maxParam then throw "too many SQL variables"
    return .param (c.params.size + 1) (some text)

/-- The digits of a number written with `_` between them; a `_` that does not stand
between two digits is refused, the message quoting the text as it stands while the `_`
are being taken out. -/
def quotedNumber (text : String) : Except String Expr := Id.run do
  let cs := text.toList.toArray
  let hex := cs.size > 1 && cs[0]! == '0' && (cs[1]! == 'x' || cs[1]! == 'X')
  let isD (ch : Char) := if hex then Scan.isHex ch else ch.isDigit
  let mut kept : Array Char := #[]
  let mut err : Option String := none
  let mut real := false
  for i in [0:cs.size] do
    let ch := cs[i]!
    if ch != '_' then
      kept := kept.push ch
      if ch == 'e' || ch == 'E' || ch == '.' then real := true
    else
      let before := if i == 0 then '\x00' else cs[i - 1]!
      let after := cs.getD (i + 1) '\x00'
      if !(isD before && isD after) then
        let shown := String.ofList (kept.toList ++ (cs.toList.drop kept.size))
        err := some ("unrecognized token: \"" ++ shown ++ "\"")
  match err with
  | some e => return .error e
  | none =>
    let digits := String.ofList kept.toList
    return .ok (if real && !hex then .float digits else .integer digits)

/-- The join kinds of join words, as bits: natural 1, left 2, outer 4, right 8, inner 16,
cross 32; none for a word that names no join. -/
def joinBits (w : String) : Option Nat :=
  match w.map Char.toLower with
  | "natural" => some 1
  | "left" => some 6
  | "outer" => some 4
  | "right" => some 12
  | "full" => some 14
  | "inner" => some 16
  | "cross" => some 48
  | _ => none

/-- Checks the words of a join: an unknown word, inner with outer, or outer alone is
refused. -/
def checkJoin (ws : List Token) : Except String Unit :=
  let bits := ws.map fun t => joinBits t.text
  let known := bits.all Option.isSome
  let jt := bits.foldl (fun a b => a ||| b.getD 0) 0
  if !known || jt &&& 20 == 20 || jt &&& 14 == 4 then
    .error ("unknown join type: " ++ " ".intercalate (ws.map (·.text)))
  else .ok ()

/-- The number of values of an expression that is a row of values. -/
def Expr.width : Expr → Nat
  | .vector items => items.length
  | _ => 1

def resolution? (t : Token) : Option Resolution :=
  if t.isKw "ROLLBACK" then some .rollback
  else if t.isKw "ABORT" then some .abort
  else if t.isKw "FAIL" then some .fail
  else if t.isKw "IGNORE" then some .ignore
  else if t.isKw "REPLACE" then some .replace
  else none

def resolveType : Parse Resolution := do
  let t ← peek
  match resolution? t with
  | some r => advance; return r
  | none => reject t

def onConflict : Parse (Option Resolution) := do
  if (← peek).isKw "ON" then
    advance
    expectKw "CONFLICT"
    return some (← resolveType)
  return none

def sortOrder : Parse (Option Bool) := do
  if ← acceptKw "ASC" then return some false
  if ← acceptKw "DESC" then return some true
  return none

def idList : Parse (List Name) := do
  let mut names : Array Name := #[]
  for _ in [0:← remaining] do
    names := names.push (← nm)
    if !(← acceptOp ",") then break
  return names.toList

/-- A list of names, each perhaps with a collation and an order. -/
def eidList : Parse (List Name) := do
  let mut names : Array Name := #[]
  for _ in [0:← remaining] do
    names := names.push (← nm)
    if ← acceptKw "COLLATE" then discard ids
    discard sortOrder
    if !(← acceptOp ",") then break
  return names.toList

def eidListOpt : Parse (List Name) := do
  if ← acceptOp "(" then
    let names ← eidList
    expectOp ")"
    return names
  return []

def signed : Parse Unit := do
  if (← peek).isOp "+" || (← peek).isOp "-" then advance
  let t ← peek
  if t.isNumber then advance else reject t

/-- A type: words, perhaps followed by one or two sizes in parentheses. In a column's
definition `GENERATED` starts a constraint, not a word of the type; after the first word
it does so in a cast too. -/
def typeToken (inColumn : Bool) : Parse String := do
  let first ← peek
  if !first.isIds || (inColumn && first.isKw "GENERATED") then return ""
  let mut stop := first.stop
  advance
  for _ in [0:← remaining] do
    let t ← peek
    if t.isIds && !t.isKw "GENERATED" then
      stop := t.stop
      advance
    else break
  if (← peek).isOp "(" then
    advance
    signed
    if ← acceptOp "," then signed
    let t ← peek
    if !t.isOp ")" then reject t
    stop := t.stop
    advance
  span first.start stop

def ifNotExists : Parse Bool := do
  if ← acceptKw "IF" then
    expectKw "NOT"
    expectKw "EXISTS"
    return true
  return false

def ifExists : Parse Bool := do
  if ← acceptKw "IF" then
    expectKw "EXISTS"
    return true
  return false

def tooDeep : String := "parser stack overflow"

/-- The bits of an operator that binds two expressions: its precedence and what it makes.
Precedences run from `OR` (1) up: `AND` 2, `NOT` 3, equality and matching 4, comparison 5,
bit operators 7, addition 8, multiplication 9, concatenation 10. -/
def binaryOp? (t : Token) : Option (Nat × BinaryOp) :=
  if t.isKw "OR" then some (1, .or)
  else if t.isKw "AND" then some (2, .and)
  else match t.kind with
    | .op "=" => some (4, .eq)
    | .op "<>" => some (4, .ne)
    | .op "<" => some (5, .lt)
    | .op "<=" => some (5, .le)
    | .op ">" => some (5, .gt)
    | .op ">=" => some (5, .ge)
    | .op "&" => some (7, .bitAnd)
    | .op "|" => some (7, .bitOr)
    | .op "<<" => some (7, .shl)
    | .op ">>" => some (7, .shr)
    | .op "+" => some (8, .add)
    | .op "-" => some (8, .sub)
    | .op "*" => some (9, .mul)
    | .op "/" => some (9, .div)
    | .op "%" => some (9, .rem)
    | .op "||" => some (10, .concat)
    | .op "->" => some (10, .extract (t.text.length == 3))
    | _ => none

/-- Whether an expression is constant as the offset of a frame must be when it is read:
literals, parameters and operators, and the names `true` and `false`, but no column, call
(pattern matches and clock words among them) or subquery. -/
def Expr.isOffsetConstant : Nat → Expr → Bool
  | 0, _ => true
  | fuel + 1, e =>
    let go := Expr.isOffsetConstant fuel
    match e with
    | .column n quoted => !quoted && (sameName n.text "true" || sameName n.text "false")
    | .qualified .. | .call .. | .subquery _ | .exists _ | .inSelect .. | .inTable .. | .raise .. => false
    | .like .. | .binary (.extract _) _ _ | .clock _ => false
    | .unary _ a | .isNull a | .notNull a | .collate a _ | .cast a _ => go a
    | .binary _ a b => go a && go b
    | .between _ a b c => go a && go b && go c
    | .inList _ a xs => go a && xs.all go
    | .case a arms d =>
      (a.map go).getD true && arms.all (fun (x, y) => go x && go y) && (d.map go).getD true
    | .vector xs => xs.all go
    | _ => true

/-- Whether a term of a `VALUES` row is constant as a row read with the one before must be:
literals, parameters, operators, and calls of scalar functions not varying between calls over
such terms, pattern matches and clock words among them; no column, window, aggregate or
subquery. -/
def Expr.isRowConstant : Nat → Expr → Bool
  | 0, _ => true
  | fuel + 1, e =>
    let go := Expr.isRowConstant fuel
    let steady (fn : String) (n : Nat) : Bool := match lookupFunction fn n with
      | .found f => f.kind == .scalar && !variesByCall fn
      | _ => false
    match e with
    | .column n quoted => !quoted && (sameName n.text "true" || sameName n.text "false")
    | .qualified .. | .subquery _ | .exists _ | .inSelect .. | .inTable .. | .raise .. => false
    | .call fn _ args _ _ _ w => w.isNone && args.all go && steady fn.text args.length
    | .like _ word a b c =>
      go a && go b && (c.map go).getD true && steady word (if c.isSome then 3 else 2)
    | .unary _ a | .isNull a | .notNull a | .collate a _ | .cast a _ => go a
    | .binary _ a b => go a && go b
    | .between _ a b c => go a && go b && go c
    | .inList _ a xs => go a && xs.all go
    | .case a arms d =>
      (a.map go).getD true && arms.all (fun (x, y) => go x && go y) && (d.map go).getD true
    | .vector xs => xs.all go
    | _ => true

/-- Whether a term has no affinity of its own: it is no `CAST` under its collations, and a
row value has the affinity of its first term. -/
def Expr.lacksAffinity : Nat → Expr → Bool
  | 0, _ => true
  | fuel + 1, e =>
    match e with
    | .collate a _ => Expr.lacksAffinity fuel a
    | .cast .. => false
    | .vector (x :: _) => Expr.lacksAffinity fuel x
    | _ => true

mutual

/-- An expression whose operators bind at least as tightly as `minPrec`. When `stopAtAnd`
holds an `AND` at its top level ends it (the lower bound of `BETWEEN`). -/
def expr : Nat → Nat → Bool → Parse Expr
  | 0, _, _ => throw tooDeep
  | fuel + 1, minPrec, stopAtAnd => do
    let mut lhs ← prefixExpr fuel
    for _ in [0:← remaining] do
      match ← infixStep fuel minPrec stopAtAnd lhs with
      | some e => lhs := e
      | none => break
    return lhs

/-- One operator after an expression and what it binds, or none when the next token does
not continue the expression at this precedence. -/
def infixStep : Nat → Nat → Bool → Expr → Parse (Option Expr)
  | 0, _, _, _ => throw tooDeep
  | fuel + 1, minPrec, stopAtAnd, lhs => do
    let t ← peek
    if t.isKw "NOT" then
      if 3 < minPrec then return none
      advance
      let u ← peek
      if u.isKw "NULL" then
        advance
        return some (.notNull lhs)
      if u.isLikeKw || u.isKw "MATCH" then
        advance
        return some (← likeTail fuel true u lhs)
      if u.isKw "BETWEEN" then
        advance
        return some (← betweenTail fuel true lhs)
      if u.isKw "IN" then
        advance
        return some (← inTail fuel true lhs)
      reject u
    if t.isKw "IS" then
      if 4 < minPrec then return none
      advance
      let neg ← acceptKw "NOT"
      let distinct ← acceptKw "DISTINCT"
      if distinct then expectKw "FROM"
      let rhs ← expr fuel 5 false
      -- a comparison with the literal `NULL` is the test for null
      if let .null := rhs then
        return some (if neg != distinct then .notNull lhs else .isNull lhs)
      return some (.binary (if neg != distinct then .isNot else .is) lhs rhs)
    if t.isKw "ISNULL" || t.isKw "NOTNULL" then
      if 4 < minPrec then return none
      advance
      return some (if t.isKw "ISNULL" then .isNull lhs else .notNull lhs)
    if t.isLikeKw || t.isKw "MATCH" then
      if 4 < minPrec then return none
      advance
      return some (← likeTail fuel false t lhs)
    if t.isKw "BETWEEN" then
      if 4 < minPrec then return none
      advance
      return some (← betweenTail fuel false lhs)
    if t.isKw "IN" then
      if 4 < minPrec then return none
      advance
      return some (← inTail fuel false lhs)
    if t.isKw "COLLATE" then
      if 11 < minPrec then return none
      advance
      return some (.collate lhs (← ids))
    match binaryOp? t with
    | some (p, op) =>
      if p < minPrec || (stopAtAnd && op == .and) then return none
      advance
      let rhs ← expr fuel (p + 1) false
      return some (.binary op lhs rhs)
    | none => return none

/-- The right side of a pattern match, after its keyword, with its escape. -/
def likeTail : Nat → Bool → Token → Expr → Parse Expr
  | 0, _, _, _ => throw tooDeep
  | fuel + 1, negated, word, lhs => do
    let rhs ← expr fuel 5 false
    let esc ← if ← acceptKw "ESCAPE" then some <$> expr fuel 5 false else pure none
    return .like negated word.text lhs rhs esc

def betweenTail : Nat → Bool → Expr → Parse Expr
  | 0, _, _ => throw tooDeep
  | fuel + 1, negated, lhs => do
    let low ← expr fuel 1 true
    expectKw "AND"
    let high ← expr fuel 5 false
    return .between negated lhs low high

/-- What follows `IN`: a list or a query in parentheses, or a table. -/
def inTail : Nat → Bool → Expr → Parse Expr
  | 0, _, _ => throw tooDeep
  | fuel + 1, negated, lhs => do
    let t ← peek
    if t.isOp "(" then
      advance
      let u ← peek
      if startsSelect u then
        let q ← select fuel
        expectOp ")"
        return .inSelect negated lhs q
      let items ← exprList fuel
      expectOp ")"
      return .inList negated lhs items
    if t.isNm then
      let a ← nm
      let (schema, table) ← if ← acceptOp "." then pure (some a, ← nm) else pure (none, a)
      let args ← if ← acceptOp "(" then
          let xs ← exprList fuel
          expectOp ")"
          pure (some xs)
        else pure none
      return .inTable negated lhs schema table args
    reject t

/-- An expression's first operand: a literal, a name, a call, a parenthesised expression
or query, or an operator with one operand and its operand. -/
def prefixExpr : Nat → Parse Expr
  | 0 => throw tooDeep
  | fuel + 1 => do
    let t ← peek
    if t.isOp "(" then
      advance
      if startsSelect (← peek) then
        let q ← select fuel
        expectOp ")"
        return .subquery q
      let e ← expr fuel 1 false
      let u ← peek
      if u.isOp ")" then
        advance
        return e
      if u.isOp "," then
        advance
        let more ← nexprList fuel
        expectOp ")"
        return .vector (e :: more)
      reject u
    if t.isKw "NULL" then
      advance
      return .null
    match t.kind with
    | .integer => advance; return .integer t.text
    | .float => advance; return .float t.text
    | .blob =>
      advance
      return .blob (String.ofList ((t.text.toList.drop 2).dropLast))
    | .quotedNumber =>
      advance
      match quotedNumber t.text with
      | .ok e => return e
      | .error m => throw m
    | .string =>
      if (← peekAt 1).isOp "." then qualifiedExpr fuel
      else
        advance
        return .string (dequote t.text)
    | .variable =>
      if t.text.startsWith "#" && ((t.text.toList.drop 1).head?.map Char.isDigit).getD false then
        reject t
      advance
      param t.text
    | _ =>
      if t.isAnyKw clockWords then
        advance
        return .clock ((t.keyword?).getD "")
      if t.isKw "CAST" then
        advance
        expectOp "("
        let e ← expr fuel 1 false
        expectKw "AS"
        let ty ← typeToken false
        expectOp ")"
        return .cast e ty
      if t.isKw "NOT" then
        advance
        return .unary .not (← expr fuel 3 false)
      if t.isOp "~" then
        advance
        return .unary .bitNot (← expr fuel 12 false)
      if t.isOp "+" || t.isOp "-" then
        advance
        return .unary (if t.isOp "+" then .pos else .neg) (← expr fuel 12 false)
      if t.isKw "EXISTS" then
        advance
        expectOp "("
        let q ← select fuel
        expectOp ")"
        return .exists q
      if t.isKw "CASE" then
        advance
        return ← caseTail fuel
      if t.isKw "RAISE" then
        advance
        expectOp "("
        if ← acceptKw "IGNORE" then
          expectOp ")"
          return .raise .ignore none
        let u ← peek
        let kind ← if u.isKw "ROLLBACK" then pure RaiseKind.rollback
          else if u.isKw "ABORT" then pure RaiseKind.abort
          else if u.isKw "FAIL" then pure RaiseKind.fail
          else reject u
        advance
        expectOp ","
        let msg ← expr fuel 1 false
        expectOp ")"
        return .raise kind (some msg)
      if t.isIdj then
        let u ← peekAt 1
        if u.isOp "(" then return ← callTail fuel
        if u.isOp "." then return ← qualifiedExpr fuel
        advance
        return .column t.name (t.text.startsWith "\"")
      reject t

/-- A name with its table and perhaps its schema: `table.column` or
`schema.table.column`. -/
def qualifiedExpr : Nat → Parse Expr
  | 0 => throw tooDeep
  | _ + 1 => do
    let a ← nm
    expectOp "."
    let b ← nm
    if ← acceptOp "." then return .qualified (some a) b (← nm)
    return .qualified none a b

/-- A call of a function: its name, its arguments, and its filter and window. -/
def callTail : Nat → Parse Expr
  | 0 => throw tooDeep
  | fuel + 1 => do
    let t ← peek
    advance
    expectOp "("
    if ← acceptOp "*" then
      expectOp ")"
      let (filter, windowSpec) ← filterOver fuel
      return .call t.name false [] true [] filter windowSpec
    let distinct ← if ← acceptKw "DISTINCT" then pure true
      else do discard (acceptKw "ALL"); pure false
    let u ← peek
    let args ← if u.isOp ")" || u.isKw "ORDER" then pure [] else nexprList fuel
    let orderBy ← if ← acceptKw "ORDER" then
        expectKw "BY"
        sortList fuel
      else pure []
    expectOp ")"
    let (filter, windowSpec) ← filterOver fuel
    return .call t.name distinct args false orderBy filter windowSpec

def filterOver : Nat → Parse (Option Expr × Option Window)
  | 0 => throw tooDeep
  | fuel + 1 => do
    let filter ← if ← acceptKw "FILTER" then
        expectOp "("
        expectKw "WHERE"
        let e ← expr fuel 1 false
        expectOp ")"
        pure (some e)
      else pure none
    if ← acceptKw "OVER" then
      if ← acceptOp "(" then
        let w ← windowBody fuel
        expectOp ")"
        return (filter, some w)
      let n ← nm
      return (filter, some (.mk (some n) [] [] [] none))
    return (filter, none)

def windowBody : Nat → Parse Window
  | 0 => throw tooDeep
  | fuel + 1 => do
    let t ← peek
    let base ← if t.isNm && !t.isAnyKw ["PARTITION", "RANGE", "ROWS", "GROUPS"] then
        advance
        pure (some t.name)
      else pure none
    let partition ← if ← acceptKw "PARTITION" then
        expectKw "BY"
        nexprList fuel
      else pure []
    let orderBy ← if ← acceptKw "ORDER" then
        expectKw "BY"
        sortList fuel
      else pure []
    let (frame, shape) ← frameOpt fuel
    return .mk base partition orderBy frame (some shape)

/-- A window's frame, if one comes: its bounds' offsets and its shape. A bound may not come
before the other in the order `UNBOUNDED PRECEDING`, `n PRECEDING`, `CURRENT ROW`,
`n FOLLOWING`, `UNBOUNDED FOLLOWING`; a non-constant offset counts as null. -/
def frameOpt : Nat → Parse (List Expr × FrameShape)
  | 0 => throw tooDeep
  | fuel + 1 => do
    let t ← peek
    if !t.isAnyKw ["RANGE", "ROWS", "GROUPS"] then return ([], {})
    advance
    let unit : FrameUnit := if t.isKw "RANGE" then .range else if t.isKw "ROWS" then .rows else .groups
    let ((a, start), (b, finish)) ← if ← acceptKw "BETWEEN" then
        let a ← frameBound fuel true
        expectKw "AND"
        let b ← frameBound fuel false
        pure (a, b)
      else pure (← frameBound fuel true, ([], BoundKind.currentRow))
    let bounds := (a ++ b).map fun e => if Expr.isOffsetConstant fuel e then e else .null
    if (start == .currentRow && finish == .preceding) ||
        (start == .following && (finish == .preceding || finish == .currentRow)) then
      note "unsupported frame specification"
    if ← acceptKw "EXCLUDE" then
      let u ← peek
      if u.isKw "NO" then
        advance
        expectKw "OTHERS"
      else if u.isKw "CURRENT" then
        advance
        expectKw "ROW"
      else if u.isKw "GROUP" || u.isKw "TIES" then advance
      else reject u
    return (bounds, { unit, start, finish, implicit := false })

/-- A bound of a frame: `UNBOUNDED PRECEDING` (at the start) or `UNBOUNDED FOLLOWING` (at
the end), `CURRENT ROW`, or an expression with `PRECEDING` or `FOLLOWING`. -/
def frameBound : Nat → Bool → Parse (List Expr × BoundKind)
  | 0, _ => throw tooDeep
  | fuel + 1, atStart => do
    if ← acceptKw "UNBOUNDED" then
      expectKw (if atStart then "PRECEDING" else "FOLLOWING")
      return ([], if atStart then .unboundedPreceding else .unboundedFollowing)
    if ← acceptKw "CURRENT" then
      expectKw "ROW"
      return ([], .currentRow)
    let e ← expr fuel 1 false
    let t ← peek
    if t.isKw "PRECEDING" || t.isKw "FOLLOWING" then
      advance
      return ([e], if t.isKw "PRECEDING" then .preceding else .following)
    reject t

def caseTail : Nat → Parse Expr
  | 0 => throw tooDeep
  | fuel + 1 => do
    let operand ← if (← peek).isKw "WHEN" then pure none else some <$> expr fuel 1 false
    let mut arms : Array (Expr × Expr) := #[]
    for _ in [0:← remaining] do
      if arms.size > 0 && !(← peek).isKw "WHEN" then break
      expectKw "WHEN"
      let c ← expr fuel 1 false
      expectKw "THEN"
      let v ← expr fuel 1 false
      arms := arms.push (c, v)
    let otherwise ← if ← acceptKw "ELSE" then some <$> expr fuel 1 false else pure none
    expectKw "END"
    return .case operand arms.toList otherwise

def nexprList : Nat → Parse (List Expr)
  | 0 => throw tooDeep
  | fuel + 1 => do
    let mut items : Array Expr := #[]
    for _ in [0:← remaining] do
      items := items.push (← expr fuel 1 false)
      if !(← acceptOp ",") then break
    return items.toList

/-- Expressions separated by commas, perhaps none (when a closing parenthesis comes). -/
def exprList : Nat → Parse (List Expr)
  | 0 => throw tooDeep
  | fuel + 1 => do
    if (← peek).isOp ")" then return []
    nexprList fuel

def sortList : Nat → Parse (List OrderTerm)
  | 0 => throw tooDeep
  | fuel + 1 => do
    let mut terms : Array OrderTerm := #[]
    for _ in [0:← remaining] do
      let e ← expr fuel 1 false
      let desc ← sortOrder
      let nulls ← if ← acceptKw "NULLS" then
          if ← acceptKw "FIRST" then pure (some true)
          else do expectKw "LAST"; pure (some false)
        else pure none
      terms := terms.push (.mk e desc nulls)
      if !(← acceptOp ",") then break
    return terms.toList

def select : Nat → Parse Select
  | 0 => throw tooDeep
  | fuel + 1 => do
    let ctes ← if (← peek).isKw "WITH" then withClause fuel else pure []
    selectBody fuel ctes

/-- The clause `WITH [RECURSIVE]` and the common table expressions. A name given twice is refused
once the list is complete. -/
def withClause : Nat → Parse (List Cte)
  | 0 => throw tooDeep
  | fuel + 1 => do
    advance
    discard (acceptKw "RECURSIVE")
    let mut ctes : Array Cte := #[]
    for _ in [0:← remaining] do
      let name ← nm
      modify fun c => { c with sawWith := true }
      let columns ← eidListOpt
      expectKw "AS"
      if ← acceptKw "NOT" then expectKw "MATERIALIZED"
      else discard (acceptKw "MATERIALIZED")
      expectOp "("
      let body ← select fuel
      expectOp ")"
      if ctes.any (fun (c : Cte) => match c with | .mk n _ _ => sameName n.text name.text) then
        note ("duplicate WITH table name: " ++ name.text)
      ctes := ctes.push (.mk name columns body)
      if !(← acceptOp ",") then break
    return ctes.toList

/-- The parts of a query joined by compound operators. An `ORDER BY` or `LIMIT` on a part
before the last is refused once the query is complete. -/
def selectBody : Nat → List Cte → Parse Select
  | 0, _ => throw tooDeep
  | fuel + 1, ctes => do
    let first ← oneSelect fuel
    let mut rest : Array (CompoundOp × Core) := #[]
    for _ in [0:← remaining] do
      let t ← peek
      let op ← if t.isKw "UNION" then
          advance
          if ← acceptKw "ALL" then pure (some CompoundOp.unionAll) else pure (some CompoundOp.union)
        else if t.isKw "INTERSECT" then do advance; pure (some CompoundOp.intersect)
        else if t.isKw "EXCEPT" then do advance; pure (some CompoundOp.except)
        else pure none
      match op with
      | none => break
      | some op => rest := rest.push (op, ← oneSelect fuel)
    let parts := (first :: rest.toList.map (·.2)).zip (rest.toList.map (·.1))
    match (parts.reverse.find? fun (c, _) => !c.orderBy.isEmpty || c.limit.isSome) with
    | some (c, op) =>
      note ((if c.orderBy.isEmpty then "LIMIT" else "ORDER BY") ++
        " clause should come after " ++ op.word ++ " not before")
    | none => pure ()
    return .mk ctes first rest.toList

def oneSelect : Nat → Parse Core
  | 0 => throw tooDeep
  | fuel + 1 => do
    let t ← peek
    if t.isKw "VALUES" then
      advance
      let mut rows : Array (List Expr) := #[]
      -- the width of the run of constant rows read one after another, if one is going on:
      -- a row that joins it must match it at once, other rows are matched when resolved
      let mut run : Option Nat := none
      for _ in [0:← remaining] do
        expectOp "("
        let row ← nexprList fuel
        expectOp ")"
        if let some prev := rows.back? then
          let constant := fun (r : List Expr) => r.all (Expr.isRowConstant fuel)
          if (← get).sawWith || !constant row ||
              (run.isNone && !(constant prev && prev.all (Expr.lacksAffinity fuel))) then
            run := none
          else
            let misused := fun (r : List Expr) => r.any fun e => match e with
              | .vector _ => true
              | _ => false
            if run.isNone && misused prev then note "row value misused"
            else
              let width := run.getD prev.length
              if row.length != width then note "all VALUES must have the same number of terms"
              else if misused row then note "row value misused"
            run := some (run.getD prev.length)
        rows := rows.push row
        if !(← acceptOp ",") then break
      return .values rows.toList run.isSome
    if !t.isKw "SELECT" then reject t
    advance
    let distinct ← if ← acceptKw "DISTINCT" then pure true
      else do discard (acceptKw "ALL"); pure false
    let columns ← resultColumns fuel
    let source ← if ← acceptKw "FROM" then fromList fuel else pure []
    let filter ← if ← acceptKw "WHERE" then some <$> expr fuel 1 false else pure none
    let groupBy ← if ← acceptKw "GROUP" then
        expectKw "BY"
        nexprList fuel
      else pure []
    let having ← if ← acceptKw "HAVING" then some <$> expr fuel 1 false else pure none
    let windows ← if ← acceptKw "WINDOW" then windowDefs fuel else pure []
    let orderBy ← if ← acceptKw "ORDER" then
        expectKw "BY"
        sortList fuel
      else pure []
    let limit ← limitOpt fuel
    return .select distinct columns source filter groupBy having windows orderBy limit

/-- The clause `LIMIT n [OFFSET m | , n]`, if it comes: the limit and the offset. -/
def limitOpt : Nat → Parse (Option (Expr × Option Expr))
  | 0 => throw tooDeep
  | fuel + 1 => do
    if !(← acceptKw "LIMIT") then return none
    let a ← expr fuel 1 false
    if ← acceptKw "OFFSET" then return some (a, some (← expr fuel 1 false))
    if ← acceptOp "," then return some (← expr fuel 1 false, some a)
    return some (a, none)

def windowDefs : Nat → Parse (List (Name × Window))
  | 0 => throw tooDeep
  | fuel + 1 => do
    let mut defs : Array (Name × Window) := #[]
    for _ in [0:← remaining] do
      let n ← nm
      expectKw "AS"
      expectOp "("
      let mut w ← windowBody fuel
      expectOp ")"
      -- a definition after the first is built on the earlier one it names at once
      if !defs.isEmpty then
        if let .mk (some _) _ _ _ _ := w then
          match w.effective defs.toList with
          | (_, some m) => note m
          | (w', none) => w := w'
      defs := defs.push (n, w)
      if !(← acceptOp ",") then break
    return defs.toList

def resultColumns : Nat → Parse (List ResultColumn)
  | 0 => throw tooDeep
  | fuel + 1 => do
    let mut cols : Array ResultColumn := #[]
    for _ in [0:← remaining] do
      let t ← peek
      if t.isOp "*" then
        advance
        cols := cols.push .star
      else if t.isNm && (← peekAt 1).isOp "." && (← peekAt 2).isOp "*" then
        advance; advance; advance
        cols := cols.push (.tableStar t.name)
      else
        let e ← expr fuel 1 false
        let text ← span t.start (← current).start
        let asName ← if ← acceptKw "AS" then some <$> nm
          else if (← peek).isIds then some <$> ids
          else pure none
        cols := cols.push (.expr e asName text)
      if !(← acceptOp ",") then break
    return cols.toList

def fromList : Nat → Parse (List FromItem)
  | 0 => throw tooDeep
  | fuel + 1 => do
    let mut items : Array FromItem := #[]
    let mut join := Join.inner
    for _ in [0:← remaining] do
      items := items.push (← fromItem fuel join items.isEmpty)
      let t ← peek
      if t.isOp "," || t.isKw "JOIN" then
        advance
        join := .inner
      else if t.isJoinKw then
        advance
        let mut words : Array Token := #[t]
        for _ in [0:3] do
          let u ← peek
          if u.isKw "JOIN" then break
          if words.size < 3 && u.isNm then
            advance
            words := words.push u
          else reject u
        advance
        match checkJoin words.toList with
        | .error m => throw m
        | .ok () => pure ()
        join := .keyed (words.toList.map fun w => w.text.map Char.toUpper)
      else break
    return items.toList

/-- One item of a `FROM` clause: a table (perhaps with arguments), a query or items in
parentheses, with its alias, its index and its join constraint. -/
def fromItem : Nat → Join → Bool → Parse FromItem
  | 0, _, _ => throw tooDeep
  | fuel + 1, join, first => do
    let t ← peek
    let item ← if t.isOp "(" then
        advance
        if startsSelect (← peek) then
          let q ← select fuel
          expectOp ")"
          let asName ← aliasOpt
          let (cond, shared) ← onUsing fuel
          pure (FromItem.subquery q asName join cond shared)
        else
          let inner ← fromList fuel
          expectOp ")"
          let asName ← aliasOpt
          let (cond, shared) ← onUsing fuel
          pure (FromItem.nested inner asName join cond shared)
      else if t.isNm then
        let a ← nm
        let (schema, name) ← if ← acceptOp "." then pure (some a, ← nm) else pure (none, a)
        if ← acceptOp "(" then
          let args ← exprList fuel
          expectOp ")"
          let asName ← aliasOpt
          let (cond, shared) ← onUsing fuel
          pure (FromItem.table schema name (some args) asName none join cond shared)
        else
          let asName ← aliasOpt
          let indexed ← if ← acceptKw "INDEXED" then
              expectKw "BY"
              some <$> nm
            else if (← peek).isKw "NOT" then do
              advance
              expectKw "INDEXED"
              pure none
            else pure none
          let (cond, shared) ← onUsing fuel
          pure (FromItem.table schema name none asName indexed join cond shared)
      else reject t
    if first then
      let (cond, shared) := match item with
        | .table _ _ _ _ _ _ o u | .subquery _ _ _ o u | .nested _ _ _ o u => (o, u)
      if cond.isSome then note "a JOIN clause is required before ON"
      else if shared.isSome then note "a JOIN clause is required before USING"
    return item

def aliasOpt : Parse (Option Name) := do
  if ← acceptKw "AS" then return some (← nm)
  if (← peek).isIds then return some (← ids)
  return none

/-- A join constraint: `ON expr` or `USING (names)`, if one comes. -/
def onUsing : Nat → Parse (Option Expr × Option (List Name))
  | 0 => throw tooDeep
  | fuel + 1 => do
    if ← acceptKw "ON" then return (some (← expr fuel 1 false), none)
    if ← acceptKw "USING" then
      expectOp "("
      let names ← idList
      expectOp ")"
      return (none, some names)
    return (none, none)

end

end Parse

end Foreman.Sql
