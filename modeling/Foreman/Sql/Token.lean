/-!
# Tokens of SQL text

SQL text is a sequence of tokens, each with its written text and start: a name (a word that
is no keyword, or quoted), a keyword (matched up to ASCII case), a string, a number, a blob
`X'..'`, a parameter, an operator or punctuation in canonical spelling, blanks and comments, or
text that is no token, stopping the reading. Many keywords fall back to names where the
grammar has no use for them (`fallback`), and `WINDOW`, `OVER` and `FILTER` are keywords only
where what follows says so.
-/

namespace Foreman.Sql

inductive TokenKind where
  | name
  | keyword (word : String)
  | string
  | integer
  | float
  /-- A number with `_` between its digits. -/
  | quotedNumber
  | blob
  | variable
  /-- An operator or punctuation mark, in its canonical spelling. -/
  | op (sym : String)
  | space
  | comment
  /-- Text that is no token. -/
  | illegal
  /-- The end of the text. -/
  | finish
  deriving BEq, Inhabited, Repr

/-- A token: what it is, its text as written, and the character offsets where it starts and
where it stops. -/
structure Token where
  kind : TokenKind
  text : String
  start : Nat
  stop : Nat
  deriving Inhabited, Repr

def keywords : List String :=
  ["ABORT", "ACTION", "ADD", "AFTER", "ALL", "ALTER", "ALWAYS", "ANALYZE", "AND", "AS", "ASC",
   "ATTACH", "AUTOINCREMENT", "BEFORE", "BEGIN", "BETWEEN", "BY", "CASCADE", "CASE", "CAST",
   "CHECK", "COLLATE", "COLUMN", "COMMIT", "CONFLICT", "CONSTRAINT", "CREATE", "CROSS",
   "CURRENT", "CURRENT_DATE", "CURRENT_TIME", "CURRENT_TIMESTAMP", "DATABASE", "DEFAULT",
   "DEFERRED", "DEFERRABLE", "DELETE", "DESC", "DETACH", "DISTINCT", "DO", "DROP", "END",
   "EACH", "ELSE", "ESCAPE", "EXCEPT", "EXCLUSIVE", "EXCLUDE", "EXISTS", "EXPLAIN", "FAIL",
   "FILTER", "FIRST", "FOLLOWING", "FOR", "FOREIGN", "FROM", "FULL", "GENERATED", "GLOB",
   "GROUP", "GROUPS", "HAVING", "IF", "IGNORE", "IMMEDIATE", "IN", "INDEX", "INDEXED",
   "INITIALLY", "INNER", "INSERT", "INSTEAD", "INTERSECT", "INTO", "IS", "ISNULL", "JOIN",
   "KEY", "LAST", "LEFT", "LIKE", "LIMIT", "MATCH", "MATERIALIZED", "NATURAL", "NO", "NOT",
   "NOTHING", "NOTNULL", "NULL", "NULLS", "OF", "OFFSET", "ON", "OR", "ORDER", "OTHERS",
   "OUTER", "OVER", "PARTITION", "PLAN", "PRAGMA", "PRECEDING", "PRIMARY", "QUERY", "RAISE",
   "RANGE", "RECURSIVE", "REFERENCES", "REGEXP", "REINDEX", "RELEASE", "RENAME", "REPLACE",
   "RESTRICT", "RETURNING", "RIGHT", "ROLLBACK", "ROW", "ROWS", "SAVEPOINT", "SELECT", "SET",
   "TABLE", "TEMP", "TEMPORARY", "THEN", "TIES", "TO", "TRANSACTION", "TRIGGER", "UNBOUNDED",
   "UNION", "UNIQUE", "UPDATE", "USING", "VACUUM", "VALUES", "VIEW", "VIRTUAL", "WHEN",
   "WHERE", "WINDOW", "WITH", "WITHOUT"]

/-- The keywords that are read as names where the grammar has no place for them as
keywords. -/
def fallback : List String :=
  ["ABORT", "ACTION", "AFTER", "ANALYZE", "ASC", "ATTACH", "BEFORE", "BEGIN", "BY", "CASCADE",
   "CAST", "COLUMN", "CONFLICT", "DATABASE", "DEFERRED", "DESC", "DETACH", "DO", "EACH", "END",
   "EXCLUSIVE", "EXPLAIN", "FAIL", "FOR", "IGNORE", "IMMEDIATE", "INITIALLY", "INSTEAD",
   "LIKE", "GLOB", "REGEXP", "MATCH", "NO", "PLAN", "QUERY", "KEY", "OF", "OFFSET", "PRAGMA",
   "RAISE", "RECURSIVE", "RELEASE", "REPLACE", "RESTRICT", "ROW", "ROWS", "ROLLBACK",
   "SAVEPOINT", "TEMP", "TEMPORARY", "TRIGGER", "VACUUM", "VIEW", "VIRTUAL", "WITH",
   "WITHOUT", "NULLS", "FIRST", "LAST", "CURRENT", "FOLLOWING", "PARTITION", "PRECEDING",
   "RANGE", "UNBOUNDED", "EXCLUDE", "GROUPS", "OTHERS", "TIES", "GENERATED", "ALWAYS",
   "MATERIALIZED", "REINDEX", "RENAME", "CURRENT_DATE", "CURRENT_TIME", "CURRENT_TIMESTAMP",
   "IF"]

def joinWords : List String := ["CROSS", "FULL", "INNER", "LEFT", "NATURAL", "OUTER", "RIGHT"]

def likeWords : List String := ["LIKE", "GLOB", "REGEXP"]

def clockWords : List String := ["CURRENT_DATE", "CURRENT_TIME", "CURRENT_TIMESTAMP"]

namespace Token

/-- Whether the token is the keyword `w` (or one that stands for it: `TEMPORARY` is
`TEMP`). -/
def isKw (t : Token) (w : String) : Bool :=
  match t.kind with
  | .keyword k => k == w || (w == "TEMP" && k == "TEMPORARY")
  | _ => false

def isAnyKw (t : Token) (ws : List String) : Bool := ws.any t.isKw

/-- Whether the token is the operator `s`. -/
def isOp (t : Token) (s : String) : Bool := t.kind == .op s

def keyword? (t : Token) : Option String :=
  match t.kind with
  | .keyword k => some k
  | _ => none

def fallsBack (t : Token) : Bool := (t.keyword?.map fallback.contains).getD false

/-- Whether the token is a name (`id`): a name token, `INDEXED`, or a keyword read as a
name. -/
def isId (t : Token) : Bool := t.kind == .name || t.isKw "INDEXED" || t.fallsBack

def isIds (t : Token) : Bool := t.kind == .name || t.kind == .string || t.fallsBack

def isIdj (t : Token) : Bool := t.isId || t.isAnyKw joinWords

/-- Whether the token may name a table or a column (`nm`): a name, a join keyword or a
string. -/
def isNm (t : Token) : Bool := t.isIdj || t.kind == .string

def isJoinKw (t : Token) : Bool := t.isAnyKw joinWords

def isLikeKw (t : Token) : Bool := t.isAnyKw likeWords

def isNumber (t : Token) : Bool := t.kind == .integer || t.kind == .float

def isFinish (t : Token) : Bool := t.kind == .finish

end Token

namespace Scan

/-- Whether a character is a blank: tab, line feed, vertical tab, form feed, carriage
return or space. -/
def isSpace (c : Char) : Bool := c == ' ' || (c.toNat ≥ 9 && c.toNat ≤ 13)

/-- Whether a character may start a run of blanks (a vertical tab may only continue one). -/
def startsSpace (c : Char) : Bool := isSpace c && c.toNat != 11

def isDigit (c : Char) : Bool := c.isDigit

def isHex (c : Char) : Bool := c.isDigit || (c ≥ 'a' && c ≤ 'f') || (c ≥ 'A' && c ≤ 'F')

/-- Whether a character may be part of a name: a letter, a digit, `_`, `$`, or a character
beyond ASCII. -/
def isIdChar (c : Char) : Bool :=
  c.isAlphanum || c == '_' || c == '$' || c.toNat ≥ 0x80

/-- Whether a character may be part of a keyword: an ASCII letter or `_`. -/
def isKeywordChar (c : Char) : Bool := c.isAlpha || c == '_'

def upperAscii (s : String) : String := s.map Char.toUpper

def wordKind (w : String) : TokenKind :=
  let u := upperAscii w
  if keywords.contains u then .keyword u else .name

def runLength (text : Array Char) (p : Char → Bool) (i : Nat) : Nat :=
  ((text.extract i text.size).toList.takeWhile p).length

def charAt (text : Array Char) (i : Nat) : Char := text.getD i '\x00'

/-- The end of a number that starts at `i`: its digits with `_` between them, a fraction
and an exponent, and whether `_` was met. -/
def numberEnd (text : Array Char) (i : Nat) : Nat × Bool × Bool := Id.run do
  let at_ := charAt text
  let digits (j : Nat) : Nat × Bool :=
    let n := runLength text (fun c => isDigit c || c == '_') j
    (j + n, ((text.extract j (j + n)).toList.contains '_'))
  if at_ i == '0' && (at_ (i + 1) == 'x' || at_ (i + 1) == 'X') && isHex (at_ (i + 2)) then
    let n := runLength text (fun c => isHex c || c == '_') (i + 2)
    return (i + 2 + n, (text.extract (i + 2) (i + 2 + n)).toList.contains '_', false)
  let (j, q1) := digits i
  let mut j := j
  let mut quoted := q1
  let mut real := false
  if at_ j == '.' then
    real := true
    let (k, q) := digits (j + 1)
    j := k
    quoted := quoted || q
  if (at_ j == 'e' || at_ j == 'E') &&
      (isDigit (at_ (j + 1)) || ((at_ (j + 1) == '+' || at_ (j + 1) == '-') && isDigit (at_ (j + 2)))) then
    real := true
    let (k, q) := digits (j + 2)
    j := k
    quoted := quoted || q
  return (j, quoted, real)

def wordEnd (text : Array Char) (i : Nat) : Nat := i + runLength text isIdChar i

/-- One token at offset `i` (not at the end of the text): its kind and where it stops. -/
def token (text : Array Char) (i : Nat) : TokenKind × Nat :=
  let at_ := charAt text
  let c := at_ i
  let c1 := at_ (i + 1)
  if startsSpace c then (.space, i + 1 + runLength text isSpace (i + 1))
  else if c == '-' then
    if c1 == '-' then (.comment, i + 2 + runLength text (· != '\n') (i + 2))
    else if c1 == '>' then (.op "->", if at_ (i + 2) == '>' then i + 3 else i + 2)
    else (.op "-", i + 1)
  else if c == '/' then
    if c1 != '*' || i + 2 ≥ text.size then (.op "/", i + 1)
    else
      -- the comment ends after the first `*/` past its opening, or at the end of the text
      let body := (text.extract (i + 2) text.size).toList
      let rec close : List Char → Nat → Nat
        | '*' :: '/' :: _, n => n + 2
        | _ :: rest, n => close rest (n + 1)
        | [], n => n
      (.comment, i + 2 + close body 0)
  else if c == '(' || c == ')' || c == ';' || c == '+' || c == '*' || c == '%' || c == ',' ||
      c == '&' || c == '~' then (.op c.toString, i + 1)
  else if c == '=' then (.op "=", if c1 == '=' then i + 2 else i + 1)
  else if c == '<' then
    if c1 == '=' then (.op "<=", i + 2)
    else if c1 == '>' then (.op "<>", i + 2)
    else if c1 == '<' then (.op "<<", i + 2)
    else (.op "<", i + 1)
  else if c == '>' then
    if c1 == '=' then (.op ">=", i + 2)
    else if c1 == '>' then (.op ">>", i + 2)
    else (.op ">", i + 1)
  else if c == '!' then
    if c1 == '=' then (.op "<>", i + 2) else (.illegal, i + 1)
  else if c == '|' then
    if c1 == '|' then (.op "||", i + 2) else (.op "|", i + 1)
  else if c == '\'' || c == '"' || c == '`' then
    let rec quoted : Nat → Nat → Option Nat
      | 0, _ => none
      | fuel + 1, j =>
        if j ≥ text.size then none
        else if at_ j == c then
          if at_ (j + 1) == c then quoted fuel (j + 2) else some (j + 1)
        else quoted fuel (j + 1)
    match quoted (text.size + 1) (i + 1) with
    | some j => (if c == '\'' then .string else .name, j)
    | none => (.illegal, text.size)
  else if c == '.' && !isDigit c1 then (.op ".", i + 1)
  else if isDigit c || c == '.' then
    let (j, quotedDigits, real) := numberEnd text i
    let kind : TokenKind := if quotedDigits then .quotedNumber else if real then .float else .integer
    let tail := runLength text isIdChar j
    (if tail > 0 then .illegal else kind, j + tail)
  else if c == '[' then
    let n := runLength text (· != ']') (i + 1)
    if i + 1 + n < text.size then (.name, i + n + 2) else (.illegal, text.size)
  else if c == '?' then (.variable, i + 1 + runLength text isDigit (i + 1))
  else if c == '$' || c == '@' || c == ':' || c == '#' then Id.run do
    let mut j := i + 1
    let mut n := 0
    let mut kind : TokenKind := .variable
    for _ in [0:text.size + 1] do
      let d := at_ j
      if j ≥ text.size then break
      if isIdChar d then
        n := n + 1
        j := j + 1
      else if d == '(' && n > 0 then
        let k := runLength text (fun e => !isSpace e && e != ')') (j + 1)
        if j + 1 + k < text.size && at_ (j + 1 + k) == ')' then j := j + k + 2
        else
          j := j + 1 + k
          kind := .illegal
        break
      else if d == ':' && at_ (j + 1) == ':' then j := j + 2
      else break
    return (if n == 0 then .illegal else kind, j)
  else if (c == 'x' || c == 'X') && c1 == '\'' then
    let n := runLength text isHex (i + 2)
    let j := i + 2 + n
    if at_ j == '\'' && n % 2 == 0 then (.blob, j + 1)
    else
      let k := j + runLength text (· != '\'') j
      (.illegal, if k < text.size then k + 1 else k)
  else if c == '\uFEFF' then (.space, i + 1)
  else if isKeywordChar c then
    let n := runLength text isKeywordChar i
    if isIdChar (at_ (i + n)) then (.name, wordEnd text (i + n))
    else (wordKind (String.ofList (text.extract i (i + n)).toList), i + n)
  else if c.toNat ≥ 0x80 then (.name, wordEnd text i)
  else (.illegal, i + 1)

/-- The tokens of a text from offset `i` on, ending with the end of the text; blanks and
comments are left out. -/
def tokensFrom (text : Array Char) : Nat → Nat → List Token
  | 0, _ => []
  | fuel + 1, i =>
    if i ≥ text.size then [⟨.finish, "", text.size, text.size⟩]
    else
      let (kind, j) := token text i
      let j := if j ≤ i then i + 1 else j
      let t : Token := ⟨kind, String.ofList (text.extract i j).toList, i, j⟩
      match kind with
      | .space | .comment => tokensFrom text fuel j
      | _ => t :: tokensFrom text fuel j

/-- Whether a token counts as a name when looking ahead past `WINDOW`, `OVER` and
`FILTER`. -/
def namesAhead (t : Token) : Bool :=
  t.kind == .name || t.kind == .string || t.isJoinKw || t.isAnyKw ["WINDOW", "OVER"] ||
    t.fallsBack

/-- Reads `WINDOW`, `OVER` and `FILTER` as keywords only where they begin what they name:
`WINDOW name AS`, `OVER (` or `OVER name` after `)`, and `FILTER (` after `)`; elsewhere
they are names. -/
def settleContextual (ts : Array Token) : Array Token := Id.run do
  let mut out := ts
  for i in [0:ts.size] do
    let t := ts[i]!
    let next := ts.getD (i + 1) default
    let after := ts.getD (i + 2) default
    let prev := if i == 0 then (default : Token) else out[i - 1]!
    let keep :=
      if t.isKw "WINDOW" then namesAhead next && after.isKw "AS"
      else if t.isKw "OVER" then prev.isOp ")" && (next.isOp "(" || namesAhead next)
      else if t.isKw "FILTER" then prev.isOp ")" && next.isOp "("
      else true
    if !keep then out := out.set! i { t with kind := .name }
  return out

end Scan

/-- The tokens of SQL text, ending with the end of the text. The text ends at its first NUL
character. -/
def tokenize (s : String) : Array Token :=
  let text := (s.toList.takeWhile (· != '\x00')).toArray
  Scan.settleContextual (Scan.tokensFrom text (text.size + 2) 0).toArray

end Foreman.Sql
