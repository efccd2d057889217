import Foreman.Json.Value

/-!
# Reading JSON

A reader that keeps, for every value, the exact text it came from: a stored fragment
(`Written.raw`) is the document's bytes, blanks included, and messages quote values as
written. It returns the rest of the text with each value and reports the first character
that cannot continue, naming what it looked for, as a streaming decoder does; a text ending
inside a value is `truncated`, one of blanks only `empty`.
-/

namespace Foreman.Json

/-- A value as it stands in a text. Strings, arrays and objects carry the text they span;
the text of a literal or a number is the value's own spelling. -/
inductive Written where
  | null
  | bool (b : Bool)
  | num (lit : String)
  | str (text : Thunk String) (s : String)
  | arr (text : Thunk String) (items : List Written)
  | obj (text : Thunk String) (members : List (String × Written))

namespace Written

instance : Inhabited Written := ⟨.null⟩

/-- The text the value was read from. -/
def text : Written → String
  | .null => "null"
  | .bool true => "true"
  | .bool false => "false"
  | .num lit => lit
  | .str t _ => t.get
  | .arr t _ => t.get
  | .obj t _ => t.get

/-- The name of the kind of value, as messages about mismatched values use it. -/
def kind : Written → String
  | .null => "null"
  | .bool _ => "bool"
  | .num _ => "number"
  | .str _ _ => "string"
  | .arr _ _ => "array"
  | .obj _ _ => "object"

/-- Whether the value is an array or an object, whose end a reader sees without looking
further. -/
def isContainer : Written → Bool
  | .arr _ _ => true
  | .obj _ _ => true
  | _ => false

mutual
def toJson : Written → Json
  | .null => .null
  | .bool b => .bool b
  | .num lit => .num lit
  | .str _ s => .str s
  | .arr _ xs => .arr (itemsToJson xs)
  | .obj _ ms => .obj (membersToJson ms)

def itemsToJson : List Written → List Json
  | [] => []
  | x :: xs => toJson x :: itemsToJson xs

def membersToJson : List (String × Written) → List (String × Json)
  | [] => []
  | (k, v) :: ms => (k, toJson v) :: membersToJson ms
end

end Written

inductive ReadError where
  /-- A character that cannot continue the text, and what the reader was looking for. -/
  | invalid (c : Char) (context : String)
  /-- The text ended inside a value. -/
  | truncated
  /-- The text holds no value at all. -/
  | empty

def leadByte (c : Char) : Nat :=
  let n := c.toNat
  if n < 0x80 then n
  else if n < 0x800 then 0xC0 + n / 64
  else if n < 0x10000 then 0xE0 + n / 4096
  else 0xF0 + n / 262144

/-- A byte between single quotes, with the escapes of quoted text; a byte above 127 is shown
as the Latin-1 character of that number. -/
def quoteByte (b : Nat) : String :=
  if b == 39 then "'\\''"
  else if b == 34 then "'\"'"
  else if b == 92 then "'\\\\'"
  else if b == 7 then "'\\a'"
  else if b == 8 then "'\\b'"
  else if b == 12 then "'\\f'"
  else if b == 10 then "'\\n'"
  else if b == 13 then "'\\r'"
  else if b == 9 then "'\\t'"
  else if b == 11 then "'\\v'"
  else if b < 0x20 || b == 0x7f then
    "'\\x" ++ String.ofList [hexLower (b / 16), hexLower (b % 16)] ++ "'"
  else if b ≥ 0x80 && b < 0xa0 then
    "'\\u00" ++ String.ofList [hexLower (b / 16), hexLower (b % 16)] ++ "'"
  else if b == 0xa0 || b == 0xad then
    "'\\u00" ++ String.ofList [hexLower (b / 16), hexLower (b % 16)] ++ "'"
  else "'" ++ (Char.ofNat b).toString ++ "'"
where
  hexLower (n : Nat) : Char := if n < 10 then Char.ofNat (48 + n) else Char.ofNat (87 + n)

def ReadError.message : ReadError → String
  | .invalid c context => "invalid character " ++ quoteByte (leadByte c) ++ " " ++ context
  | .truncated => "unexpected EOF"
  | .empty => "EOF"

/-- The blanks of JSON: space, tab, line feed and carriage return. -/
def isBlank (c : Char) : Bool := c == ' ' || c == '\t' || c == '\n' || c == '\r'

def skipBlank : List Char → List Char
  | [] => []
  | c :: cs => if isBlank c then skipBlank cs else c :: cs

def hexValue? (c : Char) : Option Nat :=
  if c.isDigit then some (c.toNat - 48)
  else if 'a' ≤ c && c ≤ 'f' then some (c.toNat - 87)
  else if 'A' ≤ c && c ≤ 'F' then some (c.toNat - 55)
  else none

/-- A piece of a string's content: a character, or a UTF-16 unit written as `\uXXXX`. -/
inductive Piece where
  | char (c : Char)
  | unit (n : Nat)

/-- The character of a UTF-16 unit standing alone: a surrogate alone is U+FFFD. -/
def unitChar (u : Nat) : Char :=
  if 0xD800 ≤ u && u < 0xE000 then '\uFFFD' else Char.ofNat u

/-- Joins escaped UTF-16 units into characters: a high surrogate followed by a low one is
one character, and a surrogate without its partner is U+FFFD. -/
def joinPieces : List Piece → List Char
  | [] => []
  | .char c :: rest => c :: joinPieces rest
  | .unit u :: .unit lo :: rest =>
    if 0xD800 ≤ u && u < 0xDC00 && 0xDC00 ≤ lo && lo < 0xE000 then
      Char.ofNat (0x10000 + (u - 0xD800) * 1024 + (lo - 0xDC00)) :: joinPieces rest
    else unitChar u :: joinPieces (.unit lo :: rest)
  | .unit u :: rest => unitChar u :: joinPieces rest
termination_by ps => ps.length

def shortEscape? (c : Char) : Option Char :=
  match c with
  | '"' => some '"'
  | '\\' => some '\\'
  | '/' => some '/'
  | 'b' => some (Char.ofNat 8)
  | 'f' => some (Char.ofNat 12)
  | 'n' => some '\n'
  | 'r' => some '\r'
  | 't' => some '\t'
  | _ => none

/-- The content of a string after its opening quote, up to and without the closing quote. -/
def stringBody : List Char → Except ReadError ((List Piece) × List Char)
  | [] => .error .truncated
  | '"' :: r => .ok ([], r)
  | '\\' :: r =>
    match r with
    | [] => .error .truncated
    | 'u' :: r1 => unit4 r1
    | e :: r1 =>
      match shortEscape? e with
      | some c => (stringBody r1).map fun (ps, rest) => (.char c :: ps, rest)
      | none => .error (.invalid e "in string escape code")
  | c :: r =>
    if c.toNat < 0x20 then .error (.invalid c "in string literal")
    else (stringBody r).map fun (ps, rest) => (.char c :: ps, rest)
where
  /-- Four hexadecimal digits of a `\u` escape, then the rest of the string. -/
  unit4 : List Char → Except ReadError ((List Piece) × List Char)
    | a :: b :: c :: d :: r =>
      match hexValue? a, hexValue? b, hexValue? c, hexValue? d with
      | some x, some y, some z, some w =>
        (stringBody r).map fun (ps, rest) => (.unit (((x * 16 + y) * 16 + z) * 16 + w) :: ps, rest)
      | none, _, _, _ => .error (.invalid a "in \\u hexadecimal character escape")
      | _, none, _, _ => .error (.invalid b "in \\u hexadecimal character escape")
      | _, _, none, _ => .error (.invalid c "in \\u hexadecimal character escape")
      | _, _, _, none => .error (.invalid d "in \\u hexadecimal character escape")
    | cs => match cs.find? (fun c => (hexValue? c).isNone) with
      | some c => .error (.invalid c "in \\u hexadecimal character escape")
      | none => .error .truncated

/-- A string after its opening quote: its decoded text and the rest. -/
def readString (r : List Char) : Except ReadError (String × List Char) :=
  (stringBody r).map fun (ps, rest) => (String.ofList (joinPieces ps), rest)

/-- A run of at least one digit; `context` names the place in a number for the message. -/
def digitRun (context : String) (cs : List Char) : Except ReadError ((List Char) × List Char) :=
  match cs with
  | [] => .error .truncated
  | c :: _ =>
    if c.isDigit then .ok (cs.takeWhile Char.isDigit, cs.dropWhile Char.isDigit)
    else .error (.invalid c context)

def exponentPart (cs : List Char) : Except ReadError ((List Char) × List Char) :=
  match cs with
  | e :: r =>
    if e == 'e' || e == 'E' then
      match r with
      | s :: r' =>
        if s == '+' || s == '-' then
          (digitRun "in exponent of numeric literal" r').map fun (ds, rest) => (e :: s :: ds, rest)
        else (digitRun "in exponent of numeric literal" r).map fun (ds, rest) => (e :: ds, rest)
      | [] => .error .truncated
    else .ok ([], cs)
  | [] => .ok ([], [])

def fractionPart (cs : List Char) : Except ReadError ((List Char) × List Char) :=
  match cs with
  | '.' :: r => do
    let (ds, rest) ← digitRun "after decimal point in numeric literal" r
    let (ex, rest') ← exponentPart rest
    pure ('.' :: ds ++ ex, rest')
  | _ => exponentPart cs

/-- A number without its sign: `0` or a digit run not starting with `0`, then fraction and
exponent. -/
def unsignedNumber (cs : List Char) : Except ReadError ((List Char) × List Char) :=
  match cs with
  | '0' :: r => (fractionPart r).map fun (t, rest) => ('0' :: t, rest)
  | _ => do
    let (ds, rest) ← digitRun "in numeric literal" cs
    let (t, rest') ← fractionPart rest
    pure (ds ++ t, rest')

def readNumber (cs : List Char) : Except ReadError (String × List Char) :=
  match cs with
  | '-' :: r => (unsignedNumber r).map fun (t, rest) => (String.ofList ('-' :: t), rest)
  | _ => (unsignedNumber cs).map fun (t, rest) => (String.ofList t, rest)

/-- The letters of a literal after its first one; `word` names the literal. -/
def literalRest (word : String) : List Char → List Char → Except ReadError (Unit × List Char)
  | [], rest => .ok ((), rest)
  | _ :: _, [] => .error .truncated
  | w :: ws, c :: rest =>
    if c == w then literalRest word ws rest
    else .error (.invalid c ("in literal " ++ word ++ " (expecting " ++ quoteByte w.toNat ++ ")"))

/-- The text consumed between a start and the rest after it, taken when it is asked for. -/
def consumed (start rest : List Char) : Thunk String :=
  Thunk.mk fun _ => String.ofList (start.take (start.length - rest.length))

def maxDepth : Nat := 10000

mutual
/-- A value at the start of the text, after blanks, inside `depth` arrays and objects;
`fuel` bounds the nesting. -/
def readValue : Nat → Nat → List Char → Except ReadError (Written × List Char)
  | 0, _, _ => .error .truncated
  | fuel + 1, depth, cs =>
    match skipBlank cs with
    | [] => .error .truncated
    | '{' :: r =>
      if depth ≥ maxDepth then .error (.invalid '{' "exceeded max depth") else
      match skipBlank r with
      | [] => .error .truncated
      | '}' :: r' => .ok (.obj (consumed (skipBlank cs) r') [], r')
      | '"' :: r' => (readMembers fuel (depth + 1) [] r').map fun (ms, rest) =>
          (.obj (consumed (skipBlank cs) rest) ms, rest)
      | c :: _ => .error (.invalid c "looking for beginning of object key string")
    | '[' :: r =>
      if depth ≥ maxDepth then .error (.invalid '[' "exceeded max depth") else
      match skipBlank r with
      | [] => .error .truncated
      | ']' :: r' => .ok (.arr (consumed (skipBlank cs) r') [], r')
      | _ => (readItems fuel (depth + 1) [] r).map fun (xs, rest) =>
          (.arr (consumed (skipBlank cs) rest) xs, rest)
    | '"' :: r => (readString r).map fun (s, rest) => (.str (consumed (skipBlank cs) rest) s, rest)
    | 't' :: r => (literalRest "true" ['r', 'u', 'e'] r).map fun (_, rest) => (.bool true, rest)
    | 'f' :: r => (literalRest "false" ['a', 'l', 's', 'e'] r).map fun (_, rest) => (.bool false, rest)
    | 'n' :: r => (literalRest "null" ['u', 'l', 'l'] r).map fun (_, rest) => (.null, rest)
    | c :: r =>
      if c == '-' || c.isDigit then (readNumber (c :: r)).map fun (lit, rest) => (.num lit, rest)
      else .error (.invalid c "looking for beginning of value")

/-- Object members after the opening quote of a key; `acc` holds the members before, the last first. -/
def readMembers : Nat → Nat → List (String × Written) → List Char →
    Except ReadError ((List (String × Written)) × List Char)
  | 0, _, _, _ => .error .truncated
  | fuel + 1, depth, acc, r => do
    let (k, r1) ← readString r
    match skipBlank r1 with
    | [] => .error .truncated
    | ':' :: r2 => do
      let (v, r3) ← readValue fuel depth r2
      match skipBlank r3 with
      | [] => .error .truncated
      | ',' :: r4 =>
        match skipBlank r4 with
        | [] => .error .truncated
        | '"' :: r5 => readMembers fuel depth ((k, v) :: acc) r5
        | c :: _ => .error (.invalid c "looking for beginning of object key string")
      | '}' :: r4 => .ok (((k, v) :: acc).reverse, r4)
      | c :: _ => .error (.invalid c "after object key:value pair")
    | c :: _ => .error (.invalid c "after object key")

/-- Array items from the first one on; `acc` holds the items before, the last first. -/
def readItems : Nat → Nat → List Written → List Char → Except ReadError ((List Written) × List Char)
  | 0, _, _, _ => .error .truncated
  | fuel + 1, depth, acc, r => do
    let (v, r1) ← readValue fuel depth r
    match skipBlank r1 with
    | [] => .error .truncated
    | ',' :: r2 => readItems fuel depth (v :: acc) r2
    | ']' :: r2 => .ok ((v :: acc).reverse, r2)
    | c :: _ => .error (.invalid c "after array element")
end

/-- The first value of a stream of values and the text after it. Blanks alone are `empty`.
A number, string or literal must be followed by a blank or the end; an array or object ends
at its closing bracket. -/
def readFirst (cs : List Char) : Except ReadError (Written × List Char) :=
  match skipBlank cs with
  | [] => .error .empty
  | start => do
    let (w, rest) ← readValue (2 * start.length + 2) 0 start
    if w.isContainer then pure (w, rest)
    else
      match rest with
      | [] => pure (w, rest)
      | c :: _ => if isBlank c then pure (w, rest) else .error (.invalid c "after top-level value")

/-- A text that is exactly one value, with blanks around it allowed. -/
def readWhole (s : String) : Except ReadError Written := do
  let (w, rest) ← readFirst s.toList
  match skipBlank rest with
  | [] => pure w
  | c :: _ => .error (.invalid c "after top-level value")

def parse (s : String) : Except ReadError Json :=
  (readWhole s).map Written.toJson

end Foreman.Json
