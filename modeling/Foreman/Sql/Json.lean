import Foreman.Sql.JsonScan

/-!
# JSON documents

The JSON functions read a document into a tree of elements, find elements by path, edit the
tree and write it back as text. JSON5 is accepted; numbers and strings keep their text, and
containers nest at most a thousand deep. A path is `$` then `.name`, `."name"`, `[N]`, `[#]`
or `[#-N]` steps, read only as far as the document leads. `insert` and `set` make what is
missing with the containers needed. `jsonb` holds a document as bytes, each element a header
(kind in the low four bits, payload size in the high four and the bytes after) and its payload.
-/

namespace Foreman.Sql

/-- How the text of a JSON string is held: needing no change to be JSON (`plain`), with
JSON escapes (`escaped`), with JSON5 escapes or characters JSON does not allow (`loose`),
or as the characters themselves, escaped only when written (`raw`). -/
inductive JsonText where
  | plain | escaped | loose | raw
  deriving Inhabited, BEq

/-- How a JSON number is written: a decimal integer, a hexadecimal integer, a real, or a
real whose point has no digit on one side. -/
inductive JsonNumber where
  | int | hex | real | looseReal
  deriving Inhabited, BEq

/-- An element of a JSON document. A number or a string keeps the text it was written with
(without its quotes); an object keeps its members in order, each a string and a value. -/
inductive JsonNode where
  | null
  | bool (b : Bool)
  | number (kind : JsonNumber) (text : String)
  | text (kind : JsonText) (text : String)
  | array (items : List JsonNode)
  | object (members : List (JsonNode × JsonNode))
  deriving Inhabited

def JsonNode.isText : JsonNode → Bool
  | .text _ _ => true
  | _ => false

namespace Json

/-! ## Characters -/

def isSpace (c : Char) : Bool := c == ' ' || c == '\t' || c == '\n' || c == '\r'

/-- The blanks JSON5 adds to JSON's: vertical tab, form feed and the Unicode spaces. -/
def isExtraSpace (c : Char) : Bool :=
  c == '\x0b' || c == '\x0c' || c == '\u00a0' || c == '\u1680' ||
    ('\u2000' ≤ c && c ≤ '\u200a') || c == '\u2028' || c == '\u2029' || c == '\u202f' ||
    c == '\u205f' || c == '\u3000' || c == '\ufeff'

def isAlnum (c : Char) : Bool := (c.toNat < 128) && (c.isAlpha || c.isDigit)

def isHexDigit (c : Char) : Bool :=
  c.isDigit || ('a' ≤ c && c ≤ 'f') || ('A' ≤ c && c ≤ 'F')

def hexValue (c : Char) : Nat :=
  if c.isDigit then c.toNat - 48
  else if 'a' ≤ c && c ≤ 'f' then c.toNat - 87
  else c.toNat - 55

def hexDigitsValue (ds : List Char) : Nat := ds.foldl (fun a c => a * 16 + hexValue c) 0

def startsHex (n : Nat) (cs : List Char) : Bool :=
  cs.length ≥ n && (cs.take n).all isHexDigit

/-- Whether a character may start a member name without quotes: an ASCII letter, `_`,
`$` or any character outside ASCII. -/
def isNameStart (c : Char) : Bool :=
  (c.toNat < 128 && c.isAlpha) || c == '_' || c == '$' || c.toNat ≥ 128

/-- Whether a character may continue a member name without quotes: a start or a digit,
but not a Unicode space. -/
def isNamePart (c : Char) : Bool := (isNameStart c || c.isDigit) && !isExtraSpace c

def hexDigit (n : Nat) : Char := if n < 10 then Char.ofNat (48 + n) else Char.ofNat (87 + n)

/-- How a control character is written in a JSON string: the short escapes where JSON has
them, else `\u00XX`. -/
def controlEscape (c : Char) : List Char :=
  if c == '\x08' then ['\\', 'b']
  else if c == '\x0c' then ['\\', 'f']
  else if c == '\n' then ['\\', 'n']
  else if c == '\r' then ['\\', 'r']
  else if c == '\t' then ['\\', 't']
  else ['\\', 'u', '0', '0', hexDigit (c.toNat / 16), hexDigit (c.toNat % 16)]

/-! ## Blanks and comments -/

/-- The text after the `*/` that closes a block comment, given the text after its `/*`.
The `*` of the close may not be the first character after the open. -/
def closeComment (body : List Char) : Option (List Char) :=
  match body with
  | [] => none
  | c :: rest => go c rest
where
  /-- Looks for a `/` just after a `*`. -/
  go (prev : Char) : List Char → Option (List Char)
    | [] => none
    | d :: more => if d == '/' && prev == '*' then some more else go d more

/-- The text after the end of a line comment: after the first line break, or nothing. -/
def lineEnd : List Char → List Char
  | [] => []
  | c :: rest =>
    if c == '\n' || c == '\r' || c == '\u2028' || c == '\u2029' then rest else lineEnd rest

/-- Skips the blanks and comments JSON5 allows. A block comment that is not closed is no
blank. -/
def skipLoose : Nat → List Char → List Char
  | 0, cs => cs
  | fuel + 1, cs =>
    match cs with
    | [] => []
    | c :: rest =>
      if isSpace c || isExtraSpace c then skipLoose fuel rest
      else if c == '/' then
        match rest with
        | '*' :: body =>
          match closeComment body with
          | some after => skipLoose fuel after
          | none => cs
        | '/' :: body => skipLoose fuel (lineEnd body)
        | _ => cs
      else cs

/-! ## Reading text -/

/-- What reading at a place in a document finds: an element and the text after it; one of
the marks `}`, `]`, `,` and `:` and the text after it; the end of the text; or a mistake. -/
inductive Reading where
  | node (n : JsonNode) (rest : List Char)
  | mark (c : Char) (rest : List Char)
  | finished
  | bad

/-- Reads the rest of a string after its opening quote `delim`, noting how its text is
held: a JSON escape makes plain text escaped; a JSON5 escape, a control character or a
double quote inside single quotes makes it loose. Any other escape is a mistake. -/
def readString (delim : Char) : Nat → JsonText → List Char → List Char → Option (JsonNode × List Char)
  | 0, _, _, _ => none
  | _ + 1, _, _, [] => none
  | fuel + 1, kind, acc, c :: rest =>
    if c == delim then some (.text kind (String.ofList acc.reverse), rest)
    else if c == '\\' then
      match rest with
      | [] => none
      | d :: more =>
        if d == '"' || d == '\\' || d == '/' || d == 'b' || d == 'f' || d == 'n' || d == 'r' ||
            d == 't' || (d == 'u' && startsHex 4 more) then
          readString delim fuel (if kind == .plain then .escaped else kind) (d :: c :: acc) more
        else if d == '\'' || d == '0' || d == 'v' || d == '\n' || d == '\u2028' ||
            d == '\u2029' || (d == 'x' && startsHex 2 more) then
          readString delim fuel .loose (d :: c :: acc) more
        else if d == '\r' then
          match more with
          | '\n' :: after => readString delim fuel .loose ('\n' :: d :: c :: acc) after
          | _ => readString delim fuel .loose (d :: c :: acc) more
        else none
    else if c.toNat < 0x20 then
      if c.toNat == 0 then none else readString delim fuel .loose (c :: acc) rest
    else if c == '"' then readString delim fuel .loose (c :: acc) rest
    else readString delim fuel kind (c :: acc) rest

/-- Reads a number's digits after its first character: digits, at most one point and one
exponent, which needs a digit. A point just before the exponent or at the end needs a digit
before it and makes the number JSON5. Returns whether it is a real, whether JSON5, the
characters read (last first) and the text after. -/
def scanNumber : Nat → Bool → Bool → Bool → List Char → List Char →
    Option (Bool × Bool × List Char × List Char)
  | 0, _, _, _, _, _ => none
  | fuel + 1, real, loose, seenE, acc, cs =>
    let finish : Option (Bool × Bool × List Char × List Char) :=
      match acc with
      | '.' :: d :: _ => if d.isDigit then some (real, true, acc, cs) else none
      | c :: _ => if c.isDigit then some (real, loose, acc, cs) else none
      | [] => none
    match cs with
    | [] => finish
    | c :: rest =>
      if c.isDigit then scanNumber fuel real loose seenE (c :: acc) rest
      else if c == '.' then
        if real then none else scanNumber fuel true loose seenE (c :: acc) rest
      else if c == 'e' || c == 'E' then
        let pointBefore := acc.head? == some '.'
        let fine := match acc with
          | '.' :: d :: _ => d.isDigit
          | d :: _ => d.isDigit
          | [] => false
        if !fine || seenE then none
        else
          let (signed, after) := match rest with
            | s :: more => if s == '+' || s == '-' then ([s], more) else ([], rest)
            | [] => ([], rest)
          match after with
          | d :: _ =>
            if d.isDigit then
              scanNumber fuel true (loose || pointBefore) true (signed.reverse ++ c :: acc) after
            else none
          | [] => none
      else finish

/-- Reads a number: decimal with an optional sign, hexadecimal after `0x`, or an infinity
after a sign. A leading zero may not be followed by a digit. The `+` of a number is not
kept. -/
def readNumber (cs : List Char) : Option (JsonNode × List Char) :=
  let (sign, body) := match cs with
    | '-' :: r => (some '-', r)
    | '+' :: r => (some '+', r)
    | _ => (none, cs)
  let keepSign : List Char := if sign == some '-' then ['-'] else []
  let hex := fun (digits : List Char) =>
    let ds := digits.takeWhile isHexDigit
    some (JsonNode.number .hex (String.ofList (keepSign ++ body.take 2 ++ ds)),
      digits.drop ds.length)
  let decimal := fun (real loose : Bool) (acc rest : List Char) =>
    match scanNumber (rest.length + 1) real loose false acc rest with
    | some (real, loose, read, after) =>
      let text := (read.reverse).dropWhile (· == '+')
      let kind := if real then (if loose then JsonNumber.looseReal else .real) else .int
      some (JsonNode.number kind (String.ofList text), after)
    | none => none
  match sign, body with
  | none, '.' :: r =>
    match r with
    | d :: _ => if d.isDigit then decimal true true ['.'] r else none
    | [] => none
  | none, '0' :: x :: r =>
    if (x == 'x' || x == 'X') && startsHex 1 r then hex r
    else if x.isDigit then none
    else decimal false false ['0'] (x :: r)
  | none, c :: r => if c.isDigit then decimal false false [c] r else none
  | none, [] => none
  | some s, b =>
    match b with
    | [] => none
    | c :: r =>
      if !c.isDigit then
        if (c == 'i' || c == 'I') && ((b.take 3).map Char.toLower) == ['i', 'n', 'f'] then
          let long := ((b.drop 3).take 5).map Char.toLower == "inity".toList
          some (.number .real (if s == '-' then "-9e999" else "9e999"), b.drop (if long then 8 else 3))
        else if c == '.' then decimal false true [s] b
        else none
      else if c == '0' then
        match r with
        | x :: more =>
          if x.isDigit then none
          else if (x == 'x' || x == 'X') && startsHex 1 more then hex more
          else decimal false false [c, s] r
        | [] => decimal false false [c, s] r
      else decimal false false [c, s] r

/-- Whether a text starts with a word not followed by an ASCII letter or digit. -/
def startsWord (word : String) (cs : List Char) : Bool :=
  cs.take word.length == word.toList &&
    match cs.drop word.length with
    | c :: _ => !isAlnum c
    | [] => true

/-- The names JSON5 and the engine take for infinity and for a number that is not one, in
any case, not followed by a letter or digit: `inf`, `infinity`, `NaN`, `QNaN`, `SNaN`. -/
def specialName (cs : List Char) : Option (JsonNode × List Char) :=
  let names : List (String × JsonNode) := [("inf", .number .real "9e999"),
    ("infinity", .number .real "9e999"), ("nan", .null), ("qnan", .null), ("snan", .null)]
  names.findSome? fun (w, n) =>
    if (cs.take w.length).map Char.toLower == w.toList then
      match cs.drop w.length with
      | c :: _ => if isAlnum c then none else some (n, cs.drop w.length)
      | [] => some (n, [])
    else none

/-- Reads a member name without quotes: name characters and `\uXXXX` escapes. -/
def bareName (cs : List Char) : Option (JsonNode × List Char) :=
  let rec go : Nat → JsonText → List Char → List Char → JsonText × List Char × List Char
    | 0, kind, acc, rest => (kind, acc, rest)
    | fuel + 1, kind, acc, rest =>
      match rest with
      | '\\' :: 'u' :: more =>
        if startsHex 4 more then go fuel .escaped ('u' :: '\\' :: acc) more else (kind, acc, rest)
      | c :: more => if isNamePart c then go fuel kind (c :: acc) more else (kind, acc, rest)
      | [] => (kind, acc, rest)
  let start := match cs with
    | '\\' :: 'u' :: more => if startsHex 4 more then some (JsonText.escaped, ['u', '\\'], more) else none
    | c :: more => if isNameStart c then some (JsonText.plain, [c], more) else none
    | [] => none
  start.map fun (kind, acc, more) =>
    let (kind, acc, rest) := go (more.length + 1) kind acc more
    (.text kind (String.ofList acc.reverse), rest)

mutual

/-- Reads an element, skipping blanks before it. `depth` counts the containers it is in. -/
def readValue : Nat → Nat → List Char → Reading
  | 0, _, _ => .bad
  | fuel + 1, depth, cs =>
    match cs with
    | [] => .finished
    | c :: rest =>
      if c == '{' then (if depth ≥ 1000 then .bad else readObject fuel (depth + 1) rest [])
      else if c == '[' then (if depth ≥ 1000 then .bad else readArray fuel (depth + 1) rest [])
      else if c == '"' || c == '\'' then
        match readString c (rest.length + 1) .plain [] rest with
        | some (n, r) => .node n r
        | none => .bad
      else if c == '}' || c == ']' || c == ',' || c == ':' then .mark c rest
      else if isSpace c then readValue fuel depth (rest.dropWhile isSpace)
      else if c == '+' || c == '-' || c == '.' || c.isDigit then
        match readNumber cs with
        | some (n, r) => .node n r
        | none => .bad
      else if c == 't' then (if startsWord "true" cs then .node (.bool true) (cs.drop 4) else .bad)
      else if c == 'f' then (if startsWord "false" cs then .node (.bool false) (cs.drop 5) else .bad)
      else if c == 'n' && startsWord "null" cs then .node .null (cs.drop 4)
      else
        let after := skipLoose (cs.length + 1) cs
        if after.length < cs.length then readValue fuel depth after
        else match specialName cs with
          | some (n, r) => .node n r
          | none => .bad

/-- Reads the members of an object after its `{` or after a comma: a name (a string, or a
name without quotes), a colon and a value, then a comma or the close. The close may come
where a name would. -/
def readObject : Nat → Nat → List Char → List (JsonNode × JsonNode) → Reading
  | 0, _, _, _ => .bad
  | fuel + 1, depth, cs, acc =>
    let key : Option (JsonNode × List Char) ⊕ Reading :=
      match readValue fuel depth cs with
      | .mark '}' rest => .inr (.node (.object acc.reverse) rest)
      | .node k rest => if k.isText then .inl (some (k, rest)) else .inl none
      | _ => .inl (bareName (skipLoose (cs.length + 1) cs))
    match key with
    | .inr done => done
    | .inl none => .bad
    | .inl (some (k, rest)) =>
      let value := fun (r : List Char) =>
        match readValue fuel depth r with
        | .node v after =>
          let acc := (k, v) :: acc
          let close := fun (r : List Char) =>
            match r with
            | ',' :: more => readObject fuel depth more acc
            | '}' :: more => .node (.object acc.reverse) more
            | _ =>
              match readValue fuel depth r with
              | .mark ',' more => readObject fuel depth more acc
              | .mark '}' more => .node (.object acc.reverse) more
              | _ => .bad
          match after with
          | c :: _ => if isSpace c then close (after.dropWhile isSpace) else close after
          | [] => close after
        | _ => .bad
      let colon := fun (r : List Char) =>
        match r with
        | ':' :: more => value more
        | _ =>
          match readValue fuel depth r with
          | .mark ':' more => value more
          | _ => .bad
      match rest with
      | c :: _ => if isSpace c then colon (rest.dropWhile isSpace) else colon rest
      | [] => colon rest

/-- Reads the items of an array after its `[` or after a comma: a value, then a comma or
the close. The close may come where a value would. -/
def readArray : Nat → Nat → List Char → List JsonNode → Reading
  | 0, _, _, _ => .bad
  | fuel + 1, depth, cs, acc =>
    match readValue fuel depth cs with
    | .mark ']' rest => .node (.array acc.reverse) rest
    | .node v after =>
      let acc := v :: acc
      let close := fun (r : List Char) =>
        match r with
        | ',' :: more => readArray fuel depth more acc
        | ']' :: more => .node (.array acc.reverse) more
        | _ =>
          match readValue fuel depth r with
          | .mark ',' more => readArray fuel depth more acc
          | .mark ']' more => .node (.array acc.reverse) more
          | _ => .bad
      match after with
      | c :: _ => if isSpace c then close (after.dropWhile isSpace) else close after
      | [] => close after
    | _ => .bad

end

/-- Reads a JSON5 document: one element, with only blanks and comments around it. The
text ends at its first NUL character. -/
def parse (s : String) : Option JsonNode :=
  let cs := s.toList.takeWhile (· != '\x00')
  if cs.isEmpty then none
  else match readValue (4 * cs.length + 10) 0 cs with
    | .node n rest =>
      let rest := rest.dropWhile isSpace
      if (skipLoose (rest.length + 1) rest).isEmpty then some n else none
    | _ => none

/-! ## Strict JSON

`json_valid` asks by default whether a text is JSON as RFC 8259 has it, without the
JSON5 forms. -/

def strictString : Nat → List Char → Option (List Char)
  | 0, _ => none
  | _ + 1, [] => none
  | fuel + 1, c :: rest =>
    if c == '"' then some rest
    else if c.toNat < 0x20 then none
    else if c == '\\' then
      match rest with
      | d :: more =>
        if d == '"' || d == '\\' || d == '/' || d == 'b' || d == 'f' || d == 'n' || d == 'r' ||
            d == 't' then strictString fuel more
        else if d == 'u' && startsHex 4 more then strictString fuel (more.drop 4)
        else none
      | [] => none
    else strictString fuel rest

/-- Reads a strict JSON number: an optional minus, an integer part without leading zeros,
an optional fraction and an optional exponent. -/
def strictNumber (cs : List Char) : Option (List Char) :=
  let cs := match cs with
    | '-' :: r => r
    | _ => cs
  let whole := cs.takeWhile Char.isDigit
  if whole.isEmpty || (whole.length > 1 && whole.head? == some '0') then none
  else
    let r := cs.drop whole.length
    let r := match r with
      | '.' :: more =>
        let f := more.takeWhile Char.isDigit
        if f.isEmpty then none else some (more.drop f.length)
      | _ => some r
    r.bind fun r =>
      match r with
      | e :: more =>
        if e == 'e' || e == 'E' then
          let more := match more with
            | s :: m => if s == '+' || s == '-' then m else more
            | [] => more
          let ds := more.takeWhile Char.isDigit
          if ds.isEmpty then none else some (more.drop ds.length)
        else some r
      | [] => some r

mutual

/-- Reads one strict JSON value after blanks, and the blanks after it. -/
def strictValue : Nat → Nat → List Char → Option (List Char)
  | 0, _, _ => none
  | fuel + 1, depth, cs =>
    let cs := cs.dropWhile isSpace
    let after := match cs with
      | '{' :: rest => if depth ≥ 1000 then none else strictMembers fuel (depth + 1) true rest
      | '[' :: rest => if depth ≥ 1000 then none else strictItems fuel (depth + 1) true rest
      | '"' :: rest => strictString (rest.length + 1) rest
      | c :: _ =>
        if c == '-' || c.isDigit then strictNumber cs
        else if startsWord "true" cs then some (cs.drop 4)
        else if startsWord "false" cs then some (cs.drop 5)
        else if startsWord "null" cs then some (cs.drop 4)
        else none
      | [] => none
    after.map (·.dropWhile isSpace)

/-- Reads the members of a strict JSON object after `{` or a comma. -/
def strictMembers : Nat → Nat → Bool → List Char → Option (List Char)
  | 0, _, _, _ => none
  | fuel + 1, depth, first, cs =>
    match cs.dropWhile isSpace with
    | '}' :: rest => if first then some rest else none
    | '"' :: rest =>
      match strictString (rest.length + 1) rest with
      | some r =>
        match r.dropWhile isSpace with
        | ':' :: r =>
          match strictValue fuel depth r with
          | some (',' :: more) => strictMembers fuel depth false more
          | some ('}' :: more) => some more
          | _ => none
        | _ => none
      | none => none
    | _ => none

/-- Reads the items of a strict JSON array after `[` or a comma. -/
def strictItems : Nat → Nat → Bool → List Char → Option (List Char)
  | 0, _, _, _ => none
  | fuel + 1, depth, first, cs =>
    match cs.dropWhile isSpace with
    | ']' :: rest => if first then some rest else none
    | r =>
      match strictValue fuel depth r with
      | some (',' :: more) => strictItems fuel depth false more
      | some (']' :: more) => some more
      | _ => none

end

def isStrict (s : String) : Bool :=
  let cs := s.toList.takeWhile (· != '\x00')
  strictValue (4 * cs.length + 10) 0 cs == some []

/-! ## Writing text -/

/-- A string's characters written in a JSON string: quotes, backslashes and control
characters escaped. -/
def escapeRaw (cs : List Char) : List Char :=
  cs.flatMap fun c =>
    if c == '"' then ['\\', '"']
    else if c == '\\' then ['\\', '\\']
    else if c.toNat < 0x20 then controlEscape c
    else [c]

/-- JSON5 string text written as JSON: a double quote escaped, control characters escaped,
`\'` as a quote, `\v`, `\0` and `\xHH` as `\u` escapes, and line continuations dropped. -/
def looseToJson : Nat → List Char → List Char
  | 0, _ => []
  | _ + 1, [] => []
  | fuel + 1, c :: rest =>
    if c == '"' then '\\' :: '"' :: looseToJson fuel rest
    else if c.toNat < 0x20 then controlEscape c ++ looseToJson fuel rest
    else if c == '\\' then
      match rest with
      | d :: more =>
        if d == '\'' then '\'' :: looseToJson fuel more
        else if d == 'v' then "\\u000b".toList ++ looseToJson fuel more
        else if d == '0' then "\\u0000".toList ++ looseToJson fuel more
        else if d == 'x' then
          match more with
          | a :: b :: after => "\\u00".toList ++ [a, b] ++ looseToJson fuel after
          | _ => looseToJson fuel more
        else if d == '\r' then
          match more with
          | '\n' :: after => looseToJson fuel after
          | _ => looseToJson fuel more
        else if d == '\n' || d == '\u2028' || d == '\u2029' then looseToJson fuel more
        else '\\' :: d :: looseToJson fuel more
      | [] => ['\\']
    else c :: looseToJson fuel rest

def textToJson (kind : JsonText) (s : String) : String :=
  let body := match kind with
    | .plain | .escaped => s.toList
    | .loose => looseToJson (s.length + 1) s.toList
    | .raw => escapeRaw s.toList
  String.ofList ('"' :: body ++ ['"'])

/-- A hexadecimal integer written in decimal; one too large for 64 bits is written as an
infinite real. -/
def hexToJson (s : String) : String :=
  let (neg, body) := match s.toList with
    | '-' :: r => (true, r)
    | r => (false, r)
  let digits := body.drop 2
  let (u, overflowed) := digits.foldl (fun (acc : Nat × Bool) c =>
    let (u, overflowed) := acc
    if overflowed then (u, true)
    else if u / 1152921504606846976 != 0 then (u, true)
    else (u * 16 + hexValue c, false)) (0, false)
  (if neg then "-" else "") ++ (if overflowed then "9.0e999" else toString u)

/-- A real written with a bare point, written with a zero where a digit is missing. -/
def looseRealToJson (s : String) : String :=
  let (sign, cs) := match s.toList with
    | '-' :: r => (['-'], r)
    | r => ([], r)
  let lead := if cs.head? == some '.' then ['0'] else []
  let rec go : List Char → List Char
    | [] => []
    | c :: rest =>
      let zero := c == '.' && (match rest with
        | d :: _ => !d.isDigit
        | [] => true)
      c :: (if zero then '0' :: go rest else go rest)
  String.ofList (sign ++ lead ++ go cs)

def render : Nat → JsonNode → String
  | 0, _ => "null"
  | fuel + 1, n =>
    match n with
    | .null => "null"
    | .bool b => if b then "true" else "false"
    | .number .hex t => hexToJson t
    | .number .looseReal t => looseRealToJson t
    | .number _ t => t
    | .text k t => textToJson k t
    | .array items => "[" ++ ",".intercalate (items.map (render fuel)) ++ "]"
    | .object ms =>
      "\x7b" ++ ",".intercalate (ms.map fun (k, v) => render fuel k ++ ":" ++ render fuel v) ++ "\x7d"

/-- How deep an element nests: the fuel that writing or walking it needs. -/
def depth : Nat → JsonNode → Nat
  | 0, _ => 0
  | fuel + 1, n =>
    match n with
    | .array items => 1 + (items.map (depth fuel)).foldl max 0
    | .object ms => 1 + (ms.map fun (k, v) => max (depth fuel k) (depth fuel v)).foldl max 0
    | _ => 1

def toText (n : JsonNode) : String := render (depth 2000 n + 2) n

/-! ## Values -/

/-- The characters JSON escapes stand for: `\uXXXX` (a pair of surrogates as one
character), the short escapes, JSON5's `\v`, `\0`, `\xHH` and `\'`; a line continuation
stands for nothing. A lone surrogate stands for the replacement character. -/
def unescape : Nat → List Char → List Char
  | 0, _ => []
  | _ + 1, [] => []
  | fuel + 1, c :: rest =>
    if c != '\\' then c :: unescape fuel rest
    else match rest with
      | [] => []
      | d :: more =>
        if d == 'u' && startsHex 4 more then
          let v := hexDigitsValue (more.take 4)
          let after := more.drop 4
          let low := match after with
            | '\\' :: 'u' :: tail =>
              if startsHex 4 tail then
                let w := hexDigitsValue (tail.take 4)
                if w / 1024 == 0xdc00 / 1024 then some (w, tail.drop 4) else none
              else none
            | _ => none
          if v / 1024 == 0xd800 / 1024 then
            match low with
            | some (w, tail) => Char.ofNat ((v % 1024) * 1024 + (w % 1024) + 0x10000) :: unescape fuel tail
            | none => '\ufffd' :: unescape fuel after
          else if v / 1024 == 0xdc00 / 1024 then '\ufffd' :: unescape fuel after
          else Char.ofNat v :: unescape fuel after
        else if d == 'b' then '\x08' :: unescape fuel more
        else if d == 'f' then '\x0c' :: unescape fuel more
        else if d == 'n' then '\n' :: unescape fuel more
        else if d == 'r' then
          '\r' :: unescape fuel more
        else if d == 't' then '\t' :: unescape fuel more
        else if d == 'v' then '\x0b' :: unescape fuel more
        else if d == '0' then '\x00' :: unescape fuel more
        else if d == 'x' && startsHex 2 more then
          Char.ofNat (hexDigitsValue (more.take 2)) :: unescape fuel (more.drop 2)
        else if d == '\n' || d == '\u2028' || d == '\u2029' then unescape fuel more
        else d :: unescape fuel more

def textValue (kind : JsonText) (s : String) : String :=
  match kind with
  | .plain | .raw => s
  | .escaped | .loose => String.ofList (unescape (s.length + 1) (lineJoin s.toList))
where
  /-- Drops the line continuations written as a backslash, a carriage return and a line
  feed, which `unescape` would read as a carriage return. -/
  lineJoin : List Char → List Char
    | [] => []
    | '\\' :: '\r' :: '\n' :: rest => lineJoin rest
    | '\\' :: '\r' :: rest => lineJoin rest
    | '\\' :: d :: rest => '\\' :: d :: lineJoin rest
    | c :: rest => c :: lineJoin rest

/-- The value of a decimal integer's text: an integer when it fits in 64 bits, else a
real. -/
def intValue (s : String) : Value :=
  let (neg, ds) := match s.toList with
    | '-' :: r => (true, r)
    | r => (false, r)
  let n := Value.digitsValue ds
  if neg && n ≤ 9223372036854775808 then .int (-(n : Int))
  else if !neg && n < 9223372036854775808 then .int n
  else (Value.readNumber s).getD .null

/-- The value of a hexadecimal integer's text, its digits taken as 64 bits; none when
it has more than sixteen digits after its leading zeros. -/
def hexIntValue (s : String) : Option Value :=
  let (neg, body) := match s.toList with
    | '-' :: r => (true, r)
    | r => (false, r)
  let ds := (body.drop 2).dropWhile (· == '0')
  if ds.length > 16 then none
  else
    let u := hexDigitsValue ds
    let signed : Int := if u ≥ 9223372036854775808 then (u : Int) - 18446744073709551616 else u
    let v : Int := if neg then -signed else signed
    some (.int (if v ≥ 9223372036854775808 then v - 18446744073709551616 else v))

/-- The SQL value of an element: null, `1` or `0` for a truth value, the number, the
characters of a string, and the JSON text of a container. A hexadecimal integer too
large to read is a malformed document. -/
def toValue (n : JsonNode) : Except String Value :=
  match n with
  | .null => .ok .null
  | .bool b => .ok (.int (if b then 1 else 0))
  | .number .int t => .ok (intValue t)
  | .number .hex t =>
    match hexIntValue t with
    | some v => .ok v
    | none => .error "malformed JSON"
  | .number _ t => .ok ((Value.readNumber (looseRealToJson t)).getD (.real 0))
  | .text k t => .ok (.text (textValue k t))
  | _ => .ok (.text (toText n))

def typeName : JsonNode → String
  | .null => "null"
  | .bool true => "true"
  | .bool false => "false"
  | .number .int _ | .number .hex _ => "integer"
  | .number _ _ => "real"
  | .text _ _ => "text"
  | .array _ => "array"
  | .object _ => "object"

/-- The element of a real: its text, with an infinity written as a number too large. -/
def ofReal (x : Float) : JsonNode :=
  if x.isInf then .number .real (if x > 0 then "9.0e+999" else "-9.0e+999")
  else if x.isNaN then .null
  else .number .real (Value.realText x)

/-! ## The binary form -/

def kindCode : JsonNode → Nat
  | .null => 0
  | .bool true => 1
  | .bool false => 2
  | .number .int _ => 3
  | .number .hex _ => 4
  | .number .real _ => 5
  | .number .looseReal _ => 6
  | .text .plain _ => 7
  | .text .escaped _ => 8
  | .text .loose _ => 9
  | .text .raw _ => 10
  | .array _ => 11
  | .object _ => 12

/-- The header of an element of a kind with a payload of a size: the size in the high
four bits when it is at most eleven, else in the one, two or four bytes after. -/
def header (kind size : Nat) : List UInt8 :=
  if size ≤ 11 then [(size * 16 + kind).toUInt8]
  else if size ≤ 0xff then [(0xc0 + kind).toUInt8, size.toUInt8]
  else if size ≤ 0xffff then [(0xd0 + kind).toUInt8, (size / 256).toUInt8, (size % 256).toUInt8]
  else [(0xe0 + kind).toUInt8, (size / 16777216 % 256).toUInt8, (size / 65536 % 256).toUInt8,
    (size / 256 % 256).toUInt8, (size % 256).toUInt8]

def encode : Nat → JsonNode → List UInt8
  | 0, _ => [0]
  | fuel + 1, n =>
    let payload : List UInt8 := match n with
      | .number _ t | .text _ t => t.toUTF8.toList
      | .array items => items.flatMap (encode fuel)
      | .object ms => ms.flatMap fun (k, v) => encode fuel k ++ encode fuel v
      | _ => []
    header (kindCode n) payload.length ++ payload

def toBlob (n : JsonNode) : List UInt8 := encode (depth 2000 n + 2) n

/-- The kind, payload size and header length of the element the bytes start with, if
its header is whole. -/
def readHeader (bs : List UInt8) : Option (Nat × Nat × Nat) :=
  match bs with
  | [] => none
  | b :: rest =>
    let kind := b.toNat % 16
    let code := b.toNat / 16
    let big := fun (k : Nat) =>
      if rest.length < k then none
      else some (kind, (rest.take k).foldl (fun a x => a * 256 + x.toNat) 0, k + 1)
    if code ≤ 11 then some (kind, code, 1)
    else if code == 12 then big 1
    else if code == 13 then big 2
    else if code == 14 then big 4
    else big 8

/-- Whether bytes hold one element in the binary form as far as its header shows: a kind
the form has, a payload that ends where the bytes do, and none for null and the truth
values. -/
def looksBinary (bs : List UInt8) : Bool :=
  match readHeader bs with
  | some (kind, size, n) => kind ≤ 12 && n + size == bs.length && (kind > 2 || size == 0)
  | none => false

def payloadText (bs : List UInt8) : Option String := String.fromUTF8? (ByteArray.mk bs.toArray)

mutual

/-- Reads the element the bytes start with, and the bytes after it. -/
def decode : Nat → List UInt8 → Option (JsonNode × List UInt8)
  | 0, _ => none
  | fuel + 1, bs => do
    let (kind, size, n) ← readHeader bs
    let body := bs.drop n
    if body.length < size then none
    let payload := body.take size
    let after := body.drop size
    let text := payloadText payload
    let node : Option JsonNode :=
      if kind == 0 then (if size == 0 then some .null else none)
      else if kind == 1 then (if size == 0 then some (.bool true) else none)
      else if kind == 2 then (if size == 0 then some (.bool false) else none)
      else if kind == 3 then text.map (.number .int)
      else if kind == 4 then text.map (.number .hex)
      else if kind == 5 then text.map (.number .real)
      else if kind == 6 then text.map (.number .looseReal)
      else if kind == 7 then text.map (.text .plain)
      else if kind == 8 then text.map (.text .escaped)
      else if kind == 9 then text.map (.text .loose)
      else if kind == 10 then text.map (.text .raw)
      else if kind == 11 then (decodeItems fuel payload).map .array
      else if kind == 12 then (decodeMembers fuel payload).map .object
      else none
    node.map (·, after)

def decodeItems : Nat → List UInt8 → Option (List JsonNode)
  | 0, _ => none
  | fuel + 1, bs =>
    if bs.isEmpty then some []
    else do
      let (v, rest) ← decode fuel bs
      let more ← decodeItems fuel rest
      pure (v :: more)

/-- Reads the members of an object's payload: names, which must be strings, and values. -/
def decodeMembers : Nat → List UInt8 → Option (List (JsonNode × JsonNode))
  | 0, _ => none
  | fuel + 1, bs =>
    if bs.isEmpty then some []
    else do
      let (k, rest) ← decode fuel bs
      if !k.isText then none
      let (v, rest) ← decode fuel rest
      let more ← decodeMembers fuel rest
      pure ((k, v) :: more)

end

/-- The element bytes in the binary form hold, if they hold one whole. -/
def ofBlob (bs : List UInt8) : Option JsonNode :=
  match decode (bs.length + 2) bs with
  | some (n, []) => some n
  | _ => none

/-! ## Documents from values -/

/-- The document a function reads from a value: null has none; a blob that looks like the
binary form is read as that (and is malformed when it is not whole); anything else is read
as JSON5 text. -/
def document (v : Value) : Except String (Option JsonNode) :=
  match v with
  | .null => .ok none
  | .blob bs =>
    if looksBinary bs then
      match ofBlob bs with
      | some n => .ok (some n)
      | none => .error "malformed JSON"
    else match parse ((v.asText).getD "") with
      | some n => .ok (some n)
      | none => .error "malformed JSON"
  | _ =>
    match parse ((v.asText).getD "") with
    | some n => .ok (some n)
    | none => .error "malformed JSON"

/-- The element a value stands for when it is put into a document: null, a number, a
string of its characters (or, for text known to be JSON, the element it reads as), and a
blob only when it holds an element in the binary form. -/
def ofValue (v : Value) (isJson : Bool) : Except String JsonNode :=
  match v with
  | .null => .ok .null
  | .int n => .ok (.number .int (toString n))
  | .real x => .ok (ofReal x)
  | .text s =>
    if isJson then
      match parse s with
      | some n => .ok n
      | none => .error "malformed JSON"
    else .ok (.text .raw s)
  | .rawText bs =>
    let s := Value.looseText bs
    if isJson then
      match parse s with
      | some n => .ok n
      | none => .error "malformed JSON"
    else .ok (.text .raw s)
  | .blob bs =>
    if looksBinary bs then
      match ofBlob bs with
      | some n => .ok n
      | none => .error "JSON cannot hold BLOB values"
    else .error "JSON cannot hold BLOB values"

/-! ## Paths -/

inductive Found where
  | found (n : JsonNode)
  | missing
  | badPath

/-- The name a `.` step names, whether it is written without escapes, and the rest of the
path after it: a name in double quotes, or the characters up to the next `.` or `[`, of
which there must be some. None when the step is malformed. -/
def keyStep (p : List Char) : Option (String × Bool × List Char) :=
  match p with
  | '"' :: r =>
    let name := r.takeWhile (· != '"')
    match r.drop name.length with
    | '"' :: rest => some (String.ofList name, !name.contains '\\', rest)
    | _ => none
  | _ =>
    let name := p.takeWhile fun c => c != '.' && c != '['
    if name.isEmpty then none else some (String.ofList name, true, p.drop name.length)

/-- Whether a member's name is the name a step looks for: the characters the two stand
for, each read for escapes unless it has none. -/
def nameMatches (key : String) (plain : Bool) (label : JsonNode) : Bool :=
  let wanted := if plain then key else String.ofList (unescape (key.length + 1) key.toList)
  match label with
  | .text k t => textValue k t == wanted
  | _ => false

/-- A digit string's value as the engine counts it, in 32 bits. -/
def count32 (ds : List Char) : Nat := ds.foldl (fun a c => (a * 10 + (c.toNat - 48)) % 4294967296) 0

inductive Index where
  /-- The position and the rest of the path. -/
  | at (k : Nat) (rest : List Char)
  /-- An index `[#-N]` with `N` more than the items: nothing is there. -/
  | before
  | bad

/-- Reads an index step after its `[`: `[N]`, `[#]` (one past the last item) or
`[#-N]`. -/
def indexStep (len : Nat) (p : List Char) : Index :=
  let ds := p.takeWhile Char.isDigit
  let hashForm : Index :=
    match p with
    | '#' :: '-' :: d :: more =>
      if d.isDigit then
        let nn := (d :: more).takeWhile Char.isDigit
        let back := count32 nn
        if back > len then .before
        else match (d :: more).drop nn.length with
          | ']' :: rest => .at (len - back) rest
          | _ => .bad
      else .bad
    | '#' :: ']' :: rest => .at len rest
    | _ => .bad
  match p.drop ds.length with
  | ']' :: rest => if ds.isEmpty then hashForm else .at (count32 ds) rest
  | _ => hashForm

/-- Follows a path (after its `$`) from an element. -/
def find : Nat → JsonNode → List Char → Found
  | 0, _, _ => .missing
  | fuel + 1, n, p =>
    match p with
    | [] => .found n
    | '.' :: rest =>
      match keyStep rest with
      | none => .badPath
      | some (key, plain, after) =>
        match n with
        | .object ms =>
          match ms.find? (fun (k, _) => nameMatches key plain k) with
          | some (_, v) => find fuel v after
          | none => .missing
        | _ => .missing
    | '[' :: rest =>
      match n with
      | .array items =>
        match indexStep items.length rest with
        | .bad => .badPath
        | .before => .missing
        | .at k after =>
          match items[k]? with
          | some v => find fuel v after
          | none => .missing
      | _ => .missing
    | _ => .badPath

/-- An edit at a path. -/
inductive Edit where
  | remove
  | replace (v : JsonNode)
  | insert (v : JsonNode)
  | set (v : JsonNode)

def Edit.creates : Edit → Bool
  | .insert _ | .set _ => true
  | _ => false

/-- What an edit does below an element: the element after it (none when it was removed),
or nothing found, or a bad path. -/
inductive Edited where
  | done (n : Option JsonNode)
  | missing
  | badPath

/-- Makes an edit along a path (after `$`) from an element. What the path does not find is
made by `insert` and `set`: the value when the path ends there, else an empty object (for a
`.` step) or array edited along the rest of the path. -/
def edit : Nat → Edit → JsonNode → List Char → Edited
  | 0, _, _, _ => .missing
  | fuel + 1, e, n, p =>
    let create := fun (tail : List Char) =>
      match e with
      | .insert v | .set v =>
        if tail.isEmpty then Edited.done (some v)
        else edit fuel e (if tail.head? == some '.' then .object [] else .array []) tail
      | _ => Edited.missing
    match p with
    | [] =>
      match e with
      | .remove => .done none
      | .insert _ => .done (some n)
      | .replace v | .set v => .done (some v)
    | '.' :: rest =>
      match keyStep rest with
      | none => .badPath
      | some (key, plain, after) =>
        match n with
        | .object ms =>
          match ms.findIdx? (fun (k, _) => nameMatches key plain k) with
          | some i =>
            match ms[i]? with
            | some (k, v) =>
              match edit fuel e v after with
              | .done none => .done (some (.object (ms.eraseIdx i)))
              | .done (some v') => .done (some (.object (ms.set i (k, v'))))
              | .missing => .missing
              | .badPath => .badPath
            | none => .missing
          | none =>
            if !e.creates then .missing
            else match create after with
              | .done (some v) =>
                let label := JsonNode.text (if plain then .raw else .loose) key
                .done (some (.object (ms ++ [(label, v)])))
              | .done none => .missing
              | .missing => .missing
              | .badPath => .badPath
        | _ => .missing
    | '[' :: rest =>
      match n with
      | .array items =>
        match indexStep items.length rest with
        | .bad => .badPath
        | .before => .missing
        | .at k after =>
          match items[k]? with
          | some v =>
            match edit fuel e v after with
            | .done none => .done (some (.array (items.eraseIdx k)))
            | .done (some v') => .done (some (.array (items.set k v')))
            | .missing => .missing
            | .badPath => .badPath
          | none =>
            if k == items.length && e.creates then
              match create after with
              | .done (some v) => .done (some (.array (items ++ [v])))
              | .done none => .missing
              | .missing => .missing
              | .badPath => .badPath
            else .missing
      | _ => .missing
    | _ => .badPath

def pathFuel (n : JsonNode) (path : List Char) : Nat := depth 2000 n + path.length + 2

/-! ## Merging -/

/-- Merges a patch into an element as RFC 7396 has it: a non-object patch replaces the
element; an object patch makes it an object, removes the members it gives null, merges those
the element has, and adds the others merged into nothing. -/
def mergePatch : Nat → Option JsonNode → JsonNode → JsonNode
  | 0, _, patch => patch
  | fuel + 1, target, patch =>
    match patch with
    | .object pms =>
      let start := match target with
        | some (.object ms) => ms
        | _ => []
      let label := fun (k : JsonNode) => match k with
        | .text kind t => textValue kind t
        | _ => ""
      .object (pms.foldl (fun ms (k, v) =>
        let name := label k
        match v with
        | .null => ms.filter fun (k', _) => label k' != name
        | _ =>
          match ms.findIdx? (fun (k', _) => label k' == name) with
          | some i =>
            match ms[i]? with
            | some (k', old) => ms.set i (k', mergePatch fuel (some old) v)
            | none => ms
          | none => ms ++ [(k, mergePatch fuel none v)]) start)
    | _ => patch

/-! ## Pretty text -/

/-- An element written as JSON text over lines: each item and member on a line of its
own, indented one step per level, with a blank after each member's colon. -/
def pretty : Nat → String → String → JsonNode → String
  | 0, _, _, _ => "null"
  | fuel + 1, step, indent, n =>
    let inner := indent ++ step
    match n with
    | .array [] => "[]"
    | .object [] => "\x7b\x7d"
    | .array items =>
      "[\n" ++ ",\n".intercalate (items.map fun v => inner ++ pretty fuel step inner v) ++
        "\n" ++ indent ++ "]"
    | .object ms =>
      "\x7b\n" ++ ",\n".intercalate (ms.map fun (k, v) =>
        inner ++ render fuel k ++ ": " ++ pretty fuel step inner v) ++ "\n" ++ indent ++ "\x7d"
    | _ => render fuel n

/-! ## The functions -/

def truthValue (b : Bool) : Value := .int (if b then 1 else 0)

def badPath (p : String) : String := "bad JSON path: '" ++ p.replace "'" "''" ++ "'"

/-- The names of the functions whose text results are known to be JSON, so that another
JSON function takes them as elements rather than as strings. -/
def givesJson (name : String) : Bool :=
  ["json", "json_array", "json_object", "json_set", "json_insert", "json_replace",
    "json_remove", "json_patch", "json_quote", "json_pretty", "json_group_array",
    "json_group_object"].contains (name.map Char.toLower)

/-- Whether a function is one of the JSON functions of single rows. -/
def isFunction (name : String) : Bool :=
  ["json", "jsonb", "json_pretty", "json_valid", "json_error_position", "json_quote",
    "json_array", "jsonb_array", "json_object", "jsonb_object", "json_extract",
    "jsonb_extract", "json_type", "json_array_length", "json_remove", "jsonb_remove",
    "json_insert", "jsonb_insert", "json_replace", "jsonb_replace", "json_set", "jsonb_set",
    "json_patch", "jsonb_patch"].contains (name.map Char.toLower)

/-- A document's result: as text, or in the binary form for the `jsonb` functions. -/
def result (binary : Bool) (n : JsonNode) : Value :=
  if binary then .blob (toBlob n) else .text (toText n)

/-- The element of a value that a function building a document puts in it. -/
def item (arg : Value × Bool) : Except String JsonNode := ofValue arg.1 arg.2

def lookup (n : JsonNode) (path : List Char) : Found :=
  match path with
  | '$' :: rest => find (pathFuel n rest) n rest
  | _ => .badPath

/-- The functions `json_extract` and `jsonb_extract`: the value at one path (null for none), or a JSON
array of the elements at several (null for each missing). A null path gives null; a path not
starting with `$` or found bad is an error. -/
def extract (binary : Bool) (doc : JsonNode) (paths : List Value) : Except String Value := do
  let mut found : List JsonNode := []
  for p in paths do
    let some text := p.asText | return .null
    match lookup doc text.toList with
    | .badPath => throw (badPath text)
    | .missing =>
      if paths.length == 1 then return .null
      found := found ++ [.null]
    | .found n =>
      if paths.length == 1 then
        match n with
        | .array _ | .object _ => return result binary n
        | _ => return ← toValue n
      found := found ++ [n]
  return result binary (.array found)

/-- The path `->` and `->>` follow: a text starting with `$` is a path; an integer an index
(negative from the end); a name of ASCII letters, digits and `_` a member; a bracketed text
an index step; any other text a quoted member name. -/
def arrowPath (v : Value) : Option (List Char) :=
  match v with
  | .int n => some ('[' :: (if n < 0 then "#" else "").toList ++ (toString n).toList ++ [']'])
  | _ =>
    match v.asText with
    | none => none
    | some s =>
      let cs := s.toList
      match cs with
      | '$' :: rest => some rest
      | _ =>
        if cs.all fun c => isAlnum c || c == '_' then some ('.' :: cs)
        else if cs.head? == some '[' && cs.length ≥ 3 && cs.getLast? == some ']' then some cs
        else some ('.' :: '"' :: cs ++ ['"'])

/-- Runs part of the JSON functions on arguments that may be text that is not UTF-8: such
text is read by `Value.looseText`, the result's stray bytes put back by `back`, a failure
showing them as U+FFFD. Bytes starting no character pass through a document unchanged, its
syntax being ASCII. -/
def withStrayBytes {α : Type} (args : List Value) (back : α → α) (run : (Value → Value) → Except String α) :
    Except String α :=
  if args.any (· matches .rawText _) then
    match run Value.tighten with
    | .ok r => .ok (back r)
    | .error m => .error (Value.plainMessage m)
  else run id

/-- The operators `->` (`long` false: the element as JSON text) and `->>` (the element's SQL value). -/
def arrow (long : Bool) (doc : Value × Bool) (path : Value) : Except String Value :=
  withStrayBytes [doc.1, path] Value.loosen fun read => follow long (read doc.1, doc.2) (read path)
where
  /-- The operators `->` and `->>` on arguments that are UTF-8. -/
  follow (long : Bool) (doc : Value × Bool) (path : Value) : Except String Value := do
    let some n ← (if doc.2 then (ofValue doc.1 true).map some else document doc.1) | return .null
    let some steps := arrowPath path | return .null
    match find (pathFuel n steps) n steps with
    | .badPath => throw (badPath ((path.asText).getD ""))
    | .missing => return .null
    | .found e => if long then toValue e else return .text (toText e)

/-- Applies the edits of `json_set`, `json_insert` and `json_replace`: each path and value
in turn. A null path is passed over; a path that does not start with `$` is an error
before its value is read; `$` alone is the whole document. -/
def insertEdits (make : JsonNode → Edit) (doc : JsonNode) : List (Value × Bool) →
    Except String JsonNode
  | [] => .ok doc
  | [_] => .ok doc
  | (p, _) :: arg :: rest => do
    match p with
    | .null => insertEdits make doc rest
    | _ =>
      let text := (p.asText).getD ""
      match text.toList with
      | '$' :: steps =>
        let v ← item arg
        let doc' ← if steps.isEmpty then
            pure (match make v with
              | .insert _ => doc
              | _ => v)
          else
            match edit (pathFuel doc steps) (make v) doc steps with
            | .done (some d) => pure d
            | .done none => pure doc
            | .missing => pure doc
            | .badPath => throw (badPath text)
        insertEdits make doc' rest
      | _ => throw (badPath text)

/-- Applies the removals of `json_remove`: a null path or `$` alone makes the result null;
a path that does not start with `$` or that the search finds bad is an error. -/
def removeEdits (doc : JsonNode) : List Value → Except String (Option JsonNode)
  | [] => .ok (some doc)
  | p :: rest =>
    match p.asText with
    | none => .ok none
    | some text =>
      match text.toList with
      | ['$'] => .ok none
      | '$' :: steps =>
        match edit (pathFuel doc steps) .remove doc steps with
        | .done (some d) => removeEdits d rest
        | .done none => .ok none
        | .missing => removeEdits doc rest
        | .badPath => .error (badPath text)
      | _ => .error (badPath text)

/-- The leading integer of a text, after blanks and a sign; zero when there is none. -/
def leadingInteger (cs : List Char) : Int :=
  let cs := cs.dropWhile fun c => c == ' ' || ('\t' ≤ c && c ≤ '\r')
  let (negative, cs) := match cs with
    | '-' :: rest => (true, rest)
    | '+' :: rest => (false, rest)
    | _ => (false, cs)
  let n : Int := Value.digitsValue (cs.takeWhile Char.isDigit)
  if negative then -n else n

/-- The flags argument of [json_valid] as an integer: a real is cut toward zero, a text or
a blob gives its leading integer. Only whether it lies between 1 and 15 matters, so a
real outside that range may stand for any integer outside it. -/
def flagsOf : Value → Int
  | .int k => k
  | .real x => if 1 ≤ x && x < 16 then (Value.integral? x.floor).getD 0 else 0
  | .text t => leadingInteger t.toList
  | .rawText bs | .blob bs => leadingInteger (bs.map fun b => Char.ofNat b.toNat)
  | .null => 0

/-- A JSON function of single rows on arguments that are UTF-8, given each with whether it
is known to be JSON. Its failure is the message of a logic error. -/
def evaluate (name : String) (args : List (Value × Bool)) : Except String Value := do
  let n := name.map Char.toLower
  let binary := n.startsWith "jsonb"
  let vals := args.map (·.1)
  let a0 := vals.getD 0 .null
  let a1 := vals.getD 1 .null
  let docOf := fun (arg : Value × Bool) =>
    if arg.2 then (ofValue arg.1 true).map some else document arg.1
  match n with
  | "json" | "jsonb" =>
    let some d ← docOf (args.getD 0 (.null, false)) | return .null
    return result binary d
  | "json_pretty" =>
    let some d ← docOf (args.getD 0 (.null, false)) | return .null
    let step := if vals.length > 1 then (a1.asText).getD "    " else "    "
    return .text (pretty (depth 2000 d + 2) step "" d)
  | "json_valid" =>
    let flags := if vals.length > 1 then flagsOf a1 else 1
    if vals.length > 1 && (flags < 1 || flags > 15) then
      throw "FLAGS parameter to json_valid() must be between 1 and 15"
    let asText := fun (t : String) =>
      if flags % 4 == 0 then truthValue false
      else if (flags / 2) % 2 == 1 then truthValue (parse t).isSome
      else truthValue (isStrict t)
    match a0 with
    | .null => return .null
    | .blob bs =>
      if looksBinary bs then
        if (flags / 4) % 2 == 1 then return truthValue true
        else if (flags / 8) % 2 == 1 then return truthValue (ofBlob bs).isSome
        else return truthValue false
      else return asText ((a0.asText).getD "")
    | v => return asText ((v.asText).getD "")
  | "json_error_position" =>
    match a0 with
    | .null => return .null
    | .blob bs =>
      if looksBinary bs then return .int (if (ofBlob bs).isSome then 0 else 1)
      else return .int (JsonScan.errorPosition bs.toArray)
    | v => return .int (JsonScan.errorPosition ((v.asText).getD "").toUTF8.data)
  | "json_quote" => return .text (toText (← item (args.getD 0 (.null, false))))
  | "json_array" | "jsonb_array" => return result binary (.array (← args.mapM item))
  | "json_object" | "jsonb_object" =>
    if args.length % 2 == 1 then throw "json_object() requires an even number of arguments"
    let mut ms : List (JsonNode × JsonNode) := []
    for (k, v) in (args.zipIdx.filter (·.2 % 2 == 0)).map (·.1) |>.zip
        ((args.zipIdx.filter (·.2 % 2 == 1)).map (·.1)) do
      match k.1 with
      | .text t => ms := ms ++ [(.text .raw t, ← item v)]
      | _ => throw "json_object() labels must be TEXT"
    return result binary (.object ms)
  | "json_extract" | "jsonb_extract" =>
    let some d ← docOf (args.getD 0 (.null, false)) | return .null
    extract binary d (vals.drop 1)
  | "json_type" =>
    let some d ← docOf (args.getD 0 (.null, false)) | return .null
    if vals.length < 2 then return .text (typeName d)
    let some text := a1.asText | return .null
    match lookup d text.toList with
    | .found e => return .text (typeName e)
    | .missing => return .null
    | .badPath => throw (badPath text)
  | "json_array_length" =>
    let some d ← docOf (args.getD 0 (.null, false)) | return .null
    let target ← if vals.length < 2 then pure (some d) else
      match a1.asText with
      | none => return .null
      | some text =>
        match text.toList with
        | '$' :: steps =>
          match find (pathFuel d steps) d steps with
          | .found e => pure (some e)
          | .missing => pure none
          | .badPath => throw (badPath text)
        | _ => throw (badPath text)
    match target with
    | some (.array items) => return .int items.length
    | some _ => return .int 0
    | none => return .null
  | "json_remove" | "jsonb_remove" =>
    let some d ← docOf (args.getD 0 (.null, false)) | return .null
    match ← removeEdits d (vals.drop 1) with
    | some d => return result binary d
    | none => return .null
  | "json_insert" | "jsonb_insert" | "json_replace" | "jsonb_replace" | "json_set" | "jsonb_set" =>
    let base := (n.drop (if binary then 6 else 5)).toString
    if args.length % 2 == 0 then throw ("json_" ++ base ++ "() needs an odd number of arguments")
    let some d ← docOf (args.getD 0 (.null, false)) | return .null
    let make : JsonNode → Edit := if base == "set" then .set
      else if base == "insert" then .insert else .replace
    return result binary (← insertEdits make d (args.drop 1))
  | "json_patch" | "jsonb_patch" =>
    let some target ← docOf (args.getD 0 (.null, false)) | return .null
    let some patch ← docOf (args.getD 1 (.null, false)) | return .null
    return result binary (mergePatch (depth 2000 patch + 2) (some target) patch)
  | _ => return .null

/-! ## Tables of a document

`json_each` gives a row for each item or member of the element the path reaches (or that
element alone when not a container), `json_tree` for that element and everything in it,
containers before their contents. Columns: the member name or index, the value (JSON text
for a container), the kind, the value again for a non-container, the place in the binary
form, the container's place (for `json_tree`), the full path, and the container's path. -/

/-- The path step of a member: `.name` when the name is a letter followed by letters and
digits, else `."name"`. -/
def memberStep (label : JsonNode) : String :=
  let raw := match label with
    | .text _ t => t
    | _ => ""
  let plain := match raw.toList with
    | c :: rest => c.toNat < 128 && c.isAlpha && rest.all isAlnum
    | [] => false
  if plain then "." ++ raw else ".\"" ++ raw ++ "\""

def blobSize (n : JsonNode) : Nat := (toBlob n).length

/-- A row of a document's table, from an element with its name or index, its place, its
container's place, its full path and its container's path. -/
def tableRow (key : Value) (n : JsonNode) (id : Nat) (parent : Option Nat) (full path : String) :
    Except String (List Value) := do
  let value ← match n with
    | .array _ | .object _ => pure (Value.text (toText n))
    | _ => toValue n
  let atom := match n with
    | .array _ | .object _ => Value.null
    | _ => value
  return [key, value, .text (typeName n), atom, .int id, (parent.map fun p => Value.int p).getD .null,
    .text full, .text path]

/-- The children of a container with their names or indexes, places and full paths. -/
def children (n : JsonNode) (id : Nat) (full : String) : List (Value × JsonNode × Nat × String) :=
  let start := id + ((readHeader (toBlob n)).map (·.2.2)).getD 1
  match n with
  | .array items =>
    let (_, out) := items.zipIdx.foldl (fun (acc : Nat × List (Value × JsonNode × Nat × String)) (v, i) =>
      let (at_, out) := acc
      (at_ + blobSize v, out ++ [(Value.int i, v, at_, full ++ "[" ++ toString i ++ "]")])) (start, [])
    out
  | .object ms =>
    let (_, out) := ms.foldl (fun (acc : Nat × List (Value × JsonNode × Nat × String)) (k, v) =>
      let (at_, out) := acc
      let key := (toValue k).toOption.getD .null
      (at_ + blobSize k + blobSize v, out ++ [(key, v, at_, full ++ memberStep k)])) (start, [])
    out
  | _ => []

def treeRows : Nat → Value → JsonNode → Nat → Option Nat → String → String →
    Except String (List (List Value))
  | 0, _, _, _, _, _, _ => .ok []
  | fuel + 1, key, n, id, parent, full, path => do
    let here ← tableRow key n id parent full path
    let mut out := [here]
    for (k, v, at_, f) in children n id full do
      out := out ++ (← treeRows fuel k v at_ (some id) f full)
    return out

/-- The rows of `json_each` (`tree` false) or `json_tree` over a document and a path that
are UTF-8. A null document or path gives no rows, and so does a path that finds nothing. -/
def rowsOf (tree : Bool) (doc : Value) (path : Option Value) : Except String (List (List Value)) := do
  let some d ← document doc | return []
  let root ← match path with
    | none => pure "$"
    | some p =>
      match p.asText with
      | none => return []
      | some t => pure t
  let (found, id) ← match root.toList with
    | '$' :: steps =>
      match find (pathFuel d steps) d steps with
      | .found e => pure (e, placeOf d steps)
      | .missing => return []
      | .badPath => throw (badPath root)
    | _ => throw (badPath root)
  if tree then treeRows (depth 2000 found + 2) .null found id none root root
  else
    match found with
    | .array _ | .object _ =>
      (children found id root).mapM fun (k, v, at_, f) => tableRow k v at_ none f root
    | _ => return [← tableRow .null found id none root root]
where
  /-- The place in the binary form of the element a path leads to. -/
  placeOf (d : JsonNode) (steps : List Char) : Nat :=
    let rec go : Nat → JsonNode → Nat → List Char → Nat
      | 0, _, at_, _ => at_
      | fuel + 1, n, at_, p =>
        match p with
        | '.' :: rest =>
          match keyStep rest, n with
          | some (key, plain, after), .object _ =>
            match (children n at_ "").find? (fun (k, _, _, _) => match k with
              | .text t => nameMatches key plain (.text .plain t)
              | _ => false) with
            | some (_, v, place, _) =>
              let labelSize := match n with
                | .object ms => ((ms.find? fun (k, _) => nameMatches key plain k).map (blobSize ·.1)).getD 0
                | _ => 0
              go fuel v (place + labelSize) after
            | none => at_
          | _, _ => at_
        | '[' :: rest =>
          match n with
          | .array items =>
            match indexStep items.length rest with
            | .at k after =>
              match (children n at_ "")[k]? with
              | some (_, v, place, _) => go fuel v place after
              | none => at_
            | _ => at_
          | _ => at_
        | _ => at_
    go (pathFuel d steps) d 0 steps

/-- A JSON function of single rows, given each argument with whether it is known to be
JSON. Its failure is the message of a logic error. -/
def call (name : String) (args : List (Value × Bool)) : Except String Value :=
  withStrayBytes (args.map (·.1)) Value.loosen fun read =>
    evaluate name (args.map fun (v, j) => (read v, j))

/-- The rows of `json_each` (`tree` false) or `json_tree` over a document and a path. -/
def tableRows (tree : Bool) (doc : Value) (path : Option Value) : Except String (List (List Value)) :=
  withStrayBytes (doc :: path.toList) (·.map (·.map Value.loosen)) fun read =>
    rowsOf tree (read doc) (path.map read)

end Json

end Foreman.Sql
