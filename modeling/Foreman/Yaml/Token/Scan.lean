import Foreman.Yaml.Token

/-!
# Cutting a YAML text into tokens

The scanner reads characters and queues tokens for the parser, keeping each open block
collection's column, the bracket depth, and where a simple key may start. A simple key is
known only at its `:`, so each token that could start one is remembered, and at the `:` a key
token is queued before it. The scanner keeps three tokens ahead, more while the front token
could still be a key. Characters not allowed in YAML are checked in parts of 512 bytes, each
when first needed.
-/

namespace Foreman.Yaml

/-- A place where a simple key may start: whether it still may, whether it must (it stands
where a block mapping needs a key), the number of its first token, and its place. -/
structure SimpleKey where
  possible : Bool := false
  required : Bool := false
  number : Nat := 0
  mark : Mark := {}
  deriving Inhabited

structure Scanner where
  /-- The characters of the text, without a byte order mark at the start. -/
  text : Array Char
  /-- How many characters can be read before the part that holds a character that may not
  stand in YAML. -/
  limit : Nat
  pos : Nat := 0
  mark : Mark := {}
  /-- The line breaks passed since the scanner last looked for a token. -/
  newlines : Nat := 0
  started : Bool := false
  flowLevel : Nat := 0
  /-- The tokens, numbered from 0; those from `taken` on are not yet taken by the parser. -/
  tokens : Array Token := #[]
  /-- How many tokens the parser took. -/
  taken : Nat := 0
  /-- Whether the queue is known to be far enough ahead. -/
  ready : Bool := false
  indent : Int := -1
  indents : List Int := []
  keyAllowed : Bool := false
  /-- The possible simple keys, one for each depth of brackets. -/
  keys : Array SimpleKey := #[]
  /-- Which possible simple key starts at each token number. -/
  keyAt : Array (Option Nat) := #[]
  deriving Inhabited

/-- Scanning steps. -/
abbrev Scan := StateT Scanner (Except Problem)

namespace Scanner

def utf8Size (c : Char) : Nat :=
  if c.toNat < 0x80 then 1 else if c.toNat < 0x800 then 2 else if c.toNat < 0x10000 then 3 else 4

/-- The characters readable before the 512-byte part holding the first character YAML
forbids, or as many as can be asked for without one; `skipped` is the size of a byte order
mark dropped from the start, in the first part. A part ends at the last whole character
within 512 bytes of its start. -/
def readableLimit (cs : Array Char) (skipped : Nat) : Nat :=
  let rec go (i offset partBytes partChars : Nat) : List Char → Nat
    | [] => cs.size + 4096
    | c :: more =>
      let size := utf8Size c
      let (partBytes, partChars) :=
        if offset + size > partBytes + 512 then (offset, i) else (partBytes, partChars)
      if allowedChar c then go (i + 1) (offset + size) partBytes partChars more
      else partChars
  go 0 skipped 0 0 cs.toList

def ofText (text : String) : Scanner :=
  let cs := text.toList
  let (cs, skipped) := match cs with
    | '\uFEFF' :: rest => (rest, 3)
    | _ => (cs, 0)
  let arr := cs.toArray
  { text := arr, limit := readableLimit arr skipped }

/-- The character `k` places after the current one; NUL past the end. -/
def ahead (s : Scanner) (k : Nat) : Char := s.text.getD (s.pos + k) '\x00'

/-- An upper bound on the steps of a loop over the rest of the text. -/
def bound (s : Scanner) : Nat := s.text.size - s.pos + 8

end Scanner

open Scanner

/-- The character `k` places after the current one. -/
def look (k : Nat := 0) : Scan Char := do return (← get).ahead k

/-- Makes sure that `n` characters from the current one can be read: refuses the text when
they reach into the part that holds a character not allowed in YAML. -/
def need (n : Nat) : Scan Unit := do
  let s ← get
  if s.pos + n > s.limit then throw (.reading "control characters are not allowed")

def skip : Scan Unit := modify fun s =>
  { s with pos := s.pos + 1,
           mark := { s.mark with index := s.mark.index + 1, column := s.mark.column + 1 } }

/-- Moves past a line break (a carriage return and a line feed are one). -/
def skipBreak : Scan Unit := modify fun s =>
  if s.ahead 0 == '\r' && s.ahead 1 == '\n' then
    { s with pos := s.pos + 2, mark := ⟨s.mark.index + 2, s.mark.line + 1, 0⟩,
             newlines := s.newlines + 1 }
  else if isBreak (s.ahead 0) then
    { s with pos := s.pos + 1, mark := ⟨s.mark.index + 1, s.mark.line + 1, 0⟩,
             newlines := s.newlines + 1 }
  else s

/-- Moves past the current character and adds it to `acc`. -/
def take (acc : String) : Scan String := do
  let c ← look
  skip
  return acc.push c

/-- Moves past a line break and adds it to `acc`: a line feed for a carriage return, a line
feed, both, or a next line; a line or paragraph separator as it is. -/
def takeBreak (acc : String) : Scan String := do
  let c ← look
  if c == '\u2028' || c == '\u2029' then
    skipBreak
    return acc.push c
  else if isBreak c then
    skipBreak
    return acc.push '\n'
  else return acc

/-- Stops with a problem met while cutting the text into tokens, at the current place. -/
def scanFail {α : Type} (context : String) (contextMark : Mark) (problem : String) : Scan α := do
  throw (.scanning context contextMark problem (← get).mark)

def emit (t : Token) : Scan Unit := modify fun s => { s with tokens := s.tokens.push t }

/-- Puts a token into the queue before the token with the given number. -/
def emitBefore (number : Nat) (t : Token) : Scan Unit := modify fun s =>
  if h : number ≤ s.tokens.size then { s with tokens := s.tokens.insertIdx number t h }
  else { s with tokens := s.tokens.push t }

/-! ## Simple keys -/

def forgetKeyAt (number : Nat) : Scan Unit := modify fun s =>
  { s with keyAt := s.keyAt.modify number fun _ => none }

def noteKeyAt (number i : Nat) : Scan Unit := modify fun s =>
  let grown := s.keyAt ++ Array.replicate (number + 1 - s.keyAt.size) none
  { s with keyAt := grown.modify number fun _ => some i }

/-- Whether the possible simple key at a depth can still be one: it cannot when the
scanner has left its line or gone 1024 characters past it, which is an error for a key that
must be one. -/
def keyStillPossible (i : Nat) : Scan Bool := do
  let s ← get
  let k := s.keys.getD i default
  if !k.possible then return false
  if k.mark.line < s.mark.line || k.mark.index + 1024 < s.mark.index then
    if k.required then scanFail "while scanning a simple key" k.mark "could not find expected ':'"
    set { s with keys := s.keys.modify i fun k => { k with possible := false } }
    return false
  return true

/-- Drops the possible simple key at the current depth; an error if it must be a key. -/
def dropKey : Scan Unit := do
  let s ← get
  let i := s.keys.size - 1
  let k := s.keys.getD i default
  if k.possible then
    if k.required then scanFail "while scanning a simple key" k.mark "could not find expected ':'"
    set { s with keys := s.keys.modify i fun k => { k with possible := false } }
    forgetKeyAt k.number

/-- Notes that a simple key may start at the current place, if one may. -/
def saveKey : Scan Unit := do
  let s ← get
  if s.keyAllowed then
    let k : SimpleKey :=
      { possible := true, required := s.flowLevel == 0 && s.indent == (s.mark.column : Int),
        number := s.tokens.size, mark := s.mark }
    dropKey
    let i := (← get).keys.size - 1
    modify fun s => { s with keys := s.keys.modify i fun _ => k }
    noteKeyAt k.number i

def enterFlow : Scan Unit := do
  modify fun s => { s with keys := s.keys.push { mark := s.mark }, flowLevel := s.flowLevel + 1 }
  let s ← get
  if s.flowLevel > 10000 then
    scanFail "while increasing flow level" s.mark "exceeded max depth of 10000"

def leaveFlow : Scan Unit := do
  let s ← get
  if s.flowLevel > 0 then
    let k := s.keys.getD (s.keys.size - 1) default
    set { s with flowLevel := s.flowLevel - 1, keys := s.keys.pop }
    forgetKeyAt k.number

/-! ## Indentation -/

/-- Opens a block collection at a column deeper than the current indentation: its start
token goes before the token with the given number, or at the end. -/
def rollIndent (column : Nat) (number : Option Nat) (kind : TokenKind) (mark : Mark) :
    Scan Unit := do
  let s ← get
  if s.flowLevel == 0 && s.indent < (column : Int) then
    set { s with indents := s.indent :: s.indents, indent := column }
    if s.indents.length + 1 > 10000 then
      scanFail "while increasing indent level" (s.keys.getD (s.keys.size - 1) default).mark
        "exceeded max depth of 10000"
    let t : Token := ⟨kind, mark, mark⟩
    match number with
    | some n => emitBefore n t
    | none => emit t

/-- Closes the block collections deeper than a column, each with an end token placed just
before `scanMark`. -/
def unrollIndent (column : Int) (scanMark : Mark) : Scan Unit := do
  let s ← get
  if s.flowLevel == 0 then
    let place := { scanMark with index := scanMark.index - 1 }
    for _ in [0:s.indents.length + 1] do
      let s ← get
      match s.indents with
      | i :: rest =>
        if s.indent > column then
          set { s with indent := i, indents := rest, tokens := s.tokens.push ⟨.blockEnd, place, place⟩ }
        else break
      | [] => break

/-! ## Comments and blanks -/

/-- Moves past the characters before `seen` and then to the end of the line. -/
def skipCommentLine (seen : Nat) : Scan Unit := do
  for _ in [0:(← get).bound] do
    need 1
    let s ← get
    if isBreakOrEnd (s.ahead 0) then
      if s.mark.index ≥ seen then break
      need 2
      skipBreak
    else skip

/-- Moves past a run of comment lines, with the blank lines between them, up to the end of
the last of them; looks at most 512 characters past the end of each. -/
def skipComments : Scan Unit := do
  let mut peek := 0
  for _ in [0:513 * (← get).bound] do
    if peek ≥ 512 then break
    need (peek + 1)
    let s ← get
    let c := s.ahead peek
    if isBlank c then
      peek := peek + 1
      continue
    if (s.flowLevel > 0 && (c == ']' || c == '}')) || isBreakOrEnd c then
      if !isBreak c then break
      peek := peek + 1
      continue
    if c != '#' then break
    skipCommentLine (s.mark.index + peek)
    peek := 1

/-- Moves past a comment that follows a token on its line, with the blanks before it. -/
def skipLineComment : Scan Unit := do
  if (← get).newlines == 0 then
    for peek in [0:512] do
      need (peek + 1)
      let s ← get
      let c := s.ahead peek
      if isBlank c then continue
      if c == '#' then skipCommentLine (s.mark.index + peek)
      break

/-- Moves past blanks, comments and line breaks to the next token. A tab is passed over
only within brackets or where no simple key may start: at the start of a line, or after
`-`, `?` or a `:` that ends no simple key, it cannot stand. -/
def skipToToken : Scan Unit := do
  modify fun s => { s with newlines := 0 }
  for _ in [0:(← get).bound] do
    need 1
    let s ← get
    if s.mark.column == 0 && s.ahead 0 == '\uFEFF' then skip
    need 1
    for _ in [0:(← get).bound] do
      let s ← get
      let c := s.ahead 0
      if c == ' ' || ((s.flowLevel > 0 || !s.keyAllowed) && c == '\t') then
        skip
        need 1
      else break
    if (← look) == '#' then skipComments
    let s ← get
    if isBreak (s.ahead 0) then
      need 2
      skipBreak
      if s.flowLevel == 0 then modify fun s => { s with keyAllowed := true }
    else break

/-! ## Directives -/

def skipBlanks : Scan Unit := do
  for _ in [0:(← get).bound] do
    if isBlank (← look) then
      skip
      need 1
    else break

def takeWord (acc : String) : Scan String := do
  let mut acc := acc
  for _ in [0:(← get).bound] do
    if isWordChar (← look) then
      acc ← take acc
      need 1
    else break
  return acc

def directiveName (start : Mark) : Scan String := do
  need 1
  let name ← takeWord ""
  if name.isEmpty then
    scanFail "while scanning a directive" start "could not find expected directive name"
  if !isGap (← look) then
    scanFail "while scanning a directive" start "found unexpected non-alphabetical character"
  return name

def versionNumber (start : Mark) : Scan Nat := do
  need 1
  let mut value := 0
  let mut length := 0
  for _ in [0:3] do
    let c ← look
    if !isDecimal c then break
    length := length + 1
    if length > 2 then
      scanFail "while scanning a %YAML directive" start "found extremely long version number"
    value := value * 10 + (c.toNat - 48)
    skip
    need 1
  if length == 0 then
    scanFail "while scanning a %YAML directive" start "did not find expected version number"
  return value

def versionValue (start : Mark) : Scan (Nat × Nat) := do
  need 1
  skipBlanks
  let major ← versionNumber start
  if (← look) != '.' then
    scanFail "while scanning a %YAML directive" start "did not find expected digit or '.' character"
  skip
  let minor ← versionNumber start
  return (major, minor)

def tagFail {α : Type} (directive : Bool) (start : Mark) (problem : String) : Scan α :=
  scanFail (if directive then "while parsing a %TAG directive" else "while parsing a tag") start
    problem

/-- Reads a tag handle: `!`, then name characters, then `!` if there is one (in a
directive there must be, unless the handle is `!` alone). -/
def tagHandle (directive : Bool) (start : Mark) : Scan String := do
  need 1
  if (← look) != '!' then tagFail directive start "did not find expected '!'"
  let mut s ← take ""
  need 1
  s ← takeWord s
  if (← look) == '!' then s ← take s
  else if directive && s != "!" then tagFail directive start "did not find expected '!'"
  return s

/-- The byte count of a UTF-8 sequence from its first byte; 0 for a byte that cannot
start one. -/
def sequenceWidth (b : Nat) : Nat :=
  if b < 0x80 then 1
  else if b &&& 0xE0 == 0xC0 then 2
  else if b &&& 0xF0 == 0xE0 then 3
  else if b &&& 0xF8 == 0xF0 then 4
  else 0

def uriEscapes (directive : Bool) (start : Mark) (acc : String) : Scan String := do
  let mut width := 0
  let mut bytes : ByteArray := ByteArray.empty
  for i in [0:4] do
    need 3
    let s ← get
    if !(s.ahead 0 == '%' && isHexDigit (s.ahead 1) && isHexDigit (s.ahead 2)) then
      tagFail directive start "did not find URI escaped octet"
    let octet := hexValue (s.ahead 1) * 16 + hexValue (s.ahead 2)
    if i == 0 then
      width := sequenceWidth octet
      if width == 0 then tagFail directive start "found an incorrect leading UTF-8 octet"
    else if octet &&& 0xC0 != 0x80 then
      tagFail directive start "found an incorrect trailing UTF-8 octet"
    bytes := bytes.push octet.toUInt8
    skip
    skip
    skip
    if i + 1 == width then break
  return acc ++ (String.fromUTF8? bytes).getD "\uFFFD"

/-- Reads the URI part of a tag, after `head` without its first character. -/
def tagUri (directive : Bool) (head : String) (start : Mark) : Scan String := do
  let mut s := if head.length > 1 then String.ofList (head.toList.drop 1) else ""
  let mut found := !head.isEmpty
  need 1
  for _ in [0:(← get).bound] do
    let c ← look
    if !isUriChar c then break
    if c == '%' then s ← uriEscapes directive start s
    else s ← take s
    need 1
    found := true
  if !found then tagFail directive start "did not find expected tag URI"
  return s

def tagDirectiveValue (start : Mark) : Scan (String × String) := do
  need 1
  skipBlanks
  let handle ← tagHandle true start
  need 1
  if !isBlank (← look) then
    scanFail "while scanning a %TAG directive" start "did not find expected whitespace"
  skipBlanks
  let pfx ← tagUri true "" start
  need 1
  if !isGap (← look) then
    scanFail "while scanning a %TAG directive" start "did not find expected whitespace or line break"
  return (handle, pfx)

def scanDirective : Scan Token := do
  let start := (← get).mark
  skip
  let name ← directiveName start
  let kind ←
    if name == "YAML" then do
      let (major, minor) ← versionValue start
      pure (TokenKind.versionDirective major minor)
    else if name == "TAG" then do
      let (handle, pfx) ← tagDirectiveValue start
      pure (TokenKind.tagDirective handle pfx)
    else scanFail "while scanning a directive" start "found unknown directive name"
  let stop := (← get).mark
  need 1
  skipBlanks
  if (← look) == '#' then
    for _ in [0:(← get).bound] do
      if isBreakOrEnd (← look) then break
      skip
      need 1
  if !isBreakOrEnd (← look) then
    scanFail "while scanning a directive" start "did not find expected comment or line break"
  if isBreak (← look) then
    need 2
    skipBreak
  return ⟨kind, start, stop⟩

/-! ## Anchors and tags -/

def scanAnchor (isAlias : Bool) : Scan Token := do
  let start := (← get).mark
  skip
  need 1
  let name ← takeWord ""
  let stop := (← get).mark
  let c ← look
  if name.isEmpty || !(isGap c || "?:,]\x7d%@`".contains c) then
    scanFail (if isAlias then "while scanning an alias" else "while scanning an anchor") start
      "did not find expected alphabetic or numeric character"
  return ⟨if isAlias then .aliasOf name else .anchor name, start, stop⟩

/-- Reads a tag: verbatim (`!<uri>`), with a handle (`!!suffix`, `!name!suffix`), local
(`!suffix`), or `!` alone. -/
def scanTag : Scan Token := do
  let start := (← get).mark
  need 2
  let (handle, suffix) ←
    if (← look 1) == '<' then do
      skip
      skip
      let suffix ← tagUri false "" start
      if (← look) != '>' then scanFail "while scanning a tag" start "did not find the expected '>'"
      skip
      pure ("", suffix)
    else do
      let handle ← tagHandle false start
      if handle.length > 1 && handle.back == '!' then
        let suffix ← tagUri false "" start
        pure (handle, suffix)
      else
        let suffix ← tagUri false handle start
        if suffix.isEmpty then pure ("", "!") else pure ("!", suffix)
  need 1
  let c ← look
  if !isGap c && ((← get).flowLevel == 0 || c != ',') then
    scanFail "while scanning a tag" start "did not find expected whitespace or line break"
  return ⟨.tag handle suffix, start, (← get).mark⟩

/-! ## Block scalars -/

/-- Moves past the indentation and empty lines before a block scalar's line, keeping the
breaks. With no indentation known yet it becomes the deepest of those lines, at least one more
than the enclosing block. Returns the indentation, breaks and the place after the last break. -/
def blockBreaks (indent : Nat) (breaks : String) (start : Mark) : Scan (Nat × String × Mark) := do
  let mut stop := (← get).mark
  let mut deepest := 0
  let mut breaks := breaks
  for _ in [0:(← get).bound] do
    need 1
    for _ in [0:(← get).bound] do
      let s ← get
      if (indent == 0 || s.mark.column < indent) && s.ahead 0 == ' ' then
        skip
        need 1
      else break
    let s ← get
    if s.mark.column > deepest then deepest := s.mark.column
    if (indent == 0 || s.mark.column < indent) && s.ahead 0 == '\t' then
      scanFail "while scanning a block scalar" start
        "found a tab character where an indentation space is expected"
    if !isBreak (s.ahead 0) then break
    need 2
    breaks ← takeBreak breaks
    stop := (← get).mark
  let mut indent := indent
  if indent == 0 then
    let outer := (← get).indent
    indent := max (max deepest (outer + 1).toNat) 1
  return (indent, breaks, stop)

/-- Reads a literal (`|`) or folded (`>`) block scalar, with its indicators: chomping (`-`
drops the final line break, `+` keeps the trailing empty lines) and the indentation. -/
def scanBlockScalar (literal : Bool) : Scan Token := do
  let start := (← get).mark
  skip
  need 1
  let mut chomping : Int := 0
  let mut increment := 0
  let c ← look
  if c == '+' || c == '-' then
    chomping := if c == '+' then 1 else -1
    skip
    need 1
    let d ← look
    if isDecimal d then
      if d == '0' then
        scanFail "while scanning a block scalar" start "found an indentation indicator equal to 0"
      increment := d.toNat - 48
      skip
  else if isDecimal c then
    if c == '0' then
      scanFail "while scanning a block scalar" start "found an indentation indicator equal to 0"
    increment := c.toNat - 48
    skip
    need 1
    let d ← look
    if d == '+' || d == '-' then
      chomping := if d == '+' then 1 else -1
      skip
  need 1
  skipBlanks
  if (← look) == '#' then
    for _ in [0:(← get).bound] do
      if isBreakOrEnd (← look) then break
      skip
      need 1
  if !isBreakOrEnd (← look) then
    scanFail "while scanning a block scalar" start "did not find expected comment or line break"
  if isBreak (← look) then
    need 2
    skipBreak
  let outer := (← get).indent
  let indent0 : Nat :=
    if increment > 0 then (if outer ≥ 0 then (outer + increment).toNat else increment) else 0
  let (indent, trailing0, stop0) ← blockBreaks indent0 "" start
  let mut stop := stop0
  let mut trailing := trailing0
  need 1
  let mut s := ""
  let mut leadingBreak := ""
  let mut leadingBlank := false
  for _ in [0:(← get).bound] do
    let st ← get
    if !(st.mark.column == indent && !isEnd (st.ahead 0)) then break
    let trailingBlank := isBlank (st.ahead 0)
    if !literal && !leadingBlank && !trailingBlank && leadingBreak.front == '\n' &&
        !leadingBreak.isEmpty then
      if trailing.isEmpty then s := s.push ' '
    else s := s ++ leadingBreak
    leadingBreak := ""
    s := s ++ trailing
    trailing := ""
    leadingBlank := isBlank (st.ahead 0)
    for _ in [0:(← get).bound] do
      if isBreakOrEnd (← look) then break
      s ← take s
      need 1
    need 2
    leadingBreak ← takeBreak leadingBreak
    let (_, t, e) ← blockBreaks indent trailing start
    trailing := t
    stop := e
  if chomping != -1 then s := s ++ leadingBreak
  if chomping == 1 then s := s ++ trailing
  return ⟨.scalar s (if literal then .literal else .folded), start, stop⟩

/-! ## Quoted scalars -/

/-- Whether the scanner stands at a document marker (`---` or `...` at the start of a line
and followed by a gap). -/
def atDocumentMarker : Scan Bool := do
  let s ← get
  let a := s.ahead 0
  return s.mark.column == 0 &&
    ((a == '-' && s.ahead 1 == '-' && s.ahead 2 == '-') ||
      (a == '.' && s.ahead 1 == '.' && s.ahead 2 == '.')) &&
    isGap (s.ahead 3)

/-- The character a one-letter escape of a double-quoted scalar stands for. -/
def escaped? (c : Char) : Option Char :=
  match c with
  | '0' => some '\x00'
  | 'a' => some '\x07'
  | 'b' => some '\x08'
  | 't' => some '\t'
  | '\t' => some '\t'
  | 'n' => some '\n'
  | 'v' => some '\x0b'
  | 'f' => some '\x0c'
  | 'r' => some '\r'
  | 'e' => some '\x1b'
  | ' ' => some ' '
  | '"' => some '"'
  | '/' => some '/'
  | '\'' => some '\''
  | '\\' => some '\\'
  | 'N' => some '\u0085'
  | '_' => some '\u00A0'
  | 'L' => some '\u2028'
  | 'P' => some '\u2029'
  | _ => none

/-- Reads an escape of a double-quoted scalar after its backslash: a letter, or `x`, `u`
or `U` with two, four or eight hexadecimal digits naming a character. -/
def takeEscape (start : Mark) (acc : String) : Scan String := do
  let e ← look 1
  let length := if e == 'x' then 2 else if e == 'u' then 4 else if e == 'U' then 8 else 0
  let acc ←
    if length > 0 then pure acc
    else match escaped? e with
      | some c => pure (acc.push c)
      | none => scanFail "while parsing a quoted scalar" start "found unknown escape character"
  skip
  skip
  if length == 0 then return acc
  need length
  let s ← get
  let mut value := 0
  for k in [0:length] do
    let d := s.ahead k
    if !isHexDigit d then
      scanFail "while parsing a quoted scalar" start "did not find expected hexdecimal number"
    value := value * 16 + hexValue d
  if (0xD800 ≤ value && value ≤ 0xDFFF) || value > 0x10FFFF then
    scanFail "while parsing a quoted scalar" start "found invalid Unicode character escape code"
  for _ in [0:length] do skip
  return acc.push (Char.ofNat value)

/-- Reads a single- or double-quoted scalar. A line break inside is folded: one break
becomes a space, and each further one a line feed; blanks around breaks are dropped. In
double quotes a backslash before a break joins the lines. -/
def scanFlowScalar (single : Bool) : Scan Token := do
  let start := (← get).mark
  skip
  let mut s := ""
  let mut leadingBreak := ""
  let mut trailing := ""
  let mut spaces := ""
  for _ in [0:(← get).bound] do
    need 4
    if ← atDocumentMarker then
      scanFail "while scanning a quoted scalar" start "found unexpected document indicator"
    if isEnd (← look) then
      scanFail "while scanning a quoted scalar" start "found unexpected end of stream"
    let mut leadingBlanks := false
    for _ in [0:(← get).bound] do
      let st ← get
      let c := st.ahead 0
      if isGap c then break
      if single && c == '\'' && st.ahead 1 == '\'' then
        s := s.push '\''
        skip
        skip
      else if single && c == '\'' then break
      else if !single && c == '"' then break
      else if !single && c == '\\' && isBreak (st.ahead 1) then
        need 3
        skip
        skipBreak
        leadingBlanks := true
        break
      else if !single && c == '\\' then
        s ← takeEscape start s
      else
        s ← take s
      need 2
    need 1
    let c ← look
    if (single && c == '\'') || (!single && c == '"') then break
    for _ in [0:(← get).bound] do
      let c ← look
      if !(isBlank c || isBreak c) then break
      if isBlank c then
        if !leadingBlanks then spaces ← take spaces else skip
      else
        need 2
        if !leadingBlanks then
          spaces := ""
          leadingBreak ← takeBreak leadingBreak
          leadingBlanks := true
        else trailing ← takeBreak trailing
      need 1
    if leadingBlanks then
      if leadingBreak.front == '\n' && !leadingBreak.isEmpty then
        if trailing.isEmpty then s := s.push ' ' else s := s ++ trailing
      else s := s ++ leadingBreak ++ trailing
      trailing := ""
      leadingBreak := ""
    else
      s := s ++ spaces
      spaces := ""
  skip
  return ⟨.scalar s (if single then .singleQuoted else .doubleQuoted), start, (← get).mark⟩

/-! ## Plain scalars -/

/-- Reads a plain scalar. It ends at `: ` or ` #`, within brackets at `,?[]{}`, at a
document marker, and in a block where a line is indented no deeper than the enclosing block.
Lines are folded as in quoted scalars. -/
def scanPlainScalar : Scan Token := do
  let st0 ← get
  let indent : Int := st0.indent + 1
  let start := st0.mark
  let mut stop := st0.mark
  let mut s := ""
  let mut leadingBreak := ""
  let mut trailing := ""
  let mut spaces := ""
  let mut leadingBlanks := false
  for _ in [0:(← get).bound] do
    need 4
    if ← atDocumentMarker then break
    if (← look) == '#' then break
    for _ in [0:(← get).bound] do
      let st ← get
      let c := st.ahead 0
      if isGap c then break
      if (c == ':' && isGap (st.ahead 1)) || (st.flowLevel > 0 && ",?[]\x7b\x7d".contains c) then break
      if leadingBlanks || !spaces.isEmpty then
        if leadingBlanks then
          if leadingBreak.front == '\n' && !leadingBreak.isEmpty then
            if trailing.isEmpty then s := s.push ' ' else s := s ++ trailing
          else s := s ++ leadingBreak ++ trailing
          trailing := ""
          leadingBreak := ""
          leadingBlanks := false
        else
          s := s ++ spaces
          spaces := ""
      s ← take s
      stop := (← get).mark
      need 2
    let c ← look
    if !(isBlank c || isBreak c) then break
    need 1
    for _ in [0:(← get).bound] do
      let st ← get
      let c := st.ahead 0
      if !(isBlank c || isBreak c) then break
      if isBlank c then
        if leadingBlanks && (st.mark.column : Int) < indent && c == '\t' then
          scanFail "while scanning a plain scalar" start "found a tab character that violates indentation"
        if !leadingBlanks then spaces ← take spaces else skip
      else
        need 2
        if !leadingBlanks then
          spaces := ""
          leadingBreak ← takeBreak leadingBreak
          leadingBlanks := true
        else trailing ← takeBreak trailing
      need 1
    let st ← get
    if st.flowLevel == 0 && (st.mark.column : Int) < indent then break
  if leadingBlanks then modify fun s => { s with keyAllowed := true }
  return ⟨.scalar s .plain, start, stop⟩

/-! ## Tokens -/

def indicator (kind : TokenKind) : Scan Unit := do
  let start := (← get).mark
  skip
  emit ⟨kind, start, (← get).mark⟩

def streamStart : Scan Unit := modify fun s =>
  { s with indent := -1, keys := s.keys.push {}, keyAt := #[], keyAllowed := true,
           started := true, tokens := s.tokens.push ⟨.streamStart, s.mark, s.mark⟩ }

/-- The end of the stream, on a line of its own: every block is closed. -/
def streamEnd : Scan Unit := do
  modify fun s =>
    if s.mark.column != 0 then { s with mark := { s.mark with column := 0, line := s.mark.line + 1 } }
    else s
  unrollIndent (-1) (← get).mark
  dropKey
  modify fun s => { s with keyAllowed := false, tokens := s.tokens.push ⟨.streamEnd, s.mark, s.mark⟩ }

def documentMarker (kind : TokenKind) : Scan Unit := do
  unrollIndent (-1) (← get).mark
  dropKey
  modify fun s => { s with keyAllowed := false }
  let start := (← get).mark
  skip
  skip
  skip
  emit ⟨kind, start, (← get).mark⟩

/-- A `:`, which ends a simple key if one is possible (its key token, and the start of its
block mapping, go before it), and else follows a `?` key or none. -/
def valueIndicator : Scan Unit := do
  let s ← get
  let i := s.keys.size - 1
  let k := s.keys.getD i default
  if ← keyStillPossible i then
    emitBefore k.number ⟨.key, k.mark, k.mark⟩
    rollIndent k.mark.column (some k.number) .blockMappingStart k.mark
    modify fun s => { s with keys := s.keys.modify i fun k => { k with possible := false },
                             keyAllowed := false }
    forgetKeyAt k.number
  else
    let s ← get
    if s.flowLevel == 0 then
      if !s.keyAllowed then scanFail "" s.mark "mapping values are not allowed in this context"
      rollIndent s.mark.column none .blockMappingStart s.mark
    modify fun s => { s with keyAllowed := s.flowLevel == 0 }
  indicator .value

/-- Whether a character starts a plain scalar, given the next one. -/
def startsPlain (flow : Bool) (c next : Char) : Bool :=
  !(isGap c || "-?:,[]\x7b\x7d#&*!|>'\"%@`".contains c) ||
    (c == '-' && !isBlank next) ||
    (!flow && (c == '?' || c == ':') && !isGap next)

/-- The token at the current place, after the blanks before it: brackets, entries, keys,
values, anchors, aliases, tags and scalars. -/
def content : Scan Unit := do
  let s ← get
  let c := s.ahead 0
  let next := s.ahead 1
  let flow := s.flowLevel > 0
  if c == '[' || c == '{' then
    saveKey
    enterFlow
    modify fun s => { s with keyAllowed := true }
    indicator (if c == '[' then .flowSequenceStart else .flowMappingStart)
  else if c == ']' || c == '}' then
    dropKey
    leaveFlow
    modify fun s => { s with keyAllowed := false }
    indicator (if c == ']' then .flowSequenceEnd else .flowMappingEnd)
  else if c == ',' then
    dropKey
    modify fun s => { s with keyAllowed := true }
    indicator .flowEntry
  else if c == '-' && isGap next then
    if !flow then
      if !s.keyAllowed then scanFail "" s.mark "block sequence entries are not allowed in this context"
      rollIndent s.mark.column none .blockSequenceStart s.mark
    dropKey
    modify fun s => { s with keyAllowed := true }
    indicator .blockEntry
  else if c == '?' && (flow || isGap next) then
    if !flow then
      if !s.keyAllowed then scanFail "" s.mark "mapping keys are not allowed in this context"
      rollIndent s.mark.column none .blockMappingStart s.mark
    dropKey
    modify fun s => { s with keyAllowed := !flow }
    indicator .key
  else if c == ':' && (flow || isGap next) then valueIndicator
  else if c == '*' || c == '&' then
    saveKey
    modify fun s => { s with keyAllowed := false }
    emit (← scanAnchor (c == '*'))
  else if c == '!' then
    saveKey
    modify fun s => { s with keyAllowed := false }
    emit (← scanTag)
  else if (c == '|' || c == '>') && !flow then
    dropKey
    modify fun s => { s with keyAllowed := true }
    emit (← scanBlockScalar (c == '|'))
  else if c == '\'' || c == '"' then
    saveKey
    modify fun s => { s with keyAllowed := false }
    emit (← scanFlowScalar (c == '\''))
  else if startsPlain flow c next then
    saveKey
    modify fun s => { s with keyAllowed := false }
    emit (← scanPlainScalar)
  else scanFail "while scanning for the next token" s.mark "found character that cannot start any token"

def fetchToken : Scan Unit := do
  need 1
  if !(← get).started then
    streamStart
    return
  let scanMark := (← get).mark
  skipToToken
  unrollIndent (← get).mark.column scanMark
  need 4
  let s ← get
  let c := s.ahead 0
  if isEnd c then streamEnd
  else if s.mark.column == 0 && c == '%' then
    unrollIndent (-1) s.mark
    dropKey
    modify fun s => { s with keyAllowed := false }
    emit (← scanDirective)
  else if s.mark.column == 0 && c == '-' && s.ahead 1 == '-' && s.ahead 2 == '-' && isGap (s.ahead 3) then
    documentMarker .documentStart
  else if s.mark.column == 0 && c == '.' && s.ahead 1 == '.' && s.ahead 2 == '.' && isGap (s.ahead 3) then
    documentMarker .documentEnd
  else
    content
    let last := (← get).tokens.back?.map (·.kind)
    if last != some .blockEntry then skipLineComment

/-- Fills the queue until it holds three tokens and the first of them cannot be a simple
key any more. -/
def fetchAhead : Scan Unit := do
  for _ in [0:4 * (← get).text.size + 64] do
    let s ← get
    if s.tokens.size ≥ s.taken + 3 then
      match s.keyAt.getD s.taken none with
      | none => break
      | some i => if !(← keyStillPossible i) then break
    fetchToken
  modify fun s => { s with ready := true }

end Foreman.Yaml
