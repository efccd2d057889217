/-!
# YAML tokens

A YAML text is first cut into tokens: structure indicators (stream and document starts and
ends, block collection starts and ends, brackets, entry, key and value indicators), anchors,
aliases, tags and scalars, each with its start and stop. Block collections' starts and ends
are tokens put in from the indentation. A place (`Mark`) counts characters, lines and columns
from 0. A text that is not YAML is refused with a `Problem`: what was being read (the context
and its place) and what went wrong (with its place). A problem found reading characters names
the line after the one it counts, one found assembling tokens the line as counted; the
context's place wins when it is not on the first line.
-/

namespace Foreman.Yaml

/-- A place in a YAML text: the characters before it, its line and its column, from 0. -/
structure Mark where
  index : Nat := 0
  line : Nat := 0
  column : Nat := 0
  deriving Inhabited, BEq

/-- How a scalar is written: plain, in single or double quotes, or as a literal (`|`) or
folded (`>`) block. -/
inductive ScalarStyle where
  | plain
  | singleQuoted
  | doubleQuoted
  | literal
  | folded
  deriving Inhabited, BEq

inductive TokenKind where
  | streamStart
  | streamEnd
  /-- A `%YAML` directive with its version. -/
  | versionDirective (major minor : Nat)
  /-- A `%TAG` directive: a handle and the prefix it stands for. -/
  | tagDirective (handle pfx : String)
  | documentStart
  | documentEnd
  | blockSequenceStart
  | blockMappingStart
  | blockEnd
  | flowSequenceStart
  | flowSequenceEnd
  | flowMappingStart
  | flowMappingEnd
  | blockEntry
  | flowEntry
  | key
  | value
  | aliasOf (name : String)
  | anchor (name : String)
  /-- A tag: its handle (empty for a verbatim tag) and its suffix. -/
  | tag (handle suffix : String)
  | scalar (text : String) (style : ScalarStyle)
  deriving Inhabited, BEq

structure Token where
  kind : TokenKind
  start : Mark
  stop : Mark
  deriving Inhabited

inductive Problem where
  /-- A character that may not stand in a YAML text. -/
  | reading (problem : String)
  /-- A problem met while cutting the text into tokens. -/
  | scanning (context : String) (contextMark : Mark) (problem : String) (problemMark : Mark)
  /-- A problem met while putting tokens together. -/
  | parsing (context : String) (contextMark : Mark) (problem : String) (problemMark : Mark)
  deriving Inhabited

namespace Problem

/-- The line a problem is reported on, 0 for none: the line of the context unless that is
the first, else the line of the problem; counted from 1 for a problem met while cutting
the text into tokens. -/
def line : Problem → Nat
  | .reading _ => 0
  | .scanning _ c _ p =>
    if c.line != 0 then c.line + 1 else if p.line != 0 then p.line + 1 else 0
  | .parsing _ c _ p => if c.line != 0 then c.line else p.line

def text : Problem → String
  | .reading p => p
  | .scanning _ _ p _ => p
  | .parsing _ _ p _ => p

end Problem

/-! ## Classes of characters -/

def isWordChar (c : Char) : Bool :=
  ('0' ≤ c && c ≤ '9') || ('A' ≤ c && c ≤ 'Z') || ('a' ≤ c && c ≤ 'z') || c == '_' || c == '-'

def isDecimal (c : Char) : Bool := '0' ≤ c && c ≤ '9'

def isHexDigit (c : Char) : Bool :=
  isDecimal c || ('A' ≤ c && c ≤ 'F') || ('a' ≤ c && c ≤ 'f')

def hexValue (c : Char) : Nat :=
  if 'A' ≤ c && c ≤ 'F' then c.toNat - 55
  else if 'a' ≤ c && c ≤ 'f' then c.toNat - 87
  else c.toNat - 48

def isBlank (c : Char) : Bool := c == ' ' || c == '\t'

/-- A line break: carriage return, line feed, next line, line or paragraph separator. -/
def isBreak (c : Char) : Bool :=
  c == '\r' || c == '\n' || c == '\u0085' || c == '\u2028' || c == '\u2029'

def isEnd (c : Char) : Bool := c == '\x00'

def isBreakOrEnd (c : Char) : Bool := isBreak c || isEnd c

def isGap (c : Char) : Bool := isBlank c || isBreakOrEnd c

/-- Whether a character may stand in a YAML text: tab, line feed, carriage return, the
printable ASCII characters, next line, and the rest of Unicode but the surrogates and the
two noncharacters at the end of the first plane. -/
def allowedChar (c : Char) : Bool :=
  let n := c.toNat
  n == 0x09 || n == 0x0A || n == 0x0D || (0x20 ≤ n && n ≤ 0x7E) || n == 0x85 ||
    (0xA0 ≤ n && n ≤ 0xD7FF) || (0xE000 ≤ n && n ≤ 0xFFFD) || 0x10000 ≤ n

/-- Whether a character may stand in a tag: a URI character or `%`. -/
def isUriChar (c : Char) : Bool :=
  isWordChar c || ";/?:@&=+$,.!~*'()[]%".contains c

end Foreman.Yaml
