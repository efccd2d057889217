import Foreman.Sql.Value

/-!
# Where a JSON text goes wrong

`json_error_position` is 0 for a JSON5 document, else the character position from 1 where
the reader gave up. The reader walks bytes by offset, byte 0 standing for the end (past the
last byte or at a NUL). Reading an element gives the offset after it, the end, a failure, or
a mark `}`, `]`, `,` or `:`, read by a container where an element could stand. It notes an
offset at whatever it cannot take, each mark its own; a failure keeps the last noted, maybe
deeper in the text. A document followed by anything but blanks fails with the last noted
offset, 0 when none.
-/

namespace Foreman.Sql

namespace JsonScan

/-- What reading one element found: the element (whether it is a string or a name, which
may name an object's member) and the offset after it, the end of the text, a failure, or a
mark. -/
inductive Step where
  | element (text : Bool) (next : Nat)
  | finished
  | failed
  | mark (c : UInt8)
  deriving Inhabited, BEq

/-- The reading, with the offset noted last. -/
abbrev Scan := StateM Nat

def byteAt (z : Array UInt8) (k : Nat) : UInt8 := z.getD k 0

def isDigit (b : UInt8) : Bool := 48 ≤ b && b ≤ 57

def isHex (b : UInt8) : Bool := isDigit b || (97 ≤ b && b ≤ 102) || (65 ≤ b && b ≤ 70)

def isLetter (b : UInt8) : Bool := (97 ≤ b && b ≤ 122) || (65 ≤ b && b ≤ 90)

def isAlnum (b : UInt8) : Bool := isLetter b || isDigit b

/-- A byte that may start a member name without quotes: a letter, `_`, `$`, or a byte of
a character beyond ASCII. -/
def nameStart (b : UInt8) : Bool := isLetter b || b == 95 || b == 36 || b ≥ 128

def namePart (b : UInt8) : Bool := nameStart b || isDigit b

/-- The blanks of strict JSON: space, tab, line feed and carriage return. -/
def isBlank (b : UInt8) : Bool := b == 32 || b == 9 || b == 10 || b == 13

def hexDigitsAt (z : Array UInt8) (k n : Nat) : Bool := (List.range n).all fun d => isHex (byteAt z (k + d))

/-- Whether the bytes at an offset spell a word, in any case of ASCII letters. -/
def spellsAt (z : Array UInt8) (k : Nat) (word : String) : Bool :=
  let lower (b : UInt8) : UInt8 := if 65 ≤ b && b ≤ 90 then b + 32 else b
  word.toUTF8.toList.zipIdx.all fun (w, d) => lower (byteAt z (k + d)) == lower w

def skipBlanks (z : Array UInt8) : Nat → Nat → Nat
  | 0, k => k
  | fuel + 1, k => if isBlank (byteAt z k) then skipBlanks z fuel (k + 1) else k

/-- The offset after a block comment whose body starts at `j`: after the first `*/`, none
when the text ends first. -/
def blockEnd (z : Array UInt8) : Nat → Nat → Option Nat
  | 0, _ => none
  | fuel + 1, j =>
    if byteAt z j == 47 && byteAt z (j - 1) == 42 then some (j + 1)
    else if byteAt z j == 0 then none
    else blockEnd z fuel (j + 1)

/-- The offset where a line comment whose body starts at `j` stops: at a line feed or a
carriage return, after a line or paragraph separator, or at the end of the text. -/
def lineStop (z : Array UInt8) : Nat → Nat → Nat
  | 0, j => j
  | fuel + 1, j =>
    let c := byteAt z j
    if c == 0 || c == 10 || c == 13 then j
    else if c == 0xe2 && byteAt z (j + 1) == 0x80 && (byteAt z (j + 2) == 0xa8 || byteAt z (j + 2) == 0xa9) then
      j + 2
    else lineStop z fuel (j + 1)

/-- The offset after the JSON5 blanks and comments from `n`: the blanks of strict JSON,
vertical tab and form feed, comments, and the blanks of Unicode beyond ASCII. -/
def skipLoose (z : Array UInt8) : Nat → Nat → Nat
  | 0, n => n
  | fuel + 1, n =>
    let at1 := byteAt z (n + 1)
    let at2 := byteAt z (n + 2)
    match byteAt z n with
    | 9 | 10 | 11 | 12 | 13 | 32 => skipLoose z fuel (n + 1)
    | 47 =>
      if at1 == 42 && at2 != 0 then
        match blockEnd z z.size (n + 3) with
        | some e => skipLoose z fuel e
        | none => n
      else if at1 == 47 then
        let j := lineStop z z.size (n + 2)
        skipLoose z fuel (if byteAt z j != 0 then j + 1 else j)
      else n
    | 0xc2 => if at1 == 0xa0 then skipLoose z fuel (n + 2) else n
    | 0xe1 => if at1 == 0x9a && at2 == 0x80 then skipLoose z fuel (n + 3) else n
    | 0xe2 =>
      if at1 == 0x80 then
        if at2 < 0x80 then n
        else if at2 ≤ 0x8a || at2 == 0xa8 || at2 == 0xa9 || at2 == 0xaf then skipLoose z fuel (n + 3)
        else n
      else if at1 == 0x81 && at2 == 0x9f then skipLoose z fuel (n + 3)
      else n
    | 0xe3 => if at1 == 0x80 && at2 == 0x80 then skipLoose z fuel (n + 3) else n
    | 0xef => if at1 == 0xbb && at2 == 0xbf then skipLoose z fuel (n + 3) else n
    | _ => n

def failAt (k : Nat) : Scan Step := do
  set k
  return .failed

/-- Reads the rest of a string whose delimiter is `delim`, from `j`: the offset after the
closing delimiter, or a failure at a bad escape or at the end of the text. -/
def string (z : Array UInt8) (delim : UInt8) : Nat → Nat → Scan Step
  | 0, j => failAt j
  | fuel + 1, j => do
    let c := byteAt z j
    if c == delim then return .element true (j + 1)
    if c == 92 then
      let j := j + 1
      let e := byteAt z j
      let next := byteAt z (j + 1)
      let plain := [34, 92, 47, 98, 102, 110, 114, 116].contains e || (e == 117 && hexDigitsAt z (j + 1) 4)
      let loose := e == 39 || e == 118 || e == 10 || (e == 48 && !isDigit next) ||
        (e == 0xe2 && next == 0x80 && (byteAt z (j + 2) == 0xa8 || byteAt z (j + 2) == 0xa9)) ||
        (e == 120 && hexDigitsAt z (j + 1) 2)
      if plain || loose then string z delim fuel (j + 1)
      else if e == 13 then string z delim fuel (if next == 10 then j + 2 else j + 1)
      else failAt j
    else if c == 0 then failAt j
    else string z delim fuel (j + 1)

def hexEnd (z : Array UInt8) : Nat → Nat → Nat
  | 0, j => j
  | fuel + 1, j => if isHex (byteAt z j) then hexEnd z fuel (j + 1) else j

/-- Reads the digits, point and exponent of a number that starts at `i`, from `j`;
`point` when a point was read, `exponent` when an exponent was. -/
def digits (z : Array UInt8) (i : Nat) : Nat → Nat → Bool → Bool → Scan Step
  | 0, j, _, _ => failAt j
  | fuel + 1, j, point, exponent => do
    let c := byteAt z j
    let before := byteAt z (j - 1)
    -- a point right after digits may end the digits before an exponent or the number
    let pointAfterDigits := before == 46 && j ≥ i + 2 && isDigit (byteAt z (j - 2))
    if isDigit c then digits z i fuel (j + 1) point exponent
    else if c == 46 then
      if point then failAt j else digits z i fuel (j + 1) true exponent
    else if c == 101 || c == 69 then
      if before < 48 && !pointAfterDigits then failAt j
      else if exponent then failAt j
      else
        let signed := byteAt z (j + 1) == 43 || byteAt z (j + 1) == 45
        let j := if signed then j + 1 else j
        if !isDigit (byteAt z (j + 1)) then failAt j
        else digits z i fuel (j + 1) true true
    else if before < 48 && !pointAfterDigits then failAt j
    else return .element false j

/-- Reads a number that starts at `i` with a sign, a digit or a point: decimal, hexadecimal
after `0x`, or an infinity after a sign. -/
def number (z : Array UInt8) (i : Nat) : Scan Step := do
  let fuel := z.size + 2
  let c := byteAt z i
  let c1 := byteAt z (i + 1)
  let c2 := byteAt z (i + 2)
  if c == 46 then
    if isDigit c1 then digits z i fuel (i + 1) true false else failAt i
  else if c == 48 then
    if (c1 == 120 || c1 == 88) && isHex c2 then return .element false (hexEnd z fuel (i + 3))
    else if isDigit c1 then failAt (i + 1)
    else digits z i fuel (i + 1) false false
  else if c == 43 || c == 45 then
    if !isDigit c1 then
      if (c1 == 73 || c1 == 105) && spellsAt z (i + 1) "inf" then
        return .element false (i + (if spellsAt z (i + 4) "inity" then 9 else 4))
      else if c1 == 46 then digits z i fuel (i + 1) false false
      else failAt i
    else if c1 == 48 && isDigit c2 then failAt (i + 1)
    else if c1 == 48 && (c2 == 120 || c2 == 88) && isHex (byteAt z (i + 3)) then
      return .element false (hexEnd z fuel (i + 4))
    else digits z i fuel (i + 1) false false
  else digits z i fuel (i + 1) false false

/-- The names that stand for an infinity or for not a number, as long as no letter or
digit follows them. -/
def specialNames : List String := ["inf", "infinity", "nan", "qnan", "snan"]

/-- The offset after a member name without quotes that starts at `k - 1`: letters, digits,
`_`, `$`, bytes beyond ASCII that start no blank, and escapes `\uXXXX`. -/
def nameEnd (z : Array UInt8) : Nat → Nat → Nat
  | 0, k => k
  | fuel + 1, k =>
    let b := byteAt z k
    if (namePart b && skipLoose z 1 k == k) || (b == 92 && byteAt z (k + 1) == 117 && hexDigitsAt z (k + 2) 4) then
      nameEnd z fuel (k + 1)
    else k

mutual

/-- Reads one element at `i`, after any blanks; `depth` counts the containers it is in. -/
def element : Nat → Array UInt8 → Nat → Nat → Scan Step
  | 0, _, _, i => failAt i
  | fuel + 1, z, depth, i => do
    let c := byteAt z i
    match c with
    | 123 => if depth + 1 > 1000 then failAt i else members fuel z (depth + 1) (i + 1)
    | 91 => if depth + 1 > 1000 then failAt i else items fuel z (depth + 1) (i + 1)
    | 34 | 39 => string z c (z.size + 1) (i + 1)
    | 116 => if spellsAt z i "true" && !isAlnum (byteAt z (i + 4)) then return .element false (i + 4) else failAt i
    | 102 => if spellsAt z i "false" && !isAlnum (byteAt z (i + 5)) then return .element false (i + 5) else failAt i
    | 43 | 45 | 46 | 48 | 49 | 50 | 51 | 52 | 53 | 54 | 55 | 56 | 57 => number z i
    | 125 | 93 | 44 | 58 =>
      set i
      return .mark c
    | 0 => return .finished
    | 9 | 10 | 13 | 32 => element fuel z depth (skipBlanks z z.size (i + 1))
    | 11 | 12 | 47 | 0xc2 | 0xe1 | 0xe2 | 0xe3 | 0xef =>
      let j := skipLoose z z.size i
      if j > i then element fuel z depth j else failAt i
    | _ =>
      if c == 110 && spellsAt z i "null" && !isAlnum (byteAt z (i + 4)) then return .element false (i + 4)
      else
        match specialNames.find? fun w => spellsAt z i w && !isAlnum (byteAt z (i + w.length)) with
        | some w => return .element false (i + w.length)
        | none => failAt i

/-- Reads the members of an object from `j`, after its `{` or a comma: a name, a colon
and a value, then a comma or the close. The close may stand where a name would. -/
def members : Nat → Array UInt8 → Nat → Nat → Scan Step
  | 0, _, _, j => failAt j
  | fuel + 1, z, depth, j => do
    let x ← element fuel z depth j
    if x == .mark 125 then
      let e ← get
      return .element false (e + 1)
    let j' := skipLoose z z.size j
    let b := byteAt z j'
    let key : Option (Bool × Nat × Nat) := match x with
      | .element text next => some (text, next, j)
      | _ =>
        if nameStart b || (b == 92 && byteAt z (j' + 1) == 117 && hexDigitsAt z (j' + 2) 4) then
          some (true, nameEnd z z.size (j' + 1), j')
        else none
    let some (text, next, start) := key
      | if x != .failed then failAt j' else return .failed
    if !text then return ← failAt start
    let afterBlanks := skipBlanks z z.size next
    let mut v := next + 1
    if byteAt z next == 58 then v := next + 1
    else if isBlank (byteAt z next) && byteAt z afterBlanks == 58 then v := afterBlanks + 1
    else
      let at_ := if isBlank (byteAt z next) then afterBlanks else next
      let y ← element fuel z depth at_
      if y == .mark 58 then
        let e ← get
        v := e + 1
      else if y == .failed then return .failed
      else return ← failAt at_
    match ← element fuel z depth v with
    | .element _ after =>
      let c := byteAt z after
      if c == 44 then return ← members fuel z depth (after + 1)
      if c == 125 then return .element false (after + 1)
      let k := if isBlank c then skipBlanks z z.size (after + 1) else after
      if isBlank c && byteAt z k == 44 then return ← members fuel z depth (k + 1)
      if isBlank c && byteAt z k == 125 then return .element false (k + 1)
      let y ← element fuel z depth k
      if y == .mark 44 then
        let e ← get
        return ← members fuel z depth (e + 1)
      if y == .mark 125 then
        let e ← get
        return .element false (e + 1)
      failAt k
    | .failed => return .failed
    | _ => failAt v

/-- Reads the items of an array from `j`, after its `[` or a comma: a value, then a comma
or the close. The close may stand where a value would. -/
def items : Nat → Array UInt8 → Nat → Nat → Scan Step
  | 0, _, _, j => failAt j
  | fuel + 1, z, depth, j => do
    match ← element fuel z depth j with
    | .mark 93 =>
      let e ← get
      return .element false (e + 1)
    | .failed => return .failed
    | .element _ after =>
      let c := byteAt z after
      if c == 44 then return ← items fuel z depth (after + 1)
      if c == 93 then return .element false (after + 1)
      let k := if isBlank c then skipBlanks z z.size (after + 1) else after
      if isBlank c && byteAt z k == 44 then return ← items fuel z depth (k + 1)
      if isBlank c && byteAt z k == 93 then return .element false (k + 1)
      let y ← element fuel z depth k
      if y == .mark 44 then
        let e ← get
        return ← items fuel z depth (e + 1)
      if y == .mark 93 then
        let e ← get
        return .element false (e + 1)
      failAt k
    | _ => failAt j

end

/-- The offset where a text stops being a JSON5 document, none when it is one. -/
def errorOffset (z : Array UInt8) : Option Nat :=
  let (x, noted) := (element (3 * z.size + 10) z 0 0).run 0
  match x with
  | .element _ i =>
    let i := skipBlanks z z.size i
    if byteAt z i == 0 then none
    else if byteAt z (skipLoose z z.size i) == 0 then none
    else some noted
  | _ => some noted

/-- The position `json_error_position` reports for a text: 0 for a document, else the
number of characters before the offset where reading stopped, plus one. -/
def errorPosition (z : Array UInt8) : Nat :=
  match errorOffset z with
  | none => 0
  | some k =>
    let before := (z.toList.take k).takeWhile (· != 0)
    (before.filter fun b => b &&& 0xc0 != 0x80).length + 1

end JsonScan

end Foreman.Sql
