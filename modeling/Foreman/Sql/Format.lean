import Foreman.Sql.Value

/-!
# Formatting text from a pattern and values

`printf` (or `format`) writes its first argument with each conversion (`%`, flags, width,
precision, letter) replaced by the next argument, read as integer, real or text as the letter
asks; a missing argument is zero or no text. Width and precision are digits or `*`. An unknown
letter, or a pattern ending inside a conversion, ends the output; if nothing was written by
then the result is null. Text widths and precisions count bytes, characters with `!`.
-/

namespace Foreman.Sql

namespace Format

/-- The state of a pattern's arguments: those not yet used. -/
abbrev Args := List Value

/-- Takes the next argument as an integer (zero when none is left). -/
def nextInt : Args → Int × Args
  | v :: rest => (v.toInt, rest)
  | [] => (0, [])

/-- Takes the next argument as a real (zero when none is left). -/
def nextReal : Args → Float × Args
  | v :: rest => (v.toReal, rest)
  | [] => (0.0, [])

/-- Takes the next argument as text: none when none is left or it is null. -/
def nextText : Args → Option (List UInt8) × Args
  | v :: rest => (v.bytes?, rest)
  | [] => (none, [])

def toInt32 (n : Int) : Int :=
  let m := n % 4294967296
  if m ≥ 2147483648 then m - 4294967296 else m

/-- The kinds of conversion. -/
inductive Kind where
  | signed | unsigned | radix (base : Nat) (upper : Bool) (pre : String) | ordinal
  | real (form : RealForm) (upper : Bool)
  | string | char | escape (quote : Char) (wrap : Bool) (nullText : String)
  | percent | size
  deriving Inhabited

def kindOf : Char → Option Kind
  | 'd' | 'i' => some .signed
  | 'u' => some .unsigned
  | 'x' => some (.radix 16 false "0x")
  | 'X' => some (.radix 16 true "0X")
  | 'o' => some (.radix 8 false "0")
  | 'p' => some (.radix 16 true "0x")
  | 'r' => some .ordinal
  | 'f' => some (.real .fixed false)
  | 'e' => some (.real .exponent false)
  | 'E' => some (.real .exponent true)
  | 'g' => some (.real .general false)
  | 'G' => some (.real .general true)
  | 's' | 'z' => some .string
  | 'c' => some .char
  | 'q' => some (.escape '\'' false "(NULL)")
  | 'Q' => some (.escape '\'' true "NULL")
  | 'w' => some (.escape '"' false "(NULL)")
  | '%' => some .percent
  | 'n' => some .size
  | _ => none

def ascii (s : String) : List UInt8 := s.toList.map fun c => c.toNat.toUInt8

/-- Digits of a natural number in a base, most significant first. -/
def digitsIn (base : Nat) (upper : Bool) (n : Nat) : List UInt8 :=
  let set := if upper then "0123456789ABCDEF" else "0123456789abcdef"
  ascii (String.ofList ((Nat.toDigits base n).map fun c =>
    set.toList.getD (if c.isDigit then c.toNat - 48 else c.toNat - 87) '0'))

/-- Inserts a comma between each group of three digits, counting from the right. -/
def groupThousands (ds : List UInt8) : List UInt8 :=
  ds.zipIdx.flatMap fun (d, i) => if i > 0 && (ds.length - i) % 3 == 0 then [44, d] else [d]

/-- Pads a field to its width with spaces, on the left unless left-justified. -/
def pad (c : Conversion) (body : List UInt8) (width : Nat) : List UInt8 :=
  if body.length ≥ width then body
  else
    let spaces := List.replicate (width - body.length) (32 : UInt8)
    if c.leftJustify then body ++ spaces else spaces ++ body

def continuations (bs : List UInt8) : Nat := (bs.filter fun b => b &&& 0xC0 == 0x80).length

def takeChars (k : Nat) (bs : List UInt8) : List UInt8 :=
  let rec go : Nat → List UInt8 → List UInt8
    | 0, _ => []
    | _, [] => []
    | k + 1, b :: rest =>
      let tail := rest.takeWhile fun x => x &&& 0xC0 == 0x80
      if b &&& 0xC0 == 0xC0 then b :: tail ++ go k (rest.drop tail.length) else b :: go k rest
  go k bs

def renderInteger (c : Conversion) (kind : Kind) (n : Int) : List UInt8 :=
  let (magnitude, sign, thousands) : Nat × Option Char × Bool := match kind with
    | .signed => if n < 0 then (n.natAbs, some '-', c.thousands) else (n.toNat, c.signMark, c.thousands)
    | .ordinal => if n < 0 then (n.natAbs, some '-', false) else (n.toNat, c.signMark, false)
    | .unsigned => ((n % 18446744073709551616).toNat, none, c.thousands)
    | _ => ((n % 18446744073709551616).toNat, none, false)
  let alternate := c.alternate && magnitude != 0
  let precision : Nat := c.precision.getD 0
  let signWidth := if sign.isSome then 1 else 0
  let precision := if c.zeroPad && precision + signWidth < c.width then c.width - signWidth else precision
  let (base, upper, pre) := match kind with
    | .radix b u p => (b, u, p)
    | _ => (10, false, "")
  let suffix : List UInt8 := match kind with
    | .ordinal =>
      let x := magnitude % 10
      let x := if x ≥ 4 || (magnitude / 10) % 10 == 1 then 0 else x
      ascii (["th", "st", "nd", "rd"].getD x "th")
    | _ => []
  let ds := digitsIn base upper magnitude
  let ds := List.replicate (precision - ds.length) (48 : UInt8) ++ ds
  let ds := if thousands then groupThousands ds else ds
  let ds := (sign.map fun s => [s.toNat.toUInt8]).getD [] ++ ds
  let ds := if alternate then ascii pre ++ ds else ds
  ds ++ suffix

def maxLength : Nat := 1000000000

/-- The first byte or character of a text, as `%c` takes it (a zero byte for none). -/
def firstChar : Option (List UInt8) → List UInt8
  | some (b :: more) =>
    if b &&& 0xC0 == 0xC0 then b :: (more.takeWhile fun x => x &&& 0xC0 == 0x80).take 3 else [b]
  | _ => [0]

/-- Whether a conversion would make the output too long, judged before its text is built:
its width or its repeated characters. -/
def tooLong (conv : Conversion) (kind : Kind) (args : Args) (size : Nat) : Bool :=
  let body : Nat := match kind with
    | .char =>
      let copies := match conv.precision with
        | some p => if p > 1 then p else 1
        | none => 1
      copies * (firstChar (nextText args).1).length
    | _ => 0
  size + max body conv.width ≥ maxLength

/-- The text of one conversion and the width of its field in bytes, with the arguments it
leaves. -/
def field (conv : Conversion) (kind : Kind) (args : Args) : (List UInt8 × Nat) × Args :=
  match kind with
    | .signed | .unsigned | .radix .. | .ordinal =>
      let (n, rest') := nextInt args
      ((renderInteger conv kind n, conv.width), rest')
    | .real form upper =>
      let (x, rest') := nextReal args
      ((ascii (Decimal.render conv form upper x), conv.width), rest')
    | .percent => (([37], conv.width), args)
    | .size => (([], 0), args)
    | .string =>
      let (t, rest') := nextText args
      let t := (t.getD []).takeWhile (· != 0)
      let t := match conv.precision with
        | some p => if conv.bang then takeChars p t else t.take p
        | none => t
      ((t, if conv.bang && conv.width > 0 then conv.width + continuations t else conv.width), rest')
    | .char =>
      let (t, rest') := nextText args
      let one := firstChar t
      let copies : Nat := match conv.precision with
        | some p => if p > 1 then p else 1
        | none => 1
      let left : Int := (conv.width : Int) - ((copies : Int) - 1)
      let body := (List.replicate copies one).flatten
      -- a repeated character pads before its copies when right-justified
      if copies > 1 && left > 1 && !conv.leftJustify then
        ((List.replicate (left - 1).toNat (32 : UInt8) ++ body, 0), rest')
      else
        let last : Int := if left > 0 then left + continuations one else left
        ((body, (last + ((copies : Int) - 1) * one.length).toNat), rest')
    | .escape q wrap nullText =>
      let (t, rest') := nextText args
      let isNull := t.isNone
      let src := (t.getD (ascii nullText)).takeWhile (· != 0)
      let src := match conv.precision with
        | some p => if conv.bang then takeChars p src else src.take p
        | none => src
      let qb := q.toNat.toUInt8
      -- `#` escapes control characters and backslashes as `unistr` reads them: always for
      -- `%q`, and for `%Q` only when there is a control character
      let controls := src.any (· ≤ 0x1f)
      let escapes := conv.alternate && q != '"' && (controls || !wrap)
      let hexDigit (k : Nat) : UInt8 := ascii "0123456789abcdef" |>.getD k 48
      let esc := src.flatMap fun b =>
        if b == qb then [b, b]
        else if escapes && b == 92 then [92, 92]
        else if escapes && b ≤ 0x1f then ascii "\\u00" ++ [hexDigit (b.toNat / 16), hexDigit (b.toNat % 16)]
        else [b]
      let body :=
        if wrap && !isNull then
          if escapes then ascii "unistr('" ++ esc ++ ascii "')" else qb :: esc ++ [qb]
        else esc
      ((body, if conv.bang && conv.width > 0 then conv.width + continuations body else conv.width), rest')

/-- The output of a pattern's bytes with its arguments, as bytes; none when it grows too big
or nothing was written. -/
def run (patternBytes : List UInt8) (args : Args) : Option (List UInt8) := Id.run do
  -- each byte read as the character of its value: the pattern's syntax is ASCII, and any
  -- other byte is copied as it is
  let pattern := patternBytes.map fun b => Char.ofNat b.toNat
  let mut out : Array UInt8 := #[]
  let mut written := false
  let mut args := args
  let mut cs := pattern
  -- each conversion consumes at least its `%`, so the pattern's length bounds the steps
  for _ in [0:pattern.length + 1] do
    match cs with
    | [] => break
    | ch :: rest =>
      if ch != '%' then
        let lit := cs.takeWhile (· != '%')
        out := out ++ (lit.map (·.toNat.toUInt8)).toArray
        written := true
        cs := cs.drop lit.length
        continue
      if rest.isEmpty then
        out := out.push 37
        written := true
        break
      let mut conv : Conversion := {}
      let mut r := rest
      let mut letter : Option Char := none
      let mut stop := false
      for _ in [0:rest.length + 1] do
        match r with
        | [] =>
          stop := true
          break
        | c :: more =>
          if c == '-' then conv := { conv with leftJustify := true }; r := more
          else if c == '+' then conv := { conv with signMark := some '+' }; r := more
          else if c == ' ' then conv := { conv with signMark := some ' ' }; r := more
          else if c == '#' then conv := { conv with alternate := true }; r := more
          else if c == '!' then conv := { conv with bang := true }; r := more
          else if c == '0' then conv := { conv with zeroPad := true }; r := more
          else if c == ',' then conv := { conv with thousands := true }; r := more
          else if c == 'l' then
            let more := match more with
              | 'l' :: m => m
              | m => m
            match more with
            | d :: m => letter := some d; r := m
            | [] => stop := true
            break
          else if c.isDigit then
            let ds := r.takeWhile Char.isDigit
            let w := (Value.digitsValue ds) % 4294967296 % 2147483648
            conv := { conv with width := w }
            r := r.drop ds.length
            match r with
            | '.' :: _ | 'l' :: _ => pure ()
            | d :: m =>
              letter := some d; r := m
              break
            | [] =>
              stop := true
              break
          else if c == '*' then
            let (w, rest') := nextInt args
            args := rest'
            let w := toInt32 w
            if w < 0 then
              conv := { conv with leftJustify := true, width := if w ≥ -2147483647 then w.natAbs else 0 }
            else conv := { conv with width := w.toNat }
            match more with
            | '.' :: _ | 'l' :: _ => r := more
            | d :: m =>
              letter := some d; r := m
              break
            | [] =>
              stop := true
              break
          else if c == '.' then
            match more with
            | '*' :: m =>
              let (p, rest') := nextInt args
              args := rest'
              let p := toInt32 p
              let prec : Option Nat := if p < 0 then (if p ≥ -2147483647 then some p.natAbs else none) else some p.toNat
              conv := { conv with precision := prec }
              r := m
            | m =>
              let ds := m.takeWhile Char.isDigit
              conv := { conv with precision := some ((Value.digitsValue ds) % 4294967296 % 2147483648) }
              r := m.drop ds.length
            match r with
            | 'l' :: _ => pure ()
            | d :: m =>
              letter := some d; r := m
              break
            | [] =>
              stop := true
              break
          else
            letter := some c; r := more
            break
      if stop then break
      let some l := letter | break
      let some kind := kindOf l | break
      cs := r
      if tooLong conv kind args out.size then return none
      let ((body, width), rest') := field conv kind args
      args := rest'
      if out.size + max body.length width ≥ maxLength then return none
      out := out ++ (pad conv body width).toArray
      written := true
  return if written then some out.toList else none

/-- The text of a pattern with its arguments; none when it grows too big or nothing was
written. -/
def apply (pattern : String) (args : List Value) : Option String :=
  (run pattern.toUTF8.toList args).map fun bs => Value.bytesText bs

end Format

end Foreman.Sql
