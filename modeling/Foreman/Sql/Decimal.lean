/-!
# Reals as decimal digits, and decimal text as reals

The engine converts between reals and decimal digits by scaling with powers of ten in
double-double arithmetic: a value is the unevaluated sum `hi + lo` of two floats.
`Decimal.ofReal` writes a positive real as digits rounded to the precision asked,
`Decimal.readReal` reads a real as the engine does, and `Decimal.readInteger` a text's leading
integer within 64 bits. Neither direction is correctly rounded; both are what the engine
computes, digit for digit.
-/

namespace Foreman.Sql

/-- A real held as the unevaluated sum of two floats. -/
structure Wide where
  hi : Float
  lo : Float

namespace Wide

/-- A float with the low 26 bits of its significand cleared, the high half of a split. -/
def upperHalf (x : Float) : Float := Float.ofBits (x.toBits &&& 0xfffffffffc000000)

/-- The product of a wide value and a power of ten given as a float `y` and the error `yy`
of that float: the high halves multiply exactly, the cross terms and the errors are added
in, and the sum is split again into a float and its remainder. -/
def scale (x : Wide) (y yy : Float) : Wide :=
  let hx := upperHalf x.hi
  let tx := x.hi - hx
  let hy := upperHalf y
  let ty := y - hy
  let p := hx * hy
  let q := hx * ty + tx * hy
  let c := p + q
  let cc := p - c + q + tx * ty
  let cc := x.hi * yy + x.lo * y + cc
  let hi := c + cc
  ⟨hi, c - hi + cc⟩

def up100 (x : Wide) : Wide := x.scale 1.0e+100 (-1.5902891109759918046e+83)

/-- Scaling by `10 ^ 10`. -/
def up10 (x : Wide) : Wide := x.scale 1.0e+10 0.0

def up1 (x : Wide) : Wide := x.scale 1.0e+01 0.0

def down100 (x : Wide) : Wide := x.scale 1.0e-100 (-1.99918998026028836196e-117)

def down10 (x : Wide) : Wide := x.scale 1.0e-10 (-3.6432197315497741579e-27)

def down1 (x : Wide) : Wide := x.scale 1.0e-01 (-5.5511151231257827021e-18)

/-- Applies a step while a condition holds, at most `fuel` times, counting the steps. -/
def repeatWhile (cond : Wide → Bool) (step : Wide → Wide) : Nat → Wide → Nat → Wide × Nat
  | 0, x, k => (x, k)
  | fuel + 1, x, k => if cond x then repeatWhile cond step fuel (step x) (k + 1) else (x, k)

def iterate (step : Wide → Wide) : Nat → Wide → Wide
  | 0, x => x
  | n + 1, x => iterate step n (step x)

/-- A float as the unsigned 64-bit integer a conversion cuts it to (0 below zero). -/
def floatToWord (x : Float) : Nat := x.toUInt64.toNat

end Wide

/-- What a real is, for the digits: finite, an infinity or not a number. -/
inductive RealKind where
  | finite | infinite | nan
  deriving BEq, Inhabited, Repr

/-- The decimal digits of a real: its sign, its significant digits without trailing zeros,
and the place of the decimal point, so that the magnitude is `0.d₁d₂… × 10 ^ point`. -/
structure Decimal where
  negative : Bool
  digits : List Nat
  point : Int
  kind : RealKind := .finite
  deriving Inhabited, Repr

namespace Decimal

/-- The decimal digits of a natural number, most significant first. -/
def digitsOf (n : Nat) : List Nat := (Nat.toDigits 10 n).map fun c => c.toNat - 48

def valueOf (ds : List Nat) : Nat := ds.foldl (fun a d => a * 10 + d) 0

/-- The largest value a scaled real is brought below, `2 ^ 63` less a little. -/
def ceiling : Float := 9.223372036854774784e+18

/-- A positive finite real scaled into `[9.22e17, 9.22e18]`, as a wide value, and the power
of ten it was divided by. -/
def scaled (r : Float) : Wide × Int :=
  let x : Wide := ⟨r, 0.0⟩
  if x.hi > ceiling then
    let (x, a) := Wide.repeatWhile (·.hi > 9.223372036854774784e+118) Wide.down100 400 x 0
    let (x, b) := Wide.repeatWhile (·.hi > 9.223372036854774784e+28) Wide.down10 400 x 0
    let (x, c) := Wide.repeatWhile (·.hi > ceiling) Wide.down1 400 x 0
    (x, (100 * a + 10 * b + c : Nat))
  else
    let (x, a) := Wide.repeatWhile (·.hi < 9.223372036854774784e-83) Wide.up100 400 x 0
    let (x, b) := Wide.repeatWhile (·.hi < 9.223372036854774784e+07) Wide.up10 400 x 0
    let (x, c) := Wide.repeatWhile (·.hi < 9.22337203685477478e+17) Wide.up1 400 x 0
    (x, -((100 * a + 10 * b + c : Nat) : Int))

def trimZeros (ds : List Nat) : List Nat := (ds.reverse.dropWhile (· == 0)).reverse

/-- Rounds digits to their first `k` digits, half up: the result and whether a carry out of
the first digit added one in front. -/
def roundTo (ds : List Nat) (k : Nat) : List Nat × Bool :=
  let head := valueOf (ds.take k)
  let up := (ds.drop k).headD 0 ≥ 5
  let head := if up then head + 1 else head
  let out := digitsOf head
  if out.length > k then (out, true)
  else (List.replicate (k - out.length) 0 ++ out, false)

/-- The digits of a real, rounded: a positive `round` keeps that many significant digits,
zero or negative keeps digits down to `10 ^ round` (`-2` keeps two places), never more than
`most` digits; fewer digits than asked are all kept. -/
def ofReal (r : Float) (round : Int) (most : Nat) : Decimal :=
  let negative := r < 0.0
  let r := if negative then -r else r
  if r == 0.0 then { negative := false, digits := [0], point := 1 }
  else if r.isNaN then { negative, digits := [], point := 0, kind := .nan }
  else if r.isInf then { negative, digits := [], point := 0, kind := .infinite }
  else
    let (x, e) := scaled r
    let v : Int := if x.lo < 0.0 then (Wide.floatToWord x.hi : Int) - Wide.floatToWord (-x.lo)
      else (Wide.floatToWord x.hi : Int) + Wide.floatToWord x.lo
    let ds := digitsOf (v % 18446744073709551616).toNat
    let point : Int := ds.length + e
    -- a count of places becomes a count of digits; a value that rounds up to the first
    -- kept place gains a leading zero to carry into
    let (ds, point, round) :=
      if round ≤ 0 then
        let k := point - round
        if k == 0 && ds.headD 0 ≥ 5 then (0 :: ds, point + 1, (1 : Int)) else (ds, point, k)
      else (ds, point, round)
    let (ds, point) :=
      if round > 0 && (round < ds.length || ds.length > most) then
        let k := min round.toNat most
        let (out, carried) := roundTo ds k
        (out, if carried then point + 1 else point)
      else (ds, point)
    { negative, digits := trimZeros ds, point }

end Decimal

namespace Decimal

/-- Whether a byte is a blank the engine skips around numbers: a space or a control
character from tab to carriage return. -/
def isBlank (c : Char) : Bool := c == ' ' || (c.toNat ≥ 9 && c.toNat ≤ 13)

def isDigit (c : Char) : Bool := c.toNat ≥ 48 && c.toNat ≤ 57

/-- The largest significand a text's digits are gathered into before the rest only move
the exponent. -/
def gatherLimit : Nat := (18446744073709551615 - 9) / 10

/-- How well a text reads as a real: `2` or more for a number with a fraction or exponent,
`1` for a plain integer, each filling the whole text up to blanks; `-1` for a number with a
fraction or exponent followed by other text; `0` for anything else. -/
abbrev ReadQuality := Int

/-- The state of reading a number's digits: the significand, the shift of the decimal
point, and how many digits counted. -/
structure Gathered where
  sig : Nat := 0
  shift : Int := 0
  count : Nat := 0

/-- Gathers the digits before a point: past the limit they only shift the point. -/
def gatherWhole : List Char → Gathered → List Char × Gathered
  | c :: rest, g =>
    if isDigit c then
      if g.sig ≥ gatherLimit then gatherWhole rest { g with shift := g.shift + 1 }
      else
        let sig := g.sig * 10 + (c.toNat - 48)
        gatherWhole rest { g with sig, count := g.count + 1 }
    else (c :: rest, g)
  | [], g => ([], g)

/-- Gathers the digits after a point: past the limit they are dropped. -/
def gatherFraction : List Char → Gathered → List Char × Gathered
  | c :: rest, g =>
    if isDigit c then
      if g.sig < gatherLimit then
        let sig := g.sig * 10 + (c.toNat - 48)
        gatherFraction rest { sig, shift := g.shift - 1, count := g.count + 1 }
      else gatherFraction rest g
    else (c :: rest, g)
  | [], g => ([], g)

/-- Gathers the digits of an exponent, held at 10000 once it reaches it. -/
def gatherExponent : List Char → Nat → Bool → List Char × Nat × Bool
  | c :: rest, e, seen =>
    if isDigit c then gatherExponent rest (if e < 10000 then e * 10 + (c.toNat - 48) else 10000) true
    else (c :: rest, e, seen)
  | [], e, seen => ([], e, seen)

/-- Scales a significand by a power of ten in double-double arithmetic. -/
def scaleSignificand (s : Nat) (e : Int) : Float :=
  let rec grow : Nat → Nat → Int → Nat × Int
    | 0, s, e => (s, e)
    | fuel + 1, s, e =>
      if e > 0 && s < (18446744073709551615 - 0x7ff) / 10 then grow fuel (s * 10) (e - 1) else (s, e)
  let rec shrink : Nat → Nat → Int → Nat × Int
    | 0, s, e => (s, e)
    | fuel + 1, s, e => if e < 0 && s % 10 == 0 then shrink fuel (s / 10) (e + 1) else (s, e)
  let (s, e) := grow 40 s e
  let (s, e) := shrink 40 s e
  let hi := s.toUInt64.toFloat
  let lo : Float :=
    if hi ≤ 18446744073709549568.0 then
      let s2 := Wide.floatToWord hi
      if s ≥ s2 then (s - s2).toUInt64.toFloat else -((s2 - s).toUInt64.toFloat)
    else 0.0
  let x : Wide := ⟨hi, lo⟩
  let x :=
    if e > 0 then
      let n := e.toNat
      Wide.iterate Wide.up1 (n % 10) (Wide.iterate Wide.up10 (n % 100 / 10) (Wide.iterate Wide.up100 (n / 100) x))
    else
      let n := (-e).toNat
      Wide.iterate Wide.down1 (n % 10) (Wide.iterate Wide.down10 (n % 100 / 10) (Wide.iterate Wide.down100 (n / 100) x))
  let r := x.hi + x.lo
  if r.isNaN then (1.0e300 : Float) * 1.0e300 else r

/-- Reads a text as a real the way the engine does, with how well it read. The value is
that of the longest start that reads as a number (zero when none does). -/
def readReal (s : String) : Float × ReadQuality :=
  let cs := s.toList.dropWhile isBlank
  if cs.isEmpty then (0.0, 0)
  else
    let (negative, cs) := match cs with
      | '-' :: r => (true, r)
      | '+' :: r => (false, r)
      | _ => (false, cs)
    let (cs, g) := gatherWhole cs {}
    -- the kind: 1 for an integer, one more for a point, one more for an exponent
    let (cs, g, kind) := match cs with
      | '.' :: r =>
        let (r, g) := gatherFraction r g
        (r, g, (2 : Int))
      | _ => (cs, g, 1)
    let (cs, exponent, expOk, kind) := match cs with
      | e :: r =>
        if e == 'e' || e == 'E' then
          let (neg, r) := match r with
            | '-' :: q => (true, q)
            | '+' :: q => (false, q)
            | _ => (false, r)
          let (r, n, seen) := gatherExponent r 0 false
          (r, (if neg then -(n : Int) else n), seen, kind + 1)
        else (cs, 0, true, kind)
      | [] => (cs, 0, true, kind)
    let cs := cs.dropWhile isBlank
    let value :=
      if g.sig == 0 then 0.0
      else scaleSignificand g.sig (exponent + g.shift)
    let value := if negative then -value else value
    let quality : ReadQuality :=
      if cs.isEmpty && g.count > 0 && expOk then kind
      else if kind ≥ 2 && (kind == 3 || expOk) && g.count > 0 then -1
      else 0
    (value, quality)

/-- How well a text reads as an integer: `0` for an integer filling the text up to blanks,
`1` for one followed by other text, `-1` for no digits at all, `2` for one too large for 64
bits, `3` for exactly `2 ^ 63` without a minus sign. -/
abbrev IntQuality := Int

/-- Reads the leading integer of a text as the engine does, held within 64 bits, with how
well it read. -/
def readInteger (s : String) : Int × IntQuality :=
  let cs := s.toList.dropWhile isBlank
  let (negative, cs) := match cs with
    | '-' :: r => (true, r)
    | '+' :: r => (false, r)
    | _ => (false, cs)
  let signed := cs
  let cs := cs.dropWhile (· == '0')
  let ds := cs.takeWhile isDigit
  let rest := cs.drop ds.length
  let u := ds.foldl (fun a c => a * 10 + (c.toNat - 48)) 0
  let quality : IntQuality :=
    if ds.isEmpty && signed.length == cs.length then -1
    else if rest.any (!isBlank ·) then 1
    else 0
  let limit : Nat := 9223372036854775808
  if u < limit then ((if negative then -(u : Int) else u), quality)
  else if u == limit then
    (if negative then (-(limit : Int), quality) else (9223372036854775807, 3))
  else ((if negative then -(limit : Int) else 9223372036854775807), 2)

end Decimal

end Foreman.Sql

namespace Foreman.Sql

/-- How a conversion writes a real: with a fixed number of places, as digits and an
exponent, or in whichever of the two suits the size of the value. -/
inductive RealForm where
  | fixed | exponent | general
  deriving BEq, Inhabited

structure Conversion where
  /-- Pad on the right rather than the left. -/
  leftJustify : Bool := false
  /-- The mark written before a number that is not negative: `+`, a space, or none. -/
  signMark : Option Char := none
  /-- The alternate form (`#`): keep the point and trailing zeros, or prefix a radix. -/
  alternate : Bool := false
  /-- The second alternate form (`!`): more digits for reals, characters for text. -/
  bang : Bool := false
  /-- Pad numbers with zeros rather than spaces. -/
  zeroPad : Bool := false
  /-- Group the digits of the whole part by threes with commas. -/
  thousands : Bool := false
  /-- The least width of the field. -/
  width : Nat := 0
  /-- The precision, when given. -/
  precision : Option Nat := none
  deriving Inhabited

namespace Decimal

/-- The digit at a place, or `0` past the last significant one. -/
def digitAt (ds : List Nat) (j : Nat) : Char := Char.ofNat (48 + ds.getD j 0)

/-- Writes the digits of a finite value in a form, without the field's width. The text is
the sign, the whole part (grouped by threes when asked), the point and the places, and for
the exponent form the exponent of at least two digits. -/
def renderFinite (c : Conversion) (form : RealForm) (upper : Bool) (precision : Nat)
    (d : Decimal) : String := Id.run do
  let sign : Option Char := if d.negative then some '-' else c.signMark
  let exp := d.point - 1
  let precision := if form == .general && precision > 0 then precision - 1 else precision
  let (form, precision, trimTrailing) :=
    if form == .general then
      if exp < -4 || exp > precision then (RealForm.exponent, precision, !c.alternate)
      else (RealForm.fixed, (precision - exp).toNat, !c.alternate)
    else (form, precision, c.bang)
  let withPoint := precision > 0 || c.alternate || c.bang
  let mut out : Array Char := #[]
  if let some s := sign then out := out.push s
  let mut j := 0
  let mut e2 : Int := if form == .exponent then 0 else d.point - 1
  if e2 < 0 then out := out.push '0'
  else
    for _ in [0:e2.toNat + 1] do
      out := out.push (digitAt d.digits j)
      j := j + 1
      if c.thousands && e2 % 3 == 0 && e2 > 1 then out := out.push ','
      e2 := e2 - 1
  if withPoint then out := out.push '.'
  let mut left := precision
  e2 := e2 + 1
  if e2 < 0 then
    let zeros := min left e2.natAbs
    out := out ++ Array.replicate zeros '0'
    left := left - zeros
  for _ in [0:left] do
    out := out.push (digitAt d.digits j)
    j := j + 1
  if trimTrailing && withPoint then
    out := (out.toList.reverse.dropWhile (· == '0')).reverse.toArray
    if out.back? == some '.' then
      out := if c.bang then out.push '0' else out.pop
  if form == .exponent then
    let e := d.point - 1
    out := out.push (if upper then 'E' else 'e') |>.push (if e < 0 then '-' else '+')
    let n := e.natAbs
    if n ≥ 100 then out := out.push (Char.ofNat (48 + n / 100))
    out := out.push (Char.ofNat (48 + n % 100 / 10)) |>.push (Char.ofNat (48 + n % 10))
  if c.zeroPad && !c.leftJustify && out.size < c.width then
    let pad := Array.replicate (c.width - out.size) '0'
    out := match sign with
      | some s => #[s] ++ pad ++ out.extract 1 out.size
      | none => pad ++ out
  return String.ofList out.toList

/-- Writes a real in a form, without the field's width: the precision is the places (six
unless given) or, for the general form, significant digits. An infinity is `Inf` with its
sign, or with zero padding the largest exponent the form shows; NaN is `NaN`, or `null` with
zero padding. -/
def render (c : Conversion) (form : RealForm) (upper : Bool) (x : Float) : String :=
  let precision := c.precision.getD 6
  let (round, precision) : Int × Nat := match form with
    | .fixed => (-(precision : Int), precision)
    | .general => let p := if precision == 0 then 1 else precision; (p, p)
    | .exponent => (precision + 1, precision)
  let d := ofReal x round (if c.bang then 26 else 16)
  match d.kind with
  | .nan => if c.zeroPad then "null" else "NaN"
  | .infinite =>
    if c.zeroPad then renderFinite c form upper precision { d with digits := [9], point := 1000 }
    else if d.negative then "-Inf"
    else match c.signMark with
      | some m => String.ofList [m] ++ "Inf"
      | none => "Inf"
  | .finite => renderFinite c form upper precision d

/-- The text of a real wherever a real becomes text: fifteen significant digits at most,
with at least one place after the point (`1.0`, `0.1`, `1.0e+20`). -/
def text (x : Float) : String := render { bang := true, precision := some 15 } .general false x

/-- The text `quote` writes for a real: the fifteen-digit text when it reads back to the
same real, otherwise twenty places in the exponent form; an infinity is `9.0e+999`. -/
def quoted (x : Float) : String :=
  let short := render { bang := true, zeroPad := true, precision := some 15 } .general false x
  if (readReal short).1 == x then short
  else render { bang := true, zeroPad := true, precision := some 20 } .exponent false x

end Decimal

end Foreman.Sql
