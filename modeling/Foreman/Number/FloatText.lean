import Foreman.Number.Binary64

/-!
# Floating-point numbers as text

Reading: an optional sign, then `inf`, `infinity` or `nan` in any case, a decimal mantissa
with an optional `e` exponent, or a hexadecimal one after `0x` with a required `p` exponent;
an underscore may stand between two digits or after `0x`. The value is the nearest binary64
to the text's; past the largest finite value it is out of range. Writing: the fewest
significant digits that read back to the value, the nearest of those, positional, or with
an exponent below `1e-6` and from `1e21` on.
-/

namespace Foreman

inductive FloatRead where
  /-- A value in range (or an infinity or NaN written out). -/
  | value (x : Real64)
  /-- A well-formed text whose value is beyond the largest finite value. -/
  | outOfRange (neg : Bool)
  /-- Not a number text. -/
  | malformed

namespace FloatText

def lower (c : Char) : Char := if 'A' ≤ c && c ≤ 'Z' then Char.ofNat (c.toNat + 32) else c

/-- Whether the text is, ignoring case, one of the spellings of infinity or NaN; the
answer is the value it names. -/
def special? (cs : List Char) : Option Real64 :=
  let (neg, rest, signed) := match cs with
    | '+' :: r => (false, r, true)
    | '-' :: r => (true, r, true)
    | r => (false, r, false)
  let word := String.ofList (rest.map lower)
  if word == "inf" || word == "infinity" then some (.inf neg)
  else if word == "nan" && !signed then some .nan
  else none

def digitValue? (hex : Bool) (c : Char) : Option Nat :=
  if c.isDigit then some (c.toNat - 48)
  else if hex && 'a' ≤ lower c && lower c ≤ 'f' then some ((lower c).toNat - 87)
  else none

/-- The mantissa read so far: its digits as a number, how many came after the point,
whether a point and a digit were seen. -/
structure Mantissa where
  value : Nat := 0
  afterPoint : Nat := 0
  sawPoint : Bool := false
  sawDigit : Bool := false

def mantissa (hex : Bool) : Mantissa → List Char → Mantissa × List Char
  | m, [] => (m, [])
  | m, c :: cs =>
    if c == '_' then mantissa hex m cs
    else if c == '.' then
      if m.sawPoint then (m, c :: cs) else mantissa hex { m with sawPoint := true } cs
    else
      match digitValue? hex c with
      | some d =>
        mantissa hex { m with value := m.value * (if hex then 16 else 10) + d,
                              afterPoint := if m.sawPoint then m.afterPoint + 1 else m.afterPoint,
                              sawDigit := true } cs
      | none => (m, c :: cs)

/-- Reads exponent digits and underscores; the value stops growing at five digits, which
already puts any non-zero mantissa out of range or to zero. -/
def exponentDigits : Nat → List Char → Nat × List Char
  | e, [] => (e, [])
  | e, c :: cs =>
    if c == '_' then exponentDigits e cs
    else if c.isDigit then exponentDigits (if e < 10000 then e * 10 + (c.toNat - 48) else e) cs
    else (e, c :: cs)

def exponent (marker : Char) (required : Bool) (cs : List Char) : Option (Int × List Char) :=
  match cs with
  | c :: r =>
    if lower c == marker then
      let (neg, r') := match r with
        | '+' :: r2 => (false, r2)
        | '-' :: r2 => (true, r2)
        | r2 => (false, r2)
      match r' with
      | d :: _ =>
        if d.isDigit then
          let (e, rest) := exponentDigits 0 r'
          some (if neg then -(e : Int) else e, rest)
        else none
      | [] => none
    else if required then none else some (0, cs)
  | [] => if required then none else some (0, [])

/-- Underscores stand only between digits, or between a base prefix and a digit. -/
def underscoresFit (hex : Bool) : List Char → Bool
  | cs =>
    let rec go : Char → List Char → Bool
      | last, [] => last != '_'
      | last, c :: r =>
        if c.isDigit || (hex && 'a' ≤ lower c && lower c ≤ 'f') then go '0' r
        else if c == '_' then last == '0' && go '_' r
        else last != '_' && go '!' r
    go (if hex then '0' else '^') cs

def decimalLength (n : Nat) : Nat := (toString n).length

def read (s : String) : FloatRead :=
  let cs := s.toList
  match special? cs with
  | some x => .value x
  | none =>
    let (neg, body) := match cs with
      | '+' :: r => (false, r)
      | '-' :: r => (true, r)
      | r => (false, r)
    let (hex, digitsPart) := match body with
      | '0' :: x :: d :: r => if lower x == 'x' then (true, d :: r) else (false, body)
      | _ => (false, body)
    let (m, rest) := mantissa hex {} digitsPart
    if !m.sawDigit then .malformed
    else
      match exponent (if hex then 'p' else 'e') hex rest with
      | none => .malformed
      | some (e, rest') =>
        if !rest'.isEmpty then .malformed
        else if cs.contains '_' && !underscoresFit hex (if hex then digitsPart else body)
          then .malformed
        else if m.value == 0 then .value (.finite neg Binary64.zero)
        else
          -- the value is m * base ^ (-afterPoint) * 10 ^ e (or * 2 ^ e for hex)
          let (scale2, scale10) : Int × Int :=
            if hex then (e - 4 * (m.afterPoint : Int), 0) else (0, e - (m.afterPoint : Int))
          let magnitude10 : Int := (decimalLength m.value : Int) + scale10
          let magnitude2 : Int := (m.value.log2 : Int) + scale2
          if magnitude10 > 330 || magnitude2 > 1100 then .outOfRange neg
          else if magnitude10 < -340 || magnitude2 < -1200 then .value (.finite neg Binary64.zero)
          else
            let num := m.value * Nat.pow 2 (max scale2 0).toNat * Nat.pow 10 (max scale10 0).toNat
            let den := Nat.pow 2 (max (-scale2) 0).toNat * Nat.pow 10 (max (-scale10) 0).toNat
            match Binary64.ofRatio num den with
            | some x => .value (.finite neg x)
            | none => .outOfRange neg

/-! ## Writing -/

/-- The floor `⌊log₁₀ (num / den)⌋` for positive `num` and `den`. -/
def floorLog10 (num den : Nat) : Int :=
  if den ≤ num then (decimalLength (num / den) : Int) - 1
  else
    -- the smallest j with num * 10 ^ j ≥ den; 10 ^ j ≤ 10 * den / num
    let j := decimalLength (den / num)
    if num * Nat.pow 10 (j - 1) ≥ den then -((j - 1 : Nat) : Int) else -(j : Int)

def shift10 (num den : Nat) (k : Int) : Nat × Nat :=
  if 0 ≤ k then (num, den * Nat.pow 10 k.toNat) else (num * Nat.pow 10 (-k).toNat, den)

/-- The shortest decimal digits of a positive magnitude and the power of ten of the last
digit: the value reads back from `digits * 10 ^ exp10`. -/
def shortest (x : Binary64) : Nat × Int :=
  let m := x.mant
  let e := x.exp
  -- everything scaled by 2 ^ (e - 2): value 4m, ends of the interval that rounds to it
  let lowN := if m == 4503599627370496 && e > Binary64.minExp then 4 * m - 1 else 4 * m - 2
  let highN := 4 * m + 2
  let inclusive := m % 2 == 0
  let (num, den) := Binary64.scaleBy (4 * m) 1 (-(e - 2))
  let (lowNum, _) := Binary64.scaleBy lowN 1 (-(e - 2))
  let (highNum, _) := Binary64.scaleBy highN 1 (-(e - 2))
  let lead := floorLog10 num den
  let inside (c : Nat) (k : Int) : Bool :=
    let (a, b) := if 0 ≤ k then (c * Nat.pow 10 k.toNat * den, 1) else (c * den, Nat.pow 10 (-k).toNat)
    if inclusive then lowNum * b ≤ a && a ≤ highNum * b
    else lowNum * b < a && a < highNum * b
  let rec search : Nat → Nat → Nat × Int
    | 0, _ => (m, e)
    | fuel + 1, n =>
      let k := lead - (n : Int) + 1
      let (a, b) := shift10 num den k
      let c := a / b
      let r := a % b
      let down := inside c k
      let up := inside (c + 1) k
      if down && up then
        if 2 * r < b then (c, k) else if 2 * r > b then (c + 1, k)
        else if c % 2 == 0 then (c, k) else (c + 1, k)
      else if down then (c, k)
      else if up then (c + 1, k)
      else search fuel (n + 1)
  search 17 1

/-- Digits without trailing zeros, and the power of ten of the last one. -/
def trimZeros : Nat → Int → Nat → Nat × Int
  | d, k, 0 => (d, k)
  | d, k, fuel + 1 => if d != 0 && d % 10 == 0 then trimZeros (d / 10) (k + 1) fuel else (d, k)

def zeros (n : Nat) : String := String.ofList (List.replicate n '0')

/-- A magnitude in the notation of JSON numbers: positional for `1e-6 ≤ x < 1e21`,
otherwise one digit, a point if more follow, and a signed exponent. -/
def jsonMagnitude (x : Binary64) : String :=
  if x.isZero then "0"
  else
    let (d0, k0) := shortest x
    let (d, k) := trimZeros d0 k0 20
    let ds := toString d
    let n := ds.length
    let point : Int := k + n
    if point - 1 < -6 || point - 1 ≥ 21 then
      let ex := point - 1
      let mant := match ds.toList with
        | c :: rest => if rest.isEmpty then c.toString else c.toString ++ "." ++ String.ofList rest
        | [] => "0"
      let exText := if ex < 0 then "-" ++ toString (-ex).toNat else "+" ++ toString ex.toNat
      mant ++ "e" ++ exText
    else if point ≤ 0 then "0." ++ zeros (-point).toNat ++ ds
    else if point ≥ n then ds ++ zeros (point.toNat - n)
    else String.ofList (ds.toList.take point.toNat) ++ "." ++ String.ofList (ds.toList.drop point.toNat)

/-- A magnitude in the general notation of printed values: positional when the exponent of
its first digit is from -4 to 5, otherwise one digit, a point if more follow, and an
exponent of at least two digits (`1e+06`). -/
def generalMagnitude (x : Binary64) : String :=
  if x.isZero then "0"
  else
    let (d0, k0) := shortest x
    let (d, k) := trimZeros d0 k0 20
    let ds := toString d
    let n := ds.length
    let point : Int := k + n
    let ex := point - 1
    if ex < -4 || ex ≥ 6 then
      let mant := match ds.toList with
        | c :: rest => if rest.isEmpty then c.toString else c.toString ++ "." ++ String.ofList rest
        | [] => "0"
      let digits := toString ex.natAbs
      let digits := if digits.length < 2 then "0" ++ digits else digits
      mant ++ "e" ++ (if ex < 0 then "-" else "+") ++ digits
    else if point ≤ 0 then "0." ++ zeros (-point).toNat ++ ds
    else if point ≥ n then ds ++ zeros (point.toNat - n)
    else String.ofList (ds.toList.take point.toNat) ++ "." ++ String.ofList (ds.toList.drop point.toNat)

end FloatText

end Foreman
