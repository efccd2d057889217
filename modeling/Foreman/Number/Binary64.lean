/-!
# Binary64 values in exact arithmetic

A double is a sign and a magnitude `mant * 2 ^ exp`, with `mant < 2 ^ 53` and `exp ≥ -1074`.
Rounding a ratio of naturals to the nearest one, ties to even, is done in `Nat`, so what a
configuration value goes through (seconds read from text, scaled to nanoseconds, cut to an
integer) is exact and total.
-/

namespace Foreman

/-- A finite non-negative binary64 magnitude, `mant * 2 ^ exp`. -/
structure Binary64 where
  mant : Nat
  exp : Int

namespace Binary64

/-- The smallest exponent of a binary64 value (that of the subnormals). -/
def minExp : Int := -1074

/-- The largest exponent whose values are finite with a 53-bit significand. -/
def maxExp : Int := 971

def zero : Binary64 := ⟨0, 0⟩

/-- The ratio `num / den` scaled by `2 ^ -e`, as a numerator and denominator. -/
def scaleBy (num den : Nat) (e : Int) : Nat × Nat :=
  if 0 ≤ e then (num, den * Nat.pow 2 e.toNat) else (num * Nat.pow 2 (-e).toNat, den)

/-- The floor `⌊log₂ (num / den)⌋` for positive `num` and `den`. -/
def floorLog2 (num den : Nat) : Int :=
  let k : Int := (num.log2 : Int) - (den.log2 : Int)
  let (a, b) := scaleBy num den k
  if b ≤ a then k else k - 1

def roundHalfEven (q r den : Nat) : Nat :=
  if 2 * r > den || (2 * r == den && q % 2 == 1) then q + 1 else q

/-- The binary64 magnitude nearest to `num / den`, ties to the even significand, or `none`
when it is beyond the largest finite value. -/
def ofRatio (num den : Nat) : Option Binary64 :=
  if num == 0 || den == 0 then some zero
  else
    let e := max (floorLog2 num den - 52) minExp
    let (a, b) := scaleBy num den e
    let m := roundHalfEven (a / b) (a % b) b
    let (m, e) := if m == 9007199254740992 then (4503599627370496, e + 1) else (m, e)
    if e > maxExp then none else some ⟨m, e⟩

def toRatio (x : Binary64) : Nat × Nat :=
  if 0 ≤ x.exp then (x.mant * Nat.pow 2 x.exp.toNat, 1) else (x.mant, Nat.pow 2 (-x.exp).toNat)

def mul (x y : Binary64) : Option Binary64 :=
  let (a, b) := x.toRatio
  let (c, d) := y.toRatio
  ofRatio (a * c) (b * d)

def div (x y : Binary64) : Option Binary64 :=
  let (a, b) := x.toRatio
  let (c, d) := y.toRatio
  ofRatio (a * d) (b * c)

def floor (x : Binary64) : Nat :=
  let (a, b) := x.toRatio
  a / b

def ofNat (n : Nat) : Option Binary64 := ofRatio n 1

def isZero (x : Binary64) : Bool := x.mant == 0

end Binary64

/-- A binary64 number as text can denote it: a signed finite value, an infinity or NaN. -/
inductive Real64 where
  | finite (neg : Bool) (mag : Binary64)
  | inf (neg : Bool)
  | nan

end Foreman
