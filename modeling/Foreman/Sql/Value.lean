import Foreman.Sql.Syntax
import Foreman.Sql.Decimal
import Foreman.Text.Bytes

/-!
# Values of a database

A value is null, a 64-bit integer, a real, text or a blob. Text keeps its bytes, read as UTF-8
where it must with U+FFFD per byte that starts no character. A column's declared type gives an
affinity (text, none, real, integer or numeric), the name read left to right with the last
match deciding; numeric affinities turn text that reads as a number into it, text affinity
turns numbers into text. Numbers read from text follow `Decimal.readReal` and
`Decimal.readInteger`. Values order null first, then numbers by value (integer and real
compared exactly), text by a collation, blobs by bytes.
-/

namespace Foreman.Sql

inductive Value where
  | null
  | int (n : Int)
  | real (x : Float)
  | text (s : String)
  | rawText (bytes : List UInt8)
  | blob (bytes : List UInt8)
  deriving Inhabited, Repr

inductive Affinity where
  | blob | text | numeric | integer | real
  deriving Inhabited, BEq, Repr

namespace Affinity

def upper (s : String) : String := s.map Char.toUpper

/-- The lower case of an ASCII letter's byte; other bytes stay. -/
def lowerByte (b : Nat) : Nat := if b ≥ 65 && b ≤ 90 then b + 32 else b

def wordBytes (w : String) : List Nat := w.toList.map Char.toNat

/-- The affinity a declared type gives, reading its name left to right. -/
def ofType (type : String) : Affinity := Id.run do
  if type.isEmpty then return .blob
  let mut aff := Affinity.numeric
  let mut window : List Nat := []
  for b in type.toUTF8.toList do
    window := (window ++ [lowerByte b.toNat]).reverse.take 4 |>.reverse
    if window == wordBytes "char" || window == wordBytes "clob" || window == wordBytes "text" then
      aff := .text
    else if window == wordBytes "blob" && (aff == .numeric || aff == .real) then aff := .blob
    else if (window == wordBytes "real" || window == wordBytes "floa" || window == wordBytes "doub") &&
        aff == .numeric then
      aff := .real
    else if window.drop (window.length - 3) == wordBytes "int" then return .integer
  return aff

end Affinity

/-- A collation: how two texts compare. `binary` compares their bytes, `nocase` the same
after folding ASCII letters to lower case, `rtrim` their bytes without trailing spaces. -/
inductive Collation where
  | binary | nocase | rtrim
  deriving BEq, Inhabited, Repr

namespace Collation

def ofName? (name : String) : Option Collation :=
  match name.map Char.toLower with
  | "binary" => some .binary
  | "nocase" => some .nocase
  | "rtrim" => some .rtrim
  | _ => none

/-- Compares lists by their elements, then their lengths: negative, zero or positive. -/
def compareLists : List Nat → List Nat → Int
  | [], [] => 0
  | [], _ => -1
  | _, [] => 1
  | x :: xs, y :: ys => if x < y then -1 else if x > y then 1 else compareLists xs ys

def compareBytes (c : Collation) (s t : List UInt8) : Int :=
  let a := s.map UInt8.toNat
  let b := t.map UInt8.toNat
  match c with
  | .binary => compareLists a b
  | .nocase => compareLists (a.map Affinity.lowerByte) (b.map Affinity.lowerByte)
  | .rtrim =>
    let cut (l : List Nat) : List Nat := (l.reverse.dropWhile (· == 32)).reverse
    compareLists (cut a) (cut b)

def compare (c : Collation) (s t : String) : Int :=
  c.compareBytes s.toUTF8.toList t.toUTF8.toList

end Collation

namespace Value

def minInt : Int := -9223372036854775808
def maxInt : Int := 9223372036854775807

def fits (n : Int) : Bool := minInt ≤ n && n ≤ maxInt

def floatOfInt (n : Int) : Float := if fits n then (Int64.ofInt n).toFloat else Float.ofInt n

def digitsValue (ds : List Char) : Nat := ds.foldl (fun a c => a * 10 + (c.toNat - 48)) 0

/-- A real as an integer, cut toward zero and held within 64 bits; not a number is the
smallest integer. -/
def realToInt (x : Float) : Int :=
  if x < -9223372036854774784.0 then minInt
  else if x > 9223372036854774784.0 then maxInt
  else if x.isNaN then minInt
  else
    let n := x.abs.toUInt64.toNat
    if x < 0 then -(n : Int) else n

/-- Whether a real is exactly an integer of magnitude below `2 ^ 51` (or is zero). -/
def sameAsInt (x : Float) (n : Int) : Bool :=
  x == 0.0 || ((floatOfInt n).toBits == x.toBits && -2251799813685248 ≤ n && n < 2251799813685248)

/-- A real with no fraction strictly between the smallest and largest integers, as that
integer. -/
def integral? (x : Float) : Option Int :=
  let n := realToInt x
  if floatOfInt n == x && minInt < n && n < maxInt then some n else none

/-- The text of a blob's bytes; a byte that starts no character reads as U+FFFD. -/
def bytesText (bs : List UInt8) : String :=
  match String.fromUTF8? (ByteArray.mk bs.toArray) with
  | some s => s
  | none => String.ofList (Bytes.utf8Decode (bs.map UInt8.toNat))

def textBytes (s : String) : List UInt8 := s.toUTF8.toList

/-- The text value of bytes: `text` when they are well-formed UTF-8, `rawText` otherwise. -/
def ofTextBytes (bs : List UInt8) : Value :=
  match String.fromUTF8? (ByteArray.mk bs.toArray) with
  | some s => .text s
  | none => .rawText bs

/-- The character a stray byte of text (one that starts no character; always `0x80` or
more) is read as by `looseText`: from U+10FF80 on, the last block of the last private-use
plane. -/
def strayChar (b : Nat) : Char := Char.ofNat (0x10FF80 + (b - 0x80))

/-- The characters of text's bytes with each stray byte read as its `strayChar`, so that
`looseBytes` gets the bytes back. -/
def looseText (bs : List UInt8) : String :=
  String.ofList (Bytes.utf8DecodeWith strayChar (bs.map UInt8.toNat))

/-- The bytes of text read by `looseText`: a character from U+10FF80 on is the stray byte it
stands for. -/
def looseBytes (s : String) : List UInt8 :=
  s.toList.flatMap fun c =>
    if c.toNat ≥ 0x10FF80 then [(c.toNat - 0x10FF80 + 0x80).toUInt8] else textBytes c.toString

/-- A value whose text may have been read by `looseText`, with its stray bytes back. -/
def loosen : Value → Value
  | .text s => if s.toList.any (fun c => c.toNat ≥ 0x10FF80) then ofTextBytes (looseBytes s) else .text s
  | v => v

def tighten : Value → Value
  | .rawText bs => .text (looseText bs)
  | v => v

/-- A message that may quote text read by `looseText`, each stray byte shown as U+FFFD. -/
def plainMessage (m : String) : String := m.map fun c => if c.toNat ≥ 0x10FF80 then '\uFFFD' else c

def isText : Value → Bool
  | .text _ | .rawText _ => true
  | _ => false

/-- The bytes of a value's text, as text functions read it (a number's text, a blob's
bytes), none for null. -/
def bytes? : Value → Option (List UInt8)
  | .null => none
  | .int n => some (textBytes (toString n))
  | .real x => some (textBytes (Decimal.text x))
  | .text s => some (textBytes s)
  | .rawText bs | .blob bs => some bs

def realText (x : Float) : String := Decimal.text x

/-- The text of a value, as text affinity or concatenation makes it. -/
def asText : Value → Option String
  | .null => none
  | .int n => some (toString n)
  | .real x => some (realText x)
  | .text s => some s
  | .rawText bs | .blob bs => some (bytesText bs)

/-- A value as an integer: a real cut toward zero, text and blobs their leading integer,
null zero. -/
def toInt : Value → Int
  | .int n => n
  | .real x => realToInt x
  | .text s => (Decimal.readInteger s).1
  | .rawText bs | .blob bs => (Decimal.readInteger (bytesText bs)).1
  | .null => 0

/-- A value as a real: text and blobs their leading real, null zero. -/
def toReal : Value → Float
  | .int n => floatOfInt n
  | .real x => x
  | .text s => (Decimal.readReal s).1
  | .rawText bs | .blob bs => (Decimal.readReal (bytesText bs)).1
  | .null => 0.0

def toFloat (v : Value) : Float := v.toReal

/-- The number a text is in arithmetic: its integer when it reads as one that fits (or as
nothing at all, which is 0), otherwise its real. -/
def numberOfText (s : String) : Value :=
  let (x, q) := Decimal.readReal s
  if q ≤ 0 then
    let (n, iq) := Decimal.readInteger s
    if q == 0 && iq ≤ 1 then .int n else .real x
  else if q == 1 then
    let (n, iq) := Decimal.readInteger s
    if iq == 0 then .int n else .real x
  else .real x

/-- A value as arithmetic reads it: null stays null, text and blobs are read as numbers. -/
def numeric : Value → Value
  | .text s => numberOfText s
  | .rawText bs | .blob bs => numberOfText (bytesText bs)
  | v => v

/-- The number a text holds when a numeric affinity converts it, if it reads whole as a
number: a plain integer that fits is that integer; any other number is a real, then an
integer when `tryInt` and it is a whole number strictly between the extremes. -/
def affinityNumber (s : String) (tryInt : Bool) : Option Value :=
  let (x, q) := Decimal.readReal s
  if q ≤ 0 then none
  else
    let asInt : Option Int :=
      if q == 1 then
        let n := realToInt x
        if sameAsInt x n then some n
        else
          let (m, iq) := Decimal.readInteger s
          if iq == 0 then some m else none
      else none
    match asInt with
    | some n => some (.int n)
    | none =>
      if tryInt then
        match integral? x with
        | some n => some (.int n)
        | none => some (.real x)
      else some (.real x)

def withAffinity (a : Affinity) (v : Value) : Value :=
  match a, v with
  | .text, .int _ | .text, .real _ => .text ((v.asText).getD "")
  | .integer, .text s | .numeric, .text s =>
    (affinityNumber s true).getD v
  | .real, .text s =>
    match affinityNumber s true with
    | some (.int n) => .real (floatOfInt n)
    | some x => x
    | none => v
  | .real, .int n => .real (floatOfInt n)
  | .integer, .real x | .numeric, .real x =>
    match integral? x with
    | some n => .int n
    | none => v
  | _, _ => v

/-- A text read whole as a number for a cast to `NUMERIC`: an integer when the text is one
(or its leading part is), or when its real is exactly a small integer; a real otherwise. -/
def numerify (s : String) : Value :=
  let (x, q) := Decimal.readReal s
  let (n, iq) := Decimal.readInteger s
  if (q == 0 || q == 1) && iq ≤ 1 then .int n
  else
    let m := realToInt x
    if sameAsInt x m then .int m else .real x

def cast (type : String) (v : Value) : Value :=
  if v matches .null then .null
  else match Affinity.ofType type with
    | .integer => .int v.toInt
    | .real => .real v.toReal
    | .numeric =>
      match v with
      | .text s => numerify s
      | .rawText bs | .blob bs => numerify (bytesText bs)
      | _ => v
    | .text => ofTextBytes ((v.bytes?).getD [])
    | .blob => .blob ((v.bytes?).getD [])

/-- Reads the text of a number as a literal of the language: the integer when it has no
fraction or exponent and fits in 64 bits, otherwise the real. -/
def readNumber (s : String) : Option Value :=
  let (x, q) := Decimal.readReal s
  if q ≤ 0 then none
  else if q == 1 then
    let (n, iq) := Decimal.readInteger s
    if iq == 0 then some (.int n) else some (.real x)
  else some (.real x)

/-- The rank of a value's kind in the order of values. -/
def rank : Value → Nat
  | .null => 0
  | .int _ | .real _ => 1
  | .text _ | .rawText _ => 2
  | .blob _ => 3

/-- Compares an integer with a real exactly: negative, zero or positive. A real that is not
a number is below every integer. -/
def compareIntReal (i : Int) (r : Float) : Int :=
  if r.isNaN then 1
  else if r < -9223372036854775808.0 then 1
  else if r ≥ 9223372036854775808.0 then -1
  else
    let y := realToInt r
    if i < y then -1 else if i > y then 1
    else
      let x := floatOfInt i
      if x < r then -1 else if x > r then 1 else 0

/-- Compares two values under a collation for text: negative, zero or positive. -/
def compareBy (coll : Collation) (a b : Value) : Int :=
  if a.rank != b.rank then (a.rank : Int) - b.rank
  else match a, b with
    | .null, .null => 0
    | .int m, .int n => if m < n then -1 else if m == n then 0 else 1
    | .real x, .real y => if x < y then -1 else if x > y then 1 else 0
    | .int m, .real y => compareIntReal m y
    | .real x, .int n => -(compareIntReal n x)
    | .text s, .text t => coll.compare s t
    | .text _, _ | .rawText _, _ => coll.compareBytes ((a.bytes?).getD []) ((b.bytes?).getD [])
    | .blob s, .blob t => Collation.compareLists (s.map UInt8.toNat) (t.map UInt8.toNat)
    | _, _ => 0

/-- Compares two values: negative, zero or positive. Text is compared by its bytes, or
without regard to ASCII case when `nocase` holds. -/
def compare (nocase : Bool) (a b : Value) : Int :=
  compareBy (if nocase then .nocase else .binary) a b

/-- The truth of a value: null is unknown, an integer is true when it is not zero, and
anything else when its real is not zero. -/
def truth : Value → Option Bool
  | .null => none
  | .int n => some (n != 0)
  | v => some (v.toReal != 0.0)

def ofBool (b : Bool) : Value := .int (if b then 1 else 0)

def ofTruth : Option Bool → Value
  | some b => ofBool b
  | none => .null

def typeName : Value → String
  | .null => "null"
  | .int _ => "integer"
  | .real _ => "real"
  | .text _ | .rawText _ => "text"
  | .blob _ => "blob"

def intArith (op : BinaryOp) (x y : Int) : Option Value :=
  let within (n : Int) : Option Value := if fits n then some (.int n) else none
  match op with
  | .add => within (x + y)
  | .sub => within (x - y)
  | .mul => within (x * y)
  | .div => if y == 0 then some .null else if x == minInt && y == -1 then none else within (x.tdiv y)
  | .rem => if y == 0 then some .null else some (.int (if y == -1 then 0 else x.tmod y))
  | _ => some .null

/-- Real arithmetic on the reals of two values; division by zero and a result that is no
number are null, and the remainder is that of their integers. -/
def realArith (op : BinaryOp) (a b : Value) : Value :=
  let x := a.toReal
  let y := b.toReal
  let r := match op with
    | .add => some (x + y)
    | .sub => some (x - y)
    | .mul => some (x * y)
    | .div => if y == 0.0 then none else some (x / y)
    | .rem =>
      let iy := b.toInt
      let ix := a.toInt
      if iy == 0 then none else some (floatOfInt (ix.tmod (if iy == -1 then 1 else iy)))
    | _ => none
  match r with
  | some z => if z.isNaN then .null else .real z
  | none => .null

/-- The arithmetic operators on two values: integers while both are integers and the
result fits, reals otherwise. -/
def arith (op : BinaryOp) (a b : Value) : Value :=
  match a, b with
  | .null, _ | _, .null => .null
  | _, _ =>
    match numeric a, numeric b with
    | .int x, .int y => (intArith op x y).getD (realArith op a b)
    | _, _ => realArith op a b

def isNull : Value → Bool
  | .null => true
  | _ => false

end Value

end Foreman.Sql
