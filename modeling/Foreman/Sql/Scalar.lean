import Foreman.Sql.Clock
import Foreman.Sql.Catalog

/-!
# Scalar functions

Functions giving one value from their arguments' values, by the engine's rules: text
functions on their arguments' text, numeric functions reading numbers as the engine does,
`like` and `glob` matching patterns. A failure carries the result code: `integer overflow`
(1), `string or blob too big` (18), `not authorized` (23, shown as 1 as the engine reports it
to a statement).
-/

namespace Foreman.Sql

/-- A failure while a statement runs: the engine's result code and its message, and, when
a trigger's `RAISE` threw it, how that ends the statement. -/
structure Failure where
  code : Nat
  message : String
  raised : Option RaiseKind := none
  deriving Inhabited

namespace Failure

def logic (m : String) : Failure := { code := 1, message := m }

def tooBig : Failure := { code := 18, message := "string or blob too big" }

def mismatch : Failure := { code := 20, message := "datatype mismatch" }

end Failure

abbrev Run := Except Failure

namespace Scalar

def maxLength : Nat := 1000000000

def bytesOf (v : Value) : Option (List UInt8) := v.bytes?

def textOf (v : Value) : Option String := v.asText

/-- A text cut at its first zero character, as functions that read text up to its end do. -/
def untilZero (s : String) : String := String.ofList (s.toList.takeWhile (· != '\x00'))

/-- The number a value is for a function that takes numbers: an integer or a real, or none
for null, blobs and text that does not read whole as a number. -/
def numberOf : Value → Option Value
  | .int n => some (.int n)
  | .real x => some (.real x)
  | .text s => Value.affinityNumber s false
  | _ => none

def realResult (x : Float) : Value := if x.isNaN then .null else .real x

def truncate (x : Float) : Float := if x < 0.0 then x.ceil else x.floor

/-- The exact remainder of `x` by `y`, with the sign of `x` (not a number when `y` is zero
or `x` is infinite). -/
def remainder (x y : Float) : Float :=
  if x.isNaN || y.isNaN || x.isInf || y == 0.0 then (0.0 : Float) / 0.0
  else if y.isInf || x == 0.0 then x
  else
    let parts (z : Float) : Nat × Int :=
      let b := z.toBits.toNat
      let e := (b / 4503599627370496) % 2048
      let m := b % 4503599627370496
      if e == 0 then (m, -1074) else (m + 4503599627370496, (e : Int) - 1075)
    let (mx, ex) := parts x
    let (my, ey) := parts y
    let e := min ex ey
    let big := mx * Nat.pow 2 (ex - e).toNat
    let small := my * Nat.pow 2 (ey - e).toNat
    let r := big % small
    let mag := Float.scaleB r.toFloat e
    if x < 0.0 then -mag else mag

def hexValue? (c : Char) : Option Nat :=
  if c.isDigit then some (c.toNat - 48)
  else if c.toNat ≥ 97 && c.toNat ≤ 102 then some (c.toNat - 87)
  else if c.toNat ≥ 65 && c.toNat ≤ 70 then some (c.toNat - 55)
  else none

/-- The UTF-8 bytes of a code point of up to 21 bits, as the engine writes any of them. -/
def encodePoint (c : Nat) : List UInt8 :=
  if c < 0x80 then [c.toUInt8]
  else if c < 0x800 then [(0xC0 + (c / 64) % 32).toUInt8, (0x80 + c % 64).toUInt8]
  else if c < 0x10000 then
    [(0xE0 + (c / 4096) % 16).toUInt8, (0x80 + (c / 64) % 64).toUInt8, (0x80 + c % 64).toUInt8]
  else
    [(0xF0 + (c / 262144) % 8).toUInt8, (0x80 + (c / 4096) % 64).toUInt8,
      (0x80 + (c / 64) % 64).toUInt8, (0x80 + c % 64).toUInt8]

/-- The characters of a text from a 1-based start: a negative start counts from the end, a
negative length takes the characters before the start, and the start 0 takes one fewer. -/
def substring (len : Nat) (start : Int) (count : Option Int) : Nat × Nat :=
  let (p2, negative) : Int × Bool := match count with
    | some c => if c < 0 then (-c, true) else (c, false)
    | none => (maxLength, false)
  let (p1, p2) : Int × Int :=
    if start < 0 then
      let p1 := start + len
      if p1 < 0 then (0, max 0 (p2 + p1)) else (p1, p2)
    else if start > 0 then (start - 1, p2)
    else if p2 > 0 then (0, p2 - 1) else (0, p2)
  let (p1, p2) :=
    if negative then
      let q := p1 - p2
      if q < 0 then (0, p2 + q) else (q, p2)
    else (p1, p2)
  (p1.toNat, p2.toNat)

/-- The places of the characters of bytes: each lead byte with the continuation bytes after
it (a byte of `0xC0` or more leads). -/
def charSpans (bs : List UInt8) : List (List UInt8) :=
  let rec go (fuel : Nat) : List UInt8 → List (List UInt8)
    | [] => []
    | b :: rest =>
      match fuel with
      | 0 => [b :: rest]
      | f + 1 =>
        if b ≥ 0xC0 then
          let tail := rest.takeWhile fun x => x &&& 0xC0 == 0x80
          (b :: tail) :: go f (rest.drop tail.length)
        else [b] :: go f rest
  go bs.length bs

/-- The number of characters of a text's bytes up to its first zero byte. -/
def charCount (bs : List UInt8) : Nat := (charSpans (bs.takeWhile (· != 0))).length

/-- The code point of the first character of bytes as the engine reads it: a lead byte of
`0xC0` or more takes every continuation byte after it, and a character so read below `0x80`,
a surrogate, `0xFFFE` or `0xFFFF` reads as U+FFFD; any other byte is its own value. -/
def firstPoint : List UInt8 → Option Nat
  | [] => none
  | b :: rest =>
    if b < 0xC0 then some b.toNat
    else
      let lead : Nat := if b < 0xE0 then b.toNat - 0xC0 else if b < 0xF0 then b.toNat - 0xE0
        else if b < 0xF8 then b.toNat - 0xF0 else if b < 0xFC then b.toNat - 0xF8
        else if b < 0xFE then b.toNat - 0xFC else 0
      let c := (rest.takeWhile fun x => x &&& 0xC0 == 0x80).foldl
        (fun c x => (c * 64 + (x.toNat % 64)) % 4294967296) lead
      if c < 0x80 || c / 2048 == 0xD800 / 2048 || c / 2 == 0xFFFE / 2 then some 0xFFFD else some c

/-- The characters of a text's bytes up to its first zero byte, as the engine reads them
one by one (`firstPoint`); a code point beyond Unicode reads as U+FFFD. -/
def readChars (bs : List UInt8) : List Char :=
  (charSpans (bs.takeWhile (· != 0))).map fun sp =>
    let c := (firstPoint sp).getD 0xFFFD
    if c.isValidChar then Char.ofNat c else '\uFFFD'

/-- Text within quotes as `quote` writes it: up to its first zero byte, each quote doubled. -/
def quoteBytes (bs : List UInt8) : List UInt8 :=
  39 :: (bs.takeWhile (· != 0)).flatMap (fun b => if b == 39 then [39, 39] else [b]) ++ [39]

/-- The text of `quote`: numbers as they read back, text within quotes, blobs in hex. -/
def quote : Value → String
  | .null => "NULL"
  | .int n => toString n
  | .real x => Decimal.quoted x
  | .text s => "'" ++ (untilZero s).replace "'" "''" ++ "'"
  | .rawText bs => Value.bytesText (quoteBytes bs)
  | .blob bs =>
    let hexDigit (k : Nat) : Char := if k < 10 then Char.ofNat (48 + k) else Char.ofNat (55 + k)
    "X'" ++ String.ofList (bs.flatMap fun b => [hexDigit (b.toNat / 16), hexDigit (b.toNat % 16)]) ++ "'"

def hexText (bs : List UInt8) : String :=
  let hexDigit (k : Nat) : Char := if k < 10 then Char.ofNat (48 + k) else Char.ofNat (55 + k)
  String.ofList (bs.flatMap fun b => [hexDigit (b.toNat / 16), hexDigit (b.toNat % 16)])

/-- The function `unhex`: pairs of hexadecimal digits as bytes, skipping characters of `pass` between
pairs; none when anything else stands in the text. -/
def unhex (text : String) (pass : List Char) : Option (List UInt8) :=
  let rec go (fuel : Nat) (cs : List Char) (acc : List UInt8) : Option (List UInt8) :=
    match fuel, cs with
    | 0, _ => some acc.reverse
    | _, [] => some acc.reverse
    | f + 1, c :: rest =>
      if c == '\x00' then some acc.reverse
      else match hexValue? c with
        | some hi =>
          match rest with
          | d :: more =>
            match hexValue? d with
            | some lo => go f more ((hi * 16 + lo).toUInt8 :: acc)
            | none => none
          | [] => none
        | none => if pass.contains c then go f rest acc else none
  go cs.length cs []
where cs := text.toList

/-- The function `soundex`: the first ASCII letter in upper case and the codes of the letters after it,
a code written only when it differs from the one before and a vowel or other character
between two equal codes separating them; `?000` when the text has no ASCII letter. -/
def soundex (text : List UInt8) : String :=
  let code (b : Nat) : Nat :=
    let c := Affinity.lowerByte (b % 128)
    match Char.ofNat c with
    | 'b' | 'f' | 'p' | 'v' => 1
    | 'c' | 'g' | 'j' | 'k' | 'q' | 's' | 'x' | 'z' => 2
    | 'd' | 't' => 3
    | 'l' => 4
    | 'm' | 'n' => 5
    | 'r' => 6
    | _ => 0
  let bs := (text.takeWhile (· != 0)).map UInt8.toNat
  let isAlpha (b : Nat) : Bool := (b ≥ 65 && b ≤ 90) || (b ≥ 97 && b ≤ 122)
  let rest := bs.dropWhile (!isAlpha ·)
  match rest with
  | [] => "?000"
  | first :: _ =>
    let upper := if first ≥ 97 then first - 32 else first
    let step : (List Nat × Nat) → Nat → (List Nat × Nat) := fun (acc, prev) b =>
      if acc.length ≥ 3 then (acc, prev)
      else
        let c := code b
        if c > 0 then (if c != prev then (acc ++ [c], c) else (acc, prev)) else (acc, 0)
    let (codes, _) := rest.foldl step ([], code first)
    let digits := codes ++ List.replicate (3 - codes.length) 0
    String.ofList (Char.ofNat upper :: digits.map fun d => Char.ofNat (48 + d))

/-- The function `unistr`: the text with its escapes read: `\\` a backslash, `\XXXX`, `\uXXXX`, `\+XXXXXX`
and `\UXXXXXXXX` a code point in hexadecimal; none for any other backslash. -/
def unistr (text : List UInt8) : Option (List UInt8) :=
  let hexN (n : Nat) (cs : List Char) : Option Nat :=
    let ds := cs.take n
    if ds.length == n && ds.all (hexValue? · |>.isSome) then
      some (ds.foldl (fun a c => a * 16 + (hexValue? c).getD 0) 0)
    else none
  let rec go (fuel : Nat) (cs : List Char) (acc : List UInt8) : Option (List UInt8) :=
    match fuel, cs with
    | 0, _ => some acc
    | _, [] => some acc
    | f + 1, '\\' :: rest =>
      match rest with
      | '\\' :: more => go f more (acc ++ [92])
      | '+' :: more => (hexN 6 more).bind fun v => go f (more.drop 6) (acc ++ encodePoint v)
      | 'u' :: more => (hexN 4 more).bind fun v => go f (more.drop 4) (acc ++ encodePoint v)
      | 'U' :: more => (hexN 8 more).bind fun v => go f (more.drop 8) (acc ++ encodePoint (v % 2097152))
      | c :: _ =>
        if (hexValue? c).isSome then (hexN 4 rest).bind fun v => go f (rest.drop 4) (acc ++ encodePoint v)
        else none
      | [] => none
    | f + 1, c :: rest => go f rest (acc ++ [c.toNat.toUInt8])
  -- each byte read as the character of its value, so that escapes, which are ASCII, read
  -- alike and any other byte passes through unchanged
  let cs := text.map fun b => Char.ofNat b.toNat
  go cs.length cs []

/-- The result of comparing a pattern: a match, no match, or no match that a wider start of
the text could not mend either. -/
inductive PatternResult where
  | matched | noMatch | noWildcardMatch
  deriving BEq, Inhabited

/-- The characters a pattern language uses: any run, any one character, a set or escape
opener, and whether case is ignored. -/
structure PatternInfo where
  matchAll : Option Char
  matchOne : Option Char
  matchSet : Bool
  noCase : Bool

def lowerAscii (c : Char) : Char := if c.toNat < 128 then c.toLower else c

/-- Reads the members of a `[...]` set up to its `]`: whether `x` is among them (`a-z` a
range after a character) and the pattern after the set; none when the set has no end. -/
def setMembers (x : Char) : List Char → Option Char → Bool → Option (Bool × List Char)
  | [], _, _ => none
  | ']' :: rest, _, seen => some (seen, rest)
  | '-' :: n :: rest, some lo, seen =>
    if n != ']' then setMembers x rest none (seen || (lo ≤ x && x ≤ n))
    else setMembers x (n :: rest) (some '-') (seen || x == '-')
  | d :: rest, _, seen => setMembers x rest (some d) (seen || x == d)

def suffixes {α : Type} : List α → List (List α)
  | [] => []
  | x :: xs => (x :: xs) :: suffixes xs

/-- Skips the wildcards after a `*`: further `*`, and `?` each taking one character of the
text; none when the text runs out. -/
def skipWildcards (info : PatternInfo) : List Char → List Char → Option (List Char × List Char)
  | d :: ps, t =>
    if some d == info.matchAll then skipWildcards info ps t
    else if some d == info.matchOne then
      match t with
      | _ :: ts => skipWildcards info ps ts
      | [] => none
    else some (d :: ps, t)
  | [], t => some ([], t)

/-- The first result of a list of tries that is not a plain mismatch. -/
def firstDecided (rs : List (Unit → PatternResult)) : PatternResult :=
  (rs.findSome? fun r => match r () with
    | .noMatch => none
    | x => some x).getD .noWildcardMatch

/-- Compares a text with a pattern. `other` is the escape character of `LIKE` or `[` of
`GLOB`. Each step takes at least one character of the pattern, so the pattern's length
bounds the steps. -/
def patternCompare (info : PatternInfo) (other : Option Char) :
    Nat → List Char → List Char → PatternResult
  | 0, _, _ => .noMatch
  | fuel + 1, pattern, text =>
    match pattern with
    | [] => if text.isEmpty then .matched else .noMatch
    | c :: prest =>
      if some c == info.matchAll then
        match skipWildcards info prest text with
        | none => .noWildcardMatch
        | some ([], _) => .matched
        | some (d :: ps, t) =>
          if some d == other && info.matchSet then
            firstDecided ((suffixes t).map fun s _ => patternCompare info other fuel (d :: ps) s)
          else
            let (d, ps, ok) :=
              if some d == other then
                match ps with
                | e :: more => (e, more, true)
                | [] => (d, ps, false)
              else (d, ps, true)
            if !ok then .noWildcardMatch
            else
              let hit (x : Char) : Bool :=
                if info.noCase && d.toNat < 128 then lowerAscii x == lowerAscii d else x == d
              firstDecided ((suffixes t).map fun s _ => match s with
                | x :: xs => if hit x then patternCompare info other fuel ps xs else .noMatch
                | [] => .noMatch)
      else if some c == other then
        if !info.matchSet then
          match prest with
          | [] => .noMatch
          | e :: more =>
            match text with
            | x :: xs =>
              if x == e || (info.noCase && lowerAscii x == lowerAscii e && x.toNat < 128 && e.toNat < 128) then
                patternCompare info other fuel more xs
              else .noMatch
            | [] => .noMatch
        else
          match text with
          | [] => .noMatch
          | x :: xs =>
            let (invert, body) := match prest with
              | '^' :: r => (true, r)
              | r => (false, r)
            let (seen0, body) := match body with
              | ']' :: r => (x == ']', r)
              | r => (false, r)
            match setMembers x body none seen0 with
            | none => .noMatch
            | some (seen, rest) => if seen != invert then patternCompare info other fuel rest xs else .noMatch
      else
        match text with
        | [] => .noMatch
        | x :: xs =>
          if x == c then patternCompare info other fuel prest xs
          else if info.noCase && lowerAscii c == lowerAscii x && c.toNat < 128 && x.toNat < 128 then
            patternCompare info other fuel prest xs
          else if some c == info.matchOne then patternCompare info other fuel prest xs
          else .noMatch

/-- Whether the bytes of a text match a `LIKE` pattern's. -/
def like (caseSensitive : Bool) (esc : Option Char) (pattern text : List UInt8) : Bool :=
  let info : PatternInfo := {
    matchAll := if esc == some '%' then none else some '%',
    matchOne := if esc == some '_' then none else some '_',
    matchSet := false, noCase := !caseSensitive }
  let p := readChars pattern
  let t := readChars text
  patternCompare info esc (p.length + 1) p t == .matched

/-- Whether the bytes of a text match a `GLOB` pattern's. -/
def glob (pattern text : List UInt8) : Bool :=
  let info : PatternInfo := { matchAll := some '*', matchOne := some '?', matchSet := true, noCase := false }
  let p := readChars pattern
  let t := readChars text
  patternCompare info (some '[') (p.length + 1) p t == .matched

/-- Replaces every occurrence of a pattern's bytes, left to right. -/
def replaceBytes (s p r : List UInt8) : List UInt8 :=
  let rec go (fuel : Nat) (s : List UInt8) (acc : Array UInt8) : Array UInt8 :=
    match fuel, s with
    | 0, _ => acc ++ s.toArray
    | _, [] => acc
    | f + 1, b :: rest =>
      if s.take p.length == p then go f (s.drop p.length) (acc ++ r.toArray)
      else go f rest (acc.push b)
  (go (s.length + 1) s #[]).toList

/-- Trims the characters of a set from the ends of a text's bytes. -/
def trimBytes (left right : Bool) (set : List (List UInt8)) (s : List UInt8) : List UInt8 :=
  let rec fromLeft (fuel : Nat) (s : List UInt8) : List UInt8 :=
    match fuel with
    | 0 => s
    | f + 1 =>
      match set.find? fun c => !c.isEmpty && s.take c.length == c with
      | some c => fromLeft f (s.drop c.length)
      | none => s
  let rec fromRight (fuel : Nat) (s : List UInt8) : List UInt8 :=
    match fuel with
    | 0 => s
    | f + 1 =>
      match set.find? fun c => !c.isEmpty && c.length ≤ s.length && s.drop (s.length - c.length) == c with
      | some c => fromRight f (s.take (s.length - c.length))
      | none => s
  let s := if left then fromLeft (s.length + 1) s else s
  if right then fromRight (s.length + 1) s else s

/-- The position of a needle in a haystack, counted in characters for text and bytes for
blobs: 1 for an empty needle, 0 when it does not occur. -/
def instr (asText : Bool) (hay needle : List UInt8) : Nat :=
  if needle.isEmpty then 1
  else
    let rec go (fuel : Nat) (h : List UInt8) (n : Nat) : Nat :=
      match fuel with
      | 0 => 0
      | f + 1 =>
        if needle.length > h.length then 0
        else if h.take needle.length == needle then n
        else
          let h := h.drop 1
          let h := if asText then h.dropWhile fun x => x &&& 0xC0 == 0x80 else h
          go f h (n + 1)
    go (hay.length + 1) hay 1

/-- Joins the texts of values with a separator, skipping nulls: the separator goes before a
text only once something has been written, so empty texts at the start leave no trace. -/
def joinTexts (sep : List UInt8) (vs : List Value) : List UInt8 :=
  vs.foldl (fun acc v => match v.bytes? with
    | some t => (if acc.isEmpty then acc else acc ++ sep) ++ t
    | none => acc) []

/-- Rounds a real to `n` places the way `round` does: half away from zero for whole numbers,
through its fixed text otherwise. -/
def roundReal (x : Float) (n : Nat) : Float :=
  if x < -4503599627370496.0 || x > 4503599627370496.0 then x
  else if n == 0 then
    Value.floatOfInt (Value.realToInt (x + (if x < 0.0 then -0.5 else 0.5)))
  else (Decimal.readReal (Decimal.render { bang := true, precision := some n } .fixed false x)).1

def math1 (f : Float → Float) (v : Value) : Value :=
  match numberOf v with
  | some n => realResult (f n.toReal)
  | none => .null

def math2 (f : Float → Float → Float) (a b : Value) : Value :=
  match numberOf a, numberOf b with
  | some x, some y => realResult (f x.toReal y.toReal)
  | _, _ => .null

def pi : Float := 3.141592653589793115997963

/-- Calls a scalar function on its arguments' values, with the connection's settings and
the collation its arguments give (`min`, `max` and `nullif` compare under it). -/
def call (settings : Settings) (coll : Collation) (name : String) (args : List Value) : Run Value := do
  let n := name.map Char.toLower
  let a0 := args.getD 0 .null
  let a1 := args.getD 1 .null
  let a2 := args.getD 2 .null
  let str (v : Value) : String := (v.asText).getD ""
  if Clock.isFunction n then return Clock.call settings.now n args
  match n with
  | "load_extension" => throw (Failure.logic "not authorized")
  | "abs" =>
    match a0 with
    | .null => return .null
    | .int x => if x == Value.minInt then throw (Failure.logic "integer overflow") else return .int x.natAbs
    | v => return .real v.toReal.abs
  | "length" =>
    match a0 with
    | .null => return .null
    | .blob bs => return .int bs.length
    | .text _ | .rawText _ => return .int (charCount ((bytesOf a0).getD []))
    | v => return .int (str v).utf8ByteSize
  | "octet_length" =>
    match bytesOf a0 with
    | none => return .null
    | some bs => return .int bs.length
  | "lower" | "upper" =>
    let some bs := bytesOf a0 | return .null
    let (lo, hi) : UInt8 × UInt8 := if n == "upper" then (97, 122) else (65, 90)
    return Value.ofTextBytes (bs.map fun b => if lo ≤ b && b ≤ hi then b ^^^ 32 else b)
  | "typeof" => return .text a0.typeName
  | "subtype" => return .int 0
  | "nullif" => return if Value.compareBy coll a0 a1 == 0 then .null else a0
  | "substr" | "substring" =>
    if a1.isNull || (args.length > 2 && a2.isNull) then return .null
    let count := if args.length > 2 then some a2.toInt else none
    match a0 with
    | .null => return .null
    | .blob bs =>
      let (p1, p2) := substring bs.length a1.toInt count
      let p2 := if p1 ≥ bs.length then 0 else min p2 (bs.length - p1)
      return .blob ((bs.drop p1).take p2)
    | v =>
      let spans := charSpans (((bytesOf v).getD []).takeWhile (· != 0))
      let (p1, p2) := substring spans.length a1.toInt count
      return Value.ofTextBytes ((spans.drop p1).take p2).flatten
  | "replace" =>
    let some s := bytesOf a0 | return .null
    let some p := bytesOf a1 | return .null
    if p.isEmpty || p.head? == some 0 then return Value.ofTextBytes s
    let some r := bytesOf a2 | return .null
    return Value.ofTextBytes (replaceBytes s p r)
  | "trim" | "ltrim" | "rtrim" =>
    let some s := bytesOf a0 | return .null
    let set ← if args.length > 1 then
        match bytesOf a1 with
        | some cs => pure (charSpans (cs.takeWhile (· != 0)))
        | none => return .null
      else pure [[32]]
    return Value.ofTextBytes (trimBytes (n != "rtrim") (n != "ltrim") set s)
  | "instr" =>
    if a0.isNull || a1.isNull then return .null
    match a0, a1 with
    | .blob h, .blob nd => return .int (instr false h nd)
    | _, _ => return .int (instr true ((bytesOf a0).getD []) ((bytesOf a1).getD []))
  | "hex" => return .text (hexText ((bytesOf a0).getD []))
  | "unhex" =>
    let some text := textOf a0 | return .null
    let pass ← if args.length > 1 then
        match textOf a1 with
        | some p => pure (untilZero p).toList
        | none => return .null
      else pure []
    return match unhex text pass with
      | some bs => .blob bs
      | none => .null
  | "quote" | "unistr_quote" =>
    match a0 with
    | .rawText bs => return Value.ofTextBytes (quoteBytes bs)
    | v => return .text (quote v)
  | "unistr" =>
    let some s := bytesOf a0 | return .null
    match unistr s with
    | some t => return Value.ofTextBytes t
    | none => throw (Failure.logic "invalid Unicode escape")
  | "zeroblob" =>
    let k := a0.toInt
    if k > maxLength then throw Failure.tooBig
    return .blob (List.replicate k.toNat 0)
  | "randomblob" =>
    let k := a0.toInt
    if k > maxLength then throw Failure.tooBig
    return .blob (List.replicate (max k 1).toNat 0)
  | "random" => return .int 0
  | "unicode" =>
    match (bytesOf a0).bind fun bs => firstPoint (bs.takeWhile (· != 0)) with
    | some c => return .int c
    | none => return .null
  | "char" =>
    let bytes := args.flatMap fun v =>
      let x := v.toInt
      encodePoint (if x < 0 || x > 0x10ffff then 0xfffd else x.toNat)
    return Value.ofTextBytes bytes
  | "min" | "max" =>
    if args.any (·.isNull) then return .null
    let pick (best v : Value) : Value :=
      let c := Value.compareBy coll best v
      -- `min` takes the later of equal values, `max` keeps the earlier
      if n == "min" then (if c ≥ 0 then v else best) else (if c < 0 then v else best)
    return (args.drop 1).foldl pick a0
  | "sign" =>
    match numberOf a0 with
    | some v =>
      let x := v.toReal
      return .int (if x < 0.0 then -1 else if x > 0.0 then 1 else 0)
    | none => return .null
  | "round" =>
    let places ← if args.length > 1 then
        if a1.isNull then return .null
        pure (min 30 (max 0 a1.toInt)).toNat
      else pure 0
    if a0.isNull then return .null
    return .real (roundReal a0.toReal places)
  | "concat" => return Value.ofTextBytes (joinTexts [] args)
  | "concat_ws" =>
    let some sep := bytesOf a0 | return .null
    return Value.ofTextBytes (joinTexts sep (args.drop 1))
  | "likely" | "unlikely" | "likelihood" => return a0
  -- `MATCH` is only a name a virtual table may take over
  | "match" => throw (Failure.logic "unable to use function MATCH in the requested context")
  | "like" =>
    let esc ← if args.length > 2 then
        match bytesOf a2 with
        | none => return .null
        | some e =>
          let e := readChars e
          if e.length != 1 then throw (Failure.logic "ESCAPE expression must be a single character")
          pure e.head?
      else pure none
    if ((bytesOf a0).getD []).length > 50000 then throw (Failure.logic "LIKE or GLOB pattern too complex")
    match bytesOf a0, bytesOf a1 with
    | some p, some t => return Value.ofBool (like settings.caseSensitiveLike esc p t)
    | _, _ => return .null
  | "glob" =>
    if ((bytesOf a0).getD []).length > 50000 then throw (Failure.logic "LIKE or GLOB pattern too complex")
    match bytesOf a0, bytesOf a1 with
    | some p, some t => return Value.ofBool (glob p t)
    | _, _ => return .null
  | "printf" | "format" =>
    match args with
    | [] => return .null
    | f :: rest =>
      match bytesOf f with
      | none => return .null
      | some pattern =>
        match Format.run pattern rest with
        | some t => return Value.ofTextBytes t
        | none => return .null
  | "soundex" => return .text (soundex ((bytesOf a0).getD []))
  | "sqlite_version" => return .text "3.51.0"
  | "changes" | "total_changes" | "last_insert_rowid" => return .int 0
  | "ceil" | "ceiling" | "floor" | "trunc" =>
    match numberOf a0 with
    | some (.int k) => return .int k
    | some (.real x) => return .real (if n == "floor" then x.floor else if n == "trunc" then truncate x else x.ceil)
    | _ => return .null
  | "ln" | "log10" | "log2" =>
    match numberOf a0 with
    | some v =>
      let x := v.toReal
      if x ≤ 0.0 then return .null
      return realResult (if n == "ln" then x.log else if n == "log10" then x.log10 else x.log2)
    | none => return .null
  | "log" =>
    match numberOf a0 with
    | some v =>
      let x := v.toReal
      if x ≤ 0.0 then return .null
      if args.length == 1 then return realResult x.log10
      let b := x.log
      if b ≤ 0.0 then return .null
      let y := a1.toReal
      if y ≤ 0.0 then return .null
      return realResult (y.log / b)
    | none => return .null
  | "exp" => return math1 Float.exp a0
  | "pow" | "power" => return math2 Float.pow a0 a1
  | "mod" => return math2 remainder a0 a1
  | "acos" => return math1 Float.acos a0
  | "asin" => return math1 Float.asin a0
  | "atan" => return math1 Float.atan a0
  | "atan2" => return math2 Float.atan2 a0 a1
  | "cos" => return math1 Float.cos a0
  | "sin" => return math1 Float.sin a0
  | "tan" => return math1 Float.tan a0
  | "cosh" => return math1 Float.cosh a0
  | "sinh" => return math1 Float.sinh a0
  | "tanh" => return math1 Float.tanh a0
  | "acosh" => return math1 Float.acosh a0
  | "asinh" => return math1 Float.asinh a0
  | "atanh" => return math1 Float.atanh a0
  | "sqrt" => return math1 Float.sqrt a0
  | "radians" => return math1 (fun x => x * (pi / 180.0)) a0
  | "degrees" => return math1 (fun x => x * (180.0 / pi)) a0
  | "pi" => return .real pi
  | _ => return .null

end Scalar

end Foreman.Sql
