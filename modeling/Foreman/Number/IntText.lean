import Foreman.Text.Quote

/-!
# Reading integers

An optional sign and digits in a base from 2 to 36. With base 0 the base comes from a prefix
(`0x`, `0o` or a bare leading `0`, `0b`, else decimal), and only then may single underscores
separate digits. A value outside the width asked for is out of range rather than malformed;
either message names the function that read it.
-/

namespace Foreman

inductive IntRead where
  | value (n : Int)
  | outOfRange
  | malformed
  deriving BEq

namespace IntText

def digitValue (c : Char) : Nat :=
  if c.isDigit then c.toNat - 48
  else if 'a' ≤ c && c ≤ 'z' then c.toNat - 87
  else if 'A' ≤ c && c ≤ 'Z' then c.toNat - 55
  else 99

def lower (c : Char) : Char := if 'A' ≤ c && c ≤ 'Z' then Char.ofNat (c.toNat + 32) else c

/-- Whether the underscores of a text with its base prefix each stand between two digits
(the prefix counting as a digit). -/
def underscoresFit (cs : List Char) : Bool :=
  let body := match cs with
    | '+' :: r => r
    | '-' :: r => r
    | r => r
  let (start, rest) := match body with
    | '0' :: x :: r => if lower x == 'b' || lower x == 'o' || lower x == 'x' then ('0', r) else ('^', body)
    | r => ('^', r)
  -- `last` is the class of the previous character: `^` start, `0` digit, `_` underscore, `!` other
  let rec go (last : Char) : List Char → Bool
    | [] => last != '_'
    | c :: r =>
      if c.isDigit || (start == '0' && c.isAlpha) then go '0' r
      else if c == '_' then last == '0' && go '_' r
      else last != '_' && go '!' r
  go start rest

/-- Reads digits in `base` onto `acc`, from the left: a character that is not a digit there
makes the text malformed, and a value past `bits` bits puts it out of range at once.
Underscores are skipped when `skipUnderscores`. -/
def digitsValue (base bits : Nat) (skipUnderscores : Bool) : Nat → List Char → IntRead
  | acc, [] => .value acc
  | acc, c :: r =>
    if skipUnderscores && c == '_' then digitsValue base bits skipUnderscores acc r
    else
      let d := digitValue c
      if d ≥ base then .malformed
      else
        let n := acc * base + d
        if n ≥ Nat.pow 2 bits then .outOfRange else digitsValue base bits skipUnderscores n r

/-- Reads an unsigned integer of `bits` bits in `base` (0 for a base read off a prefix). -/
def readNat (s : String) (base : Nat) (bits : Nat) : IntRead :=
  let cs := s.toList
  let (b, ds) : Nat × List Char :=
    if base == 0 then
      match cs with
      | '0' :: x :: d :: r =>
        if lower x == 'b' then (2, d :: r)
        else if lower x == 'o' then (8, d :: r)
        else if lower x == 'x' then (16, d :: r)
        else (8, x :: d :: r)
      | '0' :: r => (8, r)
      | r => (10, r)
    else (base, cs)
  if cs.isEmpty then .malformed
  else
    match digitsValue b bits (base == 0) 0 ds with
    | .value n =>
      if base == 0 && cs.contains '_' && !underscoresFit cs then .malformed else .value n
    | r => r

/-- Reads a signed integer of `bits` bits in `base` (0 for a base read off a prefix). -/
def readInt (s : String) (base : Nat) (bits : Nat) : IntRead :=
  let (neg, body) := match s.toList with
    | '+' :: r => (false, r)
    | '-' :: r => (true, r)
    | r => (false, r)
  if body.isEmpty then .malformed
  else
    match readNat (String.ofList body) base bits with
    | .value n =>
      if (neg && n > Nat.pow 2 (bits - 1)) || (!neg && n ≥ Nat.pow 2 (bits - 1)) then .outOfRange
      else .value (if neg then -n else n)
    | .outOfRange => .outOfRange
    | .malformed => .malformed

def failure (fn : String) (s : String) (r : IntRead) : String :=
  "strconv." ++ fn ++ ": parsing " ++ Quote.text s ++ ": " ++
    (if r == .outOfRange then "value out of range" else "invalid syntax")

/-- Reads a decimal integer of the machine's width, or says why it cannot. -/
def atoi (s : String) : Except String Int :=
  match readInt s 10 64 with
  | .value n => .ok n
  | r => .error (failure "Atoi" s r)

end IntText

end Foreman
