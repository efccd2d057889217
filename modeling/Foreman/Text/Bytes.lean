/-!
# Bytes and text

Standard base64 with `=` padding (line breaks skipped), and UTF-8 decoding in which each byte
starting no well-formed sequence reads as U+FFFD, or as the caller makes it.
-/

namespace Foreman.Bytes

def base64Value? (c : Char) : Option Nat :=
  if 'A' ≤ c && c ≤ 'Z' then some (c.toNat - 65)
  else if 'a' ≤ c && c ≤ 'z' then some (c.toNat - 71)
  else if c.isDigit then some (c.toNat + 4)
  else if c == '+' then some 62
  else if c == '/' then some 63
  else none

/-- The bytes of groups of four base64 digits; the last group may end in one or two `=`. -/
def base64Groups : List Char → Option (List Nat)
  | [] => some []
  | [a, b, '=', '='] => do
    let x ← base64Value? a
    let y ← base64Value? b
    if y % 16 != 0 then none else some [x * 4 + y / 16]
  | [a, b, c, '='] => do
    let x ← base64Value? a
    let y ← base64Value? b
    let z ← base64Value? c
    if z % 4 != 0 then none else some [x * 4 + y / 16, (y % 16) * 16 + z / 4]
  | a :: b :: c :: d :: rest => do
    let x ← base64Value? a
    let y ← base64Value? b
    let z ← base64Value? c
    let w ← base64Value? d
    let more ← base64Groups rest
    some ([x * 4 + y / 16, (y % 16) * 16 + z / 4, (z % 4) * 64 + w] ++ more)
  | _ => none

def base64Decode (s : String) : Option (List Nat) :=
  base64Groups (s.toList.filter fun c => c != '\n' && c != '\r')

/-- Whether a byte continues a UTF-8 sequence within the bounds `lo` and `hi`. -/
def within (lo hi : Nat) (b : Nat) : Bool := lo ≤ b && b ≤ hi

/-- The character that the byte `b` starts when the bytes `rest` follow it, with the
number of bytes of `rest` it takes; `none` when `b` starts no well-formed sequence. -/
def utf8Lead (b : Nat) (rest : List Nat) : Option (Char × Nat) :=
  if b < 0x80 then some (Char.ofNat b, 0)
  else
    let lo := if b == 0xE0 then 0xA0 else if b == 0xF0 then 0x90 else 0x80
    let hi := if b == 0xED then 0x9F else if b == 0xF4 then 0x8F else 0xBF
    match rest with
    | c1 :: c2 :: c3 :: _ =>
      if within 0xC2 0xDF b && within 0x80 0xBF c1 then
        some (Char.ofNat ((b - 0xC0) * 64 + (c1 - 0x80)), 1)
      else if within 0xE0 0xEF b && within lo hi c1 && within 0x80 0xBF c2 then
        some (Char.ofNat ((b - 0xE0) * 4096 + (c1 - 0x80) * 64 + (c2 - 0x80)), 2)
      else if within 0xF0 0xF4 b && within lo hi c1 && within 0x80 0xBF c2 &&
          within 0x80 0xBF c3 then
        some (Char.ofNat ((b - 0xF0) * 262144 + (c1 - 0x80) * 4096 + (c2 - 0x80) * 64 +
          (c3 - 0x80)), 3)
      else none
    | [c1, c2] =>
      if within 0xC2 0xDF b && within 0x80 0xBF c1 then
        some (Char.ofNat ((b - 0xC0) * 64 + (c1 - 0x80)), 1)
      else if within 0xE0 0xEF b && within lo hi c1 && within 0x80 0xBF c2 then
        some (Char.ofNat ((b - 0xE0) * 4096 + (c1 - 0x80) * 64 + (c2 - 0x80)), 2)
      else none
    | [c1] =>
      if within 0xC2 0xDF b && within 0x80 0xBF c1 then
        some (Char.ofNat ((b - 0xC0) * 64 + (c1 - 0x80)), 1)
      else none
    | [] => none

/-- Decodes UTF-8 bytes; a byte that does not start a well-formed sequence is the
character `stray` makes of it. -/
def utf8DecodeWith (stray : Nat → Char) : List Nat → List Char
  | [] => []
  | b :: rest =>
    match utf8Lead b rest with
    | some (c, n) => c :: utf8DecodeWith stray (rest.drop n)
    | none => stray b :: utf8DecodeWith stray rest
termination_by bytes => bytes.length
decreasing_by
  all_goals simp only [List.length_cons, List.length_drop]
  all_goals omega

/-- Decodes UTF-8 bytes; a byte that does not start a well-formed sequence is U+FFFD. -/
def utf8Decode (bytes : List Nat) : List Char := utf8DecodeWith (fun _ => '\uFFFD') bytes

end Foreman.Bytes
