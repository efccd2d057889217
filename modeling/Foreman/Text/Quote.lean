import Foreman.Text.Printable

/-!
# Quoted text in messages

Two quotings, both in double quotes with `"` and `\` backslash-escaped: `Quote.text` keeps
printable characters, writing `\a \b \f \n \r \t \v`, `\xNN` for other ASCII controls and
`\uNNNN` or `\UNNNNNNNN` for other unprintables; `Quote.ascii` keeps printable ASCII only,
writing each UTF-8 byte of anything else as `\xNN`.
-/

namespace Foreman.Quote

def hexDigit (n : Nat) : Char := if n < 10 then Char.ofNat (48 + n) else Char.ofNat (87 + n)

/-- The `width` lower-case hexadecimal digits of `n`. -/
def hex (width : Nat) (n : Nat) : String :=
  String.ofList ((List.range width).reverse.map fun i => hexDigit (n / Nat.pow 16 i % 16))

/-- The bytes of the UTF-8 encoding of a character. -/
def utf8 (c : Char) : List Nat :=
  let n := c.toNat
  if n < 0x80 then [n]
  else if n < 0x800 then [0xC0 + n / 64, 0x80 + n % 64]
  else if n < 0x10000 then [0xE0 + n / 4096, 0x80 + n / 64 % 64, 0x80 + n % 64]
  else [0xF0 + n / 262144, 0x80 + n / 4096 % 64, 0x80 + n / 64 % 64, 0x80 + n % 64]

def textChar (c : Char) : String :=
  match c with
  | '"' => "\\\""
  | '\\' => "\\\\"
  | '\n' => "\\n"
  | '\r' => "\\r"
  | '\t' => "\\t"
  | c =>
    let n := c.toNat
    if n == 7 then "\\a"
    else if n == 8 then "\\b"
    else if n == 12 then "\\f"
    else if n == 11 then "\\v"
    else if Printable.test c then c.toString
    else if n < 0x80 then "\\x" ++ hex 2 n
    else if n < 0x10000 then "\\u" ++ hex 4 n
    else "\\U" ++ hex 8 n

/-- A text quoted with its printable characters kept. -/
def text (s : String) : String :=
  "\"" ++ String.join (s.toList.map textChar) ++ "\""

def asciiChar (c : Char) : String :=
  if c.toNat ≥ 0x80 || c.toNat < 0x20 then String.join ((utf8 c).map fun b => "\\x" ++ hex 2 b)
  else if c == '"' || c == '\\' then "\\" ++ c.toString
  else c.toString

def ascii (s : String) : String :=
  "\"" ++ String.join (s.toList.map asciiChar) ++ "\""

end Foreman.Quote
