import Foreman.Json.Value

/-!
# Writing JSON

Compact JSON: no blanks, members in stored order. Strings are escaped for embedding in HTML,
`<`, `>`, `&` and U+2028 and U+2029 as `\u` escapes; a control character takes its short
escape where JSON has one, else `\u00XX`.
-/

namespace Foreman.Json

def hexDigit (n : Nat) : Char :=
  if n < 10 then Char.ofNat (48 + n) else Char.ofNat (87 + n)

def hexByte (n : Nat) : String :=
  String.ofList [hexDigit (n / 16 % 16), hexDigit (n % 16)]

/-- Four lower-case hexadecimal digits of a value below 65536. -/
def hex4 (n : Nat) : String :=
  hexByte (n / 256) ++ hexByte (n % 256)

/-- How one character of a string is written inside the quotes. -/
def escapeChar (c : Char) : String :=
  match c with
  | '"' => "\\\""
  | '\\' => "\\\\"
  | '\n' => "\\n"
  | '\r' => "\\r"
  | '\t' => "\\t"
  | '<' => "\\u003c"
  | '>' => "\\u003e"
  | '&' => "\\u0026"
  | c =>
    if c.toNat == 8 then "\\b"
    else if c.toNat == 12 then "\\f"
    else if c.toNat < 0x20 then "\\u00" ++ hexByte c.toNat
    else if c.toNat == 0x2028 || c.toNat == 0x2029 then "\\u" ++ hex4 c.toNat
    else c.toString

def quote (s : String) : String :=
  "\"" ++ String.join (s.toList.map escapeChar) ++ "\""

mutual
def render : Json → String
  | .null => "null"
  | .bool true => "true"
  | .bool false => "false"
  | .num lit => lit
  | .str s => quote s
  | .arr xs => "[" ++ renderItems xs ++ "]"
  | .obj ms => "\x7b" ++ renderMembers ms ++ "\x7d"
  | .raw text => text

def renderItems : List Json → String
  | [] => ""
  | [x] => render x
  | x :: xs => render x ++ "," ++ renderItems xs

def renderMembers : List (String × Json) → String
  | [] => ""
  | [(k, v)] => quote k ++ ":" ++ render v
  | (k, v) :: ms => quote k ++ ":" ++ render v ++ "," ++ renderMembers ms
end

/-- The pieces of compacted JSON text: blanks outside strings dropped, `<`, `>`, `&`,
U+2028 and U+2029 escaped, everything else kept as written. -/
def compactPieces : List Char → Bool → Bool → List String
  | [], _, _ => []
  | c :: cs, inString, escaped =>
    let piece :=
      if c == '<' || c == '>' || c == '&' || c.toNat == 0x2028 || c.toNat == 0x2029 then
        "\\u" ++ hex4 c.toNat
      else if !inString && (c == ' ' || c == '\t' || c == '\n' || c == '\r') then ""
      else c.toString
    let (inString', escaped') :=
      if inString then
        if escaped then (true, false)
        else if c == '\\' then (true, true)
        else if c == '"' then (false, false)
        else (true, false)
      else (c == '"', false)
    piece :: compactPieces cs inString' escaped'

/-- JSON text compacted: blanks between tokens removed and the characters that are unsafe
in HTML escaped; escapes already in the text are kept as written. -/
def compactText (s : String) : String := String.join (compactPieces s.toList false false)

end Foreman.Json
