import Foreman.Text.Bytes
import Foreman.Text.Quote
import Foreman.Text.Split
import Foreman.Text.Space

/-!
# URLs and query strings

Percent escapes are read over a text's UTF-8 bytes: `%` and two hexadecimal digits, the bytes
decoded as UTF-8 again; in a query `+` is a blank. In a host an escape may only stand for a
byte from `0x80` (or be `%25`), and characters a host may not hold are refused.

A query splits at `&` into unescaped `key=value` pairs; a `;` fails it all, else the first
badly escaped pair does, the others kept. Encoding writes keys in order, values escaped as a
query (`+` for a blank, upper-case `%XX` for bytes other than letters, digits, `-`, `_`, `.`,
`~`). A URL is `scheme:` then an opaque part or `//authority/path`, then `?query` and
`#fragment`; the authority is `userinfo@host:port`.
-/

namespace Foreman

/-- Which part of a URL a text belongs to; each part escapes differently. -/
inductive UrlPart where
  | path
  | host
  | userPassword
  | queryComponent
  | fragment
  deriving BEq, Inhabited

namespace Url

def hexValue? (c : Char) : Option Nat :=
  if '0' ≤ c && c ≤ '9' then some (c.toNat - 48)
  else if 'a' ≤ c && c ≤ 'f' then some (c.toNat - 87)
  else if 'A' ≤ c && c ≤ 'F' then some (c.toNat - 55)
  else none

def bytes (s : String) : List Nat := s.toList.flatMap Quote.utf8

def text (bs : List Nat) : String := String.ofList (Bytes.utf8Decode bs)

def mustEscape (b : Nat) (part : UrlPart) : Bool :=
  let c := Char.ofNat b
  if c.isAlphanum then false
  else if part == .host &&
      "!$&'()*+,;=:[]<>\"".toList.contains c then false
  else if "-_.~".toList.contains c then false
  else if "$&+,/:;=?@".toList.contains c then
    match part with
    | .path => c == '?'
    | .userPassword => c == '@' || c == '/' || c == '?' || c == ':'
    | .queryComponent => true
    | .fragment => false
    | .host => true
  else if part == .fragment && "!()*".toList.contains c then false
  else true

/-- The message for a bad escape: the escape as written, at most three bytes. -/
def escapeError (rest : List Nat) : String := "invalid URL escape " ++ Quote.text (text (rest.take 3))

def checkEscapes (part : UrlPart) : List Nat → Except String Unit
  | [] => .ok ()
  | b :: rest =>
    if b == 37 then
      match rest with
      | h1 :: h2 :: more =>
        match hexValue? (Char.ofNat h1), hexValue? (Char.ofNat h2) with
        | some v1, some _ =>
          if part == .host && v1 < 8 && !(h1 == 50 && h2 == 53) then
            .error (escapeError (b :: rest))
          else checkEscapes part more
        | _, _ => .error (escapeError (b :: rest))
      | _ => .error (escapeError (b :: rest))
    else if part == .host && b < 0x80 && mustEscape b part then
      .error ("invalid character " ++ Quote.text (text [b]) ++ " in host name")
    else checkEscapes part rest

def decodeBytes (part : UrlPart) : List Nat → List Nat
  | [] => []
  | 37 :: h1 :: h2 :: more =>
    match hexValue? (Char.ofNat h1), hexValue? (Char.ofNat h2) with
    | some v1, some v2 => (v1 * 16 + v2) :: decodeBytes part more
    | _, _ => 37 :: decodeBytes part (h1 :: h2 :: more)
  | b :: rest =>
    if b == 43 && part == .queryComponent then 32 :: decodeBytes part rest
    else b :: decodeBytes part rest

/-- A text with its escapes decoded, or why it is badly escaped. -/
def unescape (s : String) (part : UrlPart) : Except String String := do
  let bs := bytes s
  checkEscapes part bs
  return text (decodeBytes part bs)

def queryUnescape (s : String) : Except String String := unescape s .queryComponent

def upperHex (n : Nat) : Char := if n < 10 then Char.ofNat (48 + n) else Char.ofNat (55 + n)

def queryEscape (s : String) : String :=
  String.join ((bytes s).map fun b =>
    if b == 32 then "+"
    else if mustEscape b .queryComponent then String.ofList ['%', upperHex (b / 16), upperHex (b % 16)]
    else (Char.ofNat b).toString)

end Url

/-- The pairs of a query string, in the order they were written. -/
abbrev QueryValues := List (String × String)

namespace QueryValues

/-- The first value of a key, or empty. -/
def get (q : QueryValues) (key : String) : String := (q.lookup key).getD ""

/-- Every value of a key, in order. -/
def all (q : QueryValues) (key : String) : List String := (q.filter (·.1 == key)).map (·.2)

def set (q : QueryValues) (key value : String) : QueryValues := q.filter (·.1 != key) ++ [(key, value)]

def add (q : QueryValues) (key value : String) : QueryValues := q ++ [(key, value)]

/-- The distinct keys, in order. -/
def keys (q : QueryValues) : List String := (q.map (·.1)).eraseDups

/-- The query as text: keys in order, each key's values in the order they were added. -/
def encode (q : QueryValues) : String :=
  let keys := q.keys.mergeSort fun a b => decide (a ≤ b)
  "&".intercalate (keys.flatMap fun k =>
    (q.all k).map fun v => Url.queryEscape k ++ "=" ++ Url.queryEscape v)

/-- Reads one pair into the values; answers the failure it met, if any. -/
def readPair (acc : QueryValues × Option String) (pair : String) : QueryValues × Option String :=
  let (q, err) := acc
  if pair.toList.contains ';' then (q, some "invalid semicolon separator in query")
  else if pair == "" then (q, err)
  else
    let (k, v) := match Text.splitOn pair "=" with
      | k :: rest => (k, "=".intercalate rest)
      | [] => ("", "")
    match Url.queryUnescape k, Url.queryUnescape v with
    | .ok k, .ok v => (q ++ [(k, v)], err)
    | .error e, _ => (q, err.or (some e))
    | _, .error e => (q, err.or (some e))

/-- Reads a query string: the pairs that could be read, and the failure of the query. -/
def parse (query : String) : QueryValues × Option String :=
  if query == "" then ([], none)
  else (Text.splitOn query "&").foldl readPair ([], none)

end QueryValues

/-- A URL: its scheme, the user and password of its authority, its host with the port, its
path with escapes decoded, and its raw query. -/
structure Url where
  scheme : String
  user : Option (String × Option String)
  host : String
  path : String
  rawQuery : String
  deriving Inhabited

namespace Url

def validPort (p : String) : Bool :=
  match p.toList with
  | [] => true
  | ':' :: ds => ds.all Char.isDigit
  | _ => false

def validUserinfo (s : String) : Bool :=
  s.toList.all fun c => c.isAlphanum || "-._:~!$&'()*+,;=%@".toList.contains c

def parseHost (host : String) : Except String String := do
  if host.startsWith "[" then
    let cs := host.toList
    match (cs.reverse.findIdx? (· == ']')) with
    | none => throw "missing ']' in host"
    | some j =>
      let colonPort := String.ofList (cs.drop (cs.length - j))
      if !validPort colonPort then throw ("invalid port " ++ Quote.text colonPort ++ " after host")
  else
    let cs := host.toList
    match cs.reverse.findIdx? (· == ':') with
    | some j =>
      let colonPort := String.ofList (cs.drop (cs.length - 1 - j))
      if !validPort colonPort then throw ("invalid port " ++ Quote.text colonPort ++ " after host")
    | none => pure ()
  unescape host .host

def parseAuthority (authority : String) : Except String (Option (String × Option String) × String) := do
  let cs := authority.toList
  match cs.reverse.findIdx? (· == '@') with
  | none => return (none, ← parseHost authority)
  | some j =>
    let i := cs.length - 1 - j
    let host ← parseHost (String.ofList (cs.drop (i + 1)))
    let info := String.ofList (cs.take i)
    if !validUserinfo info then throw "net/url: invalid userinfo"
    match Text.splitOn info ":" with
    | [name] => return (some (← unescape name .userPassword, none), host)
    | name :: rest =>
      let name ← unescape name .userPassword
      let pass ← unescape (":".intercalate rest) .userPassword
      return (some (name, some pass), host)
    | [] => return (none, host)

/-- The scheme of a URL and the rest of it; a text without a scheme has an empty one. -/
def splitScheme (s : String) : Except String (String × String) :=
  let cs := s.toList
  let rec go : Nat → List Char → Except String (String × String)
    | _, [] => .ok ("", s)
    | i, c :: rest =>
      if c.isAlpha then go (i + 1) rest
      else if c.isDigit || c == '+' || c == '-' || c == '.' then
        if i == 0 then .ok ("", s) else go (i + 1) rest
      else if c == ':' then
        if i == 0 then .error "missing protocol scheme"
        else .ok (String.ofList (cs.take i), String.ofList rest)
      else .ok ("", s)
  go 0 cs

def parse (raw : String) : Except String Url :=
  let (u, frag) := match Text.splitOn raw "#" with
    | u :: rest => (u, "#".intercalate rest)
    | [] => ("", "")
  let failed (text : String) (e : String) : String := "parse " ++ Quote.text text ++ ": " ++ e
  let body : Except String Url := do
    if u.toList.any (fun c => c.toNat < 0x20 || c.toNat == 0x7f) then
      throw "net/url: invalid control character in URL"
    let (sch, rest) ← splitScheme u
    let (rest, rawQuery) :=
      if rest.endsWith "?" && (rest.toList.filter (· == '?')).length == 1 then
        (String.ofList rest.toList.dropLast, "")
      else match Text.splitOn rest "?" with
        | r :: q => (r, "?".intercalate q)
        | [] => ("", "")
    if !rest.startsWith "/" && sch != "" then
      return ⟨Text.lower sch, none, "", "", rawQuery⟩
    let (user, host, rest) ← if rest.startsWith "//" then do
        let auth := String.ofList (rest.toList.drop 2)
        let (auth, path) := match Text.splitOn auth "/" with
          | a :: ps => (a, if ps.isEmpty then "" else "/" ++ "/".intercalate ps)
          | [] => ("", "")
        let (user, host) ← parseAuthority auth
        pure (user, host, path)
      else pure (none, "", rest)
    let path ← unescape rest .path
    return ⟨Text.lower sch, user, host, path, rawQuery⟩
  match body with
  | .error e => .error (failed u e)
  | .ok url =>
    if frag == "" then .ok url
    else match unescape frag .fragment with
      | .ok _ => .ok url
      | .error e => .error (failed raw e)

end Url

end Foreman
