import Foreman.Store.Dial
import Foreman.Text.Url
import Foreman.Text.Space
import Foreman.Number.IntText
import Foreman.Number.Word

/-!
# PostgreSQL connection strings

Blank-separated `key=value` settings, a value maybe quoted with `'`, a backslash taking the
next character as is. A `postgres://` or `postgresql://` URL becomes such a list first: user,
password, host, port, database (the path without its first slash) and query parameters, each
quoted, empty ones dropped, sorted as text. Settings start from `host=localhost port=5432`;
the client encoding may only be UTF-8 and the date style `ISO, MDY`. A host starting with a
slash is the directory of the socket `.s.PGSQL.<port>`, any other reached over TCP.
Connecting checks the driver's switches (`yes`, `no`) and the connect timeout (an integer)
before the server.
-/

namespace Foreman

/-- The settings of a PostgreSQL connection, in the order they were set. -/
abbrev PostgresOptions := List (String × String)

namespace PostgresDsn

def setOption (o : PostgresOptions) (k v : String) : PostgresOptions := o.filter (·.1 != k) ++ [(k, v)]

def option? (o : PostgresOptions) (k : String) : Option String := o.lookup k

def quoteValue (v : String) : String :=
  "'" ++ String.join (v.toList.map fun c =>
    if c == '\'' then "\\'" else if c == '\\' then "\\\\" else c.toString) ++ "'"

def ofUrl (raw : String) : Except String String := do
  let u ← Url.parse raw
  if u.scheme != "postgres" && u.scheme != "postgresql" then
    throw ("invalid connection protocol: " ++ u.scheme)
  let accrue (k v : String) : List String := if v == "" then [] else [k ++ "=" ++ quoteValue v]
  let userKvs := match u.user with
    | some (name, pass) => accrue "user" name ++ accrue "password" (pass.getD "")
    | none => []
  let hostKvs := match Dial.splitHostPort u.host with
    | some (h, p) => accrue "host" h ++ accrue "port" p
    | none => accrue "host" u.host
  let dbKvs := if u.path == "" then [] else accrue "dbname" (String.ofList (u.path.toList.drop 1))
  let (q, _) := QueryValues.parse u.rawQuery
  let queryKvs := q.keys.flatMap fun k => accrue k (q.get k)
  let kvs := (userKvs ++ hostKvs ++ dbKvs ++ queryKvs).mergeSort fun a b => decide (a ≤ b)
  return " ".intercalate kvs

def skipSpaces (cs : List Char) : List Char := cs.dropWhile Text.isSpace

/-- Reads an unquoted value up to a blank; a backslash takes the next character. -/
def bareValue : List Char → Except String (List Char × List Char)
  | [] => .ok ([], [])
  | c :: rest =>
    if Text.isSpace c then .ok ([], c :: rest)
    else if c == '\\' then
      match rest with
      | [] => .error "missing character after backslash"
      | d :: more => do
        let (v, after) ← bareValue more
        return (d :: v, after)
    else do
      let (v, after) ← bareValue rest
      return (c :: v, after)

def quotedValue : List Char → Except String (List Char × List Char)
  | [] => .error "unterminated quoted string literal in connection string"
  | '\'' :: rest => .ok ([], rest)
  | '\\' :: rest =>
    match rest with
    | [] => .error "unterminated quoted string literal in connection string"
    | d :: more => do
      let (v, after) ← quotedValue more
      return (d :: v, after)
  | c :: rest => do
    let (v, after) ← quotedValue rest
    return (c :: v, after)

/-- Reads the settings of a connection string into `o`, at most `fuel` of them. -/
def readOptions : Nat → List Char → PostgresOptions → Except String PostgresOptions
  | 0, _, o => .ok o
  | fuel + 1, cs, o =>
    match skipSpaces cs with
    | [] => .ok o
    | cs =>
      let key := cs.takeWhile fun c => !Text.isSpace c && c != '='
      let rest := cs.dropWhile fun c => !Text.isSpace c && c != '='
      let keyText := String.ofList key
      match skipSpaces rest with
      | '=' :: afterEq =>
        match skipSpaces afterEq with
        | [] => .ok (setOption o keyText "")
        | '\'' :: quoted => do
          let (v, after) ← quotedValue quoted
          readOptions fuel after (setOption o keyText (String.ofList v))
        | vs => do
          let (v, after) ← bareValue vs
          readOptions fuel after (setOption o keyText (String.ofList v))
      | _ => .error ("missing \"=\" after " ++ Quote.text keyText ++ " in connection info string\"")

def isUtf8 (name : String) : Bool :=
  let s := String.ofList ((name.toList.filter fun c => c.isAlphanum && c.toNat < 0x80).map fun c =>
    if 'A' ≤ c && c ≤ 'Z' then Char.ofNat (c.toNat + 32) else c)
  s == "utf8" || s == "unicode"

def parse (dsn : String) : Except String PostgresOptions := do
  let o : PostgresOptions := [("host", "localhost"), ("port", "5432"), ("extra_float_digits", "2")]
  let dsn ← if dsn.startsWith "postgres://" || dsn.startsWith "postgresql://" then ofUrl dsn else pure dsn
  let o ← readOptions (dsn.length + 1) dsn.toList o
  if let some enc := option? o "client_encoding" then
    if !isUtf8 enc then throw "client_encoding must be absent or 'UTF8'"
  if let some style := option? o "datestyle" then
    if style != "ISO, MDY" then throw ("setting datestyle must be absent or ISO, MDY; got " ++ style)
  return o

def network (o : PostgresOptions) : String × String :=
  let host := (option? o "host").getD ""
  let port := (option? o "port").getD ""
  if host.startsWith "/" then ("unix", Path.clean (host ++ "/.s.PGSQL." ++ port))
  else ("tcp", Dial.joinHostPort host port)

/-- Tries to connect with the settings: it always fails, as checking the settings or as
reaching the server. A connect timeout other than `0` that comes to zero seconds or less,
counted in nanoseconds in a 64-bit word, is up before the connection starts. -/
def connectFailure (o : PostgresOptions) : Fault :=
  let switch (k : String) : Option String :=
    match option? o k with
    | some v => if v == "yes" || v == "no" then none else some ("unrecognized value " ++ Quote.text v ++ " for " ++ k)
    | none => none
  match switch "disable_prepared_binary_result", switch "binary_parameters" with
  | some e, _ => .plain e
  | _, some e => .plain e
  | none, none =>
    let timeout : Except String Bool := match option? o "connect_timeout" with
      | some t => if t == "0" then .ok false else
        match IntText.readInt t 10 64 with
        | .value n => .ok (Word.wrap (n * 1000000000) ≤ 0)
        | r => .error ("invalid value for parameter connect_timeout: " ++ IntText.failure "ParseInt" t r)
      | none => .ok false
    match timeout with
    | .error e => .plain e
    | .ok expired =>
      let (net, addr) := network o
      Dial.failure net addr expired

end PostgresDsn

end Foreman
