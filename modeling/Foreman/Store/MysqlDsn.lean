import Foreman.Store.Dial
import Foreman.Text.Url
import Foreman.Time.Span
import Foreman.Number.IntText
import Foreman.Time.ZoneDatabase

/-!
# MySQL data source names

`[user[:password]@][net[(addr)]]/dbname[?params]`, cut at the last slash. The user
information ends at the last `@`, the password starts at the first `:`; after the slash come
the database name and `key=value` parameters. The network defaults to `tcp` at
`127.0.0.1:3306` (`unix` at `/tmp/mysql.sock`). A TLS configuration or server key must be
registered, and the program registers none.
-/

namespace Foreman

structure MysqlDsn where
  user : String := ""
  passwd : String := ""
  net : String := ""
  addr : String := ""
  dbName : String := ""
  collation : String := ""
  interpolateParams : Bool := false
  timeout : Int := 0
  tlsConfig : String := ""
  serverPubKey : String := ""
  params : List (String × String) := []
  deriving Inhabited

namespace MysqlDsn

/-- The collations whose bytes can hide a quote, which rule out client-side interpolation. -/
def unsafeCollations : List String :=
  ["big5_chinese_ci", "sjis_japanese_ci", "gbk_chinese_ci", "big5_bin", "gb2312_bin", "gbk_bin",
   "sjis_bin", "cp932_japanese_ci", "cp932_bin", "gb18030_chinese_ci", "gb18030_bin"]

def readBool (s : String) : Option Bool :=
  match s with
  | "1" | "true" | "TRUE" | "True" => some true
  | "0" | "false" | "FALSE" | "False" => some false
  | _ => none

def switches : List String :=
  ["allowAllFiles", "allowCleartextPasswords", "allowFallbackToPlaintext", "allowNativePasswords",
   "allowOldPasswords", "checkConnLiveness", "clientFoundRows", "columnsWithAlias",
   "interpolateParams", "multiStatements", "parseTime", "rejectReadOnly"]

def readParam (cfg : MysqlDsn) (key value : String) : Except String MysqlDsn := do
  if switches.contains key then
    match readBool value with
    | none => throw ("invalid bool value: " ++ value)
    | some b => return if key == "interpolateParams" then { cfg with interpolateParams := b } else cfg
  match key with
  | "collation" => return { cfg with collation := value }
  | "compress" => throw "compression not implemented yet"
  | "loc" =>
    let name ← Url.queryUnescape value
    let _ ← ZoneDatabase.load name
    return cfg
  | "readTimeout" | "writeTimeout" =>
    let _ ← Span.parseText value
    return cfg
  | "timeout" => return { cfg with timeout := ← Span.parseText value }
  | "maxAllowedPacket" =>
    let _ ← IntText.atoi value
    return cfg
  | "serverPubKey" =>
    match Url.queryUnescape value with
    | .ok name => return { cfg with serverPubKey := name }
    | .error e => throw ("invalid value for server pub key name: " ++ e)
  | "tls" =>
    match readBool value with
    | some b => return { cfg with tlsConfig := if b then "true" else "false" }
    | none =>
      let lower := Text.lower value
      if lower == "skip-verify" || lower == "preferred" then return { cfg with tlsConfig := lower }
      match Url.queryUnescape value with
      | .ok name => return { cfg with tlsConfig := name }
      | .error e => throw ("invalid value for TLS config name: " ++ e)
  | _ =>
    let v ← Url.queryUnescape value
    return { cfg with params := cfg.params ++ [(key, v)] }

/-- The failure of the parameter `strict`, which the driver no longer has and stops on. -/
def strictRemoved : Fault :=
  Fault.of .panic "strict mode has been removed. See https://github.com/go-sql-driver/mysql/wiki/strict-mode"

/-- Reads the parameters after the `?`, in order; a pair without `=` is skipped. -/
def readParams (cfg : MysqlDsn) (params : String) : Except Fault MysqlDsn :=
  (Text.splitOn params "&").foldlM (fun cfg v =>
    match Text.splitOn v "=" with
    | key :: first :: rest =>
      if key == "strict" then .error strictRemoved
      else (readParam cfg key ("=".intercalate (first :: rest))).mapError Fault.plain
    | _ => pure cfg) cfg

def normalize (cfg : MysqlDsn) : Except String MysqlDsn := do
  if cfg.interpolateParams && unsafeCollations.contains cfg.collation then
    throw "invalid DSN: interpolateParams can not be used with unsafe collations"
  let net := if cfg.net == "" then "tcp" else cfg.net
  let addr ← if cfg.addr == "" then
      match net with
      | "tcp" => pure "127.0.0.1:3306"
      | "unix" => pure "/tmp/mysql.sock"
      | _ => throw ("default addr for network '" ++ net ++ "' unknown")
    else if net == "tcp" then
      pure (if (Dial.splitHostPort cfg.addr).isSome then cfg.addr else Dial.joinHostPort cfg.addr "3306")
    else pure cfg.addr
  if !(List.contains ["false", "", "true", "skip-verify", "preferred"] cfg.tlsConfig) then
    throw ("invalid value / unknown config name: " ++ cfg.tlsConfig)
  if cfg.serverPubKey != "" then
    throw ("invalid value / unknown server pub key name: " ++ cfg.serverPubKey)
  return { cfg with net := net, addr := addr }

def lastIndex (cs : List Char) (c : Char) : Option Nat :=
  (cs.reverse.findIdx? (· == c)).map fun j => cs.length - 1 - j

/-- Reads a data source name: the connection, or why the name is refused. -/
def read (dsn : String) : Except Fault MysqlDsn := do
  let cs := dsn.toList
  match lastIndex cs '/' with
  | none =>
    if cs.isEmpty then (normalize {}).mapError Fault.plain
    else throw (.plain "invalid DSN: missing the slash separating the database name")
  | some i =>
    let before := cs.take i
    let cfg ← if i == 0 then pure ({} : MysqlDsn) else do
      let (cfg, start) : MysqlDsn × Nat := match lastIndex before '@' with
        | some j =>
          let info := before.take j
          match info.findIdx? (· == ':') with
          | some k => ({ user := String.ofList (info.take k), passwd := String.ofList (info.drop (k + 1)) }, j + 1)
          | none => ({ user := String.ofList info }, j + 1)
        | none => ({}, 0)
      let proto := before.drop start
      match proto.findIdx? (· == '(') with
      | some k =>
        if before.getLast? != some ')' then
          if (proto.drop (k + 1)).contains ')' then throw (.plain "invalid DSN: did you forget to escape a param value?")
          else throw (.plain "invalid DSN: network address not terminated (missing closing brace)")
        pure { cfg with net := String.ofList (proto.take k), addr := String.ofList (proto.drop (k + 1)).dropLast }
      | none => pure { cfg with net := String.ofList proto }
    let after := cs.drop (i + 1)
    let cfg ← match after.findIdx? (· == '?') with
      | some q => do
        let cfg ← readParams cfg (String.ofList (after.drop (q + 1)))
        pure { cfg with dbName := String.ofList (after.take q) }
      | none => pure { cfg with dbName := String.ofList after }
    (normalize cfg).mapError Fault.plain

end MysqlDsn

end Foreman
