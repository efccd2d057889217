import Foreman.Store.Handle
import Foreman.Sql.Session
import Foreman.Store.MysqlDsn
import Foreman.Store.PostgresDsn
import Foreman.Host.Files
import Foreman.Runtime.Context

/-!
# Opening the database

Opening reads the driver and data source names, then pings once under the caller's context:
an unknown driver fails with `storage: unknown driver: "name"`, an unreadable data source name
with `storage: <driver> dsn: reason`, and a ping not reaching the database with
`storage: ping <driver>: reason`. MySQL and PostgreSQL are never reachable (`Dial`). A SQLite
database is a file whose directory is made first; its ping opens the file and runs its
pragmas. Connecting retries a failing open until the context ends.
-/

namespace Foreman

/-- The settings the storage layer opens a database with. Durations are in nanoseconds. -/
structure StoreConfig where
  driver : String
  dsn : String
  maxOpenConns : Int := 0
  busyTimeout : Int := 0
  connectTimeout : Int := 0
  workspaceSchema : String := ""
  deriving Inhabited

abbrev FilesM := StateM FileSpace

/-- The end of a context: cancelled, or past its deadline, which is recorded as the cause. -/
def Ctx.ending (c : Ctx) : Option Fault :=
  c.cause.map fun f => if f.is .deadline then Fault.deadline else Fault.canceled

namespace SqliteOpen

/-- A failure of the database engine with its result code; a busy database says so once
more by name. -/
def engineFault (code : Nat) (text msg : String) : Fault :=
  let busy := if code == 5 then " (SQLITE_BUSY)" else ""
  Fault.of (.sqlite code) ((if msg == text then text ++ " (" ++ toString code ++ ")"
    else text ++ ": " ++ msg ++ " (" ++ toString code ++ ")") ++ busy)

/-- The failure of a database another connection holds the write lock of. -/
def busy : Fault := engineFault 5 "database is locked" "database is locked"

def logicFault (msg : String) : Fault := engineFault 1 "SQL logic error" msg

/-- A file the engine could not open. The engine fails before the connection exists, and
without a connection its message for any failure is `out of memory`. -/
def cannotOpen : Fault := engineFault 14 "unable to open database file" "out of memory"

/-- A name or its parameters the engine refused while opening, worded as `cannotOpen`. -/
def openRefused : Fault := engineFault 1 "SQL logic error" "out of memory"

def fileSystems : List String := ["unix", "unix-none", "unix-dotfile", "unix-excl", "memdb"]

/-- The file system the `vfs` parameters name, the empty name for the default one; two
different names, the first not empty, conflict. -/
def fileSystem (values : List String) : Except Fault String :=
  values.foldlM (fun r v =>
    if r != "" && r != v then
      .error (.plain ("conflicting vfs query parameters: [" ++ " ".intercalate values ++ "]"))
    else .ok v) ""

/-- Cuts a text at the first occurrence of a character. -/
def cut (s : String) (c : Char) : String × Option String :=
  let cs := s.toList
  match cs.findIdx? (· == c) with
  | some i => (String.ofList (cs.take i), some (String.ofList (cs.drop (i + 1))))
  | none => (s, none)

/-- Prepares the data source name the driver is given, making the file's directory. -/
def prepare (cfg : StoreConfig) : FilesM (Except Fault String) := do
  let dsn := Text.trimSpace cfg.dsn
  let (path, query) := cut dsn '?'
  let p := if path.startsWith "file:" then String.ofList (path.toList.drop 5) else path
  if p != "" && p != ":memory:" then
    match (← get).makeDirs (Path.dir p) with
    | .error e => return .error (.plain e)
    | .ok fs => set fs
  let (q, err) := QueryValues.parse (query.getD "")
  if let some e := err then return .error (.plain ("storage: sqlite dsn: " ++ e))
  let q := if q.get "_txlock" == "" then q.set "_txlock" "immediate" else q
  let q := if q.get "_time_format" == "" then q.set "_time_format" "sqlite" else q
  let q := q.add "_pragma" ("busy_timeout(" ++ toString (cfg.busyTimeout.tdiv 1000000) ++ ")")
  let q := q.add "_pragma" "journal_mode(WAL)"
  return .ok (path ++ "?" ++ q.encode)

/-- Opens a database file by name, making it when it is missing; `:memory:` and the empty
name make no file. -/
def openFile (name : String) : FilesM (Except Fault Unit) := do
  let fs ← get
  if name == "" || name == ":memory:" then return .ok ()
  if fs.hasDir name || !fs.hasDir (Path.dir name) then return .error cannotOpen
  set (fs.touch name)
  return .ok ()

/-- Opens a database named by a URI after `file:`: its path and parameters. -/
def openUri (rest : String) : FilesM (Except Fault Unit) := do
  let (rest, _) := cut rest '#'
  let (path, query) := cut rest '?'
  let path ←
    if path.startsWith "//" then
      let (auth, p) := cut (String.ofList (path.toList.drop 2)) '/'
      if auth != "" && auth != "localhost" then
        return .error openRefused
      pure ("/" ++ p.getD "")
    else pure path
  let path := (Url.unescape path .path).toOption.getD path
  let (params, _) := QueryValues.parse (query.getD "")
  let mode := params.get "mode"
  if mode != "" && !(List.contains ["ro", "rw", "rwc", "memory"] mode) then
    return .error openRefused
  let cache := params.get "cache"
  if cache != "" && !(List.contains ["shared", "private"] cache) then
    return .error openRefused
  if mode == "memory" then return .ok ()
  if mode == "ro" && ((← get).read path).isNone && path != ":memory:" && path != "" then
    return .error cannotOpen
  openFile path

/-- The pragmas of the parameters in the order they run: the busy timeout first, the others
in the order of their text in lower case. -/
def pragmaOrder (ps : List String) : List String :=
  let key (p : String) := Text.lower (Text.trimSpace p)
  let (busy, others) := ps.partition fun p => (key p).startsWith "busy_timeout"
  busy ++ others.mergeSort fun a b => decide (key a ≤ key b)

/-- The failure a script's refusal is reported as: the engine's with its result code, or
the driver's own for a parameter it could not bind. -/
def refusalFault : Sql.Refusal → Fault
  | .engine code msg => engineFault code (Sql.resultText code) msg
  | .unbound msg => .plain msg

/-- Runs a script on a connection's session: the session after it, or the failure that
stopped it. -/
def execute (s : Sql.Session) (script : String) : Sql.Session × Option Fault :=
  let (s', r) := s.exec script
  (s', r.map refusalFault)

/-- Applies the parameters of a connection to its session: pragmas, time format and
transaction mode. -/
def applyParams (start : Sql.Session) (query : String) : Except Fault Sql.Session := do
  let (q, err) := QueryValues.parse query
  if let some e := err then throw (.plain e)
  let mut s := start
  for p in pragmaOrder (q.all "_pragma") do
    match execute s ("pragma " ++ p) with
    | (_, some e) => throw e
    | (s', none) => s := s'
  let tf := q.get "_time_format"
  if tf != "" && tf != "sqlite" then throw (.plain ("unknown _time_format " ++ Quote.text tf))
  let tif := q.get "_time_integer_format"
  if tif != "" && !(List.contains ["unix", "unix_milli", "unix_micro", "unix_nano"] tif) then
    throw (.plain ("unknown _time_integer_format " ++ Quote.text tif))
  let tx := q.get "_txlock"
  if tx != "" && !(List.contains ["deferred", "immediate", "exclusive"] (Text.lower tx)) then
    throw (.plain ("unknown _txlock " ++ Quote.text tx))
  return s

/-- Whether a database name opens a database private to its connection: one in memory, or
the empty name's temporary file. -/
def isPrivate (fileName : String) : Bool :=
  if fileName.startsWith "file:" then
    let (rest, _) := cut (String.ofList (fileName.toList.drop 5)) '#'
    let (path, query) := cut rest '?'
    path == ":memory:" || (QueryValues.parse (query.getD "")).1.get "mode" == "memory"
  else fileName == "" || fileName == ":memory:"

/-- Opens a connection on the data source name the driver was given, from the session a
new connection starts with: the session after the connection's parameters. -/
def connect (name : String) (start : Sql.Session) : FilesM (Except Fault Sql.Session) := do
  let (before, query) := cut name '?'
  let (fileName, query) := match query with
    | some q => if before != "" then (if name.startsWith "file:" then name else before, q) else (name, "")
    | none => (name, "")
  match fileSystem ((QueryValues.parse query).1.all "vfs") with
  | .error e => return .error e
  | .ok vfs =>
    if vfs != "" && !fileSystems.contains vfs then return .error openRefused
  let opened ← if fileName.startsWith "file:" then openUri (String.ofList (fileName.toList.drop 5))
    else openFile fileName
  let start := if isPrivate fileName then { start with memory := true, journal := "memory", shared := false }
    else start
  match opened with
  | .error e => return .error e
  | .ok () => return applyParams start query

/-- The transaction mode of a data source name the driver was given, as written there. -/
def txLock (name : String) : String :=
  let (_, query) := cut name '?'
  (QueryValues.parse (query.getD "")).1.get "_txlock"

end SqliteOpen

namespace Storage

/-- Pings a database under a context: the context's end, or how the ping fails. -/
def pingFailure (ctx : Ctx) (driver : String) (failure : Option Fault) : Option Fault :=
  match ctx.ending with
  | some e => some (e.wrap ("storage: ping " ++ driver))
  | none => failure.map (·.wrap ("storage: ping " ++ driver))

/-- Opens a SQLite database and pings it, from the session a new connection starts with:
the data source name the driver is given and the connection's session, or the failure. -/
def openSqliteNamed (ctx : Ctx) (cfg : StoreConfig) (start : Sql.Session) :
    FilesM (Except Fault (String × Sql.Session)) := do
  match ← SqliteOpen.prepare cfg with
  | .error e => return .error e
  | .ok name =>
    if let some e := pingFailure ctx "sqlite" none then return .error e
    match ← SqliteOpen.connect name start with
    | .error e => return .error (e.wrap "storage: ping sqlite")
    | .ok s => return .ok (name, s)

/-- Opens a SQLite database and pings it: the connection's session, or the failure. -/
def openSqlite (ctx : Ctx) (cfg : StoreConfig) (start : Sql.Session) : FilesM (Except Fault Sql.Session) := do
  return (← openSqliteNamed ctx cfg start).map (·.2)

def openDb (ctx : Ctx) (cfg : StoreConfig) : FilesM (Except Fault Handle) := do
  match Dialect.ofDriver? cfg.driver with
  | none => return .error (Fault.of .unknownDriver ("storage: unknown driver: " ++ Quote.text cfg.driver))
  | some d =>
    let ok := Handle.new d cfg.workspaceSchema
    if d.name == Dialect.mysql.name then
      match MysqlDsn.read cfg.dsn with
      | .error e => return .error (if e.is .panic then e else e.wrap "storage: mysql dsn")
      | .ok mc =>
        match pingFailure ctx d.name (some (Dial.failure mc.net mc.addr (mc.timeout < 0))) with
        | some e => return .error e
        | none => return .ok ok
    else if d.name == Dialect.postgres.name then
      match PostgresDsn.parse cfg.dsn with
      | .error e => return .error (.plain ("storage: postgres dsn: " ++ e))
      | .ok o =>
        match pingFailure ctx d.name (some (PostgresDsn.connectFailure o)) with
        | some e => return .error e
        | none => return .ok ok
    else
      match ← openSqlite ctx cfg {} with
      | .error e => return .error e
      | .ok _ => return .ok ok

def connect (ctx : Ctx) (cfg : StoreConfig) : FilesM (Except Fault Handle) := do
  match ← Storage.openDb ctx cfg with
  | .ok h => return .ok h
  | .error _ => return .error (ctx.ending.getD Fault.deadline)

def reconnect (ctx : Ctx) (old : Option Handle) (cfg : StoreConfig) :
    FilesM (Option Handle × Except Fault Handle) := do
  let old := old.map Handle.retire
  return (old, ← connect ctx cfg)

end Storage

end Foreman
