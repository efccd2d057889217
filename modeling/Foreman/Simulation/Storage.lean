import Foreman.Simulation.Basic
import Foreman.Store.Open
import Foreman.Config.Source
import Foreman.Config.Settings

/-!
# Simulated opening of databases

An opening is `{driver, dsn, max_open_conns, busy_timeout_ns, connect_timeout_ns,
workspace_schema, via, cancelled, timeout_ms, config, old}` in an empty directory, under a
context cancelled when `cancelled` holds and past its deadline when `timeout_ms` (300 unless
given) is not positive. `via` is `open`, `connect`, `reconnect` (with an old handle) or
`connector`, connecting with the database settings of `config` (an old handle when `old`).
The answer is the dialect, the table `T` of organisation `o` and workspace `w`, and the files
made (`null` for none), or the failure; `old_closed` tells whether an old handle closed.
-/

namespace Foreman

namespace Simulation

def storeConfigOf (d : DatabaseSettings) : StoreConfig :=
  { driver := d.driver, dsn := d.dsn, maxOpenConns := d.maxOpenConns, busyTimeout := d.busyTimeout,
    connectTimeout := d.connectTimeout, workspaceSchema := d.workspaceSchema }

def extend (j : Json) (more : List (String × Json)) : Json :=
  match j with
  | .obj ms => .obj (ms ++ more)
  | j => j

def storageOpen (fault : Fault → Json) (j : Json) : Json :=
  let ctx : Ctx :=
    if j.flag "cancelled" then Ctx.cancelledWith Fault.canceled
    else if j.intOr "timeout_ms" 300 ≤ 0 then Ctx.cancelledWith Fault.deadline
    else Ctx.live
  let direct : StoreConfig :=
    { driver := j.textOr "driver" "", dsn := j.textOr "dsn" "", maxOpenConns := j.intOr "max_open_conns" 0,
      busyTimeout := j.intOr "busy_timeout_ns" 0, connectTimeout := j.intOr "connect_timeout_ns" 0,
      workspaceSchema := j.textOr "workspace_schema" "" }
  let scripted : Handle := Handle.new Dialect.sqlite ""
  let run : Except Fault (FilesM (Option Handle × Except Fault Handle)) :=
    match j.textOr "via" "open" with
    | "connect" => .ok (do return (none, ← Storage.connect ctx direct))
    | "reconnect" => .ok (Storage.reconnect ctx (some scripted) direct)
    | "connector" => do
      let c ← Config.decode "config.json" (j.textOr "config" "")
      let s ← Config.resolve (some c)
      let old := if j.flag "old" then some scripted else none
      return Storage.reconnect ctx old (storeConfigOf s.database)
    | _ => .ok (do return (none, ← Storage.openDb ctx direct))
  match run with
  | .error e => fault e
  | .ok m =>
    let ((old, res), fs) := m ({} : FileSpace)
    let closed := match old with
      | some h => [("old_closed", Json.bool h.closed)]
      | none => []
    match res with
    | .error e => extend (fault e) closed
    | .ok h =>
      let files := match fs.listed with
        | [] => Json.null
        | ps => .arr (ps.map Json.str)
      .obj [("result", .obj ([("dialect", .str h.dialect.name),
        ("workspace_table", .str (h.workspaceTable "o" "w" "T")), ("files", files)] ++ closed))]

/-- Runs a lock probe `{dsn, busy_timeout_ns, bad_sql}`: two connections to one SQLite
database (`lock.db` unless given); the first runs `bad_sql`, begins a transaction in the data
source name's mode and makes a table, then the second begins one. Under the first's write
lock an immediate transaction is refused as busy, a deferred one begins; a database in memory
is private to each connection. -/
def sqliteLock (fault : Fault → Json) (j : Json) : Json :=
  let cfg : StoreConfig :=
    { driver := "sqlite", dsn := j.textOr "dsn" "lock.db", busyTimeout := j.intOr "busy_timeout_ns" 0 }
  let both : FilesM (Except Fault (String × Sql.Session × Sql.Session)) := do
    match ← Storage.openSqliteNamed Ctx.live cfg {} with
    | .error e => return .error e
    | .ok (name, first) =>
      -- the second connection has not read the file yet, so it does not know its journal
      match ← Storage.openSqlite Ctx.live cfg { shared := true } with
      | .error e => return .error e
      | .ok second => return .ok (name, { first with shared := !first.memory }, second)
  let entry (e : Option Fault) : Json := match e with
    | some e => .obj [("error", fault e), ("lock_not_available", .bool e.isLockNotAvailable)]
    | none => .null
  match (both ({} : FileSpace)).1 with
  | .error e => fault e
  | .ok (name, first, second) =>
    let mode := SqliteOpen.txLock name
    let begin := "begin " ++ mode
    let (first, bad) := SqliteOpen.execute first (j.textOr "bad_sql" "")
    match SqliteOpen.execute first begin with
    | (_, some e) => fault e
    | (first, none) =>
      match SqliteOpen.execute first "CREATE TABLE lock_probe_table (id INTEGER)" with
      | (_, some e) => fault e
      | (_, none) =>
        let locksAtOnce := ["immediate", "exclusive"].contains (Text.lower mode)
        let secondBegin := match SqliteOpen.execute second begin with
          | (_, some e) => some e
          | (_, none) => if locksAtOnce && !second.memory then some SqliteOpen.busy else none
        .obj [("result", .obj [("bad_sql", entry bad), ("second_begin", entry secondBegin)])]

end Simulation

end Foreman
