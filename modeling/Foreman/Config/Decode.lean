import Foreman.Config.Document
import Foreman.Json.Read
import Foreman.Fault
import Foreman.Text.Quote
import Foreman.Text.Case

/-!
# Reading the configuration document strictly

The document is read field by field; a key names a field equal to it up to ASCII case. An
unknown key or a value of the wrong kind is noted and reading goes on, so the first is
reported; a duration of the wrong kind or an error inside a job entry stops at once, the
latter reported at the job table with the path inside the entry appended. A repeated key is
read again (a section into what the first left, a scalar replacing). `null` leaves a field
as it is but empties the job table and a duration. The text must be one value and nothing
after it.
-/

namespace Foreman

/-- Where a value being read sits: the record whose field holds it, and the path of field
names from the top of the document. -/
structure Place where
  record : String
  path : List String

inductive DecodeError where
  /-- The text is not JSON. -/
  | read (e : Json.ReadError)
  /-- A key that names no field. -/
  | unknownField (key : String)
  /-- A value of the wrong kind: its kind, the type it was read into, and where. -/
  | mismatch (found : String) (target : String) (place : Option Place)
  /-- A duration that is neither a string nor a number: its text. -/
  | durationShape (text : String)
  /-- More text after the document. -/
  | trailing
  /-- The text ended before its value did. -/
  | endOfInput

namespace DecodeError

def message : DecodeError → String
  | .read e => e.message
  | .unknownField k => "json: unknown field " ++ Quote.text k
  | .mismatch found target none =>
    "json: cannot unmarshal " ++ found ++ " into Go value of type " ++ target
  | .mismatch found target (some p) =>
    "json: cannot unmarshal " ++ found ++ " into Go struct field " ++ p.record ++ "." ++
      ".".intercalate p.path ++ " of type " ++ target
  | .durationShape t => "duration must be a string or number of seconds: " ++ t
  | .trailing => "invalid config: trailing data"
  | .endOfInput => "unexpected end of JSON input"

def toFault (e : DecodeError) : Fault :=
  match e with
  | .read (.invalid _ _) => .of .malformedJson e.message
  | .endOfInput => .of .malformedJson e.message
  | .mismatch .. => .of .typeMismatch e.message
  | _ => .plain e.message

end DecodeError

/-- A reading in progress: it either stopped with an error, or goes on with the first
error noted so far. -/
abbrev Decoding := StateT (Option DecodeError) (Except DecodeError)

namespace Decoding

/-- Notes an error unless one was noted before. -/
def note (e : DecodeError) : Decoding Unit :=
  modify fun s => match s with
    | none => some e
    | some first => some first

/-- Runs a reading on its own and returns its value, or its first error. -/
def run {α : Type} (d : Decoding α) : Except DecodeError α :=
  match StateT.run d none with
  | .error e => .error e
  | .ok (_, some e) => .error e
  | .ok (a, none) => .ok a

end Decoding

/-- A key folded for matching field names: ASCII letters in upper case, every other
character in the upper case of its lower case, so that the long s and the Kelvin sign meet
their ASCII letters. -/
def foldKey (s : String) : String :=
  String.map (fun c => if c.toNat < 0x80 then Case.upper c else Case.upper (Case.lower c)) s

/-- A field of a record: its name and how a value is read into it. -/
structure Field (α : Type) where
  name : String
  read : Place → α → Json.Written → Decoding α

namespace Field

def find? {α : Type} (fields : List (Field α)) (key : String) : Option (Field α) :=
  match fields.find? (·.name == key) with
  | some f => some f
  | none => fields.find? fun f => foldKey f.name == foldKey key

/-- A record whose fields are `fields`: `typeName` is its type in messages and `record` the
name of the record in field paths. A key that names no field is an error when `strict`,
and is skipped otherwise. -/
def recordWith {α : Type} (strict : Bool) (typeName record : String) (fields : List (Field α))
    (place : Option Place) (cur : α) (w : Json.Written) : Decoding α :=
  let path := match place with
    | some p => p.path
    | none => []
  match w with
  | .null => pure cur
  | .obj _ members =>
    members.foldlM (fun acc (k, v) =>
      match find? fields k with
      | some f => f.read ⟨record, path ++ [f.name]⟩ acc v
      | none => do
        if strict then Decoding.note (.unknownField k)
        pure acc) cur
  | other => do Decoding.note (.mismatch other.kind typeName place); pure cur

/-- A record read strictly: a key that names no field is an error. -/
def record {α : Type} (typeName record : String) (fields : List (Field α)) (place : Option Place)
    (cur : α) (w : Json.Written) : Decoding α :=
  recordWith true typeName record fields place cur w

def text (cur : String) (place : Place) (w : Json.Written) : Decoding String :=
  match w with
  | .str _ s => pure s
  | .null => pure cur
  | other => do Decoding.note (.mismatch other.kind "string" (some place)); pure cur

/-- Reads a signed 64-bit integer written in decimal without fraction or exponent. -/
def int64? (lit : String) : Option Int :=
  let digits (ds : List Char) : Option Nat :=
    if ds.isEmpty || !ds.all Char.isDigit then none else some (String.ofList ds).toNat!
  let v : Option Int := match lit.toList with
    | '-' :: ds => (digits ds).map fun n => -(n : Int)
    | ds => (digits ds).map fun n => (n : Int)
  match v with
  | some n => if -9223372036854775808 ≤ n && n < 9223372036854775808 then some n else none
  | none => none

def int (cur : Int) (place : Place) (w : Json.Written) : Decoding Int :=
  match w with
  | .num lit =>
    match int64? lit with
    | some n => pure n
    | none => do Decoding.note (.mismatch ("number " ++ lit) "int" (some place)); pure cur
  | .null => pure cur
  | other => do Decoding.note (.mismatch other.kind "int" (some place)); pure cur

/-- A true-or-false field. -/
def flag (cur : Bool) (place : Place) (w : Json.Written) : Decoding Bool :=
  match w with
  | .bool b => pure b
  | .null => pure cur
  | other => do Decoding.note (.mismatch other.kind "bool" (some place)); pure cur

/-- A duration field: a number keeps its digits, a string its text, `null` empties it;
anything else stops the reading. -/
def duration (w : Json.Written) : Decoding String :=
  match w with
  | .num lit => pure lit
  | .str _ s => pure s
  | .null => pure ""
  | other => throw (.durationShape other.text)

end Field

/-- The duration stored for a JSON text: the digits of a number, the text of a string,
nothing for `null`; the text must be one JSON value. A failure quotes the whole text, blanks
around the value included. -/
def durationOfText (text : String) : Except DecodeError String :=
  match Json.readWhole text with
  | .ok w =>
    match (Field.duration w).run' none with
    | .ok d => .ok d
    | .error _ => .error (.durationShape text)
  | .error _ => .error (.durationShape text)

/-- Reads a whole text into a record the lenient way: the text must be one JSON value, keys
that name no field are skipped, and the first value of a wrong kind is reported after the
whole value was read. -/
def Field.readLenient {α : Type} (typeName record : String) (fields : List (Field α)) (init : α)
    (text : String) : Except DecodeError α :=
  match Json.readWhole text with
  | .ok w => (Field.recordWith false typeName record fields none init w).run
  | .error (.invalid c context) => .error (.read (.invalid c context))
  | .error _ => .error .endOfInput

namespace ConfigRead

open Foreman.Field

def logFileFields : List (Field LogFileSection) :=
  [⟨"enabled", fun p c w => do pure { c with enabled := ← flag c.enabled p w }⟩,
   ⟨"path", fun p c w => do pure { c with path := ← text c.path p w }⟩]

def loggingFields : List (Field LoggingSection) :=
  [⟨"level", fun p c w => do pure { c with level := ← text c.level p w }⟩,
   ⟨"console", fun p c w => do pure { c with console := ← flag c.console p w }⟩,
   ⟨"json", fun p c w => do pure { c with json := ← flag c.json p w }⟩,
   ⟨"file", fun p c w => do
      pure { c with file := ← record "config.LoggingFile" "LoggingFile" logFileFields (some p) c.file w }⟩]

def databaseFields : List (Field DatabaseSection) :=
  [⟨"driver", fun p c w => do pure { c with driver := ← text c.driver p w }⟩,
   ⟨"dsn", fun p c w => do pure { c with dsn := ← text c.dsn p w }⟩,
   ⟨"max_open_conns", fun p c w => do pure { c with maxOpenConns := ← int c.maxOpenConns p w }⟩,
   ⟨"busy_timeout", fun _ c w => do pure { c with busyTimeout := ← duration w }⟩,
   ⟨"connect_timeout", fun _ c w => do pure { c with connectTimeout := ← duration w }⟩,
   ⟨"workspace_schema", fun p c w => do pure { c with workspaceSchema := ← text c.workspaceSchema p w }⟩]

def managerFields : List (Field ManagerSection) :=
  [⟨"pool_size", fun p c w => do pure { c with poolSize := ← int c.poolSize p w }⟩,
   ⟨"watch_interval", fun _ c w => do pure { c with watchInterval := ← duration w }⟩,
   ⟨"db_reconnect_interval", fun _ c w => do pure { c with dbReconnectInterval := ← duration w }⟩,
   ⟨"exception_restart_interval", fun _ c w => do
      pure { c with exceptionRestartInterval := ← duration w }⟩,
   ⟨"queue_watch_interval", fun _ c w => do pure { c with queueWatchInterval := ← duration w }⟩,
   ⟨"maintenance_check_interval", fun _ c w => do
      pure { c with maintenanceCheckInterval := ← duration w }⟩,
   ⟨"job_cancel_timeout", fun _ c w => do pure { c with jobCancelTimeout := ← duration w }⟩,
   ⟨"max_job_per_process", fun p c w => do pure { c with maxJobPerProcess := ← int c.maxJobPerProcess p w }⟩,
   ⟨"queue_load_rows", fun p c w => do pure { c with queueLoadRows := ← int c.queueLoadRows p w }⟩,
   ⟨"acceptable_min", fun _ c w => do pure { c with acceptableMin := ← duration w }⟩,
   ⟨"shared_dir", fun p c w => do pure { c with sharedDir := ← text c.sharedDir p w }⟩]

def cleanUpFields : List (Field CleanUpSection) :=
  [⟨"schedule", fun p c w => do pure { c with schedule := ← text c.schedule p w }⟩]

def jobFields : List (Field JobSection) :=
  [⟨"executor", fun p c w => do pure { c with executor := ← text c.executor p w }⟩,
   ⟨"timeout", fun _ c w => do pure { c with timeout := ← duration w }⟩,
   ⟨"max_job_per_process", fun p c w => do pure { c with maxJobPerProcess := ← int c.maxJobPerProcess p w }⟩,
   ⟨"extra", fun _ c w => pure { c with extra := some w.text }⟩]

/-- A job entry read on its own; an error inside it is placed under the job table. -/
def job (table : Place) (w : Json.Written) : Decoding JobSection :=
  match (record "config.tmp" "tmp" jobFields none {} w).run with
  | .ok j => pure j
  | .error (.mismatch found target inner) =>
    let path := match inner with
      | some p => p.path
      | none => []
    throw (.mismatch found target (some ⟨table.record, table.path ++ path⟩))
  | .error e => throw e

/-- The job table: entries are added to what is there, `null` empties it. -/
def jobs (place : Place) (cur : Option JobTable) (w : Json.Written) : Decoding (Option JobTable) :=
  match w with
  | .null => pure none
  | .obj _ members =>
    members.foldlM (fun acc (k, v) => do
      let j ← job place v
      pure (some ((acc.getD []).insert k j))) (some (cur.getD []))
  | other => do
    Decoding.note (.mismatch other.kind "map[string]config.JobConfig" (some place))
    pure cur

def configFields : List (Field Config) :=
  [⟨"logging", fun p c w => do
      pure { c with logging := ← record "config.LoggingConfig" "LoggingConfig" loggingFields (some p) c.logging w }⟩,
   ⟨"database", fun p c w => do
      pure { c with database := ← record "config.DatabaseConfig" "DatabaseConfig" databaseFields (some p) c.database w }⟩,
   ⟨"manager", fun p c w => do
      pure { c with manager := ← record "config.ManagerConfig" "ManagerConfig" managerFields (some p) c.manager w }⟩,
   ⟨"cleanup", fun p c w => do
      pure { c with cleanup := ← record "config.CleanUpConfig" "CleanUpConfig" cleanUpFields (some p) c.cleanup w }⟩,
   ⟨"jobs", fun p c w => do pure { c with jobs := ← jobs p c.jobs w }⟩]

end ConfigRead

namespace Config

/-- Reads a document from JSON text: one value, read strictly, and nothing after it but
blanks. -/
def decodeJson (text : String) : Except DecodeError Config := do
  let (w, rest) ← (Json.readFirst text.toList).mapError DecodeError.read
  let c ← (Field.record "config.Config" "Config" ConfigRead.configFields none {} w).run
  match Json.readFirst rest with
  | .error .empty => pure c
  | .error e => throw (.read e)
  | .ok (extra, _) =>
    let _ ← (Field.record "struct \x7b\x7d" "" ([] : List (Field Unit)) none () extra).run
    throw .trailing

end Config

end Foreman
