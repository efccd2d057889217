import Foreman.Simulation.Basic
import Foreman.Log.Logger
import Foreman.Number.FloatText

/-!
# Simulated logging

A run is `{sink, level, console, json, steps}`. The sink is `writer` (a stream), `service`
(writing `out.log`), `nop` (discarding) or `zero` (no logger). Steps add fields, log lines,
make rate-limited loggers, apply logging settings and sleep; only sleeping moves the rate
limit's clock. A field is `[type, key, value]`. Each step reports the lines since the last:
the stream's `lines` or the service's `files` with each file's new lines.
-/

namespace Foreman

mutual
/-- A JSON value as a decoder into untyped values holds it: every number the nearest
binary64 value, written back as JSON writes those. -/
def Json.untyped : Json → Json
  | .num t =>
    match FloatText.read t with
    | .value (.finite neg m) => .num ((if neg then "-" else "") ++ FloatText.jsonMagnitude m)
    | _ => .num t
  | .arr xs => .arr (Json.untypedItems xs)
  | .obj ms => .obj (Json.untypedMembers ms)
  | j => j

def Json.untypedItems : List Json → List Json
  | [] => []
  | x :: xs => Json.untyped x :: Json.untypedItems xs

/-- The members of an object, each value as `Json.untyped` holds it. -/
def Json.untypedMembers : List (String × Json) → List (String × Json)
  | [] => []
  | (k, v) :: ms => (k, Json.untyped v) :: Json.untypedMembers ms
end

/-- Reads a field; a value of any type is read as an untyped decoder reads it. -/
def LogField.ofJson (j : Json) : LogField :=
  match (j.arr?).getD [] with
  | [.str "err", m] => .err m.str?
  | [.str "stack", t] => .stack ((t.str?).getD "")
  | [.str ty, .str k, v] =>
    match ty with
    | "string" => .text k ((v.str?).getD "")
    | "bool" => .flag k ((v.bool?).getD false)
    | "duration" => .duration k ((v.int?).getD 0)
    | "time" =>
      match Layout.rfc3339.parse ((v.str?).getD "") with
      | .ok s => .time k s
      | .error _ => .empty
    | "any" => .value k (Json.untyped v)
    | _ => .int k ((v.int?).getD 0)
  | _ => .empty

/-- Reads a level of a line: `debug`, `info`, `warn` or `error`; `info` otherwise. -/
def Level.ofStep (s : String) : Level :=
  match s with
  | "debug" => Level.debug
  | "warn" => Level.warn
  | "error" => Level.error
  | _ => Level.info

def LogLine.toJson (l : LogLine) : Json := .arr (l.written.map fun (k, v) => .arr [.str k, v])

/-- A logger, its rate-limited companion, the clock of the rate limit, and what was already
reported of the stream and of each file. -/
structure LogRun where
  logger : Logger
  limited : Option LimitedLogger := none
  now : Instant := ⟨0⟩
  service : Bool
  seenStream : Nat := 0
  seenFiles : List (String × Nat) := []

namespace LogRun

def configOf (j : Json) : LogConfig :=
  { level := j.textOr "level" "", console := j.flag "console",
    json := ((j.field "json").bool?).getD true,
    file := { enabled := !j.flag "file_disabled", path := j.textOr "path" "out.log" } }

/-- Runs one step: the members it reports besides the new lines. -/
def step (r : LogRun) (j : Json) : LogM (List (String × Json) × LogRun) := do
  let fields := (j.items "fields").map LogField.ofJson
  match j.textOr "do" "" with
  | "with" => return ([], { r with logger := r.logger.withFields fields })
  | "process" => return ([], { r with logger := r.logger.process (j.textOr "role" "") (j.intOr "pid" 0) })
  | "log" =>
    r.logger.log (Level.ofStep (j.textOr "level" "info")) (j.textOr "msg" "") fields
    return ([], r)
  | "limited" =>
    return ([], { r with limited := some (LimitedLogger.new r.logger (Simulation.millis (j.intOr "every_ms" 3600000))
      (j.intOr "burst" 0)) })
  | "limited_log" =>
    match r.limited, j.flag "nil_limited" with
    | some lim, false =>
      let lim ← lim.log r.now (Level.ofStep (j.textOr "level" "info")) (j.textOr "msg" "") fields
      return ([("suppressed", .nat lim.suppressed)], { r with limited := some lim })
    | _, _ => return ([], r)
  | "apply" =>
    LogService.apply (configOf j)
    return ([], r)
  | "config" =>
    let c := (← get).service.config
    return ([("config", .obj [("console", .bool c.console), ("file_enabled", .bool c.file.enabled),
      ("file_path", .str c.file.path), ("json", .bool c.json), ("level", .str c.level)])], r)
  | "is_zero" => return ([("is_zero", .bool r.logger.isZero)], r)
  | "sleep" => return ([], { r with now := r.now.add (Simulation.millis (j.intOr "ms" 0)) })
  | _ => return ([], r)

/-- The lines written since the last report, and the run marking them reported. -/
def fresh (r : LogRun) : LogM ((String × Json) × LogRun) := do
  let w ← get
  if r.service then
    let news := w.files.filterMap fun (p, ls) =>
      let seen := (r.seenFiles.lookup p).getD 0
      if ls.length > seen then some (p, Json.arr ((ls.drop seen).map LogLine.toJson)) else none
    return (("files", .obj news), { r with seenFiles := w.files.map fun (p, ls) => (p, ls.length) })
  else
    return (("lines", .arr ((w.stream.drop r.seenStream).map LogLine.toJson)),
      { r with seenStream := w.stream.length })

def runSteps : List Json → LogRun → LogM (List Json)
  | [], _ => return []
  | j :: rest, r => do
    let (extra, r) ← r.step j
    let (news, r) ← r.fresh
    return .obj (news :: extra) :: (← runSteps rest r)

end LogRun

def Simulation.logging (j : Json) : Json :=
  let level := j.textOr "level" ""
  let sink := j.textOr "sink" "writer"
  let setup : LogM LogRun := do
    match sink with
    | "service" =>
      LogService.apply { LogRun.configOf j with file := { enabled := true, path := "out.log" } }
      return { logger := Logger.service, service := true }
    | "nop" => return { logger := Logger.discard, service := false }
    | "zero" => return { logger := {}, service := false }
    | _ => return { logger := Logger.stream (Level.ofText level Level.debug), service := false }
  let (out, _) := (do runSteps' (← setup)) ({} : LogWorld)
  .obj [("result", .arr out)]
where
  runSteps' (r : LogRun) : LogM (List Json) := do
    let (_, r) ← r.fresh
    LogRun.runSteps (j.items "steps") r

end Foreman
