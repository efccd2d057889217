import Foreman.Simulation.Log
import Foreman.Config.Watch
import Foreman.Jobs.Type
import Foreman.Host.Files

/-!
# Simulated runs of the configuration manager

A manager run is `{path, validator, steps}`: the path (`config.json` unless given), the
validator (`default`, `none`, `catalog`, or a text rejecting everything with it), and steps,
each answered by an object with its result if any. A watch run is `{path, initial, validator,
buffer, then_create, steps}`: the manager loads `initial` first if given and has one
subscriber; steps change files, a change to the configuration file reloading it, and each
reports the lines logged, what the subscriber received and the configuration in force.
-/

namespace Foreman

namespace Simulation

def validator (name : String) : Config → Except Fault Unit :=
  match name with
  | "" | "default" => ConfigManager.resolves
  | "none" => fun _ => .ok ()
  | "catalog" => fun c => do
    let s ← Config.resolve (some c)
    let _ ← Catalog.ofSettings JobType.registry s
    return ()
  | text => fun _ => .error (.plain text)

def configJson (c : Option Config) : Json := (c.map Config.toJson).getD .null

def configPath (j : Json) : String :=
  match j.textOr "path" "" with
  | "" => "config.json"
  | p => p

/-- A configuration read, or its failure, as the `{config}` answer of a step. -/
def readJson (fault : Fault → Json) : Except Fault Config → Json
  | .ok c => .obj [("config", Config.toJson c)]
  | .error e => fault e

end Simulation

structure ManagerRun where
  manager : ConfigManager
  files : FileSpace := {}

namespace ManagerRun

/-- The file the manager reads. -/
def file (r : ManagerRun) : Option String := r.files.read r.manager.path

def index (j : Json) : Option Nat :=
  let i := j.intOr "index" (-1)
  if i < 0 then none else some i.toNat

/-- Runs one step: its result, if it has one. -/
def step (fault : Fault → Json) (r : ManagerRun) (j : Json) : LogM (Option Json × ManagerRun) := do
  let m := r.manager
  match j.textOr "do" "" with
  | "write" => return (none, { r with files := r.files.write m.path (j.textOr "text" "") })
  | "remove" => return (none, { r with files := (r.files.remove m.path).2 })
  | "parse" => return (some (Simulation.readJson fault (m.parse r.file)), r)
  | "load" =>
    let (res, m) := m.load r.file
    return (some (Simulation.readJson fault res), { r with manager := m })
  | "get" => return (some (Simulation.configJson m.current), r)
  | "path" => return (some (.str m.path), r)
  | "commit" =>
    if j.flag "nil" then return (none, { r with manager := m.commit none })
    else
      match Config.decode m.path (j.textOr "text" "") with
      | .error e => return (some (fault e), r)
      | .ok c => return (none, { r with manager := m.commit (some c) })
  | "subscribe" =>
    let (i, m) := m.subscribe (j.intOr "buffer" 0).toNat
    return (some (.nat i), { r with manager := m })
  | "unsubscribe" =>
    match index j with
    | some i => return (none, { r with manager := m.unsubscribe i })
    | none => return (none, r)
  | "pending" =>
    let (got, m) := match index j with
      | some i => m.drain i
      | none => (none, m)
    let (cs, isOpen) := got.getD ([], false)
    let configs : Json := if cs.isEmpty then .null else .arr (cs.map Config.toJson)
    return (some (.obj [("configs", configs), ("open", .bool isOpen)]), { r with manager := m })
  | "reload" =>
    let m ← m.reload r.file
    return (some (Simulation.configJson m.current), { r with manager := m })
  | _ => return (none, r)

def runSteps (fault : Fault → Json) : List Json → ManagerRun → LogM (List Json)
  | [], _ => return []
  | j :: rest, r => do
    let (res, r) ← step fault r j
    let answer : Json := match res with
      | some v => .obj [("result", v)]
      | none => .obj []
    return answer :: (← runSteps fault rest r)

end ManagerRun

def Simulation.configManager (fault : Fault → Json) (j : Json) : Json :=
  let m : ConfigManager :=
    { ConfigManager.new (Simulation.configPath j) with
      validator := Simulation.validator (j.textOr "validator" "") }
  let (out, _) := ManagerRun.runSteps fault (j.items "steps") { manager := m } ({} : LogWorld)
  .obj [("result", .arr out)]

/-- A watched manager, the files, and how many lines of the log were reported. -/
structure WatchRun where
  run : ManagerRun
  watch : ConfigWatch
  seen : Nat := 0

namespace WatchRun

/-- The lines logged since the last report, and the run marking them reported. -/
def fresh (r : WatchRun) : LogM (Json × WatchRun) := do
  let w ← get
  return (.arr ((w.stream.drop r.seen).map LogLine.toJson), { r with seen := w.stream.length })

/-- Changes a file, reloading when the change concerns the configuration file. -/
def touch (r : WatchRun) (p : String) (files : FileSpace) : LogM WatchRun := do
  let r := { r with run := { r.run with files := files } }
  if r.watch.concerns (Path.clean p) then
    let m ← r.run.manager.reload r.run.file
    return { r with run := { r.run with manager := m } }
  else return r

def step (r : WatchRun) (j : Json) : LogM (Json × WatchRun) := do
  let path := r.run.manager.path
  let files := r.run.files
  let r ← match j.textOr "do" "" with
    | "write" =>
      let p := j.textOr "file" path
      r.touch p (files.write p (j.textOr "text" ""))
    | "rename" => r.touch path (files.write path (j.textOr "text" ""))
    | "remove" =>
      let (existed, files) := files.remove path
      if existed then r.touch path files else pure r
    | "chmod" => if (files.read path).isSome then r.touch path files else pure r
    | "quiet" =>
      let p := j.textOr "file" "other.json"
      r.touch p (files.write p (j.textOr "text" "\x7b\x7d"))
    | _ => pure r
  let (log, r) ← r.fresh
  let m := r.run.manager
  let (published, m) :=
    if j.flag "keep" then (Json.str "kept", m)
    else
      let (got, m) := m.drain 0
      (Json.arr (((got.map (·.1)).getD []).map Config.toJson), m)
  let r := { r with run := { r.run with manager := m } }
  return (.obj [("log", log), ("published", published), ("get", Simulation.configJson m.current)], r)

def runSteps : List Json → WatchRun → LogM (List Json × WatchRun)
  | [], r => return ([], r)
  | j :: rest, r => do
    let (out, r) ← r.step j
    let (outs, r) ← runSteps rest r
    return (out :: outs, r)

end WatchRun

def Simulation.watch (fault : Fault → Json) (j : Json) : Json :=
  let path := Simulation.configPath j
  let m : ConfigManager :=
    { ConfigManager.new path with
      validator := Simulation.validator (j.textOr "validator" ""), log := Logger.stream Level.debug }
  let watch := ConfigWatch.ofPath path
  let body : LogM (List (String × Json)) := do
    let (loaded, run) : List (String × Json) × ManagerRun :=
      match j.field "initial" with
      | .str text =>
        let run : ManagerRun := { manager := m, files := ({} : FileSpace).write path text }
        let (res, m) := m.load run.file
        ([("load", Simulation.readJson fault res)], { run with manager := m })
      | _ => ([], { manager := m })
    let (_, manager) := run.manager.subscribe (j.intOr "buffer" 1).toNat
    let run := { run with manager := manager }
    let started ← watch.start manager.log (run.files.hasDir watch.dir)
    let (started, run) ←
      if !started && j.flag "then_create" then do
        let run := { run with files := (run.files.makeDirs watch.dir).toOption.getD run.files }
        let ok ← watch.start manager.log true
        pure (ok, run)
      else pure (started, run)
    let r : WatchRun := { run := run, watch := watch }
    let (start, r) ← r.fresh
    if !started then return loaded ++ [("start", start), ("result", .null)]
    let (steps, r) ← WatchRun.runSteps (j.items "steps") r
    let (rest, _) := r.run.manager.drain 0
    return loaded ++ [("start", start), ("steps", .arr steps), ("result", .null),
      ("pending", .arr (((rest.map (·.1)).getD []).map Config.toJson))]
  let (out, _) := body ({} : LogWorld)
  .obj [("result", .obj out)]

end Foreman
