import Std.Time
import Foreman.Service.Session

/-!
# The command line

Runs the program on its arguments in the current directory, reading its configuration file
and a worker's clean-up record from there. Each line of standard input is a stop signal,
`INT` or `TERM`, acted on at once. When the input ends, a running program is interrupted, and
terminated if that does not stop it; its output and error are printed, the files it made or
changed written back, and its exit code is the command's.
-/

open Foreman

def readIfThere (path : String) : IO (Option String) := do
  try
    return some (← IO.FS.readFile path)
  catch _ =>
    return none

/-- The files the program starts from, read from the current directory. -/
def startFiles (argv : List String) : IO FileSpace := do
  let paths := match Invocation.read argv with
    | .ok (.worker cfg _ info) => [cfg, info]
    | .ok (.supervisor cfg) => [cfg]
    | .error _ => []
  paths.foldlM (fun fs p => do
    if p == "" then return fs
    match ← readIfThere p with
    | some text => return fs.write p text
    | none => return fs) {}

def stopWith (pid : Nat) (sig : StopSignal) (h : ServiceHost) : ServiceHost :=
  (do let _ ← ServiceHost.signal pid sig; ServiceHost.settle : HostM Unit).run h |>.2

/-- Feeds the stop signals of the standard input to the program until the input ends. -/
partial def feed (stdin : IO.FS.Stream) (pid : Nat) (h : ServiceHost) : IO ServiceHost := do
  let line ← stdin.getLine
  if line.isEmpty then return h
  let sig := if line.trimAscii.toString == "TERM" then StopSignal.terminate else StopSignal.interrupt
  feed stdin pid (stopWith pid sig h)

/-- Writes back the files the program made or changed. -/
def writeBack (before after : FileSpace) : IO Unit := do
  for d in after.dirs do
    if !before.dirs.contains d then IO.FS.createDirAll d
  for (p, text) in after.files do
    if before.read p != some text then IO.FS.writeFile p text

def main (argv : List String) : IO UInt32 := do
  let files ← startFiles argv
  let stamp ← Std.Time.Timestamp.now
  let host : ServiceHost := { files := files, now := ⟨stamp.toNanosecondsSinceUnixEpoch.val⟩ }
  let (pid, host) := (ServiceHost.launch argv).run host
  let host ← feed (← IO.getStdin) pid ((ServiceHost.settle : HostM Unit).run host).2
  let host := if (host.exitOf pid).isNone then stopWith pid .interrupt host else host
  let host := if (host.exitOf pid).isNone then stopWith pid .terminate host else host
  IO.print host.stdout
  IO.eprint host.stderr
  writeBack files host.files
  return ((host.exitOf pid).getD 0).toUInt32
