import Foreman.App.Flags
import Foreman.App.Argv

/-!
# The command line

The program runs as the supervisor, or as a worker when its first argument is `worker`. Both
take `-config` (`./config.yaml` unless given); a worker also takes `-terminating-time`, after
which it starts no job, and `-cleanup-info`, the file of the record it shares with its
supervisor. Positional arguments are ignored.
-/

namespace Foreman

def configFlag : FlagSpec := ⟨"config", "path to config yaml/json", "./config.yaml"⟩

def supervisorFlags : FlagSet := ⟨"jobmanager", [configFlag]⟩

def workerFlags : FlagSet :=
  ⟨workerCommand, [configFlag,
    ⟨"terminating-time", "RFC3339 time after which no new job is started", ""⟩,
    ⟨"cleanup-info", "clean-up shared memory file created by the supervisor", ""⟩]⟩

inductive Invocation where
  /-- Run the supervisor on a configuration file. -/
  | supervisor (config : String)
  /-- Run a worker on a configuration file, with its terminating time as written (empty
  for none) and its clean-up record file (empty for none). -/
  | worker (config terminating cleanUpInfo : String)
  deriving BEq, Inhabited

namespace Invocation

def flagsFor (argv : List String) : FlagSet :=
  match argv with
  | first :: _ => if first == workerCommand then workerFlags else supervisorFlags
  | [] => supervisorFlags

def read (argv : List String) : Except FlagError Invocation :=
  match argv with
  | first :: rest =>
    if first == workerCommand then do
      let (vals, _) ← workerFlags.readArgs rest []
      let get := workerFlags.value vals
      return .worker (get "config") (get "terminating-time") (get "cleanup-info")
    else do
      let (vals, _) ← supervisorFlags.readArgs argv []
      return .supervisor (supervisorFlags.value vals "config")
  | [] => .ok (.supervisor configFlag.default)

def configPath : Invocation → String
  | .supervisor c => c
  | .worker c _ _ => c

/-- A worker's terminating time as its flag gives it: none when empty, else the time the text
reads as in RFC 3339. -/
def terminating (text : String) : Except String (Option Stamp) :=
  if text == "" then .ok none else (Layout.rfc3339.parse text).map some

end Invocation

end Foreman
