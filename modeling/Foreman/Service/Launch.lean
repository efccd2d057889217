import Foreman.Service.Worker
import Foreman.App.CommandLine

/-!
# Starting a process of the service

Flags that do not read end the process with 2, the failure and usage on standard error. A
worker's terminating time is RFC 3339 with an optional fraction; one that does not read ends
it with 2 and `fatal: -terminating-time: <reason>` on standard output. A program that does not
start ends it with 1 and `fatal: <reason>`. Otherwise it runs as a worker, or as a supervisor
by the runner given.
-/

namespace Foreman

namespace ServiceHost

def endEarly (pid code : Nat) : HostM Unit :=
  modify fun h => { h with early := h.early ++ [(pid, code)] }

/-- Starts a process with the arguments after the program name, running a supervisor with
`supervise`: its pid. -/
def launchWith (supervise : ServiceProc → HostM ServiceProc) (argv : List String) : HostM Nat := do
  let pid ← freshPid
  match Invocation.read argv with
  | .error e =>
    complain ((Invocation.flagsFor argv).report e)
    endEarly pid 2
  | .ok (.worker cfg term info) =>
    match Invocation.terminating term with
    | .error msg =>
      say ("fatal: -terminating-time: " ++ msg)
      endEarly pid 2
    | .ok due =>
      match ← startApp cfg with
      | (.error e, _) =>
        say ("fatal: " ++ e.message)
        endEarly pid 1
      | (.ok a, svc) =>
        let p : ServiceProc := { pid := pid, role := .worker, app := a, logs := svc }
        add p
        put (← runWorker p due info)
  | .ok (.supervisor cfg) =>
    match ← startApp cfg with
    | (.error e, _) =>
      say ("fatal: " ++ e.message)
      endEarly pid 1
    | (.ok a, svc) =>
      let p : ServiceProc := { pid := pid, role := .supervisor, app := a, logs := svc }
      add p
      put (← supervise p)
  return pid

end ServiceHost

end Foreman
