import Foreman.Time.Layout

/-!
# Starting a worker process

A worker is a copy of the supervisor's program run with the `worker` command, the
configuration file, the time it stops accepting jobs (RFC 3339 with fraction) and the shared
clean-up record's file.
-/

namespace Foreman

def workerCommand : String := "worker"

structure WorkerArgs where
  terminatingTime : Stamp
  cleanUpInfo : String

def workerArgv (cfgPath : String) (a : WorkerArgs) : List String :=
  [workerCommand, "-config", cfgPath, "-terminating-time",
    a.terminatingTime.instant.rfc3339At a.terminatingTime.offset, "-cleanup-info", a.cleanUpInfo]

end Foreman
