import Foreman.Config.Manager
import Foreman.Config.Decode

/-!
# Watching the configuration file

A watch follows the file's directory and reloads on a change to a file whose name is the
file's up to case; changes close together make one reload. It logs `config watcher started`
with the directory and name, or `config watch add failed` for a missing directory, and then
tries again after a backoff.
-/

namespace Foreman

/-- The directory a watch follows and the name of the file it reloads on. -/
structure ConfigWatch where
  dir : String
  file : String
  deriving Inhabited

namespace ConfigWatch

def ofPath (path : String) : ConfigWatch := ⟨Path.dir path, Path.base path⟩

/-- Whether a change to a path makes the watch reload: the path lies in the watched
directory and its name is the file's name up to case. -/
def concerns (w : ConfigWatch) (changed : String) : Bool :=
  Path.dir changed == w.dir && Text.sameFold (Path.base changed) w.file

/-- Starts the watch, given whether its directory exists; logs the start and answers whether
the watch runs. -/
def start (w : ConfigWatch) (log : Logger) (dirExists : Bool) : LogM Bool := do
  if dirExists then
    log.debug "config watcher started" [.text "dir" w.dir, .text "file" w.file]
    return true
  else
    log.warn "config watch add failed" [.err (some "no such file or directory"), .text "dir" w.dir]
    return false

end ConfigWatch

end Foreman
