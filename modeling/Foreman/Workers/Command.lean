import Foreman.Workers.Process
import Foreman.Text.Quote
import Foreman.Text.Path
import Foreman.Number.IntText

/-!
# Starting programs

A program named without a slash is looked up in the search path, a name with one used as is.
Starting fails for a missing program, a directory or one that may not run:
`exec: "name": executable file not found in $PATH`, `exec: "name": is a directory`, or
`fork/exec path: no such file or directory` / `permission denied` for a path. `sleep N` runs
N seconds, a shell with a script holding `sleep N` as long, and every other program ends at
once (it has no input); any signal ends it, and signalling an ended program does nothing.
-/

namespace Foreman

/-- The programs of the host by path, and the directories. -/
structure Host where
  programs : List String :=
    ["/bin/sleep", "/bin/sh", "/bin/bash", "/bin/true", "/bin/false", "/bin/cat", "/bin/echo",
     "/usr/bin/sleep", "/usr/bin/env", "/usr/bin/true", "/usr/bin/false", "/usr/bin/cat",
     "/usr/bin/echo", "/usr/bin/sh", "/usr/bin/bash"]
  dirs : List String := ["/", "/bin", "/usr", "/usr/bin", "/tmp", "/dev", "/etc", "/root"]
  /-- Files that exist but cannot be run. -/
  files : List String := ["/etc/passwd", "/etc/hosts", "/dev/null"]
  searchPath : List String := ["/usr/local/sbin", "/usr/local/bin", "/usr/sbin", "/usr/bin", "/sbin", "/bin"]
  deriving Inhabited

namespace Host

/-- Resolves a program name to the path that is started, or why it cannot be. -/
def resolve (h : Host) (name : String) : Except String String :=
  if Path.base name != name then .ok name
  else if name.toList.contains '/' then
    if h.dirs.contains (Path.clean name) then .error ("exec: " ++ Quote.text name ++ ": is a directory")
    else if h.programs.contains (Path.clean name) then .ok name
    else .error ("exec: " ++ Quote.text name ++ ": no such file or directory")
  else
    match h.searchPath.find? fun d => h.programs.contains (d ++ "/" ++ name) with
    | some d => .ok (d ++ "/" ++ name)
    | none => .error ("exec: " ++ Quote.text name ++ ": executable file not found in $PATH")

/-- Starts a program by path: the failure, if it cannot be run. -/
def start (h : Host) (path : String) : Option String :=
  let p := Path.clean path
  if h.programs.contains p then none
  else if h.dirs.contains p || h.files.contains p then some ("fork/exec " ++ path ++ ": permission denied")
  else some ("fork/exec " ++ path ++ ": no such file or directory")

end Host

def Program.lifetime (path : String) (args : List String) : Int :=
  let seconds (s : String) : Int :=
    match IntText.atoi s with
    | .ok n => n * 1000000000
    | .error _ => 0
  let name := Path.base path
  if name == "sleep" then
    match args with
    | n :: _ => seconds n
    | [] => 0
  else if name == "sh" || name == "bash" then
    match args with
    | "-c" :: script :: _ =>
      let words := script.splitOn " "
      match words.dropWhile (· != "sleep") with
      | _ :: n :: _ => seconds n
      | _ => 0
    | _ => 0
  else 0

/-- A started program: when it ends, in nanoseconds on the run's clock. -/
structure Started where
  pid : Nat
  endsAt : Int
  deriving Inhabited

namespace Started

def running (p : Started) (now : Int) : Bool := now < p.endsAt

def signal (p : Started) (now : Int) : Started :=
  if p.running now then { p with endsAt := now } else p

/-- Waits for the program at most `timeout` nanoseconds: whether it ended, and the time
after the wait. -/
def wait (p : Started) (now timeout : Int) : Bool × Int :=
  if p.endsAt ≤ now + timeout then (true, max now p.endsAt) else (false, now + timeout)

end Started

end Foreman
