/-!
# Faults

A fault is a failure's message for people and the causes it stems from, so callers can tell
a timed-out job from a cancelled one whatever context the message gathered on the way up.
`Fault.wrap` adds context keeping the causes; `Fault.join` keeps both faults' causes.
-/

namespace Foreman

inductive Cause where
  /-- A job names an executor that is not registered. -/
  | unknownExecutor
  /-- An executor was registered twice. -/
  | duplicateType
  /-- A queue row names a job that is not configured. -/
  | unknownJob
  /-- A job ran past its timeout and was told to stop. -/
  | jobTimeout
  /-- A job was told to stop because its worker is stopping. -/
  | jobTerminate
  /-- A test job was given fewer than one second to wait. -/
  | waitSeconds
  /-- A database driver that is not known. -/
  | unknownDriver
  /-- The record shared between supervisor and workers is gone. -/
  | sharedInfoLost
  /-- A deadline passed. -/
  | deadline
  /-- Work was cancelled. -/
  | canceled
  /-- A text is not well-formed JSON. -/
  | malformedJson
  /-- A JSON value does not fit the type it is read into. -/
  | typeMismatch
  /-- An error reported by a MySQL server, by its number. -/
  | mysql (number : Nat)
  /-- An error reported by a PostgreSQL server, by its condition code. -/
  | postgres (code : String)
  /-- An error reported by SQLite, by its extended result code. -/
  | sqlite (code : Nat)
  /-- The program stopped on a fault of its own, such as an index out of bounds, rather than
  reporting a failure. -/
  | panic
  deriving DecidableEq, BEq, Inhabited

structure Fault where
  message : String
  causes : List Cause := []
  deriving Inhabited

namespace Fault

def plain (message : String) : Fault := ⟨message, []⟩

def of (c : Cause) (message : String) : Fault := ⟨message, [c]⟩

/-- The failure with context in front of its message. -/
def wrap (context : String) (f : Fault) : Fault := ⟨context ++ ": " ++ f.message, f.causes⟩

/-- Two failures as one: both messages on their own lines, the causes of both. -/
def join (a b : Fault) : Fault := ⟨a.message ++ "\n" ++ b.message, a.causes ++ b.causes⟩

def is (f : Fault) (c : Cause) : Bool := f.causes.contains c

def jobTimeout : Fault := of .jobTimeout "job timeout"

def jobTerminate : Fault := of .jobTerminate "job terminate"

def canceled : Fault := of .canceled "context canceled"

def deadline : Fault := of .deadline "context deadline exceeded"

/-- Several failures reported as one list: "1 error occurred:" or "N errors occurred:",
then each failure on a line of its own behind a tab and a star, then a blank line. The
causes of all of them are kept; no failure at all is no fault. -/
def gather (fs : List Fault) : Option Fault :=
  match fs with
  | [] => none
  | [f] => some ⟨"1 error occurred:\n\t* " ++ f.message ++ "\n\n", f.causes⟩
  | _ => some ⟨toString fs.length ++ " errors occurred:\n\t" ++
      "\n\t".intercalate (fs.map fun f => "* " ++ f.message) ++ "\n\n", fs.flatMap (·.causes)⟩

/-- Whether the failure means the work was interrupted: timed out, terminated or
cancelled. -/
def isInterrupt (f : Fault) : Bool := f.is .jobTimeout || f.is .jobTerminate || f.is .canceled

end Fault

end Foreman
