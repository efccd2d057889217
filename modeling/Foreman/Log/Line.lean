import Foreman.Log.Level
import Foreman.Json.Value
import Foreman.Number.FloatText
import Foreman.Time.Layout

/-!
# Log lines

A log line is a JSON object: its level, its fields in the order added (the logger's first; a
key may repeat), and its message unless empty. A field writes one member or none: texts,
integers and booleans as they are; a duration in milliseconds with fractions; a time as
`2006-01-02T15:04:05.000Z07:00` on its own clock; a JSON value as it is; a failure under
`err` and a stack under `stack`, nothing for none or a blank one; the empty field nothing.
-/

namespace Foreman

inductive LogField where
  | text (key value : String)
  | int (key : String) (value : Int)
  | flag (key : String) (value : Bool)
  | duration (key : String) (nanos : Int)
  | time (key : String) (stamp : Stamp)
  | value (key : String) (v : Json)
  | err (msg : Option String)
  | stack (text : String)
  | empty
  deriving Inhabited

/-- A signed number of nanoseconds as milliseconds, in the notation of JSON numbers. -/
def millisText (nanos : Int) : String :=
  let mag := match Binary64.ofNat nanos.natAbs, Binary64.ofNat 1000000 with
    | some x, some m => ((x.div m).map FloatText.jsonMagnitude).getD "0"
    | _, _ => "0"
  if nanos < 0 && mag != "0" then "-" ++ mag else mag

def LogField.member : LogField → Option (String × Json)
  | .text k v => some (k, .str v)
  | .int k v => some (k, .int v)
  | .flag k v => some (k, .bool v)
  | .duration k ns => some (k, .num (millisText ns))
  | .time k s => some (k, .str (s.instant.millisAt s.offset))
  | .value k v => some (k, v)
  | .err m => m.map fun m => ("err", .str m)
  | .stack t => if Text.trimSpace t == "" then none else some ("stack", .str t)
  | .empty => none

structure LogLine where
  level : Level
  members : List (String × Json)
  message : String
  deriving Inhabited

def LogLine.written (l : LogLine) : List (String × Json) :=
  ("level", .str l.level.name) :: l.members ++ (if l.message.isEmpty then [] else [("message", .str l.message)])

def LogLine.of (level : Level) (msg : String) (fields : List LogField) : LogLine :=
  ⟨level, fields.filterMap LogField.member, msg⟩

end Foreman
