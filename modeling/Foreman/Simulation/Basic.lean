import Foreman.Json.Value
import Foreman.Time.Layout

/-!
# Simulated runs

A run drives one component through steps, on a clock that moves only when a step says. It is
a JSON object of settings and steps, each step an object whose `do` names it, answered by a
JSON value beside a report of the state after it. Here: members with their defaults, and the
clock, starting at `now` (2024-01-01T00:00:00Z unless given).
-/

namespace Foreman

namespace Json

def textOr (j : Json) (key : String) (d : String) : String := ((j.field key).str?).getD d

/-- An integer member, or `d` when it is missing or not an integer. -/
def intOr (j : Json) (key : String) (d : Int) : Int := ((j.field key).int?).getD d

/-- A boolean member, false when it is missing or not a boolean. -/
def flag (j : Json) (key : String) : Bool := ((j.field key).bool?).getD false

/-- The items of an array member; none when it is missing or not an array. -/
def items (j : Json) (key : String) : List Json := ((j.field key).arr?).getD []

/-- The members of an object member; none when it is missing or not an object. -/
def members (j : Json) (key : String) : List (String × Json) := ((j.field key).obj?).getD []

end Json

namespace Simulation

/-- The instant a run's clock starts at: its `now`, read as an RFC 3339 time. -/
def clock (j : Json) : Instant :=
  match Layout.rfc3339.parse (j.textOr "now" "2024-01-01T00:00:00Z") with
  | .ok s => s.instant
  | .error _ => Instant.zero

def millis (ms : Int) : Int := ms * 1000000

/-- One step: its answer, left out for a step that answers nothing, and the state after it. -/
def entry (answer : Option Json) (state : Json) : Json :=
  match answer with
  | some a => .obj [("result", a), ("state", state)]
  | none => .obj [("state", state)]

end Simulation

end Foreman
