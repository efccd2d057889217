import Foreman.Time.Instant

/-!
# Database values

The values a database hands back for a column or takes as an argument: null, a 64-bit
integer, a float (kept as the text of its number), a boolean, bytes (kept as text), text
and a time. A value of any other kind is named by its type.
-/

namespace Foreman

inductive SqlValue where
  | null
  | int (n : Int)
  | float (lit : String)
  | bool (b : Bool)
  | bytes (s : String)
  | text (s : String)
  | time (t : Instant)
  /-- A value of a kind databases do not produce, named by its type. -/
  | other (typeName : String)
  deriving BEq, Inhabited

namespace SqlValue

def typeName : SqlValue → String
  | .null => "<nil>"
  | .int _ => "int64"
  | .float _ => "float64"
  | .bool _ => "bool"
  | .bytes _ => "[]uint8"
  | .text _ => "string"
  | .time _ => "time.Time"
  | .other t => t

end SqlValue

end Foreman
