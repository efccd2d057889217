/-!
# Logging settings

Where log lines go and from which level on: the level's name (empty for the default), a
console sink (plain text or JSON lines) and a file of JSON lines.
-/

namespace Foreman

structure LogFile where
  enabled : Bool := false
  path : String := ""
  deriving BEq, Inhabited

structure LogConfig where
  level : String := ""
  console : Bool := false
  json : Bool := false
  file : LogFile := {}
  deriving BEq, Inhabited

end Foreman
