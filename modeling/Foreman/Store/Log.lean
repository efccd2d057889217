import Foreman.Store.Scripted
import Foreman.Json.Value

/-!
# The statement log as JSON

What a database was sent, as JSON records: `{"kind": "begin"}`, `commit`, `rollback`, and
queries and statements with their text and arguments. An argument is itself where JSON has
it (text, integer, boolean, null), else a one-member record: `{"time": ...}` in RFC 3339 at
UTC, `{"bytes": ...}`, or `{"float": ...}` with the number's text.
-/

namespace Foreman

def SqlValue.toJson : SqlValue → Json
  | .null => .null
  | .int n => .int n
  | .float lit => .obj [("float", .str lit)]
  | .bool b => .bool b
  | .bytes s => .obj [("bytes", .str s)]
  | .text s => .str s
  | .time t => .obj [("time", .str t.rfc3339)]
  | .other t => .str t

def Sent.toJson : Sent → Json
  | .begin => .obj [("kind", .str "begin")]
  | .commit => .obj [("kind", .str "commit")]
  | .rollback => .obj [("kind", .str "rollback")]
  | .query sql args => .obj [("kind", .str "query"), ("sql", .str sql), ("args", .arr (args.map SqlValue.toJson))]
  | .exec sql args => .obj [("kind", .str "exec"), ("sql", .str sql), ("args", .arr (args.map SqlValue.toJson))]

end Foreman
