import Foreman.Store.Value
import Foreman.Time.Layout
import Foreman.Text.Space
import Foreman.Fault

/-!
# Queue rows

A queue row is one unit of work from a tenant's ready view: its organization and workspace
(empty for jobs of the whole organization), the job's name and key, and its queue time, which
comes back as a time, as text in one of several layouts, or as seconds since 1970, all read by
`Timestamp.ofValue`.
-/

namespace Foreman

structure QueueRow where
  org : String := ""
  ws : String := ""
  job : String := ""
  key : String := ""
  queueTime : Instant := Instant.zero
  deriving BEq, Inhabited

namespace QueueRow

/-- The prefix of the row's log messages: `[JOB=..][ORG=..][WS=..][KEY=..]`, without the
organization and the workspace when they are empty. -/
def logPrefix (r : QueueRow) : String :=
  "[JOB=" ++ r.job ++ "]" ++ (if r.org != "" then "[ORG=" ++ r.org ++ "]" else "") ++
    (if r.ws != "" then "[WS=" ++ r.ws ++ "]" else "") ++ "[KEY=" ++ r.key ++ "]"

end QueueRow

namespace Timestamp

/-- The layouts a queue time may be written in, tried in order. -/
def layouts : List Layout :=
  let date : List LayoutElem := [.year, .text "-", .month true, .text "-", .day true]
  let clock : List LayoutElem := [.hour, .text ":", .minute true, .text ":", .second true, .fraction]
  [⟨date ++ [.text " "] ++ clock ++ [.offsetColon false]⟩,
    ⟨date ++ [.text "T"] ++ clock ++ [.offsetColon false]⟩,
    ⟨date ++ [.text " "] ++ clock ++ [.text " ", .offset, .text " ", .zoneName]⟩,
    ⟨date ++ [.text " "] ++ clock⟩,
    ⟨date ++ [.text "T"] ++ clock⟩,
    ⟨date ++ [.text " ", .hour, .text ":", .minute true]⟩,
    ⟨date⟩]

/-- The text before a monotonic clock reading ` m=...`, when one follows some text. -/
def dropClockReading (s : String) : String :=
  match s.splitOn " m=" with
  | first :: _ :: _ => if first.isEmpty then s else first
  | _ => s

def ofText (s : String) : Except Fault Instant :=
  let s := Text.trimSpace s
  if s == "" then .ok Instant.zero
  else
    let s := dropClockReading s
    match layouts.findSome? (fun l => match l.read s with
      | .ok t => some t
      | .error _ => none) with
    | some t => .ok t.instant
    | none => .error (.plain ("unparseable timestamp " ++ Quote.text s))

def ofValue : SqlValue → Except Fault Instant
  | .null => .ok Instant.zero
  | .time t => .ok t
  | .bytes s => ofText s
  | .text s => ofText s
  | .int n => .ok (Instant.ofUnixWord n)
  | v => .error (.plain ("unsupported timestamp type " ++ v.typeName))

end Timestamp

end Foreman
