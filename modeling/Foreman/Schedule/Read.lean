import Foreman.Schedule.Spec
import Foreman.Fault
import Foreman.Text.Quote

/-!
# Reading schedules

A schedule is a span (`1h`, at least a second), hours and minutes `HH:MM` (one to three hour
digits), or the five-field calendar notation, used for a text with a blank, one starting with
`@`, and the text after a `cron:` prefix in any case. Surrounding blanks are ignored.
-/

namespace Foreman

namespace Schedule

def readCalendar (expr : String) : Except Fault Schedule :=
  if expr == "" then .error (.plain "cron schedule required")
  else
    match Spec.parse expr with
    | .ok s => .ok s
    | .error (.invalid e) => .error (.plain ("invalid cron schedule " ++ Quote.text expr ++ ": " ++ e))
    | .error .unendedZone => .error (Fault.of .panic "runtime error: slice bounds out of range [:-1]")

/-- Hours and minutes, when the text is one to three digits, a colon and two digits. -/
def clockParts? (s : String) : Option (Nat × Nat) :=
  match Text.splitOn s ":" with
  | [h, m] =>
    if 1 ≤ h.length && h.length ≤ 3 && m.length == 2 && h.all (fun c => '0' ≤ c && c ≤ '9') &&
        m.all (fun c => '0' ≤ c && c ≤ '9') then
      some (h.toNat!, m.toNat!)
    else none
  | _ => none

def hasCronPrefix (s : String) : Bool :=
  Text.lower (String.ofList (s.toList.take 5)) == "cron:"

def read (raw : String) : Except Fault Schedule := do
  let s := Text.trimSpace raw
  if s == "" then throw (.plain "schedule required")
  if hasCronPrefix s then return (← readCalendar (Text.trimSpace (String.ofList (s.toList.drop 5))))
  if Text.hasChar s ' ' || Text.hasChar s '\t' || s.startsWith "@" then return (← readCalendar s)
  match clockParts? s with
  | some (hh, mm) =>
    if mm > 59 then throw (.plain ("invalid minutes in " ++ Quote.text s))
    let d : Int := ((hh * 60 + mm) * 60 : Nat) * Instant.second
    if d ≤ 0 then throw (.plain "interval must be > 0")
    return .every (Spec.everyDelay d)
  | none =>
    match Span.parse s with
    | .error _ =>
      throw (.plain ("invalid schedule " ++ Quote.text raw ++
        " (use a duration like '1h', HH:MM like '01:00', or cron like '0 * * * *')"))
    | .ok d =>
      if d < Instant.second then throw (.plain "schedule interval must be >= 1s")
      return .every (Spec.everyDelay d)

end Schedule

end Foreman
