import Foreman.Fault
import Foreman.Number.FloatText
import Foreman.Time.Span
import Foreman.Text.Space

/-!
# Durations in the configuration

A number of seconds (`90`, `0.5`, `1e3`) or a span (`1m30s`), blanks ignored, empty being
zero. A number is tried first: its value times 10⁹ in binary64, cut toward zero; a product
past the 64-bit range wraps to the least integer and fails the sign check. Infinities and
NaN are refused, and so is a negative duration, naming the field's path.
`DurationText.orDefault` puts a default in place of zero.
-/

namespace Foreman

namespace DurationText

def wordLimit : Nat := 9223372036854775808

/-- Nanoseconds of a number of seconds, as binary64 arithmetic and a cut to a 64-bit
integer give them. -/
def secondsToNanos (neg : Bool) (m : Binary64) : Int :=
  match Binary64.ofNat 1000000000 with
  | none => 0
  | some billion =>
    match Binary64.mul m billion with
    | none => -(wordLimit : Int)
    | some p =>
      let n := p.floor
      if n ≥ wordLimit then -(wordLimit : Int)
      else if neg then -(n : Int) else n

/-- Reads an optional non-negative duration; `path` names the field in messages. -/
def field (path raw : String) : Except Fault Int := do
  let s := Text.trimSpace raw
  if s == "" then return 0
  let d ← match FloatText.read s with
    | .value (.finite neg m) => pure (secondsToNanos neg m)
    | .value _ => throw (Fault.plain (path ++ ": invalid duration " ++ Quote.text raw))
    | _ =>
      match Span.parse s with
      | .ok d => pure d
      | .error e =>
        throw (Fault.plain (path ++ ": invalid duration " ++ Quote.text raw ++ ": " ++ e.message s))
  if d < 0 then throw (Fault.plain (path ++ ": duration must be >= 0, got " ++ Quote.text raw))
  return d

/-- Reads a duration as `field` does, with `default` for an empty or zero one. -/
def orDefault (path raw : String) (default : Int) : Except Fault Int := do
  let d ← field path raw
  return if d > 0 then d else default

end DurationText

end Foreman
