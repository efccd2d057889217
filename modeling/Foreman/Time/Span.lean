import Foreman.Number.Binary64
import Foreman.Text.Quote

/-!
# Spans of time as text

An optional sign and terms, each a decimal number with an optional fraction and a unit (`ns`,
`us`/`µs`/`μs`, `ms`, `s`, `m`, `h`), as `1h30m` or `1.5s`; a lone `0` needs no unit. The
value is whole nanoseconds within a signed 64-bit word. Whole parts are exact; a fraction is
scaled in binary64 (its digits times the unit over their power of ten, cut to an integer), so
finer than a nanosecond is dropped, and it keeps at most the digits fitting 63 bits.
-/

namespace Foreman

inductive SpanError where
  /-- Not a span, or one beyond the 64-bit range. -/
  | invalid
  /-- A number without a unit. -/
  | missingUnit
  /-- A unit that is not known. -/
  | unknownUnit (unit : String)

def SpanError.message (orig : String) : SpanError → String
  | .invalid => "time: invalid duration " ++ Quote.ascii orig
  | .missingUnit => "time: missing unit in duration " ++ Quote.ascii orig
  | .unknownUnit u => "time: unknown unit " ++ Quote.ascii u ++ " in duration " ++ Quote.ascii orig

namespace Span

def limit : Nat := 9223372036854775808

def unit? (u : String) : Option Nat :=
  match u with
  | "ns" => some 1
  | "us" => some 1000
  | "µs" => some 1000
  | "μs" => some 1000
  | "ms" => some 1000000
  | "s" => some 1000000000
  | "m" => some 60000000000
  | "h" => some 3600000000000
  | _ => none

/-- The digits at the start of the text as a number, or `none` past `2 ^ 63`. -/
def leadingInt : Nat → List Char → Option (Nat × List Char)
  | x, c :: cs =>
    if c.isDigit then
      if x > limit / 10 then none
      else
        let x' := x * 10 + (c.toNat - 48)
        if x' > limit then none else leadingInt x' cs
    else some (x, c :: cs)
  | x, [] => some (x, [])

/-- The digits of a fraction: the number they make and its power of ten, up to the digit
after which the number would pass `2 ^ 63 - 1`; later digits are skipped. -/
def leadingFraction : Nat → Nat → Bool → List Char → Nat × Nat × List Char
  | x, scale, beyond, c :: cs =>
    if c.isDigit then
      if beyond then leadingFraction x scale true cs
      else if x > (limit - 1) / 10 then leadingFraction x scale true cs
      else
        let y := x * 10 + (c.toNat - 48)
        if y > limit then leadingFraction x scale true cs
        else leadingFraction y (scale * 10) false cs
    else (x, scale, c :: cs)
  | x, scale, _, [] => (x, scale, [])

/-- Nanoseconds of a fraction `f / scale` of a unit, as binary64 arithmetic gives them. -/
def fractionNanos (f scale unit : Nat) : Nat :=
  match Binary64.ofNat f, Binary64.ofNat unit, Binary64.ofNat scale with
  | some fx, some ux, some sx =>
    match ux.div sx with
    | some q =>
      match fx.mul q with
      | some p => p.floor
      | none => limit + 1
    | none => limit + 1
  | _, _, _ => limit + 1

def endsUnit (c : Char) : Bool := c == '.' || c.isDigit

def terms : Nat → Nat → List Char → Except SpanError Nat
  | _, d, [] => .ok d
  | 0, _, _ => .error .invalid
  | fuel + 1, d, s@(c :: _) =>
    if !(c == '.' || c.isDigit) then .error .invalid
    else
      match leadingInt 0 s with
      | none => .error .invalid
      | some (v, rest) =>
        let pre := rest.length != s.length
        let (f, scale, rest, post) := match rest with
          | '.' :: r =>
            let (f, scale, r') := leadingFraction 0 1 false r
            (f, scale, r', r'.length != r.length)
          | _ => (0, 1, rest, false)
        if !pre && !post then .error .invalid
        else
          let u := rest.takeWhile (fun c => !endsUnit c)
          let rest := rest.dropWhile (fun c => !endsUnit c)
          if u.isEmpty then .error .missingUnit
          else
            match unit? (String.ofList u) with
            | none => .error (.unknownUnit (String.ofList u))
            | some un =>
              if v > limit / un then .error .invalid
              else
                let v := v * un
                let v := if f > 0 then v + fractionNanos f scale un else v
                if v > limit then .error .invalid
                else
                  let d := d + v
                  if d > limit then .error .invalid else terms fuel d rest

def parse (s : String) : Except SpanError Int :=
  let cs := s.toList
  let (neg, body) := match cs with
    | '-' :: r => (true, r)
    | '+' :: r => (false, r)
    | r => (false, r)
  if body == ['0'] then .ok 0
  else if body.isEmpty then .error .invalid
  else
    match terms (body.length + 1) 0 body with
    | .error e => .error e
    | .ok d =>
      if neg then .ok (-(d : Int))
      else if d > limit - 1 then .error .invalid
      else .ok d

def parseText (s : String) : Except String Int :=
  match parse s with
  | .ok d => .ok d
  | .error e => .error (e.message s)

end Span

end Foreman
