import Foreman.Time.Calendar
import Foreman.Number.Word

/-!
# Instants

An instant is whole nanoseconds from 1970-01-01T00:00:00 UTC; 0001-01-01T00:00:00 UTC stands
for no time where a time is optional (a schedule never firing, a record never written).
Instants are written in RFC 3339 at UTC with `Z`, a fraction only when nonzero, trailing
zeros dropped.
-/

namespace Foreman

/-- A point in time, in nanoseconds from 1970-01-01T00:00:00 UTC. -/
structure Instant where
  nanos : Int
  deriving BEq, Inhabited

namespace Instant

def second : Int := 1000000000

/-- The instant 0001-01-01T00:00:00 UTC, which stands for no time. -/
def zero : Instant := ⟨-62135596800 * second⟩

def isZero (t : Instant) : Bool := t.nanos == zero.nanos

/-- The instant a whole number of seconds after 1970-01-01T00:00:00 UTC. -/
def ofUnix (s : Int) : Instant := ⟨s * second⟩

def secondsBeforeUnix : Int := 62135596800

/-- Seconds from the start of the year -292277022399 to 0001-01-01, counted in Julian years
of 365.2425 days. -/
def secondsBeforeYearOne : Int := 292277022400 * 31556952

/-- The instant of seconds after 1970-01-01 as a clock keeps them in signed 64-bit words:
seconds from year 1 in such a word, wrapping, and the calendar read from the seconds since
year -292277022399 in an unsigned word, wrapping too; counts near either end land near year
292277026596. -/
def ofUnixWord (s : Int) : Instant :=
  let fromYearOne := Word.wrap (s + secondsBeforeUnix)
  let fromStart := (fromYearOne + secondsBeforeYearOne) % Word.modulus
  ofUnix (fromStart - secondsBeforeYearOne - secondsBeforeUnix)

/-- Whole seconds from 1970-01-01T00:00:00 UTC, rounded down. -/
def unix (t : Instant) : Int := t.nanos / second

def subsecond (t : Instant) : Nat := (t.nanos % second).toNat

/-- The instant `d` nanoseconds later. -/
def add (t : Instant) (d : Int) : Instant := ⟨t.nanos + d⟩

def since (t u : Instant) : Int := t.nanos - u.nanos

instance : LT Instant := ⟨fun a b => a.nanos < b.nanos⟩
instance : LE Instant := ⟨fun a b => a.nanos ≤ b.nanos⟩
instance (a b : Instant) : Decidable (a < b) := inferInstanceAs (Decidable (a.nanos < b.nanos))
instance (a b : Instant) : Decidable (a ≤ b) := inferInstanceAs (Decidable (a.nanos ≤ b.nanos))

@[simp] theorem lt_iff_nanos (a b : Instant) : a < b ↔ a.nanos < b.nanos := Iff.rfl

@[simp] theorem le_iff_nanos (a b : Instant) : a ≤ b ↔ a.nanos ≤ b.nanos := Iff.rfl

@[simp] theorem add_nanos (t : Instant) (d : Int) : (t.add d).nanos = t.nanos + d := rfl

/-- The instant rounded down to a multiple of `d` nanoseconds (counted from the instant that
stands for no time, a whole number of minutes before 1970). -/
def truncate (t : Instant) (d : Int) : Instant :=
  if d ≤ 0 then t else ⟨t.nanos - (t.nanos - zero.nanos) % d⟩

def max (a b : Instant) : Instant := if a.nanos < b.nanos then b else a

end Instant

/-- The reading of a wall clock: date, time of day and nanoseconds. -/
structure Wall where
  year : Int
  month : Nat
  day : Nat
  hour : Nat
  minute : Nat
  second : Nat
  nano : Nat
  deriving BEq

namespace Instant

/-- The wall clock at `offset` seconds east of UTC. -/
def wall (t : Instant) (offset : Int) : Wall :=
  let s := t.unix + offset
  let days := s / 86400
  let secOfDay := (s % 86400).toNat
  let (y, m, d) := Calendar.civilFromDays days
  ⟨y, m, d, secOfDay / 3600, secOfDay / 60 % 60, secOfDay % 60, t.subsecond⟩

/-- The day of the week at `offset` seconds east of UTC, Sunday being 0. -/
def weekday (t : Instant) (offset : Int) : Nat :=
  Calendar.weekday ((t.unix + offset) / 86400)

end Instant

namespace Wall

/-- Seconds from 1970-01-01T00:00:00 of the same clock, with every field allowed to
overflow into the next larger one. -/
def toSeconds (y : Int) (month : Int) (day hour minute sec : Int) : Int :=
  let (y, m) := Calendar.normMonth y month
  Calendar.daysFromCivil y m 1 * 86400 + (day - 1) * 86400 + hour * 3600 + minute * 60 + sec

end Wall

namespace TimeText

/-- A number written with at least `width` digits, zeros in front. -/
def pad (width : Nat) (n : Nat) : String :=
  let s := toString n
  String.ofList (List.replicate (width - s.length) '0') ++ s

/-- A year with at least four digits, and a minus sign for a year before year 0. -/
def year (y : Int) : String :=
  if y < 0 then "-" ++ pad 4 (-y).toNat else pad 4 y.toNat

/-- Nine digits of nanoseconds with the trailing zeros dropped, after a point; nothing for
zero. -/
def fraction (ns : Nat) : String :=
  if ns == 0 then ""
  else
    let ds := (pad 9 ns).toList
    let trimmed := (ds.reverse.dropWhile (· == '0')).reverse
    "." ++ String.ofList trimmed

end TimeText

namespace Instant

def offsetText (offset : Int) : String :=
  if offset == 0 then "Z"
  else
    let a := offset.natAbs / 60
    (if offset < 0 then "-" else "+") ++ TimeText.pad 2 (a / 60) ++ ":" ++ TimeText.pad 2 (a % 60)

/-- The instant in RFC 3339 on the clock `offset` seconds east of UTC, with the fraction of
a second as short as it can be. -/
def rfc3339At (t : Instant) (offset : Int) : String :=
  let w := t.wall offset
  TimeText.year w.year ++ "-" ++ TimeText.pad 2 w.month ++ "-" ++ TimeText.pad 2 w.day ++ "T" ++
    TimeText.pad 2 w.hour ++ ":" ++ TimeText.pad 2 w.minute ++ ":" ++ TimeText.pad 2 w.second ++
    TimeText.fraction w.nano ++ offsetText offset

/-- The instant on the clock `offset` seconds east of UTC with exactly three digits of the
second's fraction, cut rather than rounded: `2024-01-01T09:00:00.000+09:00`. -/
def millisAt (t : Instant) (offset : Int) : String :=
  let w := t.wall offset
  TimeText.year w.year ++ "-" ++ TimeText.pad 2 w.month ++ "-" ++ TimeText.pad 2 w.day ++ "T" ++
    TimeText.pad 2 w.hour ++ ":" ++ TimeText.pad 2 w.minute ++ ":" ++ TimeText.pad 2 w.second ++
    "." ++ TimeText.pad 3 (w.nano / 1000000) ++ offsetText offset

/-- The instant in RFC 3339 at UTC, with the fraction of a second as short as it can be. -/
def rfc3339 (t : Instant) : String := t.rfc3339At 0

end Instant

end Foreman
