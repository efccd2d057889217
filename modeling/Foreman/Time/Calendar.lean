/-!
# The proleptic Gregorian calendar

Dates count days from 1970-01-01. `daysFromCivil` and `civilFromDays` convert by the era
arithmetic of 400-year cycles (146097 days), exact for every integer year; a month past
December or before January carries into the year.
-/

namespace Foreman.Calendar

def isLeap (y : Int) : Bool := y % 4 == 0 && (y % 100 != 0 || y % 400 == 0)

def daysIn (y : Int) (m : Nat) : Nat :=
  match m with
  | 2 => if isLeap y then 29 else 28
  | 4 | 6 | 9 | 11 => 30
  | _ => 31

/-- The day count of a date, with the month taken between 1 and 12. -/
def daysFromCivil (y : Int) (m : Nat) (d : Int) : Int :=
  let y := if m ≤ 2 then y - 1 else y
  let era := y / 400
  let yoe := y % 400
  let mp : Int := if m > 2 then (m : Int) - 3 else (m : Int) + 9
  let doy := (153 * mp + 2) / 5 + d - 1
  let doe := yoe * 365 + yoe / 4 - yoe / 100 + doy
  era * 146097 + doe - 719468

def civilFromDays (z : Int) : Int × Nat × Nat :=
  let z := z + 719468
  let era := z / 146097
  let doe := z % 146097
  let yoe := (doe - doe / 1460 + doe / 36524 - doe / 146096) / 365
  let doy := doe - (365 * yoe + yoe / 4 - yoe / 100)
  let mp := (5 * doy + 2) / 153
  let d := doy - (153 * mp + 2) / 5 + 1
  let m := if mp < 10 then mp + 3 else mp - 9
  let y := yoe + era * 400
  (if m ≤ 2 then y + 1 else y, m.toNat, d.toNat)

def weekday (days : Int) : Nat := ((days + 4) % 7).toNat

/-- A month number of any size as a year carry and a month from 1 to 12. -/
def normMonth (y : Int) (m : Int) : Int × Nat :=
  let m0 := m - 1
  (y + m0 / 12, (m0 % 12).toNat + 1)

end Foreman.Calendar
