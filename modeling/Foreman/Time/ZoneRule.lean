import Foreman.Time.Calendar

/-!
# Zone rules

Which offset a zone keeps once its history ends, written as POSIX `TZ`: standard time's name
and offset and, with daylight saving, its name, offset (an hour ahead unless written) and two
yearly switches, `EST5EDT,M3.2.0,M11.1.0`. Text offsets count west and are turned around. A
switch is day `n` without 29 February (`Jn`), day `n` from zero (`n`), or weekday `d` of week
`w` of month `m` (`Mm.w.d`, week 5 the last), an optional `/time` after it, two o'clock by
default. `ZoneRule.periodAt` gives the offset at a second and its span, exact next to a
switch, else cut at the year's ends.
-/

namespace Foreman

inductive SwitchDay where
  /-- The `day`-th day of the year, 1 to 365, the 29th of February never counted. -/
  | julian (day : Nat)
  /-- The `day`-th day of the year counted from zero, the 29th of February counted. -/
  | ordinal (day : Nat)
  /-- Weekday `day` (Sunday being 0) of week `week` (5 the last) of month `month`. -/
  | weekday (month week day : Nat)
  deriving Inhabited

/-- A yearly switch: its day and the local time of day, in seconds. -/
structure RuleSwitch where
  day : SwitchDay
  time : Int
  deriving Inhabited

structure DaylightRule where
  name : String
  offset : Int
  start : RuleSwitch
  stop : RuleSwitch
  deriving Inhabited

/-- A zone rule: standard time, and daylight saving time if the zone keeps it. Offsets are
in seconds east of UTC. -/
structure ZoneRule where
  name : String
  offset : Int
  daylight : Option DaylightRule
  deriving Inhabited

/-- The offset in force over a span of seconds, `[start, stop)`. -/
structure ZonePeriod where
  name : String
  offset : Int
  start : Int
  stop : Int
  daylight : Bool
  deriving Inhabited

namespace ZoneRule

/-- Reads a number from `least` to `most` at the front: the number and the rest. -/
def readNum (least most : Nat) (s : List Char) : Option (Nat × List Char) :=
  let ds := s.takeWhile Char.isDigit
  let rest := s.dropWhile Char.isDigit
  let rec value (acc : Nat) : List Char → Option Nat
    | [] => some acc
    | d :: r =>
      let acc := acc * 10 + (d.toNat - 48)
      if acc > most then none else value acc r
  if ds.isEmpty then none
  else match value 0 ds with
    | some n => if n < least then none else some (n, rest)
    | none => none

/-- Reads a zone name at the front: at least three characters up to a digit, a comma or a
sign, or anything between `<` and `>`. -/
def readName (s : List Char) : Option (String × List Char) :=
  match s with
  | [] => none
  | '<' :: r =>
    match r.findIdx? (· == '>') with
    | some i => some (String.ofList (r.take i), r.drop (i + 1))
    | none => none
  | _ =>
    let stop (c : Char) : Bool := c.isDigit || c == ',' || c == '-' || c == '+'
    match s.findIdx? stop with
    | some i => if i < 3 then none else some (String.ofList (s.take i), s.drop i)
    | none => if s.length < 3 then none else some (String.ofList s, [])

/-- Reads `[+-]hh[:mm[:ss]]` at the front, in seconds; hours go up to a week. -/
def readOffset (s : List Char) : Option (Int × List Char) := do
  let (neg, s) := match s with
    | '+' :: r => (false, r)
    | '-' :: r => (true, r)
    | _ => (false, s)
  let sign (n : Nat) : Int := if neg then -(n : Int) else n
  let (h, s) ← readNum 0 (24 * 7) s
  match s with
  | ':' :: r =>
    let (m, s) ← readNum 0 59 r
    match s with
    | ':' :: r =>
      let (sec, s) ← readNum 0 59 r
      return (sign (h * 3600 + m * 60 + sec), s)
    | _ => return (sign (h * 3600 + m * 60), s)
  | _ => return (sign (h * 3600), s)

/-- Reads a switch at the front: its day and, after a slash, its time. -/
def readSwitch (s : List Char) : Option (RuleSwitch × List Char) := do
  let (day, s) ← match s with
    | [] => none
    | 'J' :: r => do
      let (d, s) ← readNum 1 365 r
      pure (SwitchDay.julian d, s)
    | 'M' :: r => do
      let (m, s) ← readNum 1 12 r
      let s ← match s with | '.' :: r => some r | _ => none
      let (w, s) ← readNum 1 5 s
      let s ← match s with | '.' :: r => some r | _ => none
      let (d, s) ← readNum 0 6 s
      pure (SwitchDay.weekday m w d, s)
    | _ => do
      let (d, s) ← readNum 0 365 s
      pure (SwitchDay.ordinal d, s)
  match s with
  | '/' :: r =>
    let (t, s) ← readOffset r
    return (⟨day, t⟩, s)
  | _ => return (⟨day, 7200⟩, s)

def parse? (text : String) : Option ZoneRule := do
  let (name, s) ← readName text.toList
  let (off, s) ← readOffset s
  let std := -off
  match s with
  | [] => return ⟨name, std, none⟩
  | ',' :: _ => return ⟨name, std, none⟩
  | _ =>
    let (dname, s) ← readName s
    let (doff, s) ← match s with
      | [] => some (std + 3600, s)
      | ',' :: _ => some (std + 3600, s)
      | _ => do
        let (o, s) ← readOffset s
        pure (-o, s)
    let s := if s.isEmpty then ",M3.2.0,M11.1.0".toList else s
    let s ← match s with
      | ',' :: r => some r
      | ';' :: r => some r
      | _ => none
    let (start, s) ← readSwitch s
    let s ← match s with | ',' :: r => some r | _ => none
    let (stop, s) ← readSwitch s
    if !s.isEmpty then none
    return ⟨name, std, some ⟨dname, doff, start, stop⟩⟩

/-- Days before a month (1 to 12) in a year without a 29th of February. -/
def daysBefore (month : Nat) : Int :=
  ([0, 31, 59, 90, 120, 151, 181, 212, 243, 273, 304, 334].getD (month - 1) 0 : Nat)

/-- Seconds from the start of a year to a switch, given the offset of the clock the switch
is read on. -/
def switchSecond (year : Int) (sw : RuleSwitch) (off : Int) : Int :=
  let day : Int := match sw.day with
    | .julian d => (d - 1 : Int) + (if Calendar.isLeap year && d ≥ 60 then 1 else 0)
    | .ordinal d => d
    | .weekday m w wd =>
      let first := Calendar.weekday (Calendar.daysFromCivil year m 1)
      let d0 : Int := if (wd : Int) - first < 0 then (wd : Int) - first + 7 else (wd : Int) - first
      let monthDays : Int := Calendar.daysIn year m
      let d := ((List.range (w - 1)).foldl (fun (acc : Int × Bool) _ =>
        if acc.2 then acc else if acc.1 + 7 ≥ monthDays then (acc.1, true) else (acc.1 + 7, false))
        (d0, false)).1
      d + daysBefore m + (if Calendar.isLeap year && m > 2 then 1 else 0)
  day * 86400 + sw.time - off

/-- The period of the rule that holds the second `sec`, where the recorded history of the
zone ended at `lastChange`. -/
def periodAt (r : ZoneRule) (lastChange sec : Int) : ZonePeriod :=
  match r.daylight with
  | none => ⟨r.name, r.offset, lastChange, 9223372036854775807, false⟩
  | some d =>
    let days := sec / 86400
    let (year, _, _) := Calendar.civilFromDays days
    let yday := days - Calendar.daysFromCivil year 1 1
    let ysec := yday * 86400 + Int.tmod sec 86400
    let ystart := sec - ysec
    let a := switchSecond year d.start r.offset
    let b := switchSecond year d.stop d.offset
    -- In the southern hemisphere daylight time spans the turn of the year: the part between
    -- the two switches is then standard time, under the daylight labels.
    let (a, b, stdP, dstP) :=
      if b < a then (b, a, (d.name, d.offset, true), (r.name, r.offset, false))
      else (a, b, (r.name, r.offset, false), (d.name, d.offset, true))
    if ysec < a then ⟨stdP.1, stdP.2.1, ystart, a + ystart, stdP.2.2⟩
    else if ysec ≥ b then ⟨stdP.1, stdP.2.1, b + ystart, ystart + 365 * 86400, stdP.2.2⟩
    else ⟨dstP.1, dstP.2.1, a + ystart, b + ystart, dstP.2.2⟩

end ZoneRule

end Foreman
