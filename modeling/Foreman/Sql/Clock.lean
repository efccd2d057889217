import Foreman.Sql.Format

/-!
# Dates and times

`date`, `time`, `datetime`, `julianday`, `unixepoch`, `strftime` and `timediff` read a time
value and modifiers and write the moment reached. A moment is kept as the engine keeps it: a
Julian day number in milliseconds, a date and a time of day, each marked valid or not and
computed from the others by the engine's own steps, so out-of-range moments and month
arithmetic agree day for day. A moment outside 4714 BC to 9999 AD, or an unknown value form or
modifier, makes the result null. The connection's clock reads as UTC.
-/

namespace Foreman.Sql

namespace Clock

/-- A moment being computed: its Julian day in milliseconds, date, time of day and zone
offset (minutes), which are valid, the days a date past its month's end overflowed by (for
`floor`), whether it is a number not yet placed (`raw`, in `seconds`), whether it failed,
whether seconds show their fraction, and whether it is known to be UTC or local. -/
structure Moment where
  jd : Int := 0
  year : Int := 0
  month : Int := 0
  day : Int := 0
  hour : Int := 0
  minute : Int := 0
  zone : Int := 0
  seconds : Float := 0
  hasJd : Bool := false
  hasDate : Bool := false
  hasTime : Bool := false
  floorDays : Int := 0
  raw : Bool := false
  failed : Bool := false
  subsec : Bool := false
  isUtc : Bool := false
  isLocal : Bool := false
  deriving Inhabited

def dayMs : Int := 86400000

/-- The Julian day number, in milliseconds, of 1970-01-01T00:00:00. -/
def unixStart : Int := 210866760000000

/-- The largest Julian day number in milliseconds that stands for a moment: the last
millisecond of 9999-12-31. -/
def lastJd : Int := 464269060799999

/-- Whether a Julian day number in milliseconds lies between 4714 BC and 9999 AD. -/
def validJd (jd : Int) : Bool := 0 ≤ jd && jd ≤ lastJd

def failure : Moment := { failed := true }

/-- Blanks: space, tab, line feed, vertical tab, form feed and carriage return. -/
def isSpace (c : Char) : Bool := c == ' ' || (9 ≤ c.toNat && c.toNat ≤ 13)

/-- A field of fixed width: its number of digits, its least and greatest value and the
character that must follow it, if any. -/
structure Field where
  width : Nat
  least : Nat
  most : Nat
  sep : Option Char := none

/-- Reads fields of fixed width in turn: the values of the fields read before the first
that is not there, is out of range or is not followed by its separator. -/
def readFields : List Field → List Char → List Int
  | [], _ => []
  | f :: rest, cs =>
    let ds := cs.take f.width
    let after := cs.drop f.width
    let v := Value.digitsValue ds
    let sepOk := match f.sep with
      | some c => after.head? == some c
      | none => true
    if ds.length < f.width || !ds.all Char.isDigit || v < f.least || v > f.most || !sepOk then []
    else (v : Int) :: readFields rest (after.drop 1)

/-- A text read as a number, when all of it (but blanks around it) spells one. -/
def realOf? (s : String) : Option Float :=
  let (x, q) := Decimal.readReal s
  if q > 0 then some x else none

def trunc (x : Float) : Int := Value.realToInt x

def Moment.clear (m : Moment) : Moment := { m with hasDate := false, hasTime := false, zone := 0 }

/-- The days a date past the end of its month overflows by: 0 for a day the month has. -/
def Moment.withFloor (m : Moment) : Moment :=
  let longMonths : List Int := [1, 3, 5, 7, 8, 10, 12]
  let leap := m.year % 4 == 0 && (m.year % 100 != 0 || m.year % 400 == 0)
  let floorDays :=
    if m.day ≤ 28 then 0
    else if longMonths.contains m.month then 0
    else if m.month != 2 then (if m.day == 31 then 1 else 0)
    else if !leap then m.day - 28
    else m.day - 29
  { m with floorDays }

/-- The Julian day number of a moment, from its date (2000-01-01 when it has none) and its
time of day, the zone offset taken off; a year outside -4713 to 9999, or a number not yet
placed, fails. -/
def Moment.withJd (m : Moment) : Moment :=
  if m.hasJd then m
  else
    let (y, mo, d) := if m.hasDate then (m.year, m.month, m.day) else (2000, 1, 1)
    if y < -4713 || y > 9999 || m.raw then failure
    else
      let (y, mo) := if mo ≤ 2 then (y - 1, mo + 12) else (y, mo)
      let a := (y + 4800).tdiv 100
      let b := 38 - a + a.tdiv 4
      let x1 := (36525 * (y + 4716)).tdiv 100
      let x2 := (306001 * (mo + 1)).tdiv 10000
      let jd := (2 * (x1 + x2 + d + b) - 3049) * 43200000
      let m := { m with jd, hasJd := true }
      if !m.hasTime then m
      else
        let jd := jd + m.hour * 3600000 + m.minute * 60000 + trunc (m.seconds * 1000 + 0.5)
        if m.zone != 0 then
          { m with jd := jd - m.zone * 60000, hasDate := false, hasTime := false, zone := 0,
                   isUtc := true, isLocal := false }
        else { m with jd }

/-- The date of a moment, from its Julian day number (2000-01-01 when it has none); a
number outside the valid range fails. -/
def Moment.withDate (m : Moment) : Moment :=
  if m.hasDate then m
  else if !m.hasJd then { m with year := 2000, month := 1, day := 1, hasDate := true }
  else if !validJd m.jd then failure
  else
    let z := (m.jd + 43200000).tdiv dayMs
    let alpha := trunc ((Float.ofInt z + 32044.75) / 36524.25) - 52
    let a := z + 1 + alpha - (alpha + 100).tdiv 4 + 25
    let b := a + 1524
    let c := trunc ((Float.ofInt b - 122.1) / 365.25)
    let low : Int := ((c.toNat % 32768 : Nat) : Int)
    let d := (36525 * low).tdiv 100
    let e := trunc (Float.ofInt (b - d) / 30.6001)
    let x1 := trunc (30.6001 * Float.ofInt e)
    let month := if e < 14 then e - 1 else e - 13
    { m with day := b - d - x1, month, year := if month > 2 then c - 4716 else c - 4715, hasDate := true }

def Moment.withTime (m : Moment) : Moment :=
  if m.hasTime then m
  else
    let m := m.withJd
    let inDay := (m.jd + 43200000).tmod dayMs
    let minutes := inDay.tdiv 60000
    { m with seconds := Float.ofInt (inDay.tmod 60000) / 1000.0, minute := minutes.tmod 60,
             hour := minutes.tdiv 60, raw := false, hasTime := true }

def Moment.withDateTime (m : Moment) : Moment := m.withDate.withTime

/-- Reads a zone after a time: blanks, then `Z`, or a sign and `HH:MM`, then blanks to
the end. -/
def readZone (cs : List Char) (m : Moment) : Option Moment :=
  let cs := cs.dropWhile isSpace
  let m := { m with zone := 0 }
  let tail (rest : List Char) (m : Moment) : Option Moment :=
    if (rest.dropWhile isSpace).isEmpty then some m else none
  match cs with
  | [] => some m
  | c :: rest =>
    if c == 'Z' || c == 'z' then tail rest { m with isLocal := false, isUtc := true }
    else if c == '-' || c == '+' then
      match readFields [⟨2, 0, 14, some ':'⟩, ⟨2, 0, 59, none⟩] rest with
      | [h, mi] => tail (rest.drop 5) { m with zone := (if c == '-' then -1 else 1) * (mi + h * 60) }
      | _ => none
    else none

/-- The fraction of a second after its point, cut to at most 0.999. -/
def fraction (ds : List Char) : Float :=
  let (ms, scale) := ds.foldl (fun (ms, scale) d => (ms * 10.0 + Float.ofNat (d.toNat - 48), scale * 10.0)) (0.0, 1.0)
  let ms := ms / scale
  if ms > 0.999 then 0.999 else ms

/-- Reads a time of day `HH:MM`, `HH:MM:SS` or `HH:MM:SS.FFF` and its zone. -/
def readTime (cs : List Char) (m : Moment) : Option Moment :=
  match readFields [⟨2, 0, 24, some ':'⟩, ⟨2, 0, 59, none⟩] cs with
  | [h, mi] =>
    let rest := cs.drop 5
    let secs : Option (Int × Float × List Char) :=
      match rest with
      | ':' :: more =>
        match readFields [⟨2, 0, 59, none⟩] more with
        | [s] =>
          let after := more.drop 2
          match after with
          | '.' :: d :: _ =>
            if d.isDigit then
              let ds := (after.drop 1).takeWhile Char.isDigit
              some (s, fraction ds, (after.drop 1).dropWhile Char.isDigit)
            else some (s, 0.0, after)
          | _ => some (s, 0.0, after)
        | _ => none
      | _ => some (0, 0.0, rest)
    match secs with
    | none => none
    | some (s, ms, rest) =>
      let m := { m with hasJd := false, raw := false, hasTime := true, hour := h, minute := mi,
                        seconds := Float.ofInt s + ms }
      readZone rest m
  | _ => none

/-- Reads a date `YYYY-MM-DD`, with a minus sign for a year before 1, then blanks or `T`
and a time of day, or nothing. -/
def readDate (cs : List Char) (m : Moment) : Option Moment :=
  let (neg, cs) := match cs with
    | '-' :: r => (true, r)
    | _ => (false, cs)
  match readFields [⟨4, 0, 14712, some '-'⟩, ⟨2, 1, 12, some '-'⟩, ⟨2, 1, 31, none⟩] cs with
  | [y, mo, d] =>
    let rest := (cs.drop 10).dropWhile fun c => isSpace c || c == 'T'
    let timed := match readTime rest m with
      | some m' => some m'
      | none => if rest.isEmpty then some { m with hasTime := false } else none
    timed.map fun m' =>
      let m' := { m' with hasJd := false, hasDate := true, year := if neg then -y else y,
                          month := mo, day := d }
      let m' := m'.withFloor
      if m'.zone != 0 then m'.withJd else m'
  | _ => none

def current (now : Int) (m : Moment) : Option Moment :=
  if now > 0 then some ({ m with jd := now, hasJd := true, isUtc := true, isLocal := false }).clear
  else none

/-- A number as a time value: kept raw, and placed as a Julian day number when it is one. -/
def rawNumber (m : Moment) (r : Float) : Moment :=
  let m := { m with seconds := r, raw := true }
  if r ≥ 0.0 && r < 5373484.5 then { m with jd := trunc (r * 86400000.0 + 0.5), hasJd := true } else m

def readValue (now : Int) (s : String) : Option Moment :=
  let cs := s.toList
  match readDate cs {} with
  | some m => some m
  | none =>
    match readTime cs {} with
    | some m => some m
    | none =>
      let lower := s.map Char.toLower
      if lower == "now" then current now {}
      else match realOf? s with
        | some r => some (rawNumber {} r)
        | none =>
          if lower == "subsec" || lower == "subsecond" then current now { subsec := true }
          else none

/-- Places a raw number by its size: as a Julian day number when it is one, else as
seconds since 1970 when in range. -/
def Moment.autoPlaced (m : Moment) : Moment :=
  if !m.raw || m.hasJd then { m with raw := false }
  else if m.seconds ≥ -210866760000.0 && m.seconds ≤ 253402300799.0 then
    let r := m.seconds * 1000.0 + 210866760000000.0
    { m.clear with jd := trunc (r + 0.5), hasJd := true, raw := false }
  else m

/-- The local time of a moment, the clock's zone being UTC: its date and time of day
recomputed from the second it falls in. -/
def Moment.toLocal (m : Moment) : Moment :=
  let m := m.withJd
  let x := ({ m with hasDate := false, hasTime := false } : Moment).withDateTime
  { m with year := x.year, month := x.month, day := x.day, hour := x.hour, minute := x.minute,
           seconds := Float.ofInt (trunc x.seconds) + Float.ofInt (m.jd.tmod 1000) * 0.001,
           hasDate := true, hasTime := true, hasJd := false, raw := false, zone := 0, failed := false }

/-- The units `+N units` may name: name, the magnitude `N` must stay below, and the seconds
in one. -/
def units : List (String × Float × Float) :=
  [("second", 464269992787968.0, 1.0), ("minute", 7737900007424.0, 60.0),
   ("hour", 128969998336.0, 3600.0), ("day", 5373485.0, 86400.0),
   ("month", 176546.0, 2592000.0), ("year", 14713.0, 31536000.0)]

def Moment.addMonths (m : Moment) (k : Int) : Moment :=
  let mo := m.month + k
  let x := if mo > 0 then (mo - 1).tdiv 12 else (mo - 12).tdiv 12
  { m with year := m.year + x, month := mo - x * 12 }

/-- Applies `+N units` (`r` the number, `name` the unit as written): none when the unit is
unknown or the number too large for it. -/
def Moment.addUnits (m : Moment) (r : Float) (name : String) : Option Moment :=
  let cs := name.toList
  let n := cs.length
  let stem := String.ofList (if cs.getLast?.map Char.toLower == some 's' then cs.dropLast else cs)
  if n < 3 || n > 10 then none
  else
    let m := { m.withJd with floorDays := 0 }
    let rounder := if r < 0 then -0.5 else 0.5
    let found := units.find? fun (u, limit, _) => u == stem.map Char.toLower && r > -limit && r < limit
    match found with
    | none => none
    | some (u, _, perUnit) =>
      let (m, r) :=
        if u == "month" then
          let m := (m.withDateTime.addMonths (trunc r)).withFloor
          ({ m with hasJd := false }, r - Float.ofInt (trunc r))
        else if u == "year" then
          let m := m.withDateTime
          let m := ({ m with year := m.year + trunc r } : Moment).withFloor
          ({ m with hasJd := false }, r - Float.ofInt (trunc r))
        else (m, r)
      let m := m.withJd
      some { m with jd := m.jd + trunc (r * 1000.0 * perUnit + rounder) }

/-- Applies `±HH:MM[:SS[.FFF]]`, the time after the sign given as `cs`. -/
def Moment.addClock (m : Moment) (cs : List Char) (negative : Bool) : Option Moment :=
  let cs := match cs with
    | c :: rest => if c.isDigit then cs else rest
    | [] => cs
  (readTime cs {}).map fun tx =>
    let tx := tx.withJd
    let shift := tx.jd - 43200000
    let shift := shift - shift.tdiv dayMs * dayMs
    let shift := if negative then -shift else shift
    let m := m.withJd.clear
    { m with jd := m.jd + shift }

/-- Applies a modifier that starts with a sign or a digit: `±YYYY-MM-DD` (then optionally a
time), `±HH:MM...`, or `N units`. -/
def Moment.shift (m : Moment) (z : List Char) : Option Moment := do
  let z0 := z.headD ' '
  let stop := ((List.range z.length).drop 1).find? fun k =>
    let c := z.getD k ' '
    c == ':' || isSpace c ||
      (c == '-' && ((k == 5 && (readFields [⟨4, 0, 14712, none⟩] (z.drop 1)).length == 1) ||
                    (k == 6 && (readFields [⟨5, 0, 14712, none⟩] (z.drop 1)).length == 1)))
  let n := stop.getD z.length
  let r ← realOf? (String.ofList (z.take n))
  let after := z.drop n
  if after.head? == some '-' then
    if z0 != '+' && z0 != '-' then none
    let fields : List Field := if n == 5 then [⟨4, 0, 14712, some '-'⟩, ⟨2, 0, 12, some '-'⟩, ⟨2, 0, 31, none⟩]
      else [⟨5, 0, 14712, some '-'⟩, ⟨2, 0, 12, some '-'⟩, ⟨2, 0, 31, none⟩]
    let ymd := readFields fields (z.drop 1)
    let (yy, mm, dd) ← match ymd with
      | [a, b, c] => some (a, b, c)
      | _ => none
    -- the fields as the engine bounds them: months 0 to 11 and days 0 to 30
    let mm ← if mm ≥ 12 then none else some mm
    let dd ← if dd ≥ 31 then none else some dd
    let z := if n == 6 then z.drop 1 else z
    let m := m.withDateTime
    let m := { m with hasJd := false }
    let (m, dd) := if z0 == '-' then ({ m with year := m.year - yy, month := m.month - mm }, -dd)
      else ({ m with year := m.year + yy, month := m.month + mm }, dd)
    let m := m.addMonths 0
    let m := m.withJd
    let m := { m with hasTime := false, hasDate := false, jd := m.jd + dd * dayMs }
    match z.drop 11 with
    | [] => some m
    | c :: rest =>
      if isSpace c && (readFields [⟨2, 0, 24, some ':'⟩, ⟨2, 0, 59, none⟩] rest).length == 2 then
        m.addClock rest (z0 == '-')
      else none
  else if after.head? == some ':' then m.addClock z (z0 == '-')
  else
    let name := String.ofList ((after.dropWhile isSpace).takeWhile (· != '\x00'))
    match m.addUnits r name with
    | some m' => some m'.clear
    | none => none

/-- Moves a moment to the next day (or the same day) that is the `n`th of the week, 0 for
Sunday. -/
def Moment.toWeekday (m : Moment) (n : Int) : Moment :=
  let m := m.withDateTime
  let m := ({ m with zone := 0, hasJd := false } : Moment).withJd
  let z := ((m.jd + 129600000).tdiv dayMs).tmod 7
  let z := if z > n then z - 7 else z
  { m with jd := m.jd + (n - z) * dayMs }.clear

/-- Applies a modifier, the `idx`th argument after the time value (counting from 1); none
when it is no modifier or may not stand there. -/
def Moment.modify (m : Moment) (text : String) (idx : Nat) : Option Moment :=
  let lower := text.map Char.toLower
  let z := text.toList
  match z.head?.map Char.toLower with
  | some 'a' =>
    if lower == "auto" then (if idx > 1 then none else some m.autoPlaced) else none
  | some 'c' =>
    if lower == "ceiling" then some { m.withJd.clear with floorDays := 0 } else none
  | some 'f' =>
    if lower == "floor" then
      let m := m.withJd
      some { m with jd := m.jd - m.floorDays * dayMs }.clear
    else none
  | some 'j' =>
    if lower == "julianday" then
      if idx > 1 then none
      else if m.hasJd && m.raw then some { m with raw := false }
      else none
    else none
  | some 'l' =>
    if lower == "localtime" then
      let m := if m.isLocal then m else m.toLocal
      some { m with isUtc := false, isLocal := true }
    else none
  | some 'u' =>
    if lower == "unixepoch" && m.raw then
      if idx > 1 then none
      else
        let r := m.seconds * 1000.0 + 210866760000000.0
        if r ≥ 0.0 && r < 464269060800000.0 then
          some { m.clear with jd := trunc (r + 0.5), hasJd := true, raw := false }
        else none
    else if lower == "utc" then
      if m.isUtc then some m
      else
        let m := m.withJd
        some { jd := m.jd, hasJd := true, isUtc := true }
    else none
  | some 'w' =>
    if lower.startsWith "weekday " then
      match realOf? (String.ofList (z.drop 8)) with
      | some r =>
        if r ≥ 0.0 && r < 7.0 && Float.ofInt (trunc r) == r then some (m.toWeekday (trunc r)) else none
      | none => none
    else none
  | some 's' =>
    if !lower.startsWith "start of " then
      if lower == "subsec" || lower == "subsecond" then some { m with subsec := true } else none
    else if !m.hasJd && !m.hasDate && !m.hasTime then none
    else
      let m := m.withDate
      let m := { m with hasTime := true, hour := 0, minute := 0, seconds := 0.0, raw := false, zone := 0,
                        hasJd := false }
      let unit := String.ofList (lower.toList.drop 9)
      if unit == "month" then some { m with day := 1 }
      else if unit == "year" then some { m with month := 1, day := 1 }
      else if unit == "day" then some m
      else none
  | some c =>
    if c == '+' || c == '-' || c.isDigit then m.shift z else none
  | none => none

/-- The moment a date and time function's arguments name: the time value (the clock's
when none) moved by each modifier in turn; none when any is not one or the moment leaves
4714 BC to 9999 AD. A lone date with a day past 28 goes through its Julian day, so a day past
its month's end rolls over. -/
def moment (now : Int) (args : List Value) : Option Moment := do
  let start ← match args with
    | [] => current now {}
    | v :: _ =>
      match v with
      | .null => none
      | .int _ | .real _ => some (rawNumber {} v.toReal)
      | _ => readValue now ((v.asText).getD "")
  let m ← (args.drop 1).zipIdx.foldlM (fun m (v, i) =>
    match v with
    | .null => none
    | _ => m.modify ((v.asText).getD "") (i + 1)) start
  let m := m.withJd
  if m.failed || !validJd m.jd then none
  else if args.length == 1 && m.hasDate && m.day > 28 then some { m with hasDate := false }
  else some m

def printed (pattern : String) (v : Value) : String := (Format.apply pattern [v]).getD ""

/-- The date of a moment as `YYYY-MM-DD`, a minus sign before a year before 1. -/
def dateText (m : Moment) : String :=
  let y := m.year.natAbs
  let digit (k : Nat) : Char := Char.ofNat (48 + k % 10)
  let text := String.ofList [digit (y / 1000), digit (y / 100), digit (y / 10), digit y] ++ "-" ++
    String.ofList [digit (m.month.natAbs / 10), digit m.month.natAbs] ++ "-" ++
    String.ofList [digit (m.day.natAbs / 10), digit m.day.natAbs]
  if m.year < 0 then "-" ++ text else text

/-- The time of day of a moment as `HH:MM:SS`, or `HH:MM:SS.SSS` when its seconds are
shown with their fraction. -/
def timeText (m : Moment) : String :=
  let digit (k : Nat) : Char := Char.ofNat (48 + k % 10)
  let two (k : Int) : String := String.ofList [digit (k.natAbs / 10), digit k.natAbs]
  let hm := two m.hour ++ ":" ++ two m.minute ++ ":"
  if m.subsec then
    let s := (trunc (1000.0 * m.seconds + 0.5)).natAbs
    hm ++ String.ofList [digit (s / 10000), digit (s / 1000), '.', digit (s / 100), digit (s / 10), digit s]
  else hm ++ two (trunc m.seconds)

def Moment.dayOfYear (m : Moment) : Int :=
  let jan := ({ m with hasJd := false, month := 1, day := 1 } : Moment).withJd
  (m.jd - jan.jd + 43200000).tdiv dayMs

def Moment.sinceMonday (m : Moment) : Int := ((m.jd + 43200000).tdiv dayMs).tmod 7

def Moment.sinceSunday (m : Moment) : Int := ((m.jd + 129600000).tdiv dayMs).tmod 7

/-- The Thursday of the week (Monday to Sunday) of a moment, which names its ISO week. -/
def Moment.thursday (m : Moment) : Moment :=
  ({ m with jd := m.jd + (3 - m.sinceMonday) * dayMs, hasDate := false } : Moment).withDate

/-- The text of one conversion of `strftime`; none for a conversion it does not know. -/
def conversion (m : Moment) (c : Char) : Option String :=
  let hour12 := if m.hour > 12 then m.hour - 12 else if m.hour == 0 then 12 else m.hour
  match c with
  | 'd' => some (printed "%02d" (.int m.day))
  | 'e' => some (printed "%2d" (.int m.day))
  | 'f' => some (printed "%06.3f" (.real (if m.seconds > 59.999 then 59.999 else m.seconds)))
  | 'F' => some (printed "%04d" (.int m.year) ++ "-" ++ printed "%02d" (.int m.month) ++ "-" ++ printed "%02d" (.int m.day))
  | 'G' => some (printed "%04d" (.int m.thursday.year))
  | 'g' => some (printed "%02d" (.int (m.thursday.year.tmod 100)))
  | 'H' => some (printed "%02d" (.int m.hour))
  | 'k' => some (printed "%2d" (.int m.hour))
  | 'I' => some (printed "%02d" (.int hour12))
  | 'l' => some (printed "%2d" (.int hour12))
  | 'j' => some (printed "%03d" (.int (m.dayOfYear + 1)))
  | 'J' => some (printed "%.16g" (.real (Float.ofInt m.jd / 86400000.0)))
  | 'm' => some (printed "%02d" (.int m.month))
  | 'M' => some (printed "%02d" (.int m.minute))
  | 'p' => some (if m.hour ≥ 12 then "PM" else "AM")
  | 'P' => some (if m.hour ≥ 12 then "pm" else "am")
  | 'R' => some (printed "%02d" (.int m.hour) ++ ":" ++ printed "%02d" (.int m.minute))
  | 's' =>
    if m.subsec then some (printed "%.3f" (.real (Float.ofInt (m.jd - unixStart) / 1000.0)))
    else some (toString (m.jd.tdiv 1000 - unixStart / 1000))
  | 'S' => some (printed "%02d" (.int (trunc m.seconds)))
  | 'T' => some (printed "%02d" (.int m.hour) ++ ":" ++ printed "%02d" (.int m.minute) ++ ":" ++
      printed "%02d" (.int (trunc m.seconds)))
  | 'u' => let d := m.sinceSunday; some (toString (if d == 0 then 7 else d))
  | 'w' => some (toString m.sinceSunday)
  | 'U' => some (printed "%02d" (.int ((m.dayOfYear - m.sinceSunday + 7).tdiv 7)))
  | 'V' => some (printed "%02d" (.int (m.thursday.dayOfYear.tdiv 7 + 1)))
  | 'W' => some (printed "%02d" (.int ((m.dayOfYear - m.sinceMonday + 7).tdiv 7)))
  | 'Y' => some (printed "%04d" (.int m.year))
  | '%' => some "%"
  | _ => none

/-- Writes a moment by a `strftime` pattern: text as it stands, each `%` and the letter after
it by `conversion`; none when a conversion is unknown or the pattern ends in `%`. -/
def format (m : Moment) : List Char → Option String
  | [] => some ""
  | '%' :: c :: rest => do
    let piece ← conversion m c
    let tail ← format m rest
    return piece ++ tail
  | ['%'] => none
  | c :: rest => (format m rest).map (String.singleton c ++ ·)

/-- The difference between two moments as `±YYYY-MM-DD HH:MM:SS.SSS`: whole years and
months counted back from the later moment, then days and time. -/
def difference (d1 d2 : Moment) : String :=
  let d1 := d1.withDateTime
  let d2 := d2.withDateTime
  let later := d1.jd ≥ d2.jd
  let y0 := if later then d1.year - d2.year else d2.year - d1.year
  let d2 := if y0 != 0 then ({ d2 with year := d1.year, hasJd := false } : Moment).withJd else d2
  let m0 := if later then d1.month - d2.month else d2.month - d1.month
  let (y0, m0) := if m0 < 0 then (y0 - 1, m0 + 12) else (y0, m0)
  let d2 := if m0 != 0 then ({ d2 with month := d1.month, hasJd := false } : Moment).withJd else d2
  -- step the other moment a month at a time until it passes no further than the first; it
  -- starts within a month or two of it
  let step (acc : Int × Int × Moment) : Int × Int × Moment :=
    let (y, mo, d) := acc
    let (y, mo) : Int × Int := if mo - 1 < 0 then (y - 1, 11) else (y, mo - 1)
    let d : Moment := if later then
        let d : Moment := { d with month := d.month - 1 }
        if d.month < 1 then { d with month := 12, year := d.year - 1 } else d
      else
        let d : Moment := { d with month := d.month + 1 }
        if d.month > 12 then { d with month := 1, year := d.year + 1 } else d
    (y, mo, ({ d with hasJd := false } : Moment).withJd)
  let beyond (d : Moment) : Bool := if later then d1.jd < d.jd else d1.jd > d.jd
  let (y, mo, d2) := (List.range 100).foldl (fun acc _ =>
    if beyond acc.2.2 then step acc else acc) (y0, m0, d2)
  let span := (if later then d1.jd - d2.jd else d2.jd - d1.jd) + 148699540800000
  let d := ({ jd := span, hasJd := true } : Moment).withDateTime
  let sign := if later then "+" else "-"
  sign ++ printed "%04d" (.int y) ++ "-" ++ printed "%02d" (.int mo) ++ "-" ++ printed "%02d" (.int (d.day - 1)) ++
    " " ++ printed "%02d" (.int d.hour) ++ ":" ++ printed "%02d" (.int d.minute) ++ ":" ++
    printed "%06.3f" (.real d.seconds)

def functions : List String := ["date", "time", "datetime", "julianday", "unixepoch", "strftime", "timediff"]

def isFunction (name : String) : Bool := functions.contains (name.map Char.toLower)

/-- Calls a date and time function on its arguments, the connection's clock reading `now`
(a Julian day number in milliseconds). -/
def call (now : Int) (name : String) (args : List Value) : Value :=
  let textOr (o : Option String) : Value := match o with
    | some t => .text t
    | none => .null
  match name.map Char.toLower with
  | "date" => textOr ((moment now args).map fun m => dateText m.withDate)
  | "time" => textOr ((moment now args).map fun m => timeText m.withTime)
  | "datetime" => textOr ((moment now args).map fun m => let m := m.withDateTime; dateText m ++ " " ++ timeText m)
  | "julianday" =>
    match moment now args with
    | some m => .real (Float.ofInt m.withJd.jd / 86400000.0)
    | none => .null
  | "unixepoch" =>
    match moment now args with
    | some m =>
      let jd := m.withJd.jd
      if m.subsec then .real (Float.ofInt (jd - unixStart) / 1000.0) else .int (jd.tdiv 1000 - unixStart / 1000)
    | none => .null
  | "strftime" =>
    match args with
    | [] => .null
    | pattern :: rest =>
      match pattern with
      | .null => .null
      | _ =>
        match moment now rest with
        | some m => textOr (format m.withJd.withDateTime ((pattern.asText).getD "").toList)
        | none => .null
  | "timediff" =>
    match moment now (args.take 1), moment now (args.drop 1 |>.take 1) with
    | some a, some b => .text (difference a b)
    | _, _ => .null
  | _ => .null

/-- The text of `CURRENT_DATE`, `CURRENT_TIME` or `CURRENT_TIMESTAMP`: the clock's date,
time of day, or both. -/
def currentText (now : Int) (word : String) : Value :=
  let fn := if word == "CURRENT_DATE" then "date" else if word == "CURRENT_TIME" then "time" else "datetime"
  call now fn []

end Clock

end Foreman.Sql
