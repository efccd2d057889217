import Foreman.Time.ZoneDatabase
import Foreman.Time.Span
import Foreman.Number.IntText
import Foreman.Text.Space

/-!
# Calendar schedules

A schedule names the seconds, minutes, hours, days of the month, months and weekdays at which
it fires, each a set of bits, and maybe the zone whose wall clock it reads. Bit 63 marks a
field written `*`: when a day field is one, a day must match both day fields, else either.
Five fields are written (second 0), each a comma list of `a`, `a-b` or `*` with an optional
`/n`; `@yearly` and the like stand for their fields, `@every` is a fixed interval, and a
leading `TZ=zone` or `CRON_TZ=zone` sets the zone. `Spec.next` settles month, day, hour,
minute and second in turn; no firing within five years answers the no-time instant.
-/

namespace Foreman

/-- A calendar schedule. -/
structure Spec where
  second : Nat
  minute : Nat
  hour : Nat
  dom : Nat
  month : Nat
  dow : Nat
  /-- The zone whose clock is read, or `none` for the clock of the time asked about. -/
  zone : Option Zone

inductive Schedule where
  /-- Fires every `delay` nanoseconds, on whole seconds. -/
  | every (delay : Int)
  | calendar (s : Spec)

namespace Spec

def starBit : Nat := 9223372036854775808

structure Bounds where
  min : Nat
  max : Nat
  names : List (String × Nat)

def sixty : Bounds := ⟨0, 59, []⟩
def hours : Bounds := ⟨0, 23, []⟩
def doms : Bounds := ⟨1, 31, []⟩
def months : Bounds :=
  ⟨1, 12, [("jan", 1), ("feb", 2), ("mar", 3), ("apr", 4), ("may", 5), ("jun", 6), ("jul", 7),
    ("aug", 8), ("sep", 9), ("oct", 10), ("nov", 11), ("dec", 12)]⟩
/-- Days of the week, Sunday being 0. -/
def dows : Bounds :=
  ⟨0, 6, [("sun", 0), ("mon", 1), ("tue", 2), ("wed", 3), ("thu", 4), ("fri", 5), ("sat", 6)]⟩

/-- The bits from `lo` to `hi` in steps of `step`. -/
def bits (lo hi step : Nat) : Nat :=
  ((List.range (hi + 1 - lo)).filter (· % step == 0)).foldl (fun acc i => acc ||| Nat.pow 2 (lo + i)) 0

/-- Every value of a field, marked as written `*`. -/
def all (b : Bounds) : Nat := bits b.min b.max 1 ||| starBit

def number (expr : String) : Except String Nat :=
  match IntText.atoi expr with
  | .ok n =>
    if n < 0 then .error ("negative number (" ++ toString n ++ ") not allowed: " ++ expr)
    else .ok n.toNat
  | .error e => .error ("failed to parse int from " ++ expr ++ ": " ++ e)

def numberOrName (b : Bounds) (expr : String) : Except String Nat :=
  let lowered := Text.lower expr
  match b.names.find? (·.1 == lowered) with
  | some (_, n) => .ok n
  | none => number expr

def range (b : Bounds) (expr : String) : Except String Nat := do
  let rangeAndStep := Text.splitOn expr "/"
  let lowAndHigh := Text.splitOn (rangeAndStep.headD "") "-"
  let single := lowAndHigh.length == 1
  let first := lowAndHigh.headD ""
  let (start, stop, star) ← if first == "*" || first == "?" then pure (b.min, b.max, true)
    else do
      let start ← numberOrName b first
      match lowAndHigh with
      | [_] => pure (start, start, false)
      | [_, high] => pure (start, ← numberOrName b high, false)
      | _ => throw ("too many hyphens: " ++ expr)
  let (stop, step, star) ← match rangeAndStep with
    | [_] => pure (stop, 1, star)
    | [_, s] => do
      let step ← number s
      pure (if single then b.max else stop, step, star && step ≤ 1)
    | _ => throw ("too many slashes: " ++ expr)
  if start < b.min then
    throw ("beginning of range (" ++ toString start ++ ") below minimum (" ++ toString b.min ++
      "): " ++ expr)
  if stop > b.max then
    throw ("end of range (" ++ toString stop ++ ") above maximum (" ++ toString b.max ++ "): " ++
      expr)
  if start > stop then
    throw ("beginning of range (" ++ toString start ++ ") beyond end of range (" ++
      toString stop ++ "): " ++ expr)
  if step == 0 then throw ("step of range should be a positive number: " ++ expr)
  return bits start stop step ||| (if star then starBit else 0)

/-- The bits of a field: the union of its comma-separated ranges (empty ones skipped). -/
def field (b : Bounds) (text : String) : Except String Nat :=
  ((Text.splitOn text ",").filter (· != "")).foldlM (fun acc expr => do
    return acc ||| (← range b expr)) 0

def descriptor? (name : String) (zone : Option Zone) : Option Spec :=
  let at0 : Nat := 1
  if name == "@yearly" || name == "@annually" then
    some ⟨at0, at0, at0, 2, 2, all dows, zone⟩
  else if name == "@monthly" then some ⟨at0, at0, at0, 2, all months, all dows, zone⟩
  else if name == "@weekly" then some ⟨at0, at0, at0, all doms, all months, 1, zone⟩
  else if name == "@daily" || name == "@midnight" then
    some ⟨at0, at0, at0, all doms, all months, all dows, zone⟩
  else if name == "@hourly" then some ⟨at0, at0, all hours, all doms, all months, all dows, zone⟩
  else none

/-- The fixed interval of `@every`: at least a second, in whole seconds. -/
def everyDelay (d : Int) : Int :=
  let d := if d < Instant.second then Instant.second else d
  d - d % Instant.second

def words (s : String) : List String :=
  let rec go (cur : List Char) : List Char → List String
    | [] => if cur.isEmpty then [] else [String.ofList cur.reverse]
    | c :: r =>
      if Text.isSpace c then (if cur.isEmpty then go [] r else String.ofList cur.reverse :: go [] r)
      else go (c :: cur) r
  go [] s.toList

/-- Why a schedule text cannot be read: a message, or a zone prefix that no blank ends, on
which the reader fails outright, cutting the text at a blank it does not find. -/
inductive SpecFailure where
  | invalid (message : String)
  | unendedZone

/-- Reads a schedule in the five-field notation, a named schedule, or `@every` and a span,
reading the clock of `zone`. -/
def parseIn (zone : Option Zone) (spec : String) : Except String Schedule := do
  if spec.startsWith "@" then
    match descriptor? spec zone with
    | some s => return .calendar s
    | none =>
      if spec.startsWith "@every " then
        let span := (spec.drop 7).toString
        match Span.parse span with
        | .ok d => return .every (everyDelay d)
        | .error e => throw ("failed to parse duration " ++ spec ++ ": " ++ e.message span)
      else throw ("unrecognized descriptor: " ++ spec)
  let fs := words spec
  if fs.length != 5 then
    throw ("expected exactly 5 fields, found " ++ toString fs.length ++ ": [" ++ " ".intercalate fs ++ "]")
  match fs with
  | [mi, h, dom, mo, dow] =>
    let minute ← field sixty mi
    let hour ← field hours h
    let dom ← field doms dom
    let month ← field months mo
    let dow ← field dows dow
    return .calendar ⟨1, minute, hour, dom, month, dow, zone⟩
  | _ => throw "expected exactly 5 fields"

/-- Reads a schedule, with an optional zone in front: `TZ=zone` or `CRON_TZ=zone` and a
blank. The zone `Local` is the clock of the time asked about. -/
def parse (spec : String) : Except SpecFailure Schedule :=
  if spec == "" then .error (.invalid "empty spec string")
  else if spec.startsWith "TZ=" || spec.startsWith "CRON_TZ=" then
    let cs := spec.toList
    let eq := cs.findIdx (· == '=')
    match cs.findIdx? (· == ' ') with
    | none => .error .unendedZone
    | some sp =>
      let name := String.ofList ((cs.drop (eq + 1)).take (sp - (eq + 1)))
      let rest := Text.trimSpace (String.ofList (cs.drop sp))
      match ZoneDatabase.load name with
      | .ok z => (parseIn (if name == "Local" then none else some z) rest).mapError .invalid
      | .error e => .error (.invalid ("provided bad location " ++ name ++ ": " ++ e))
  else (parseIn none spec).mapError .invalid

/-! ## The next firing -/

/-- Whether bit `n` is set. -/
def has (set n : Nat) : Bool := set.testBit n

/-- The step of the search for the next firing that is under way. -/
inductive Phase where
  | wrap
  | month
  | day
  | hour
  | minute
  | second

def dayMatches (s : Spec) (w : Wall) (weekday : Nat) : Bool :=
  let domMatch := has s.dom w.day
  let dowMatch := has s.dow weekday
  if has s.dom 63 || has s.dow 63 then domMatch && dowMatch else domMatch || dowMatch

/-- The search for the next firing, on the clock of zone `z`, giving up after the year
`limit`. `added` records whether a field has moved yet. -/
def search (s : Spec) (z : Zone) (limit : Int) : Nat → Phase → Bool → Instant → Instant
  | 0, _, _, _ => Instant.zero
  | fuel + 1, phase, added, t =>
    let w := t.wall (z.offsetAt t)
    match phase with
    | .wrap => if w.year > limit then Instant.zero else search s z limit fuel .month added t
    | .month =>
      if has s.month w.month then search s z limit fuel .day added t
      else
        let t := if added then t else z.date w.year w.month 1 0 0 0 0
        let w := t.wall (z.offsetAt t)
        let t := z.date w.year (w.month + 1) w.day w.hour w.minute w.second w.nano
        let w := t.wall (z.offsetAt t)
        search s z limit fuel (if w.month == 1 then .wrap else .month) true t
    | .day =>
      if dayMatches s w (t.weekday (z.offsetAt t)) then search s z limit fuel .hour added t
      else
        let t := if added then t else z.date w.year w.month w.day 0 0 0 0
        let w := t.wall (z.offsetAt t)
        let t := z.date w.year w.month (w.day + 1) w.hour w.minute w.second w.nano
        let w := t.wall (z.offsetAt t)
        let t :=
          if w.hour == 0 then t
          else if w.hour > 12 then t.add ((24 - w.hour : Int) * 3600 * Instant.second)
          else t.add (-(w.hour : Int) * 3600 * Instant.second)
        let w := t.wall (z.offsetAt t)
        search s z limit fuel (if w.day == 1 then .wrap else .day) true t
    | .hour =>
      if has s.hour w.hour then search s z limit fuel .minute added t
      else
        let t := if added then t else z.date w.year w.month w.day w.hour 0 0 0
        let t := t.add (3600 * Instant.second)
        let w := t.wall (z.offsetAt t)
        search s z limit fuel (if w.hour == 0 then .wrap else .hour) true t
    | .minute =>
      if has s.minute w.minute then search s z limit fuel .second added t
      else
        let t := if added then t else t.truncate (60 * Instant.second)
        let t := t.add (60 * Instant.second)
        let w := t.wall (z.offsetAt t)
        search s z limit fuel (if w.minute == 0 then .wrap else .minute) true t
    | .second =>
      if has s.second w.second then t
      else
        let t := if added then t else t.truncate Instant.second
        let t := t.add Instant.second
        let w := t.wall (z.offsetAt t)
        search s z limit fuel (if w.second == 0 then .wrap else .second) true t

/-- Enough steps for any search: five years of minutes, several times over. -/
def searchFuel : Nat := 20000000

/-- The first firing after `t`, read on the clock of `clock` unless the schedule has a zone
of its own. -/
def next (s : Spec) (clock : Zone) (t : Instant) : Instant :=
  let z := s.zone.getD clock
  let t := t.add (Instant.second - t.subsecond)
  let w := t.wall (z.offsetAt t)
  search s z (w.year + 5) searchFuel .wrap false t

end Spec

namespace Schedule

/-- The first firing after `t`, for a time given on the clock of `clock`. -/
def next (s : Schedule) (clock : Zone) (t : Instant) : Instant :=
  match s with
  | .every delay => t.add (delay - t.subsecond)
  | .calendar spec => spec.next clock t

end Schedule

end Foreman
