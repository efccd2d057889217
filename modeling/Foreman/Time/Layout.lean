import Foreman.Time.Zone
import Foreman.Text.Quote

/-!
# Reading times by layout

A layout is a sequence of literal text and fields (a four-digit year, a month with or without
a leading zero, a fraction of any length, a UTC offset, ...), each written and named in
messages by its reference spelling (`2006`, `01`, `15`, `.999999999`, `Z07:00`, ...).
Reading takes them in order, a literal space matching any run of spaces; a field that does not
read stops with the rest of the text and its spelling, one out of range with its name, and
nothing may remain. The date is checked last (the day must exist). A time with an offset is at
it, one with zone `UTC` at UTC whatever the offset, one with neither at UTC.
-/

namespace Foreman

inductive LayoutElem where
  | text (s : String)
  | year
  | month (padded : Bool)
  | day (padded : Bool)
  | hour
  | minute (padded : Bool)
  | second (padded : Bool)
  | fraction
  | offsetColon (zulu : Bool)
  | offset
  | zoneName

namespace LayoutElem

def spelling : LayoutElem → String
  | .text s => s
  | .year => "2006"
  | .month true => "01"
  | .month false => "1"
  | .day true => "02"
  | .day false => "2"
  | .hour => "15"
  | .minute true => "04"
  | .minute false => "4"
  | .second true => "05"
  | .second false => "5"
  | .fraction => ".999999999"
  | .offsetColon true => "Z07:00"
  | .offsetColon false => "-07:00"
  | .offset => "-0700"
  | .zoneName => "MST"

end LayoutElem

structure Layout where
  elems : List LayoutElem

namespace Layout

def spelling (l : Layout) : String := String.join (l.elems.map LayoutElem.spelling)

def rfc3339 : Layout :=
  ⟨[.year, .text "-", .month true, .text "-", .day true, .text "T", .hour, .text ":",
    .minute true, .text ":", .second true, .fraction, .offsetColon true]⟩

end Layout

inductive LayoutFailure where
  /-- The rest of the text could not be read as the element with this spelling. -/
  | cannot (rest : String) (elem : String)
  /-- A field was read but is outside its range. -/
  | range (what : String)
  /-- Text was left after the last element. -/
  | extra (rest : String)

def LayoutFailure.message (layout value : String) : LayoutFailure → String
  | .cannot rest elem =>
    "parsing time " ++ Quote.ascii value ++ " as " ++ Quote.ascii layout ++ ": cannot parse " ++
      Quote.ascii rest ++ " as " ++ Quote.ascii elem
  | .range what => "parsing time " ++ Quote.ascii value ++ ": " ++ what ++ " out of range"
  | .extra rest => "parsing time " ++ Quote.ascii value ++ ": extra text: " ++ Quote.ascii rest

/-- A time read by a layout: the instant and the offset of the clock it was written on. -/
structure Stamp where
  instant : Instant
  offset : Int

namespace LayoutRead

structure Fields where
  year : Int := 0
  month : Int := -1
  day : Int := -1
  hour : Int := 0
  minute : Int := 0
  second : Int := 0
  nano : Int := 0
  offset : Option Int := none
  zoneName : Option String := none
  atUtc : Bool := false

def digit (c : Char) : Int := (c.toNat : Int) - 48

def number (fixed : Bool) : List Char → Option (Int × List Char)
  | a :: b :: r =>
    if !a.isDigit then none
    else if b.isDigit then some (digit a * 10 + digit b, r)
    else if fixed then none else some (digit a, b :: r)
  | [a] => if a.isDigit && !fixed then some (digit a, []) else none
  | [] => none

def dropSpaces : List Char → List Char
  | ' ' :: r => dropSpaces r
  | r => r

theorem length_dropSpaces_le (r : List Char) : (dropSpaces r).length ≤ r.length := by
  induction r with
  | nil => simp [dropSpaces]
  | cons c r ih =>
    by_cases h : c = ' '
    · subst h; simp only [dropSpaces, List.length_cons]; omega
    · simp [dropSpaces, h]

/-- Matches a literal: a space in it matches any run of spaces (at least one when the text
has a character there), other characters match themselves. The rest is returned on
failure too. -/
def literal : List Char → List Char → Except (List Char) (List Char)
  | [], v => .ok v
  | ' ' :: p, v =>
    match v with
    | c :: _ =>
      if c != ' ' then .error v
      else literal (dropSpaces p) (dropSpaces v)
    | [] => literal (dropSpaces p) []
  | c :: p, v =>
    match v with
    | d :: v' => if c == d then literal p v' else .error v
    | [] => .error v
termination_by p => p.length
decreasing_by
  all_goals simp only [List.length_cons]
  all_goals have := length_dropSpaces_le p
  all_goals omega

/-- The length of a zone abbreviation at the start of the text. -/
def zoneNameLength (v : List Char) : Option Nat :=
  let upper := (v.take 6).takeWhile fun c => 'A' ≤ c && c ≤ 'Z'
  let s := String.ofList (v.take 4)
  if v.length < 3 then none
  else if s == "ChST" || s == "MeST" then some 4
  else if String.ofList (v.take 3) == "GMT" then
    let rest := v.drop 3
    match rest with
    | c :: r =>
      if c == '+' || c == '-' then
        let ds := r.takeWhile Char.isDigit
        let n := (String.ofList ds).toNat!
        if ds.isEmpty || n > 23 then some 3 else some (4 + ds.length)
      else some 3
    | [] => some 3
  else if v.head? == some '+' || v.head? == some '-' then
    let ds := (v.drop 1).takeWhile Char.isDigit
    let n := (String.ofList ds).toNat!
    if ds.isEmpty || n > 23 then none else some (1 + ds.length)
  else
    match upper.length with
    | 3 => some 3
    | 4 => if upper.getLast? == some 'T' || String.ofList upper == "WITA" then some 4 else none
    | 5 => if upper.getLast? == some 'T' then some 5 else none
    | _ => none

def offsetField (colon : Bool) (v : List Char) : Except LayoutFailure (Int × List Char) :=
  let bad : Except LayoutFailure (Int × List Char) := .error (.cannot (String.ofList v) "")
  let (sign, hh, mm, rest) :=
    if colon then (v.take 1, (v.drop 1).take 2, (v.drop 4).take 2, v.drop 6)
    else (v.take 1, (v.drop 1).take 2, (v.drop 3).take 2, v.drop 5)
  if colon && (v.length < 6 || v.getD 3 ' ' != ':') then bad
  else if !colon && v.length < 5 then bad
  else
    match number true hh, number true mm with
    | some (h, _), some (m, _) =>
      if h > 24 then .error (.range "time zone offset hour")
      else if m > 60 then .error (.range "time zone offset minute")
      else
        let off := (h * 60 + m) * 60
        match sign with
        | ['+'] => .ok (off, rest)
        | ['-'] => .ok (-off, rest)
        | _ => bad
    | _, _ => bad

/-- Nanoseconds of a fraction: the digits after the point, at most nine counted. -/
def nanos (ds : List Char) : Int :=
  let ds := ds.take 9
  (String.ofList ds).toNat! * Nat.pow 10 (9 - ds.length)

def field (f : Fields) (e : LayoutElem) (v : List Char) : Except LayoutFailure (Fields × List Char) :=
  let cannot : Except LayoutFailure (Fields × List Char) :=
    .error (.cannot (String.ofList v) e.spelling)
  match e with
  | .text _ => .ok (f, v)
  | .year =>
    if v.length < 4 || !(v.take 4).all Char.isDigit then cannot
    else .ok ({ f with year := (String.ofList (v.take 4)).toNat! }, v.drop 4)
  | .month padded =>
    match number padded v with
    | some (m, r) => if m ≤ 0 || 12 < m then .error (.range "month") else .ok ({ f with month := m }, r)
    | none => cannot
  | .day padded =>
    match number padded v with
    | some (d, r) => .ok ({ f with day := d }, r)
    | none => cannot
  | .hour =>
    match number false v with
    | some (h, r) => if 24 ≤ h then .error (.range "hour") else .ok ({ f with hour := h }, r)
    | none => cannot
  | .minute padded =>
    match number padded v with
    | some (m, r) => if 60 ≤ m then .error (.range "minute") else .ok ({ f with minute := m }, r)
    | none => cannot
  | .second padded =>
    match number padded v with
    | some (s, r) => if 60 ≤ s then .error (.range "second") else .ok ({ f with second := s }, r)
    | none => cannot
  | .fraction =>
    match v with
    | p :: d :: r =>
      if (p == '.' || p == ',') && d.isDigit then
        let ds := (d :: r).takeWhile Char.isDigit
        .ok ({ f with nano := nanos ds }, (d :: r).dropWhile Char.isDigit)
      else .ok (f, v)
    | _ => .ok (f, v)
  | .offsetColon zulu =>
    match v with
    | 'Z' :: r => if zulu then .ok ({ f with atUtc := true }, r) else cannot
    | _ =>
      match offsetField true v with
      | .ok (off, r) => .ok ({ f with offset := some off }, r)
      | .error (.range w) => .error (.range w)
      | .error _ => cannot
  | .offset =>
    match offsetField false v with
    | .ok (off, r) => .ok ({ f with offset := some off }, r)
    | .error (.range w) => .error (.range w)
    | .error _ => cannot
  | .zoneName =>
    if String.ofList (v.take 3) == "UTC" then .ok ({ f with atUtc := true }, v.drop 3)
    else
      match zoneNameLength v with
      | some n => .ok ({ f with zoneName := some (String.ofList (v.take n)) }, v.drop n)
      | none => cannot

def elems (f : Fields) : List LayoutElem → List Char → Except LayoutFailure (Fields × List Char)
  | [], v => .ok (f, v)
  | .text s :: es, v =>
    match literal s.toList v with
    | .ok v' => elems f es v'
    | .error rest => .error (.cannot (String.ofList rest) s)
  | e :: es, v =>
    match field f e v with
    | .ok (f', v') => elems f' es v'
    | .error err => .error err

end LayoutRead

namespace Layout

def read (l : Layout) (value : String) : Except LayoutFailure Stamp := do
  let (f, rest) ← LayoutRead.elems {} l.elems value.toList
  if !rest.isEmpty then throw (.extra (String.ofList rest))
  let month := if f.month < 0 then 1 else f.month
  let day := if f.day < 0 then 1 else f.day
  if day < 1 || day > (Calendar.daysIn f.year month.toNat : Int) then throw (.range "day")
  let offset :=
    if f.atUtc then 0
    else match f.offset with
      | some off => off
      | none => 0
  let wallSec := Wall.toSeconds f.year month day f.hour f.minute f.second
  pure ⟨⟨(wallSec - offset) * Instant.second + f.nano⟩, offset⟩

def parse (l : Layout) (value : String) : Except String Stamp :=
  match l.read value with
  | .ok s => .ok s
  | .error e => .error (e.message l.spelling value)

end Layout

end Foreman
