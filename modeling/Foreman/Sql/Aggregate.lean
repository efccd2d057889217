import Foreman.Sql.Scalar
import Foreman.Sql.Json

/-!
# Aggregate functions

An aggregate folds a group's (or a frame's) rows into one value. `count` counts rows or
non-null values; `sum`, `total` and `avg` add numbers, exactly within 64 bits and otherwise as
reals with a compensation term per addition (Kahan-Babuska-Neumaier), `sum` of overflowing
integers failing with `integer overflow`; `min` and `max` keep the first least or greatest
value; `group_concat` and `string_agg` join texts; `json_group_array` and `json_group_object`
build JSON.
-/

namespace Foreman.Sql

namespace Aggregate

/-- The running total of `sum`, `total` and `avg`: the integer total while it is exact, the
real total and its compensation once it is not, how many values were added, and whether
the integers overflowed. -/
structure Sum where
  int : Int := 0
  real : Float := 0
  error : Float := 0
  count : Nat := 0
  approx : Bool := false
  overflow : Bool := false

namespace Sum

/-- The magnitude from which an integer is added to the real total in two parts. -/
def splitAt : Int := 4503599627370496

def step (s : Sum) (r : Float) : Sum :=
  let t := s.real + r
  let err := if s.real.abs > r.abs then (s.real - t) + r else (r - t) + s.real
  { s with real := t, error := s.error + err }

/-- Adds an integer to the compensated total; a large one in two parts, so that no bit of
it is lost. -/
def stepInt (s : Sum) (i : Int) : Sum :=
  if i ≤ -splitAt || i ≥ splitAt then
    let small := i.tmod 16384
    (s.step (Value.floatOfInt (i - small))).step (Value.floatOfInt small)
  else s.step (Value.floatOfInt i)

def start (s : Sum) (i : Int) : Sum :=
  if i ≤ -splitAt || i ≥ splitAt then
    let small := i.tmod 16384
    { s with real := Value.floatOfInt (i - small), error := Value.floatOfInt small }
  else { s with real := Value.floatOfInt i, error := 0 }

/-- Adds a value; null is skipped. -/
def add (s : Sum) (v : Value) : Sum :=
  match v with
  | .null => s
  | _ =>
    let s := { s with count := s.count + 1 }
    match (Scalar.numberOf v).getD v with
    | .int i =>
      if s.approx then s.stepInt i
      else if Value.fits (s.int + i) then { s with int := s.int + i }
      else ({ s.start s.int with approx := true, overflow := true }).stepInt i
    | w =>
      let s := if s.approx then s else { s.start s.int with approx := true }
      s.step w.toReal

/-- The real total: the sum with its compensation, unless the compensation is infinite or
not a number. -/
def value (s : Sum) : Float :=
  if s.approx then
    if (s.error - s.error).isNaN then s.real else s.real + s.error
  else Value.floatOfInt s.int

end Sum

def piece (v : Value) : List UInt8 := (v.bytes?).getD []

/-- Folds the rows of a group with an aggregate: `star` for `count(*)`, `coll` the
collation of the first argument. -/
def fold (name : String) (star : Bool) (coll : Collation) (rows : List (List (Value × Bool))) :
    Run Value := do
  let n := name.map Char.toLower
  let firsts := rows.map fun r => (r.headD (.null, false)).1
  let present := firsts.filter (!·.isNull)
  let json (fn : String) (args : List (Value × Bool)) : Run Value :=
    match Json.call fn args with
    | .ok v => pure v
    | .error m => throw (Failure.logic m)
  match n with
  | "count" => return .int (if star || rows.all List.isEmpty then rows.length else present.length)
  | "sum" =>
    let s := firsts.foldl Sum.add {}
    if s.count == 0 then return .null
    if s.approx then
      if s.overflow then throw (Failure.logic "integer overflow")
      return .real s.value
    return .int s.int
  | "total" => return .real (firsts.foldl Sum.add {}).value
  | "avg" =>
    let s := firsts.foldl Sum.add {}
    return if s.count == 0 then .null else .real (s.value / s.count.toFloat)
  | "min" | "max" =>
    match present with
    | [] => return .null
    | v :: rest =>
      let better (best w : Value) : Bool :=
        let c := Value.compareBy coll best w
        if n == "max" then c < 0 else c > 0
      return rest.foldl (fun best w => if better best w then w else best) v
  | "group_concat" | "string_agg" =>
    let kept := rows.filter fun r => !(r.headD (.null, false)).1.isNull
    if kept.isEmpty then return .null
    let parts := kept.zipIdx.map fun (r, i) =>
      let sep := if i == 0 then []
        else match r with
          | [_] => [44]
          | _ => piece (r.getD 1 (.null, false)).1
      sep ++ piece (r.headD (.null, false)).1
    return Value.ofTextBytes parts.flatten
  | "json_group_array" => json "json_array" (rows.map fun r => r.headD (.null, false))
  | "jsonb_group_array" => json "jsonb_array" (rows.map fun r => r.headD (.null, false))
  | "json_group_object" => json "json_object" (rows.flatMap fun r => r.take 2)
  | "jsonb_group_object" => json "jsonb_object" (rows.flatMap fun r => r.take 2)
  | _ => return .null

end Aggregate

end Foreman.Sql
