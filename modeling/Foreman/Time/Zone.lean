import Foreman.Time.Instant
import Foreman.Time.ZoneRule

/-!
# Time zones

A zone is a region's history of UTC offsets: the kinds of local time it has known
(abbreviation, offset east in seconds, daylight saving or not), the instants it changed kind,
increasing, and the rule after its last change (`ZoneRule`); a zone with no kinds is UTC.

`Zone.lookup` gives the period in force at a second and the span it holds for. Before the
first change a zone keeps its first standard kind, unless no change leads back to its first
kind, which then holds; after the last the rule decides, when it reads. `Zone.date` takes a
wall-clock reading as UTC, subtracts the offset found there, and if that falls outside the
offset's span uses the offset at the result, so a skipped or repeated reading gets one
instant.
-/

namespace Foreman

structure ZoneKind where
  name : String
  offset : Int
  daylight : Bool
  deriving Inhabited

/-- A change of a zone to another kind of local time, at a second from 1970-01-01 UTC. -/
structure ZoneChange where
  time : Int
  kind : Nat
  deriving Inhabited

/-- A zone: its name, its kinds of local time, its changes in increasing order (a zone that
never changed has one change at the earliest second), and its rule after the last change. -/
structure Zone where
  name : String
  kinds : Array ZoneKind := #[]
  changes : Array ZoneChange := #[]
  rule : String := ""
  deriving Inhabited

namespace Zone

def alpha : Int := -9223372036854775808
def omega : Int := 9223372036854775807

def utc : Zone := { name := "UTC" }

def fixed (name : String) (offset : Int) : Zone :=
  { name := name, kinds := #[⟨name, offset, false⟩], changes := #[⟨alpha, 0⟩] }

def kindAt (z : Zone) (i : Nat) : ZoneKind := z.kinds.getD i ⟨"UTC", 0, false⟩

/-- The kind a zone keeps before its first change: its first kind when no change leads to
it; else, when the first change leads to daylight time, the last standard kind before that
one; else its first standard kind; else its first kind. -/
def firstKind (z : Zone) : Nat :=
  if !z.changes.any (·.kind == 0) then 0
  else
    let fromFirst : Option Nat := match z.changes[0]? with
      | some c =>
        if (z.kindAt c.kind).daylight then
          (List.range c.kind).reverse.find? fun i => !(z.kindAt i).daylight
        else none
      | none => none
    match fromFirst with
    | some i => i
    | none => ((List.range z.kinds.size).find? fun i => !(z.kindAt i).daylight).getD 0

/-- The last change at or before `sec` between the indices `lo` (whose change is at or
before `sec`) and `hi`, and the second of the first change after it that the search met. -/
def search (cs : Array ZoneChange) (sec : Int) (lo hi : Nat) (stop : Int) (h : hi ≤ cs.size) :
    Nat × Int :=
  if w : hi - lo > 1 then
    let m := (lo + hi) / 2
    have : m < cs.size := by omega
    if sec < cs[m].time then search cs sec lo m cs[m].time (by omega)
    else search cs sec m hi stop h
  else (lo, stop)
termination_by hi - lo

def lookup (z : Zone) (sec : Int) : ZonePeriod :=
  if z.kinds.isEmpty then ⟨"UTC", 0, alpha, omega, false⟩
  else match z.changes[0]? with
    | none =>
      let k := z.kindAt z.firstKind
      ⟨k.name, k.offset, alpha, omega, k.daylight⟩
    | some first =>
      if sec < first.time then
        let k := z.kindAt z.firstKind
        ⟨k.name, k.offset, alpha, first.time, k.daylight⟩
      else
        let (lo, stop) := search z.changes sec 0 z.changes.size omega (Nat.le_refl _)
        let c := z.changes.getD lo first
        let k := z.kindAt c.kind
        let found : ZonePeriod := ⟨k.name, k.offset, c.time, stop, k.daylight⟩
        if lo + 1 == z.changes.size && z.rule != "" then
          match ZoneRule.parse? z.rule with
          | some r => r.periodAt c.time sec
          | none => found
        else found

def offsetAt (z : Zone) (t : Instant) : Int := (z.lookup t.unix).offset

/-- The instant at which the wall clock of the zone reads the given fields; each field may
overflow into the next larger one. -/
def date (z : Zone) (y : Int) (month day hour minute sec nsec : Int) : Instant :=
  let sec := sec + nsec / Instant.second
  let ns := nsec % Instant.second
  let wallSec := Wall.toSeconds y month day hour minute sec
  let p := z.lookup wallSec
  let off :=
    if p.offset == 0 then 0
    else
      let u := wallSec - p.offset
      if u < p.start || u ≥ p.stop then (z.lookup u).offset else p.offset
  ⟨(wallSec - off) * Instant.second + ns⟩

end Zone

end Foreman
