import Foreman.Sql.Syntax
import Foreman.Sql.Value

/-!
# Frames of windows

A window function sees its partition's rows in the window's order; a row's *peers* have equal
order keys. Its frame lies between two bounds: `ROWS` count rows from the current one,
`GROUPS` count peer groups, and `RANGE` measure the key, `n PRECEDING` reaching keys at least
the current less `n` (more, descending) and `CURRENT ROW` the current row's peers. Without a
frame it runs from the partition's first row to the current row's last peer, the whole
partition without an order. Rows are numbered from 0 in the window's order.
-/

namespace Foreman.Sql

namespace Frame

/-- The first and last positions of the peers of the row at `i`, among `n` rows whose
peers stand together. -/
def peers (same : Nat → Nat → Bool) (n i : Nat) : Nat × Nat :=
  let first := ((List.range (i + 1)).find? fun j => same j i).getD i
  let last := (((List.range n).reverse).find? fun j => i ≤ j && same j i).getD i
  (first, last)

/-- The number of the group of peers of each row, counting from 0. -/
def groups (same : Nat → Nat → Bool) (n : Nat) : List Nat :=
  (List.range n).map fun i => ((List.range i).filter fun j => !same j (j + 1)).length

/-- The rank of the row at `i`: one more than the number of rows before its peers. -/
def rank (same : Nat → Nat → Bool) (n i : Nat) : Nat := (peers same n i).1 + 1

/-- The dense rank of the row at `i`: the number of its group of peers, counting from 1. -/
def denseRank (same : Nat → Nat → Bool) (n i : Nat) : Nat := (groups same n).getD i 0 + 1

/-- The bucket of the row at `i` when `n` rows are dealt into `buckets` buckets as evenly
as may be, the larger buckets first. -/
def ntile (buckets n i : Nat) : Nat :=
  let size := n / buckets
  if size == 0 then i + 1
  else
    let large := n - buckets * size
    let small := large * (size + 1)
    if i < small then 1 + i / (size + 1) else 1 + large + (i - small) / size

/-- Whether the row at `j` lies within a start (`start` true) or an end bound of a frame
around the row at `i`, counting rows or groups by the place `pos` gives each row. -/
def within (start : Bool) (pos : Nat → Int) (i j : Nat) : BoundKind → Value → Bool
  | .unboundedPreceding, _ => start
  | .unboundedFollowing, _ => !start
  | .currentRow, _ => if start then pos i ≤ pos j else pos j ≤ pos i
  | .preceding, k =>
    let d := k.toInt
    if start then pos i - d ≤ pos j else pos j ≤ pos i - d
  | .following, k =>
    let d := k.toInt
    if start then pos i + d ≤ pos j else pos j ≤ pos i + d

/-- Whether the row at `j` lies within a `RANGE` bound measured on the order key: the keys
of the rows are `keys`, in descending order when `desc`. -/
def withinRange (start desc : Bool) (keys : Array Value) (same : Nat → Nat → Bool) (n i j : Nat) :
    BoundKind → Value → Bool
  | .unboundedPreceding, _ => start
  | .unboundedFollowing, _ => !start
  | .currentRow, _ =>
    let (first, last) := peers same n i
    if start then first ≤ j else j ≤ last
  | kind, k =>
    let cur := keys.getD i .null
    let key := keys.getD j .null
    if cur.isNull || key.isNull then cur.isNull && key.isNull
    else
      let towardStart := kind == .preceding
      let shift := if towardStart != desc then Value.arith .sub cur k else Value.arith .add cur k
      let c := Value.compare false key shift
      -- ascending: a start bound keeps keys at or above it, an end bound at or below
      if start != desc then c ≥ 0 else c ≤ 0

/-- The positions of the rows in the frame of row `i`, among `n` rows ordered by `keys`
(each row's first order key; `desc` when descending), `same` telling peers apart; `shape` is
the frame as written, if any, and `offsets` its bounds' offsets, start first. -/
def members (shape : Option FrameShape) (offsets : List Value) (desc : Bool) (keys : Array Value)
    (same : Nat → Nat → Bool) (n i : Nat) : List Nat :=
  let sh : FrameShape := match shape with
    | some s => if s.implicit then {} else s
    | none => {}
  let (startOff, endOff) : Value × Value :=
    match sh.start.hasOffset, sh.finish.hasOffset with
    | true, true => (offsets.getD 0 .null, offsets.getD 1 .null)
    | true, false => (offsets.getD 0 .null, .null)
    | false, true => (.null, offsets.getD 0 .null)
    | false, false => (.null, .null)
  let gs := (groups same n).toArray
  (List.range n).filter fun j =>
    match sh.unit with
    | .rows =>
      let pos (x : Nat) : Int := x
      within true pos i j sh.start startOff && within false pos i j sh.finish endOff
    | .groups =>
      let pos (x : Nat) : Int := gs.getD x 0
      within true pos i j sh.start startOff && within false pos i j sh.finish endOff
    | .range =>
      withinRange true desc keys same n i j sh.start startOff &&
        withinRange false desc keys same n i j sh.finish endOff

end Frame

end Foreman.Sql
