/-!
# Runs of code points

Character property tables are runs: the code points `first`, `first + step`, … up to `last`,
sharing one `shift` to the code point each maps to. A table lists disjoint runs in increasing
order, searched by halving. As text (`CodeRun.readTable`), runs are blank-separated, each its
distance from the run before's end in base 36, `.` and its length, `:` and its step unless 1,
and `+` or `-` and its shift when it differs from the run before's.
-/

namespace Foreman

/-- The code points `first`, `first + step`, … up to `last`, each mapped `shift` away. -/
structure CodeRun where
  first : Nat
  last : Nat
  step : Nat := 1
  shift : Int := 0
  deriving Inhabited

namespace CodeRun

def holds (r : CodeRun) (n : Nat) : Bool :=
  r.first ≤ n && n ≤ r.last && (n - r.first) % r.step == 0

/-- Whether a run ends before another starts: the order of a table. -/
def before (a b : CodeRun) : Bool := a.last < b.first

/-- The run of a table (disjoint runs in increasing order) whose span holds a code point. -/
def search (runs : Array CodeRun) (n : Nat) : Option CodeRun :=
  runs.binSearch { first := n, last := n } before

def member (runs : Array CodeRun) (n : Nat) : Bool :=
  match search runs n with
  | some r => r.holds n
  | none => false

/-- The character a table maps a character to: itself when no run holds it. -/
def apply (runs : Array CodeRun) (c : Char) : Char :=
  match search runs c.toNat with
  | some r => if r.holds c.toNat then Char.ofNat (c.toNat + r.shift).toNat else c
  | none => c

def digitValue (c : Char) : Nat := if c.isDigit then c.toNat - 48 else c.toNat - 87

/-- The numbers of a run's text, the last first, each with the mark before it; the first
number has a blank for its mark. -/
def marks (token : List Char) : List (Char × Nat) :=
  token.foldl (fun acc c =>
    if c.isDigit || c.isLower then
      match acc with
      | (m, n) :: rest => (m, 36 * n + digitValue c) :: rest
      | [] => [(' ', digitValue c)]
    else (c, 0) :: acc) [(' ', 0)]

def readTable (text : String) : Array CodeRun :=
  let step (st : Nat × Int × Array CodeRun) (token : String) :=
    let (last, shift, acc) := st
    let ms := marks token.toList
    let first := last + (ms.lookup ' ').getD 0
    let shift := match ms.lookup '+', ms.lookup '-' with
      | some n, _ => (n : Int)
      | none, some n => -(n : Int)
      | none, none => shift
    let r : CodeRun := ⟨first, first + (ms.lookup '.').getD 0, (ms.lookup ':').getD 1, shift⟩
    (r.last, shift, acc.push r)
  ((text.splitOn " ").foldl step (0, 0, #[])).2.2

end CodeRun

end Foreman
