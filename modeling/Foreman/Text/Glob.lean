/-!
# Shell patterns

`*` matches any run without a slash, `?` one character but a slash, `[...]` one of a class of
characters and ranges `a-z` (none of them after `^`), `\c` the character `c`, and every other
character itself. A pattern ending in a lone `\`, or with an unclosed or empty class or a range
missing an end, is malformed and matches nothing.
-/

namespace Foreman

inductive GlobAtom where
  /-- Any run of characters without a slash. -/
  | any
  /-- One character that is not a slash. -/
  | one
  /-- This character. -/
  | lit (c : Char)
  /-- One character in the ranges, or outside them when negated. -/
  | set (negated : Bool) (ranges : List (Char × Char))
  deriving BEq, Inhabited

namespace Glob

/-- One character of a class, with its escape; a dash or a closing bracket cannot stand
here, and something must follow. -/
def classChar : List Char → Option (Char × List Char)
  | [] => none
  | '-' :: _ => none
  | ']' :: _ => none
  | '\\' :: c :: rest => if rest.isEmpty then none else some (c, rest)
  | '\\' :: [] => none
  | c :: rest => if rest.isEmpty then none else some (c, rest)

/-- The ranges of a class up to its closing bracket, and the text after it. -/
def classRanges : Nat → List Char → Option (List (Char × Char) × List Char)
  | 0, _ => none
  | fuel + 1, cs => do
    let (lo, rest) ← classChar cs
    let (hi, rest) ← match rest with
      | '-' :: more => classChar more
      | _ => some (lo, rest)
    match rest with
    | ']' :: after => some ([(lo, hi)], after)
    | _ =>
      let (more, after) ← classRanges fuel rest
      some ((lo, hi) :: more, after)

def atoms : Nat → List Char → Option (List GlobAtom)
  | _, [] => some []
  | 0, _ => none
  | fuel + 1, '*' :: rest => (GlobAtom.any :: ·) <$> atoms fuel rest
  | fuel + 1, '?' :: rest => (GlobAtom.one :: ·) <$> atoms fuel rest
  | fuel + 1, '\\' :: c :: rest => (GlobAtom.lit c :: ·) <$> atoms fuel rest
  | _ + 1, '\\' :: [] => none
  | fuel + 1, '[' :: rest => do
    let (negated, body) := match rest with
      | '^' :: more => (true, more)
      | more => (false, more)
    let (ranges, after) ← classRanges body.length body
    (GlobAtom.set negated ranges :: ·) <$> atoms fuel after
  | fuel + 1, c :: rest => (GlobAtom.lit c :: ·) <$> atoms fuel rest

def inSet (negated : Bool) (ranges : List (Char × Char)) (c : Char) : Bool :=
  ranges.any (fun (lo, hi) => lo ≤ c && c ≤ hi) != negated

def matchAtoms : List GlobAtom → List Char → Bool
  | [], name => name.isEmpty
  | .any :: ps, name =>
    matchAtoms ps name ||
      match name with
      | c :: rest => c != '/' && matchAtoms (.any :: ps) rest
      | [] => false
  | .one :: ps, c :: rest => c != '/' && matchAtoms ps rest
  | .lit l :: ps, c :: rest => c == l && matchAtoms ps rest
  | .set negated ranges :: ps, c :: rest => c != '/' && inSet negated ranges c && matchAtoms ps rest
  | _ :: _, [] => false
termination_by ps name => ps.length + name.length
decreasing_by all_goals simp only [List.length_cons]; omega

def parse (pattern : String) : Option (List GlobAtom) := atoms pattern.length pattern.toList

/-- Whether a pattern matches a name; a malformed pattern matches nothing. -/
def fits (pattern name : String) : Bool :=
  match parse pattern with
  | some ps => matchAtoms ps name.toList
  | none => false

/-- Whether a pattern has any character with a meaning of its own. -/
def hasMeta (pattern : String) : Bool := pattern.toList.any fun c => c == '*' || c == '?' || c == '[' || c == '\\'

end Glob

end Foreman
