import Foreman.Sql.Catalog

/-!
# How operands compare within expressions

A comparison's operands compare as their expressions say: each may have an *affinity* (a
column's, a `CAST` type's, a subquery's first column's) and a *collation* (a `COLLATE` in it,
or its column's).

* Affinity: with both, numeric if either is numeric, else none; with one, that one. Under a
  numeric affinity a text operand reads as the number it spells, if any; under text affinity
  a number is written as text; either only for text operands.
* Collation: a `COLLATE` in the left operand, else the right, else the left's column's, else
  the right's, else `binary`.

Every expression holding a `COLLATE` outside a subquery passes it on; a column's own
collation passes only through `CAST` and unary `+`.
-/

namespace Foreman.Sql

/-- What a column says of the values read from it: its affinity and its collation. -/
structure ColumnKind where
  affinity : Option Affinity := none
  collation : Option Collation := none
  deriving Inhabited

/-- The kind of a table's column: the affinity of its declared type and its collation. -/
def Column.kind (c : Column) : ColumnKind :=
  { affinity := some (Affinity.ofType c.type), collation := c.collation.bind Collation.ofName? }

/-- Finds what a column is, by its schema, its table and its name. -/
abbrev KindLookup := Option Name → Option Name → String → Option ColumnKind

def Affinity.isNumeric : Affinity → Bool
  | .numeric | .integer | .real => true
  | _ => false

namespace Expr

/-- The operands an expression passes a `COLLATE` on from, in the order they are looked at:
the left operand, then the right one, then the others in order. -/
def collateParts : Expr → List Expr
  | .call _ _ args _ _ _ _ => args
  | .unary _ a | .isNull a | .notNull a | .cast a _ | .collate a _ => [a]
  | .binary _ a b => [a, b]
  | .like _ _ a b c => [b, a] ++ c.toList
  | .between _ a b c => [a, b, c]
  | .inList _ a xs => a :: xs
  | .inSelect _ a _ | .inTable _ a _ _ _ => [a]
  | .case a arms d => a.toList ++ (arms.flatMap fun (x, y) => [x, y]) ++ d.toList
  | .vector xs => xs
  | _ => []

/-- Whether an expression holds a `COLLATE` outside its subqueries. -/
def hasCollate : Nat → Expr → Bool
  | 0, _ => false
  | fuel + 1, e =>
    match e with
    | .collate .. => true
    | _ => e.collateParts.any (hasCollate fuel)

/-- The collation of an expression, if it has one: a `COLLATE` in it, or the collation of
the column it reads through casts and unary `+`. -/
def collation (look : KindLookup) : Nat → Expr → Option Collation
  | 0, _ => none
  | fuel + 1, e =>
    match e with
    | .collate _ n => Collation.ofName? n.text
    | .column n _ => (look none none n.text).bind (·.collation)
    | .qualified s t c => (look s (some t) c.text).bind (·.collation)
    | .cast a _ | .unary .pos a => collation look fuel a
    | .vector (a :: _) => collation look fuel a
    | _ =>
      match e.collateParts.find? (hasCollate fuel) with
      | some a => collation look fuel a
      | none => none

/-- The affinity of an expression, if it has one: the affinity of the column it reads, of
the type it is cast to, or of the first column of its subquery (`sub`). -/
def affinity (look : KindLookup) (sub : Select → Option Affinity) : Nat → Expr → Option Affinity
  | 0, _ => none
  | fuel + 1, e =>
    match e with
    | .column n _ => (look none none n.text).bind (·.affinity)
    | .qualified s t c => (look s (some t) c.text).bind (·.affinity)
    | .cast _ ty => some (Affinity.ofType ty)
    | .collate a _ => affinity look sub fuel a
    | .vector (a :: _) => affinity look sub fuel a
    | .subquery q => sub q
    | _ => none

def kind (look : KindLookup) (sub : Select → Option Affinity) (fuel : Nat) (e : Expr) : ColumnKind :=
  { affinity := e.affinity look sub fuel, collation := e.collation look fuel }

def comparisonCollation (look : KindLookup) (fuel : Nat) (a b : Expr) : Collation :=
  let chosen :=
    if a.hasCollate fuel then a.collation look fuel
    else if b.hasCollate fuel then b.collation look fuel
    else (a.collation look fuel).orElse fun _ => b.collation look fuel
  chosen.getD .binary

end Expr

/-- The affinity two operands with these affinities compare under. -/
def comparisonAffinity : Option Affinity → Option Affinity → Option Affinity
  | some a, some b => if a.isNumeric || b.isNumeric then some .numeric else none
  | some a, none => some a
  | none, b => b

/-- Two values as a comparison under an affinity sees them: when either is text, a numeric
affinity reads texts that spell numbers as those numbers, and text affinity writes numbers
as text. -/
def Value.underAffinity (aff : Option Affinity) (a b : Value) : Value × Value :=
  if !(a.isText || b.isText) then (a, b)
  else match aff with
    | some .numeric | some .integer | some .real =>
      let number (v : Value) : Value := match v with
        | .text s => (Value.affinityNumber s false).getD v
        | _ => v
      (number a, number b)
    | some .text =>
      let text (v : Value) : Value := match v with
        | .int _ | .real _ => .text ((v.asText).getD "")
        | _ => v
      (text a, text b)
    | _ => (a, b)

end Foreman.Sql
