import Foreman.Text.Case

/-!
# Blanks and letter case

Texts from configuration files and command lines are compared after cutting surrounding white
space, every character Unicode counts as such (ASCII blanks and `\t \n \v \f \r`, next-line,
no-break and typographic spaces, line and paragraph separators). Names compare in lower case
by Unicode's simple case mappings.
-/

namespace Foreman.Text

def isSpace (c : Char) : Bool :=
  let n := c.toNat
  n == 0x20 || (0x09 ≤ n && n ≤ 0x0D) || n == 0x85 || n == 0xA0 || n == 0x1680 ||
    (0x2000 ≤ n && n ≤ 0x200A) || n == 0x2028 || n == 0x2029 || n == 0x202F || n == 0x205F ||
    n == 0x3000

def dropSpace : List Char → List Char
  | c :: r => if isSpace c then dropSpace r else c :: r
  | [] => []

def trimSpace (s : String) : String :=
  String.ofList (dropSpace (dropSpace s.toList).reverse).reverse

def lower (s : String) : String := String.map Case.lower s

def upper (s : String) : String := String.map Case.upper s

/-- A text with its ASCII capitals in lower case, and every other character kept. -/
def lowerAscii (s : String) : String :=
  String.map (fun c => if 'A' ≤ c && c ≤ 'Z' then Char.ofNat (c.toNat + 32) else c) s

/-- Whether two texts differ in letter case at most: their characters pair off with equal
case folds. -/
def sameFold (a b : String) : Bool :=
  a.length == b.length && (a.toList.zip b.toList).all fun (x, y) => Case.fold x == Case.fold y

def hasChar (s : String) (c : Char) : Bool := s.toList.contains c

end Foreman.Text
