/-!
# JSON values

The values the job manager reads and writes: configuration documents, log lines and reports.
A number keeps its written text, so a value read and written again keeps its digits; `raw`
holds text already JSON (a stored fragment), written as it stands.
-/

namespace Foreman

/-- A JSON value. Object members keep their order, and a key may repeat. -/
inductive Json where
  | null
  | bool (b : Bool)
  | num (lit : String)
  | str (s : String)
  | arr (items : List Json)
  | obj (members : List (String × Json))
  | raw (text : String)

namespace Json

instance : Inhabited Json := ⟨.null⟩

/-- An integer as a JSON number. -/
def int (n : Int) : Json := .num (toString n)

def nat (n : Nat) : Json := .num (toString n)

def strOpt : Option String → Json
  | some s => .str s
  | none => .null

def ofOption {α : Type} (f : α → Json) : Option α → Json
  | some a => f a
  | none => .null

def strs (xs : List String) : Json := .arr (xs.map .str)

/-- The last member under `key`, as a decoder of objects that lets later keys win. -/
def get? (j : Json) (key : String) : Option Json :=
  match j with
  | .obj ms => (ms.filter (·.1 == key)).getLast?.map (·.2)
  | _ => none

def field (j : Json) (key : String) : Json :=
  match j.get? key with
  | some v => v
  | none => .null

def str? : Json → Option String
  | .str s => some s
  | _ => none

def bool? : Json → Option Bool
  | .bool b => some b
  | _ => none

def arr? : Json → Option (List Json)
  | .arr xs => some xs
  | _ => none

def obj? : Json → Option (List (String × Json))
  | .obj ms => some ms
  | _ => none

def isNull : Json → Bool
  | .null => true
  | _ => false

/-- Reads an integer written without fraction or exponent. -/
def int? : Json → Option Int
  | .num lit =>
    match lit.toList with
    | '-' :: ds => if ds.isEmpty || !ds.all Char.isDigit then none
        else some (-(String.ofList ds).toNat!)
    | ds => if ds.isEmpty || !ds.all Char.isDigit then none
        else some (String.ofList ds).toNat!
  | _ => none

/-- Adds a member at the end of an object; other values are left alone. -/
def push (j : Json) (key : String) (v : Json) : Json :=
  match j with
  | .obj ms => .obj (ms ++ [(key, v)])
  | other => other

end Json

end Foreman
