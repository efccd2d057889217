import Foreman.Text.Split

/-!
# Slash-separated paths

Lexical cleaning: repeated slashes become one, `.` parts go, `..` removes the part before it
(staying at a relative path's start, going at the root), and the empty path is `.`. A path's
directory is everything before its last slash, cleaned (`.` without one); its base is its last
element.
-/

namespace Foreman

namespace Path

/-- The parts of a cleaned path after resolving `..`, given whether it is absolute;
`acc` holds the parts so far, last first. -/
def resolve (absolute : Bool) : List String → List String → List String
  | acc, [] => acc.reverse
  | acc, p :: rest =>
    if p == "" || p == "." then resolve absolute acc rest
    else if p == ".." then
      match acc with
      | q :: acc' => if q == ".." then resolve absolute (p :: acc) rest else resolve absolute acc' rest
      | [] => if absolute then resolve absolute [] rest else resolve absolute [p] rest
    else resolve absolute (p :: acc) rest

def clean (s : String) : String :=
  let absolute := s.startsWith "/"
  let parts := resolve absolute [] (Text.splitOn s "/")
  let body := "/".intercalate parts
  if absolute then "/" ++ body
  else if body == "" then "." else body

def dir (s : String) : String :=
  let parts := Text.splitOn s "/"
  match parts.dropLast with
  | [] => "."
  | ps => if ps == [""] then "/" else clean ("/".intercalate ps)

/-- The last element of a path, after any trailing slashes: `.` for the empty path and `/`
for a path of slashes only. -/
def base (s : String) : String :=
  if s == "" then "."
  else
    let parts := (Text.splitOn s "/").reverse.dropWhile (· == "")
    match parts with
    | [] => "/"
    | p :: _ => p

/-- Two paths joined by a slash and cleaned; an empty one is left out, and two empty ones
give the empty path. -/
def join (a b : String) : String :=
  if a == "" then (if b == "" then "" else clean b)
  else if b == "" then clean a
  else clean (a ++ "/" ++ b)

/-- The cleaned paths of a directory and of every directory above it, outermost first. -/
def ancestry (s : String) : List String :=
  let c := clean s
  if c == "." || c == "/" then []
  else
    let absolute := c.startsWith "/"
    let parts := (Text.splitOn c "/").filter (· != "")
    (List.range parts.length).map fun i =>
      (if absolute then "/" else "") ++ "/".intercalate (parts.take (i + 1))

end Path

end Foreman
