/-!
# Splitting text at a separator

A text is cut at every occurrence of a separator, from the left without overlaps, keeping the
pieces, empty ones included, so joining them with the separator gives the text back. An empty
separator leaves the text whole.
-/

namespace Foreman

namespace Text

/-- The pieces of `cs` between occurrences of `sep`; `cur` holds the current piece,
reversed. -/
def splitChars (sep : List Char) (cur : List Char) : List Char → List (List Char)
  | [] => [cur.reverse]
  | c :: rest =>
    if sep ≠ [] ∧ sep.isPrefixOf (c :: rest) then
      cur.reverse :: splitChars sep [] (rest.drop (sep.length - 1))
    else splitChars sep (c :: cur) rest
termination_by cs => cs.length
decreasing_by
  all_goals simp only [List.length_drop, List.length_cons]
  all_goals omega

def splitOn (s sep : String) : List String :=
  (splitChars sep.toList [] s.toList).map String.ofList

end Text

end Foreman
