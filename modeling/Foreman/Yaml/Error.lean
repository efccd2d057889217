import Foreman.Yaml.Token

/-!
# Why YAML cannot be read

A text is not YAML (with its line, when there is one); or its document cannot become a value
(a repeated key, say; every such problem collected with its line); or a value cannot be formed
at all (an alias to no anchor, a collection key), which stops the reading at once.
-/

namespace Foreman.Yaml

inductive YamlError where
  /-- The text is not YAML: where that was found (0 for no line) and why. -/
  | malformed (line : Nat) (problem : String)
  /-- The document cannot become a value: every problem found, each with its line. -/
  | decode (problems : List String)
  /-- A value that cannot be formed. -/
  | other (problem : String)
  deriving Inhabited

namespace YamlError

def ofProblem (p : Problem) : YamlError := .malformed p.line p.text

def message : YamlError → String
  | .malformed 0 p => "yaml: " ++ p
  | .malformed n p => "yaml: line " ++ toString n ++ ": " ++ p
  | .decode ps => "yaml: unmarshal errors:\n  " ++ "\n  ".intercalate ps
  | .other p => "yaml: " ++ p

end YamlError

end Foreman.Yaml
