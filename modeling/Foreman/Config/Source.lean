import Foreman.Config.Decode
import Foreman.Yaml.Decoding
import Foreman.Text.Space

/-!
# Configuration files

A configuration file is JSON, or YAML when its name ends in `.yaml` or `.yml` (in any
case). A YAML file is turned into JSON first, so both go through the same strict reading;
an error on the way names the file and the step that failed.
-/

namespace Foreman

namespace ConfigFile

/-- The extension of a path: from the last dot of its last element, or nothing. -/
def extension (path : String) : String :=
  let last := (path.toList.reverse.takeWhile (· != '/')).reverse
  match last.reverse.findIdx? (· == '.') with
  | some i => String.ofList (last.drop (last.length - 1 - i))
  | none => ""

def isYaml (path : String) : Bool :=
  let ext := Text.lower (extension path)
  ext == ".yaml" || ext == ".yml"

def yamlAsJson (path text : String) : Except Fault String :=
  match Yaml.Document.read? text with
  | .error e => .error (.plain (path ++ ": yaml: " ++ e.message))
  | .ok none => .ok "null"
  | .ok (some doc) =>
    match doc.value with
    | .error e => .error (.plain (path ++ ": yaml: " ++ e.message))
    | .ok v =>
      match v.toJson with
      | .error m => .error (.plain (path ++ ": yaml to json: " ++ m))
      | .ok j => .ok j.render

end ConfigFile

/-- Reads a configuration file's text, in the format its path names. -/
def Config.decode (path text : String) : Except Fault Config := do
  let json ← if ConfigFile.isYaml path then ConfigFile.yamlAsJson path text else pure text
  (Config.decodeJson json).mapError DecodeError.toFault

end Foreman
