import Foreman.Yaml.Token

/-!
# YAML events

The walk of a document in order: stream and document starts and ends, scalars, aliases, and
sequence and mapping starts and ends. A scalar or collection carries its anchor and tag (empty
for none, the handle replaced by its prefix); a scalar its text and style, a collection
whether it was bracketed.
-/

namespace Foreman.Yaml

inductive EventKind where
  | streamStart
  | streamEnd
  | documentStart
  | documentEnd
  | aliasOf (name : String)
  | scalar (anchor : Option String) (tag text : String) (style : ScalarStyle)
  | sequenceStart (anchor : Option String) (tag : String) (flow : Bool)
  | sequenceEnd
  | mappingStart (anchor : Option String) (tag : String) (flow : Bool)
  | mappingEnd
  deriving Inhabited, BEq

structure Event where
  kind : EventKind
  start : Mark
  stop : Mark
  deriving Inhabited

end Foreman.Yaml
