import Foreman.Yaml.Event.Parse
import Foreman.Yaml.Error
import Foreman.Yaml.Value

/-!
# YAML nodes

The first document of a text as a tree: scalars with their text (unquoted and folded),
sequences, mappings and aliases. A node's tag is the one written, `!!name` for YAML tags; else
`!!str` for a quoted or block scalar, `!!merge` for a plain `<<`, the tag its text reads as for
another plain scalar, and `!!seq` or `!!map` for a collection. Nodes know line and column from
1. Anchored nodes are kept in a document table, and an alias points at the node its anchor
named when read; an anchor is noted as its node starts, so an alias inside may point to it,
and a later anchor of one name hides the earlier. An alias to no anchor is an error.
-/

namespace Foreman.Yaml

structure Place where
  line : Nat
  column : Nat
  deriving Inhabited

/-- A node of a YAML document. -/
inductive Node where
  | scalar (text tag : String) (style : ScalarStyle) (place : Place)
  | seq (items : List Node) (tag : String) (place : Place)
  | map (entries : List (Node × Node)) (tag : String) (place : Place)
  /-- An alias: the anchor's name, the alias's own number in the document, and the entry of
  the document's table of anchored nodes it points to. -/
  | aliasOf (name : String) (id target : Nat) (place : Place)
  deriving Inhabited

/-- A document: its root node and its anchored nodes, in the order their anchors were met. -/
structure Document where
  root : Node
  anchored : Array Node
  deriving Inhabited

namespace Node

/-- The line a node starts on. -/
def line : Node → Nat
  | .scalar _ _ _ p => p.line
  | .seq _ _ p => p.line
  | .map _ _ p => p.line
  | .aliasOf _ _ _ p => p.line

def shortTag (t : String) : String :=
  let yamlPrefix := "tag:yaml.org,2002:"
  if t.startsWith yamlPrefix then "!!" ++ String.ofList (t.toList.drop yamlPrefix.length) else t

/-- The tag of a scalar: the one written (`!` counts as none); else `!!str` for a quoted or
block scalar, `!!merge` for a plain `<<`, and the tag its text reads as. -/
def scalarTag (tag text : String) (style : ScalarStyle) : String :=
  if tag != "" && tag != "!" then shortTag tag
  else if style != .plain then "!!str"
  else if text == "<<" then "!!merge"
  else (readScalar "" text).1

/-- The tag of a collection: the one written, or the given default. -/
def collectionTag (tag default : String) : String :=
  if tag != "" && tag != "!" then shortTag tag else default

end Node

/-- The state of the composer: the parser, the event it has looked at and not taken, the
anchors met (the latest first) and the anchored nodes. -/
structure Composer where
  parser : Parser
  pending : Option Event := none
  anchors : List (String × Nat) := []
  anchored : Array Node := #[]
  aliases : Nat := 0
  deriving Inhabited

abbrev Compose := StateT Composer (Except YamlError)

namespace Composer

/-- The next event, which stays to be taken. -/
def peek : Compose Event := do
  let c ← get
  match c.pending with
  | some e => return e
  | none =>
    match Parser.next.run c.parser with
    | .error p => throw (YamlError.ofProblem p)
    | .ok (e, parser) =>
      set { c with parser := parser, pending := some e }
      return e

def advance : Compose Unit := do
  let _ ← peek
  modify fun c => { c with pending := none }

/-- Notes an anchor for a node to come: the entry of the table it will fill. -/
def noteAnchor : Option String → Compose (Option Nat)
  | none => return none
  | some name => do
    let c ← get
    set { c with anchors := (name, c.anchored.size) :: c.anchors,
                 anchored := c.anchored.push default }
    return some c.anchored.size

/-- Fills the entry of the table noted for a node. -/
def fill (slot : Option Nat) (n : Node) : Compose Unit :=
  match slot with
  | none => pure ()
  | some i => modify fun c => { c with anchored := c.anchored.modify i fun _ => n }

def placeOf (e : Event) : Place := ⟨e.start.line + 1, e.start.column + 1⟩

def bound : Compose Nat := do return 8 * (← get).parser.scanner.text.size + 64

/-- A node and everything in it; `fuel` bounds its depth. -/
def node : Nat → Compose Node
  | 0 => throw (.other "document nests too deeply")
  | fuel + 1 => do
    let e ← peek
    let place := placeOf e
    match e.kind with
    | .scalar anchor tag text style =>
      let n := Node.scalar text (Node.scalarTag tag text style) style place
      let slot ← noteAnchor anchor
      fill slot n
      advance
      return n
    | .aliasOf name =>
      let c ← get
      match c.anchors.lookup name with
      | none => throw (.other ("unknown anchor '" ++ name ++ "' referenced"))
      | some target =>
        set { c with aliases := c.aliases + 1 }
        advance
        return .aliasOf name c.aliases target place
    | .sequenceStart anchor tag _ =>
      let slot ← noteAnchor anchor
      advance
      let steps ← bound
      let mut items : Array Node := #[]
      for _ in [0:steps] do
        if (← peek).kind == .sequenceEnd then break
        items := items.push (← node fuel)
      advance
      let n := Node.seq items.toList (Node.collectionTag tag "!!seq") place
      fill slot n
      return n
    | .mappingStart anchor tag _ =>
      let slot ← noteAnchor anchor
      advance
      let steps ← bound
      let mut entries : Array (Node × Node) := #[]
      for _ in [0:steps] do
        if (← peek).kind == .mappingEnd then break
        let k ← node fuel
        let v ← node fuel
        entries := entries.push (k, v)
      advance
      let n := Node.map entries.toList (Node.collectionTag tag "!!map") place
      fill slot n
      return n
    | _ => throw (.other "attempted to parse unknown event")

/-- The first document of the stream, or none when the stream is empty. -/
def document : Compose (Option Document) := do
  advance
  match (← peek).kind with
  | .streamEnd => return none
  | _ =>
    advance
    let fuel := 2 * (← get).parser.scanner.text.size + 8
    let root ← node fuel
    advance
    return some ⟨root, (← get).anchored⟩

end Composer

/-- Reads the first document of a YAML text; an empty text is a line break. -/
def Document.read? (text : String) : Except YamlError (Option Document) :=
  let text := if text.isEmpty then "\n" else text
  Composer.document.run' { parser := { scanner := Scanner.ofText text } }

end Foreman.Yaml
