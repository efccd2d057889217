import Foreman.Yaml.Node

/-!
# From a YAML document to a value

A scalar becomes the value its tag and text give, a sequence a sequence, an alias its target's
value. A mapping whose keys are all strings keeps string keys as written; another keeps its
keys as values. Repeated keys are problems, and the merge key `<<` adds the entries of other
mappings the mapping lacks. Problems are collected and a document with any refused with all;
some faults stop at once, among them aliases doing too much of the work.
-/

namespace Foreman.Yaml

/-- What a node is decoded into: any value, or a string (a key of a mapping whose keys are
strings). -/
inductive Target where
  | any
  | text
  deriving BEq

/-- A mapping being filled: its entries in the order they were set (a key set again keeps
the last value) and whether its keys are strings. -/
structure Filling where
  entries : Array (Value × Value) := #[]
  stringKeyed : Bool

structure Decoder where
  anchored : Array Node
  decoded : Nat := 0
  aliased : Nat := 0
  aliasDepth : Nat := 0
  /-- The aliases being decoded, by number. -/
  active : List Nat := []
  problems : Array String := #[]
  /-- The keys merged into the mapping being filled, while a merge is going on. -/
  merged : Option (List Value) := none

abbrev Decode := StateT Decoder (Except YamlError)

namespace Decoding

def tooAliased (aliased decoded : Nat) : Bool :=
  if decoded ≤ 400000 then aliased * 100 > decoded * 99
  else if decoded ≥ 4000000 then aliased * 10 > decoded
  else aliased * 360000000 > decoded * (356400000 - 89 * (decoded - 400000))

/-- Counts a node decoded, and stops when aliases make up too much of the work. -/
def count : Decode Unit := do
  modify fun d => { d with decoded := d.decoded + 1,
                           aliased := if d.aliasDepth > 0 then d.aliased + 1 else d.aliased }
  let d ← get
  if d.aliased > 100 && d.decoded > 1000 && tooAliased d.aliased d.decoded then
    throw (.other "document contains excessive aliasing")

def target (i : Nat) : Decode Node := do return (← get).anchored.getD i default

/-- Enters an alias, which must not be one being decoded already. -/
def enterAlias (name : String) (id : Nat) : Decode Unit := do
  let d ← get
  if d.active.contains id then throw (.other ("anchor '" ++ name ++ "' value contains itself"))
  set { d with active := id :: d.active, aliasDepth := d.aliasDepth + 1 }

def leaveAlias (id : Nat) : Decode Unit := modify fun d =>
  { d with active := d.active.erase id, aliasDepth := d.aliasDepth - 1 }

def tagOf (n : Node) : Decode String := do
  match n with
  | .scalar _ tag _ _ => return tag
  | .seq _ tag _ => return tag
  | .map _ tag _ => return tag
  | .aliasOf _ _ t _ =>
    match ← target t with
    | .scalar _ tag _ _ => return tag
    | .seq _ tag _ => return tag
    | .map _ tag _ => return tag
    | .aliasOf .. => return ""

/-- Whether a key is the merge key: the plain `<<` or `<<` tagged `!!merge`. -/
def isMergeKey : Node → Bool
  | .scalar text tag _ _ => text == "<<" && tag == "!!merge"
  | _ => false

/-- The kind of a node and its text, which make two keys the same. -/
def keyIdentity : Node → Nat × String
  | .scalar text _ _ _ => (0, text)
  | .seq .. => (1, "")
  | .map .. => (2, "")
  | .aliasOf name _ _ _ => (3, name)

/-- Each key that repeats an earlier key of a mapping, as a problem, in the order of the
earlier key and then of the repetition. -/
def repeatedPairs : List (Node × Node) → List String
  | [] => []
  | (k, _) :: rest =>
    (rest.filterMap fun (k', _) =>
      if keyIdentity k == keyIdentity k' then
        some ("line " ++ toString k'.line ++ ": mapping key " ++ Quote.text (keyIdentity k).2 ++
          " already defined at line " ++ toString k.line)
      else none) ++ repeatedPairs rest

def hasEqualNeighbours : List (Nat × String) → Bool
  | a :: b :: rest => a == b || hasEqualNeighbours (b :: rest)
  | _ => false

/-- The keys that repeat an earlier key of a mapping, as problems: none when the sorted
keys have no equal neighbours. -/
def repeatedKeys (entries : List (Node × Node)) : List String :=
  let ids := (entries.map fun e => keyIdentity e.1).mergeSort fun a b =>
    a.1 < b.1 || (a.1 == b.1 && decide (a.2 ≤ b.2))
  if hasEqualNeighbours ids then repeatedPairs entries else []

def wrongType (n : Node) (tag : String) : Decode Unit := do
  let t := match n with
    | .scalar _ t _ _ => t
    | .seq _ t _ => t
    | .map _ t _ => t
    | .aliasOf .. => ""
  let tag := if t != "" then t else tag
  let shown := if tag != "!!seq" && tag != "!!map" then " ``" else ""
  let problem := "line " ++ toString n.line ++ ": cannot unmarshal " ++ Node.shortTag tag ++
    shown ++ " into string"
  modify fun d => { d with problems := d.problems.push problem }

/-- Notes the repeated keys of a mapping; whether there were any. -/
def checkKeys (entries : List (Node × Node)) : Decode Bool := do
  let repeated := repeatedKeys entries
  if repeated.isEmpty then return false
  modify fun d => { d with problems := d.problems ++ repeated.toArray }
  return true

/-- The value of a scalar: a string when tagged `!!str`, else what its tag and text give;
`!!binary` is decoded from base64. As a string key, a scalar is its text, and null is no
key. -/
def scalar (text tag : String) (into : Target) : Decode (Option Value) := do
  if tag == "!!str" then return some (.str text)
  let (rtag, v) ← liftM (resolve tag text)
  let v ←
    if rtag == "!!binary" then
      match Bytes.base64Decode text with
      | some bytes => pure (Value.str (String.ofList (Bytes.utf8Decode bytes)))
      | none => throw (.other "!!binary value contains invalid base64 data")
    else pure v
  match v, into with
  | .null, .any => return some .null
  | .null, .text => return none
  | _, .any => return some v
  | .str s, .text => return some (.str (if rtag == "!!binary" then s else text))
  | _, .text => return some (.str text)

/-- Whether a key cannot be a key of a mapping with keys of any kind. -/
def isCollection : Value → Bool
  | .seq _ => true
  | .map _ _ => true
  | _ => false

/-- The failure of a merge whose value is not a mapping or a sequence of them. -/
def wantMap {α : Type} : Decode α :=
  throw (.other "map merge requires map or sequence of maps as the value")

mutual

/-- The value of a node, `none` when it cannot be had (a problem was noted, or a null
string key); `fuel` bounds the depth. -/
def decode : Nat → Node → Target → Decode (Option Value)
  | 0, _, _ => return none
  | fuel + 1, n, into => do
    count
    match n with
    | .aliasOf name id t _ =>
      enterAlias name id
      let r ← decode fuel (← target t) into
      leaveAlias id
      return r
    | .scalar text tag _ _ => scalar text tag into
    | .seq items _ _ =>
      match into with
      | .text =>
        wrongType n "!!seq"
        return none
      | .any => return some (.seq (← decodeItems fuel items))
    | .map entries _ _ =>
      if ← checkKeys entries then return none
      match into with
      | .text =>
        wrongType n "!!map"
        return none
      | .any =>
        let mut stringKeyed := true
        for (k, _) in entries do
          let t ← tagOf k
          if t != "!!str" && t != "!!merge" then stringKeyed := false
        let f ← fill fuel entries { stringKeyed := stringKeyed }
        return some (.map (Value.distinct f.entries) stringKeyed)

/-- The values of the items of a sequence, leaving out those that cannot be had. -/
def decodeItems : Nat → List Node → Decode (List Value)
  | 0, _ => return []
  | _ + 1, [] => return []
  | fuel + 1, n :: rest => do
    let v ← decode fuel n .any
    let vs ← decodeItems fuel rest
    return match v with
      | some v => v :: vs
      | none => vs

/-- Fills a mapping with the entries of a node, in order (a key already merged is skipped),
then merges the value of its merge key. -/
def fill : Nat → List (Node × Node) → Filling → Decode Filling
  | 0, _, f => return f
  | fuel + 1, entries, f => do
    let saved := (← get).merged
    modify fun d => { d with merged := none }
    let mut mergedKeys := saved
    let mut mergeNode : Option Node := none
    let mut f := f
    for (k, v) in entries do
      if isMergeKey k then
        mergeNode := some v
        continue
      match ← decode fuel k (if f.stringKeyed then .text else .any) with
      | none => pure ()
      | some key =>
        let seen := match mergedKeys with
          | some ks => ks.any (Value.sameKey key)
          | none => false
        if !seen then
          mergedKeys := mergedKeys.map (· ++ [key])
          if isCollection key then throw (.other ("invalid map key: " ++ key.literal))
          match ← decode fuel v .any with
          | some val => f := { f with entries := f.entries.push (key, val) }
          | none => pure ()
    modify fun d => { d with merged := mergedKeys }
    match mergeNode with
    | some m => merge fuel entries m f
    | none => return f

/-- Merges the value of a merge key into a mapping; the keys the mapping has itself are
noted first, unless a merge is already going on. -/
def merge : Nat → List (Node × Node) → Node → Filling → Decode Filling
  | 0, _, _, f => return f
  | fuel + 1, parent, m, f => do
    let saved := (← get).merged
    if saved.isNone then
      let keys ← parentKeys fuel parent
      modify fun d => { d with merged := some keys }
    let f ← match m with
      | .map .. => mergeInto fuel m f
      | .aliasOf _ _ t _ => do
        match ← target t with
        | .map .. => mergeInto fuel m f
        | _ => wantMap
      | .seq items _ _ => mergeItems fuel items f
      | _ => wantMap
    modify fun d => { d with merged := saved }
    return f

def mergeItems : Nat → List Node → Filling → Decode Filling
  | 0, _, f => return f
  | _ + 1, [], f => return f
  | fuel + 1, n :: rest, f => do
    let ok ← match n with
      | .map .. => pure true
      | .aliasOf _ _ t _ => do
        match ← target t with
        | .map .. => pure true
        | _ => pure false
      | _ => pure false
    if !ok then wantMap
    let f ← mergeInto fuel n f
    mergeItems fuel rest f

/-- Decodes a mapping (or an alias to one) into the mapping being filled. -/
def mergeInto : Nat → Node → Filling → Decode Filling
  | 0, _, f => return f
  | fuel + 1, n, f => do
    count
    match n with
    | .aliasOf name id t _ =>
      enterAlias name id
      let r ← mergeInto fuel (← target t) f
      leaveAlias id
      return r
    | .map entries _ _ =>
      if ← checkKeys entries then return f
      fill fuel entries f
    | _ => return f

def parentKeys : Nat → List (Node × Node) → Decode (List Value)
  | 0, _ => return []
  | _ + 1, [] => return []
  | fuel + 1, (k, _) :: rest => do
    let key ← decode fuel k .any
    let ks ← parentKeys fuel rest
    return match key with
      | some key => if isCollection key then ks else key :: ks
      | none => ks

end

def size : Node → Nat
  | .scalar .. => 1
  | .aliasOf .. => 1
  | .seq items _ _ => 1 + sizeItems items
  | .map entries _ _ => 1 + sizeEntries entries
where
  /-- The number of nodes in a list of nodes. -/
  sizeItems : List Node → Nat
    | [] => 0
    | n :: rest => size n + sizeItems rest
  /-- The number of nodes in a list of entries. -/
  sizeEntries : List (Node × Node) → Nat
    | [] => 0
    | (k, v) :: rest => size k + size v + sizeEntries rest

end Decoding

open Foreman.Yaml.Decoding in
def Document.value (doc : Document) : Except YamlError Value :=
  let nodes := size doc.root + doc.anchored.foldl (fun acc n => acc + size n) 0
  let fuel := 8 * (nodes + 2) * (nodes + 2)
  let run : Decode (Option Value) := do
    count
    decode fuel doc.root .any
  match run.run { anchored := doc.anchored } with
  | .error e => .error e
  | .ok (v, d) =>
    if !d.problems.isEmpty then .error (.decode d.problems.toList)
    else .ok (v.getD .null)

end Foreman.Yaml
