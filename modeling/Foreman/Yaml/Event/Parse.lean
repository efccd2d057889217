import Foreman.Yaml.Event
import Foreman.Yaml.Token.Scan

/-!
# From tokens to events

The parser is a machine whose state says what YAML's grammar expects next, with a stack of
states to return to when a collection ends and one of places where open collections started,
to name them in errors. Each step takes as few tokens as it needs and gives one event.
Directives set a document's tag handles: `%YAML` must be 1.1, and `!` and `!!` stand for `!`
and `tag:yaml.org,2002:` unless a `%TAG` says otherwise. A missing node is an empty plain
scalar, and a block mapping's value may be a sequence whose dashes stand at its key's
indentation.
-/

namespace Foreman.Yaml

inductive ParseState where
  | streamStart
  | implicitDocumentStart
  | documentStart
  | documentContent
  | documentEnd
  | blockNode
  | blockNodeOrIndentlessSequence
  | flowNode
  | blockSequenceFirstEntry
  | blockSequenceEntry
  | indentlessSequenceEntry
  | blockMappingFirstKey
  | blockMappingKey
  | blockMappingValue
  | flowSequenceFirstEntry
  | flowSequenceEntry
  | flowSequenceEntryMappingKey
  | flowSequenceEntryMappingValue
  | flowSequenceEntryMappingEnd
  | flowMappingFirstKey
  | flowMappingKey
  | flowMappingValue
  | flowMappingEmptyValue
  | finished
  deriving Inhabited, BEq

/-- The state of the parser, with the scanner it takes tokens from. -/
structure Parser where
  scanner : Scanner
  state : ParseState := .streamStart
  states : List ParseState := []
  marks : List Mark := []
  /-- The tag handles of the current document and the prefixes they stand for. -/
  tagDirectives : List (String × String) := []
  streamEnded : Bool := false
  deriving Inhabited

abbrev Parse := StateT Parser (Except Problem)

namespace Parser

def scan {α : Type} (m : Scan α) : Parse α := fun p => do
  let (a, s) ← m.run p.scanner
  return (a, { p with scanner := s })

def peekToken : Parse Token := do
  if !(← get).scanner.ready then scan fetchAhead
  let s := (← get).scanner
  return s.tokens.getD s.taken ⟨.streamEnd, {}, {}⟩

def skipToken : Parse Unit := modify fun p =>
  let s := p.scanner
  let t := s.tokens.getD s.taken ⟨.streamEnd, {}, {}⟩
  { p with streamEnded := t.kind == .streamEnd,
           scanner := { s with ready := false, taken := s.taken + 1 } }

def parseFail {α : Type} (context : String) (contextMark : Mark) (problem : String)
    (problemMark : Mark) : Parse α :=
  throw (.parsing context contextMark problem problemMark)

def setState (st : ParseState) : Parse Unit := modify fun p => { p with state := st }

def pushState (st : ParseState) : Parse Unit := modify fun p => { p with states := st :: p.states }

def popState : Parse Unit := modify fun p =>
  match p.states with
  | st :: rest => { p with state := st, states := rest }
  | [] => p

def pushMark (m : Mark) : Parse Unit := modify fun p => { p with marks := m :: p.marks }

/-- Where the innermost open collection started, which is then closed. -/
def popMark : Parse Mark := do
  let p ← get
  match p.marks with
  | m :: rest =>
    set { p with marks := rest }
    return m
  | [] => return {}

def emptyScalar (m : Mark) : Event := ⟨.scalar none "" "" .plain, m, m⟩

def bound : Parse Nat := do return 4 * (← get).scanner.text.size + 64

/-- Adds a tag directive; a handle given twice is an error unless it is one of the two
defaults, which then give way. -/
def addTagDirective (handle pfx : String) (isDefault : Bool) (mark : Mark) : Parse Unit := do
  let p ← get
  if p.tagDirectives.any (·.1 == handle) then
    if !isDefault then parseFail "" {} "found duplicate %TAG directive" mark
  else set { p with tagDirectives := p.tagDirectives ++ [(handle, pfx)] }

/-- Reads the directives before a document, then adds the default tag handles. -/
def directives : Parse Unit := do
  let mut version := false
  for _ in [0:(← bound)] do
    let t ← peekToken
    match t.kind with
    | .versionDirective major minor =>
      if version then parseFail "" {} "found duplicate %YAML directive" t.start
      if major != 1 || minor != 1 then parseFail "" {} "found incompatible YAML document" t.start
      version := true
    | .tagDirective handle pfx => addTagDirective handle pfx false t.start
    | _ => break
    skipToken
  let t ← peekToken
  addTagDirective "!" "!" true t.start
  addTagDirective "!!" "tag:yaml.org,2002:" true t.start

def isDirective : TokenKind → Bool
  | .versionDirective .. => true
  | .tagDirective .. => true
  | _ => false

def streamStart : Parse Event := do
  let t ← peekToken
  if t.kind != .streamStart then parseFail "" {} "did not find expected <stream-start>" t.start
  setState .implicitDocumentStart
  skipToken
  return ⟨.streamStart, t.start, t.stop⟩

/-- The start of a document: without `---` only for the first document, which then has no
directives; or the end of the stream. -/
def documentStart (implicit : Bool) : Parse Event := do
  let mut t ← peekToken
  if !implicit then
    for _ in [0:(← bound)] do
      if t.kind != .documentEnd then break
      skipToken
      t ← peekToken
  if implicit && !(isDirective t.kind || t.kind == .documentStart || t.kind == .streamEnd) then
    directives
    pushState .documentEnd
    setState .blockNode
    return ⟨.documentStart, t.start, t.stop⟩
  else if t.kind != .streamEnd then
    let start := t.start
    directives
    let d ← peekToken
    if d.kind != .documentStart then
      parseFail "" {} "did not find expected <document start>" d.start
    pushState .documentEnd
    setState .documentContent
    skipToken
    return ⟨.documentStart, start, d.stop⟩
  else
    setState .finished
    skipToken
    return ⟨.streamEnd, t.start, t.stop⟩

def documentEnd : Parse Event := do
  let t ← peekToken
  let stop ←
    if t.kind == .documentEnd then do
      skipToken
      pure t.stop
    else pure t.start
  modify fun p => { p with tagDirectives := [], state := .documentStart }
  return ⟨.documentEnd, t.start, stop⟩

/-- A node: an alias, or a scalar or the start of a collection with its anchor and tag (in
either order); a node with an anchor or a tag and nothing else is an empty scalar. In a
block mapping's value a dash starts a sequence at the key's indentation. -/
def node (block indentless : Bool) : Parse Event := do
  let t0 ← peekToken
  if let .aliasOf name := t0.kind then
    popState
    skipToken
    return ⟨.aliasOf name, t0.start, t0.stop⟩
  let mut t := t0
  let start := t0.start
  let mut stop := t0.start
  let mut anchor : Option String := none
  let mut tagged := false
  let mut handle := ""
  let mut suffix := ""
  let mut tagMark : Mark := {}
  match t.kind with
  | .anchor name =>
    anchor := some name
    stop := t.stop
    skipToken
    t ← peekToken
    if let .tag h s := t.kind then
      tagged := true
      handle := h
      suffix := s
      tagMark := t.start
      stop := t.stop
      skipToken
      t ← peekToken
  | .tag h s =>
    tagged := true
    handle := h
    suffix := s
    tagMark := t.start
    stop := t.stop
    skipToken
    t ← peekToken
    if let .anchor name := t.kind then
      anchor := some name
      stop := t.stop
      skipToken
      t ← peekToken
  | _ => pure ()
  let mut tag := ""
  if tagged then
    if handle.isEmpty then tag := suffix
    else
      match (← get).tagDirectives.find? (·.1 == handle) with
      | some (_, pfx) => tag := pfx ++ suffix
      | none => pure ()
      if tag.isEmpty then
        parseFail "while parsing a node" start "found undefined tag handle" tagMark
  if indentless && t.kind == .blockEntry then
    setState .indentlessSequenceEntry
    return ⟨.sequenceStart anchor tag false, start, t.stop⟩
  match t.kind with
  | .scalar text style =>
    popState
    skipToken
    return ⟨.scalar anchor tag text style, start, t.stop⟩
  | .flowSequenceStart =>
    setState .flowSequenceFirstEntry
    return ⟨.sequenceStart anchor tag true, start, t.stop⟩
  | .flowMappingStart =>
    setState .flowMappingFirstKey
    return ⟨.mappingStart anchor tag true, start, t.stop⟩
  | .blockSequenceStart =>
    if block then
      setState .blockSequenceFirstEntry
      return ⟨.sequenceStart anchor tag false, start, t.stop⟩
  | .blockMappingStart =>
    if block then
      setState .blockMappingFirstKey
      return ⟨.mappingStart anchor tag false, start, t.stop⟩
  | _ => pure ()
  if anchor.isSome || !tag.isEmpty then
    popState
    return ⟨.scalar anchor tag "" .plain, start, stop⟩
  parseFail (if block then "while parsing a block node" else "while parsing a flow node") start
    "did not find expected node content" t.start

def blockSequenceEntry (first : Bool) : Parse Event := do
  if first then
    pushMark (← peekToken).start
    skipToken
  let t ← peekToken
  if t.kind == .blockEntry then
    skipToken
    let n ← peekToken
    if n.kind != .blockEntry && n.kind != .blockEnd then
      pushState .blockSequenceEntry
      node true false
    else
      setState .blockSequenceEntry
      return emptyScalar t.stop
  else if t.kind == .blockEnd then
    popState
    let _ ← popMark
    skipToken
    return ⟨.sequenceEnd, t.start, t.stop⟩
  else
    let m ← popMark
    parseFail "while parsing a block collection" m "did not find expected '-' indicator" t.start

/-- An entry of a sequence whose dashes stand at the indentation of the key it belongs to,
or its end. -/
def indentlessSequenceEntry : Parse Event := do
  let t ← peekToken
  if t.kind == .blockEntry then
    skipToken
    let n ← peekToken
    if n.kind != .blockEntry && n.kind != .key && n.kind != .value && n.kind != .blockEnd then
      pushState .indentlessSequenceEntry
      node true false
    else
      setState .indentlessSequenceEntry
      return emptyScalar t.stop
  else
    popState
    return ⟨.sequenceEnd, t.start, t.start⟩

def blockMappingKey (first : Bool) : Parse Event := do
  if first then
    pushMark (← peekToken).start
    skipToken
  let t ← peekToken
  if t.kind == .key then
    skipToken
    let n ← peekToken
    if n.kind != .key && n.kind != .value && n.kind != .blockEnd then
      pushState .blockMappingValue
      node true true
    else
      setState .blockMappingValue
      return emptyScalar t.stop
  else if t.kind == .blockEnd then
    popState
    let _ ← popMark
    skipToken
    return ⟨.mappingEnd, t.start, t.stop⟩
  else
    let m ← popMark
    parseFail "while parsing a block mapping" m "did not find expected key" t.start

def blockMappingValue : Parse Event := do
  let t ← peekToken
  if t.kind == .value then
    skipToken
    let n ← peekToken
    if n.kind != .key && n.kind != .value && n.kind != .blockEnd then
      pushState .blockMappingKey
      node true true
    else
      setState .blockMappingKey
      return emptyScalar t.stop
  else
    setState .blockMappingKey
    return emptyScalar t.start

/-- An entry of a flow sequence (a `?` or a simple key in it starts a mapping of one entry),
or its end. -/
def flowSequenceEntry (first : Bool) : Parse Event := do
  if first then
    pushMark (← peekToken).start
    skipToken
  let mut t ← peekToken
  if t.kind != .flowSequenceEnd then
    if !first then
      if t.kind == .flowEntry then
        skipToken
        t ← peekToken
      else
        let m ← popMark
        parseFail "while parsing a flow sequence" m "did not find expected ',' or ']'" t.start
    if t.kind == .key then
      setState .flowSequenceEntryMappingKey
      skipToken
      return ⟨.mappingStart none "" true, t.start, t.stop⟩
    else if t.kind != .flowSequenceEnd then
      pushState .flowSequenceEntry
      return ← node false false
  popState
  let _ ← popMark
  skipToken
  return ⟨.sequenceEnd, t.start, t.stop⟩

def flowSequenceEntryMappingKey : Parse Event := do
  let t ← peekToken
  if t.kind != .value && t.kind != .flowEntry && t.kind != .flowSequenceEnd then
    pushState .flowSequenceEntryMappingValue
    node false false
  else
    skipToken
    setState .flowSequenceEntryMappingValue
    return emptyScalar t.stop

def flowSequenceEntryMappingValue : Parse Event := do
  let t ← peekToken
  if t.kind == .value then
    skipToken
    let n ← peekToken
    if n.kind != .flowEntry && n.kind != .flowSequenceEnd then
      pushState .flowSequenceEntryMappingEnd
      return ← node false false
  setState .flowSequenceEntryMappingEnd
  return emptyScalar t.start

def flowSequenceEntryMappingEnd : Parse Event := do
  let t ← peekToken
  setState .flowSequenceEntry
  return ⟨.mappingEnd, t.start, t.start⟩

def flowMappingKey (first : Bool) : Parse Event := do
  if first then
    pushMark (← peekToken).start
    skipToken
  let mut t ← peekToken
  if t.kind != .flowMappingEnd then
    if !first then
      if t.kind == .flowEntry then
        skipToken
        t ← peekToken
      else
        let m ← popMark
        parseFail "while parsing a flow mapping" m "did not find expected ',' or '\x7d'" t.start
    if t.kind == .key then
      skipToken
      let n ← peekToken
      if n.kind != .value && n.kind != .flowEntry && n.kind != .flowMappingEnd then
        pushState .flowMappingValue
        return ← node false false
      else
        setState .flowMappingValue
        return emptyScalar n.start
    else if t.kind != .flowMappingEnd then
      pushState .flowMappingEmptyValue
      return ← node false false
  popState
  let _ ← popMark
  skipToken
  return ⟨.mappingEnd, t.start, t.stop⟩

def flowMappingValue (empty : Bool) : Parse Event := do
  let t ← peekToken
  if empty then
    setState .flowMappingKey
    return emptyScalar t.start
  if t.kind == .value then
    skipToken
    let n ← peekToken
    if n.kind != .flowEntry && n.kind != .flowMappingEnd then
      pushState .flowMappingKey
      return ← node false false
    setState .flowMappingKey
    return emptyScalar n.start
  setState .flowMappingKey
  return emptyScalar t.start

def next : Parse Event := do
  let p ← get
  if p.streamEnded || p.state == .finished then return ⟨.streamEnd, {}, {}⟩
  match p.state with
  | .streamStart => streamStart
  | .implicitDocumentStart => documentStart true
  | .documentStart => documentStart false
  | .documentContent =>
    let t ← peekToken
    if isDirective t.kind || t.kind == .documentStart || t.kind == .documentEnd ||
        t.kind == .streamEnd then
      popState
      return emptyScalar t.start
    node true false
  | .documentEnd => documentEnd
  | .blockNode => node true false
  | .blockNodeOrIndentlessSequence => node true true
  | .flowNode => node false false
  | .blockSequenceFirstEntry => blockSequenceEntry true
  | .blockSequenceEntry => blockSequenceEntry false
  | .indentlessSequenceEntry => indentlessSequenceEntry
  | .blockMappingFirstKey => blockMappingKey true
  | .blockMappingKey => blockMappingKey false
  | .blockMappingValue => blockMappingValue
  | .flowSequenceFirstEntry => flowSequenceEntry true
  | .flowSequenceEntry => flowSequenceEntry false
  | .flowSequenceEntryMappingKey => flowSequenceEntryMappingKey
  | .flowSequenceEntryMappingValue => flowSequenceEntryMappingValue
  | .flowSequenceEntryMappingEnd => flowSequenceEntryMappingEnd
  | .flowMappingFirstKey => flowMappingKey true
  | .flowMappingKey => flowMappingKey false
  | .flowMappingValue => flowMappingValue false
  | .flowMappingEmptyValue => flowMappingValue true
  | .finished => return ⟨.streamEnd, {}, {}⟩

end Parser

end Foreman.Yaml
