import Cadence.Yaml.Token.Lexer

/-!
# YAML events

A YAML text reads as a stream of events: the bounds of the stream and of each document, the
bounds of each sequence and mapping, scalars and aliases. Anchors and tags ride on the node they
name. An `EventStream` reads them one at a time from the tokens of a `Lexer`; it knows where it
stands in the grammar (in a block mapping after a key, in a flow sequence before an entry, …)
and keeps a stack of the places to return to.

A missing piece of the grammar is an error that names what was expected and where the
enclosing collection or node began: `did not find expected key` while parsing a block mapping,
`did not find expected node content` while parsing a flow node. Where the grammar allows a node
to be left out (a key without a value, `- ` with nothing after it) the stream answers an empty
plain scalar.
-/
namespace Cadence.Yaml

/-- What an event is. -/
inductive EventKind where
  | streamStart
  | streamEnd
  | documentStart
  | documentEnd
  | alias (name : String)
  | scalar (anchor tag : Option String) (text : String) (style : ScalarStyle)
  | sequenceStart (anchor tag : Option String)
  | sequenceEnd
  | mappingStart (anchor tag : Option String)
  | mappingEnd
  deriving Repr, BEq, Inhabited

/-- An event and where it starts. -/
structure Event where
  kind : EventKind
  start : Mark
  deriving Repr, Inhabited

/-- Where an event stream stands in the grammar. -/
inductive Phase where
  | streamStart
  | implicitDocumentStart
  | documentStart
  | documentContent
  | documentEnd
  | blockNode
  | blockNodeOrIndentlessSequence
  | flowNode
  | blockSequenceFirstEntry
  | blockSequenceEntry
  | indentlessSequenceEntry
  | blockMappingFirstKey
  | blockMappingKey
  | blockMappingValue
  | flowSequenceFirstEntry
  | flowSequenceEntry
  | flowSequenceEntryMappingKey
  | flowSequenceEntryMappingValue
  | flowSequenceEntryMappingEnd
  | flowMappingFirstKey
  | flowMappingKey
  | flowMappingValue
  | flowMappingEmptyValue
  | finished
  deriving Repr, BEq, Inhabited

/-- The handles every document knows: `!` for local tags and `!!` for the core schema. -/
def defaultTagHandles : List (String × String) := [("!", "!"), ("!!", "tag:yaml.org,2002:")]

/-- A reader of events. -/
structure EventStream where
  lexer : Lexer
  phase : Phase := .streamStart
  /-- Where to go when the current node is done, innermost first. -/
  phases : List Phase := []
  /-- Where each open collection began, innermost first. -/
  marks : List Mark := []
  /-- The tag handles of the current document and their prefixes. -/
  tags : List (String × String) := []
  deriving Inhabited

/-- An error of the grammar: the problem and where it was found, and what was being read and
where it began. -/
def grammarError (problem : String) (position : Mark) (context : Option (String × Mark)) : Error :=
  .malformed .parser problem position context

/-- Whether a token is a directive, a document marker or the end of the stream. -/
def TokenKind.endsDocument : TokenKind → Bool
  | .versionDirective .. | .tagDirective .. | .documentStart | .documentEnd | .streamEnd => true
  | _ => false

/-- Whether a token is a directive, `---` or the end of the stream: what keeps the first
document from starting without `---`. A `...` there does not, so it is read as the first
document's content, where no node may start with it. -/
def TokenKind.precedesExplicitDocument : TokenKind → Bool
  | .versionDirective .. | .tagDirective .. | .documentStart | .streamEnd => true
  | _ => false

namespace EventStream

/-- An event stream at the start of a text. -/
def ofString (text : String) : EventStream := { lexer := Lexer.ofString text }

/-- The next token. -/
def peek (p : EventStream) : Except Error (Token × EventStream) := do
  let (t, lexer) ← p.lexer.peek
  pure (t, { p with lexer })

/-- Takes the next token. -/
def advance (p : EventStream) : EventStream := { p with lexer := p.lexer.advance }

/-- Remembers where to go once the node that follows is done. -/
def push (p : EventStream) (next : Phase) : EventStream := { p with phases := next :: p.phases }

/-- Returns to the place remembered last. -/
def pop (p : EventStream) : EventStream :=
  { p with phase := p.phases.headD .finished, phases := p.phases.tail }

/-- Moves to a phase. -/
def goto (p : EventStream) (next : Phase) : EventStream := { p with phase := next }

/-- Forgets where the innermost collection began. -/
def dropMark (p : EventStream) : EventStream := { p with marks := p.marks.tail }

/-- An empty plain scalar, standing for a node that was left out. -/
def emptyScalar (mark : Mark) : Event := ⟨.scalar none none "" .plain, mark⟩

/-- The directives before a document. A second `%YAML`, a version other than 1.1 or 1.2, or a
handle declared twice is an error. Answers the handles declared, then the default ones that
were not. -/
def directives : Nat → Bool → List (String × String) → EventStream →
    Except Error (List (String × String) × EventStream)
  | 0, _, tags, p => .ok (tags, p)
  | fuel + 1, seenVersion, tags, p => do
    let (t, p) ← p.peek
    match t.kind with
    | .versionDirective major minor =>
      if seenVersion then throw (grammarError "found duplicate %YAML directive" t.start none)
      if major != 1 || (minor != 1 && minor != 2) then
        throw (grammarError "found incompatible YAML document" t.start none)
      directives fuel true tags p.advance
    | .tagDirective handle pfx =>
      if tags.any (·.1 == handle) then
        throw (grammarError "found duplicate %TAG directive" t.start none)
      directives fuel seenVersion (tags ++ [(handle, pfx)]) p.advance
    | _ =>
      let extra := defaultTagHandles.filter fun d => !tags.any (·.1 == d.1)
      pure (tags ++ extra, p)

/-- Takes `...` markers. -/
def skipDocumentEnds : Nat → EventStream → Except Error (Token × EventStream)
  | 0, p => p.peek
  | fuel + 1, p => do
    let (t, p) ← p.peek
    if t.kind == .documentEnd then skipDocumentEnds fuel p.advance else pure (t, p)

/-- The budget of a loop over tokens: one more than the characters left. -/
def budget (p : EventStream) : Nat := p.lexer.rest.length + p.lexer.queue.length + 2

/-- The start of a document, or the end of the stream. A document without `---` may only be
the first; before any other, the `...` markers are skipped. -/
def documentStart (p : EventStream) (implicit : Bool) : Except Error (Event × EventStream) := do
  let (t, p) ← if implicit then p.peek else skipDocumentEnds p.budget p
  if implicit && !t.kind.precedesExplicitDocument then
    let (tags, p) ← directives p.budget false [] p
    pure (⟨.documentStart, t.start⟩, { p.push .documentEnd with phase := .blockNode, tags })
  else if t.kind != .streamEnd then
    let (tags, p) ← directives p.budget false [] p
    let (t', p) ← p.peek
    if t'.kind != .documentStart then
      throw (grammarError "did not find expected <document start>" t'.start none)
    pure (⟨.documentStart, t.start⟩,
      { (p.push .documentEnd).advance with phase := .documentContent, tags })
  else
    pure (⟨.streamEnd, t.start⟩, p.advance.goto .finished)

/-- The end of a document, with or without `...`. -/
def documentEnd (p : EventStream) : Except Error (Event × EventStream) := do
  let (t, p) ← p.peek
  let p := if t.kind == .documentEnd then p.advance else p
  pure (⟨.documentEnd, t.start⟩, { p with phase := .documentStart, tags := [] })

/-- The anchor and tag of a node, in either order, and the token after them. -/
def properties (p : EventStream) (t : Token) :
    Except Error (Option String × Option (String × String) × Mark × Token × EventStream) := do
  match t.kind with
  | .anchor name =>
    let (t', p) ← p.advance.peek
    match t'.kind with
    | .tag handle suffix =>
      let (t'', p) ← p.advance.peek
      pure (some name, some (handle, suffix), t'.start, t'', p)
    | _ => pure (some name, none, t.start, t', p)
  | .tag handle suffix =>
    let (t', p) ← p.advance.peek
    match t'.kind with
    | .anchor name =>
      let (t'', p) ← p.advance.peek
      pure (some name, some (handle, suffix), t.start, t'', p)
    | _ => pure (none, some (handle, suffix), t.start, t', p)
  | _ => pure (none, none, t.start, t, p)

/-- A node: an alias, a scalar, or the start of a collection, with its anchor and tag. A node
with an anchor or tag and nothing else is an empty scalar. `block` allows block collections;
`indentless` allows a sequence whose `-` stand at the indentation of the mapping around it. -/
def node (p : EventStream) (block indentless : Bool) : Except Error (Event × EventStream) := do
  let (t, p) ← p.peek
  if let .alias name := t.kind then
    return (⟨.alias name, t.start⟩, p.advance.pop)
  let start := t.start
  let (anchor, tagParts, tagMark, t, p) ← p.properties t
  let tag ← match tagParts with
    | none => pure none
    | some (handle, suffix) =>
      if handle.isEmpty then pure (some suffix)
      else match p.tags.find? (·.1 == handle) with
        | some (_, pfx) => pure (some (pfx ++ suffix))
        | none => throw (grammarError "found undefined tag handle" tagMark
            (some ("while parsing a node", start)))
  let fallback : Except Error (Event × EventStream) :=
    if anchor.isSome || tag.isSome then pure (⟨.scalar anchor tag "" .plain, start⟩, p.pop)
    else throw (grammarError "did not find expected node content" t.start
      (some (if block then "while parsing a block node" else "while parsing a flow node", start)))
  if indentless && t.kind == .blockEntry then
    return (⟨.sequenceStart anchor tag, start⟩, p.goto .indentlessSequenceEntry)
  match t.kind with
  | .scalar text style => pure (⟨.scalar anchor tag text style, start⟩, p.advance.pop)
  | .flowSequenceStart => pure (⟨.sequenceStart anchor tag, start⟩, p.goto .flowSequenceFirstEntry)
  | .flowMappingStart => pure (⟨.mappingStart anchor tag, start⟩, p.goto .flowMappingFirstKey)
  | .blockSequenceStart =>
    if block then pure (⟨.sequenceStart anchor tag, start⟩, p.goto .blockSequenceFirstEntry)
    else fallback
  | .blockMappingStart =>
    if block then pure (⟨.mappingStart anchor tag, start⟩, p.goto .blockMappingFirstKey)
    else fallback
  | _ => fallback

/-- On the first entry of a collection, remembers where it began and takes its start token. -/
def openCollection (p : EventStream) (first : Bool) : Except Error EventStream := do
  if first then
    let (t, p) ← p.peek
    pure { p.advance with marks := t.start :: p.marks }
  else pure p

/-- An entry of a block sequence, or its end. -/
def blockSequenceEntry (p : EventStream) (first : Bool) : Except Error (Event × EventStream) := do
  let p ← p.openCollection first
  let (t, p) ← p.peek
  match t.kind with
  | .blockEntry =>
    let (t', p) ← p.advance.peek
    if t'.kind != .blockEntry && t'.kind != .blockEnd then
      (p.push .blockSequenceEntry).node true false
    else pure (emptyScalar t.stop, p.goto .blockSequenceEntry)
  | .blockEnd => pure (⟨.sequenceEnd, t.start⟩, p.pop.dropMark.advance)
  | _ =>
    throw (grammarError "did not find expected '-' indicator" t.start
      (some ("while parsing a block collection", p.marks.headD {})))

/-- An entry of a sequence without indentation, or its end. -/
def indentlessSequenceEntry (p : EventStream) : Except Error (Event × EventStream) := do
  let (t, p) ← p.peek
  if t.kind == .blockEntry then
    let (t', p) ← p.advance.peek
    if !([TokenKind.blockEntry, .key, .value, .blockEnd].contains t'.kind) then
      (p.push .indentlessSequenceEntry).node true false
    else pure (emptyScalar t.stop, p.goto .indentlessSequenceEntry)
  else pure (⟨.sequenceEnd, t.start⟩, p.pop)

/-- A key of a block mapping, or its end. -/
def blockMappingKey (p : EventStream) (first : Bool) : Except Error (Event × EventStream) := do
  let p ← p.openCollection first
  let (t, p) ← p.peek
  match t.kind with
  | .key =>
    let (t', p) ← p.advance.peek
    if !([TokenKind.key, .value, .blockEnd].contains t'.kind) then
      (p.push .blockMappingValue).node true true
    else pure (emptyScalar t.stop, p.goto .blockMappingValue)
  | .blockEnd => pure (⟨.mappingEnd, t.start⟩, p.pop.dropMark.advance)
  | _ =>
    throw (grammarError "did not find expected key" t.start
      (some ("while parsing a block mapping", p.marks.headD {})))

/-- A value of a block mapping; an empty scalar when there is none. -/
def blockMappingValue (p : EventStream) : Except Error (Event × EventStream) := do
  let (t, p) ← p.peek
  if t.kind == .value then
    let (t', p) ← p.advance.peek
    if !([TokenKind.key, .value, .blockEnd].contains t'.kind) then
      (p.push .blockMappingKey).node true true
    else pure (emptyScalar t.stop, p.goto .blockMappingKey)
  else pure (emptyScalar t.start, p.goto .blockMappingKey)

/-- An entry of a flow sequence, or its end. Entries after the first follow a `,`; an entry
`key: value` is a mapping of one pair. -/
def flowSequenceEntry (p : EventStream) (first : Bool) : Except Error (Event × EventStream) := do
  let p ← p.openCollection first
  let (t, p) ← p.peek
  let closed := pure (⟨.sequenceEnd, t.start⟩, p.pop.dropMark.advance)
  if t.kind == .flowSequenceEnd then closed
  else
    let (t, p) ← if first then pure (t, p)
      else if t.kind == .flowEntry then p.advance.peek
      else throw (grammarError "did not find expected ',' or ']'" t.start
        (some ("while parsing a flow sequence", p.marks.headD {})))
    match t.kind with
    | .key => pure (⟨.mappingStart none none, t.start⟩, p.advance.goto .flowSequenceEntryMappingKey)
    | .flowSequenceEnd => pure (⟨.sequenceEnd, t.start⟩, p.pop.dropMark.advance)
    | _ => (p.push .flowSequenceEntry).node false false

/-- The key of a one-pair mapping inside a flow sequence. -/
def flowSequenceEntryMappingKey (p : EventStream) : Except Error (Event × EventStream) := do
  let (t, p) ← p.peek
  if !([TokenKind.value, .flowEntry, .flowSequenceEnd].contains t.kind) then
    (p.push .flowSequenceEntryMappingValue).node false false
  else pure (emptyScalar t.start, p.goto .flowSequenceEntryMappingValue)

/-- The value of a one-pair mapping inside a flow sequence. -/
def flowSequenceEntryMappingValue (p : EventStream) : Except Error (Event × EventStream) := do
  let (t, p) ← p.peek
  if t.kind == .value then
    let (t', p) ← p.advance.peek
    if t'.kind != .flowEntry && t'.kind != .flowSequenceEnd then
      (p.push .flowSequenceEntryMappingEnd).node false false
    else pure (emptyScalar t'.start, p.goto .flowSequenceEntryMappingEnd)
  else pure (emptyScalar t.start, p.goto .flowSequenceEntryMappingEnd)

/-- The end of a one-pair mapping inside a flow sequence. -/
def flowSequenceEntryMappingEnd (p : EventStream) : Except Error (Event × EventStream) := do
  let (t, p) ← p.peek
  pure (⟨.mappingEnd, t.start⟩, p.goto .flowSequenceEntry)

/-- A key of a flow mapping, or its end. Keys after the first follow a `,`; a node without
`:` is a key whose value is empty. -/
def flowMappingKey (p : EventStream) (first : Bool) : Except Error (Event × EventStream) := do
  let p ← p.openCollection first
  let (t, p) ← p.peek
  if t.kind == .flowMappingEnd then
    pure (⟨.mappingEnd, t.start⟩, p.pop.dropMark.advance)
  else
    let (t, p) ← if first then pure (t, p)
      else if t.kind == .flowEntry then p.advance.peek
      else throw (grammarError "did not find expected ',' or '\x7d'" t.start
        (some ("while parsing a flow mapping", p.marks.headD {})))
    match t.kind with
    | .key =>
      let (t', p) ← p.advance.peek
      if !([TokenKind.value, .flowEntry, .flowMappingEnd].contains t'.kind) then
        (p.push .flowMappingValue).node false false
      else pure (emptyScalar t'.start, p.goto .flowMappingValue)
    | .flowMappingEnd => pure (⟨.mappingEnd, t.start⟩, p.pop.dropMark.advance)
    | _ => (p.push .flowMappingEmptyValue).node false false

/-- A value of a flow mapping; an empty scalar when there is none. -/
def flowMappingValue (p : EventStream) (empty : Bool) : Except Error (Event × EventStream) := do
  let (t, p) ← p.peek
  if empty then pure (emptyScalar t.start, p.goto .flowMappingKey)
  else if t.kind == .value then
    let (t', p) ← p.advance.peek
    if t'.kind != .flowEntry && t'.kind != .flowMappingEnd then
      (p.push .flowMappingKey).node false false
    else pure (emptyScalar t'.start, p.goto .flowMappingKey)
  else pure (emptyScalar t.start, p.goto .flowMappingKey)

/-- The start of the stream. -/
def streamStart (p : EventStream) : Except Error (Event × EventStream) := do
  let (t, p) ← p.peek
  pure (⟨.streamStart, t.start⟩, p.advance.goto .implicitDocumentStart)

/-- The next event. After the end of the stream it answers the end of the stream again. -/
def next (p : EventStream) : Except Error (Event × EventStream) :=
  match p.phase with
  | .streamStart => p.streamStart
  | .implicitDocumentStart => p.documentStart true
  | .documentStart => p.documentStart false
  | .documentContent => do
    let (t, p) ← p.peek
    if t.kind.endsDocument then pure (emptyScalar t.start, p.pop) else p.node true false
  | .documentEnd => p.documentEnd
  | .blockNode => p.node true false
  | .blockNodeOrIndentlessSequence => p.node true true
  | .flowNode => p.node false false
  | .blockSequenceFirstEntry => p.blockSequenceEntry true
  | .blockSequenceEntry => p.blockSequenceEntry false
  | .indentlessSequenceEntry => p.indentlessSequenceEntry
  | .blockMappingFirstKey => p.blockMappingKey true
  | .blockMappingKey => p.blockMappingKey false
  | .blockMappingValue => p.blockMappingValue
  | .flowSequenceFirstEntry => p.flowSequenceEntry true
  | .flowSequenceEntry => p.flowSequenceEntry false
  | .flowSequenceEntryMappingKey => p.flowSequenceEntryMappingKey
  | .flowSequenceEntryMappingValue => p.flowSequenceEntryMappingValue
  | .flowSequenceEntryMappingEnd => p.flowSequenceEntryMappingEnd
  | .flowMappingFirstKey => p.flowMappingKey true
  | .flowMappingKey => p.flowMappingKey false
  | .flowMappingValue => p.flowMappingValue false
  | .flowMappingEmptyValue => p.flowMappingValue true
  | .finished => pure (⟨.streamEnd, p.lexer.mark⟩, p)

end EventStream

end Cadence.Yaml
