import Cadence.Yaml.Event

/-!
# YAML documents

A document is the list of node events between its start and its end, each with its position.
An alias refers to the node its anchor names by the number given to that anchor; anchors are
numbered by how many distinct names were seen before, so an anchor name used again takes a new
number, which a later new name may take as well.

A document is read up to its end or up to the first error; the error is kept beside the nodes
read before it, and a reader meets it only if it needs more nodes than were read. An alias to a
name not yet anchored ends the document with an error at the alias. A stream without any
document reads as one document holding a single empty node.
-/
namespace Cadence.Yaml

/-- A node event of a loaded document. -/
inductive Node where
  /-- An alias, by the number of its anchor. -/
  | alias (id : Nat)
  | scalar (tag : Option String) (text : String) (style : ScalarStyle)
  | sequenceStart (tag : Option String)
  | sequenceEnd
  | mappingStart (tag : Option String)
  | mappingEnd
  /-- The place of a value in a stream that holds no document. -/
  | void
  deriving Repr, BEq, Inhabited

/-- The nodes of one document. -/
structure Document where
  nodes : Array (Node × Mark) := #[]
  /-- The error that ended the document early. -/
  error : Option Error := none
  /-- For each anchor number, the place of the node it names. -/
  anchored : List (Nat × Nat) := []
  deriving Inhabited

/-- The anchor names seen so far and their numbers. -/
abbrev Anchors := List (String × Nat)

/-- Sets the value of a key in a list of pairs, in place if the key is there. -/
def setKey {α β : Type} [BEq α] (pairs : List (α × β)) (k : α) (v : β) : List (α × β) :=
  if pairs.any (·.1 == k) then pairs.map fun p => if p.1 == k then (k, v) else p
  else pairs ++ [(k, v)]

namespace Document

/-- Appends a node. -/
def add (d : Document) (node : Node) (mark : Mark) : Document :=
  { d with nodes := d.nodes.push (node, mark) }

/-- Appends a node that may carry an anchor, giving the anchor its number. -/
def addAnchored (d : Document) (anchors : Anchors) (anchor : Option String) (node : Node)
    (mark : Mark) : Document × Anchors :=
  match anchor with
  | none => (d.add node mark, anchors)
  | some name =>
    let id := anchors.length
    ({ d.add node mark with anchored := setKey d.anchored id d.nodes.size }, setKey anchors name id)

/-- The place of the node an anchor number names. -/
def target? (d : Document) (id : Nat) : Option Nat := (d.anchored.find? (·.1 == id)).map (·.2)

end Document

/-- A reader of the documents of a stream. -/
structure Loader where
  events : EventStream
  /-- Documents handed out so far. -/
  count : Nat := 0
  /-- Whether the end of the stream was read. -/
  ended : Bool := false
  deriving Inhabited

namespace Loader

/-- A loader at the start of a text. -/
def ofString (text : String) : Loader := { events := EventStream.ofString text }

/-- Reads events into a document until its end, the end of the stream or an error. Answers the
document (none at the end of a stream that had documents) and whether the stream ended. -/
def collect (first : Bool) : Nat → Anchors → Document → EventStream →
    Option Document × Bool × EventStream
  | 0, _, d, p => (some d, true, p)
  | fuel + 1, anchors, d, p =>
    match p.next with
    | .error e => (some { d with error := some e }, false, p)
    | .ok (ev, p) =>
      match ev.kind with
      | .streamStart | .documentStart => collect first fuel anchors d p
      | .streamEnd =>
        if first then (some (if d.nodes.isEmpty then d.add .void ev.start else d), true, p)
        else (none, true, p)
      | .documentEnd => (some d, false, p)
      | .alias name =>
        match anchors.find? (·.1 == name) with
        | some (_, id) => collect first fuel anchors (d.add (.alias id) ev.start) p
        | none => (some { d with error := some (.unknownAnchor ev.start) }, false, p)
      | .scalar anchor tag text style =>
        let (d, anchors) := d.addAnchored anchors anchor (.scalar tag text style) ev.start
        collect first fuel anchors d p
      | .sequenceStart anchor tag =>
        let (d, anchors) := d.addAnchored anchors anchor (.sequenceStart tag) ev.start
        collect first fuel anchors d p
      | .mappingStart anchor tag =>
        let (d, anchors) := d.addAnchored anchors anchor (.mappingStart tag) ev.start
        collect first fuel anchors d p
      | .sequenceEnd => collect first fuel anchors (d.add .sequenceEnd ev.start) p
      | .mappingEnd => collect first fuel anchors (d.add .mappingEnd ev.start) p

/-- The next document of the stream, if any. -/
def nextDocument (l : Loader) : Option Document × Loader :=
  if l.ended then (none, l)
  else
    let fuel := 8 * (l.events.lexer.rest.length + l.events.lexer.queue.length + 4)
    let (d, ended, events) := collect (l.count == 0) fuel [] {} l.events
    (d, { events, count := l.count + 1, ended })

end Loader

end Cadence.Yaml
