import Cadence.Yaml.Document
import Cadence.Yaml.Scalar
import Cadence.Decode.Json

/-!
# Typed values from YAML

Reading a configuration and a count out of a YAML text. The text must hold exactly one
document; the value is read from its nodes, aliases followed to the node their anchor names.

* A count is a plain scalar spelling a non-negative integer below 2^64 (`+5` and `0x10` too).
* A text that may be absent is absent for the empty value (an empty or `null` plain scalar, or
  nothing at all) and otherwise the scalar's text, whatever its type would be.
* A policy is a scalar naming it, or a node tagged `!contain` or `!propagate`.
* A configuration is a mapping whose entries of unknown keys are skipped; each known key may
  appear once. An empty document, or an empty plain scalar, is the default configuration.

A value that does not fit is described as its scalar reads (`integer -1`, `floating point 1.5`,
`unit value`) or as `sequence` or `map`, with the key it stands under and its position. A syntax
error of the text is met only where the reading needs a node that the error kept from being
read; after a complete value, it is reported before a second document is looked for.
-/
namespace Cadence.Decode

/-- A tag of the core schema. -/
def coreTag (name : String) : String := "tag:yaml.org,2002:" ++ name

/-- Why a scalar with this tag and style does not fit where `expected` was wanted. -/
def scalarMismatch (tag : Option String) (text : String) (style : Yaml.ScalarStyle)
    (expected : String) : Error :=
  let untagged : Error :=
    if style == .plain then .invalidType (Yaml.Reading.ofPlain text).found expected
    else .invalidType (.str text) expected
  match tag with
  | none => untagged
  | some t =>
    if t == coreTag "bool" then
      match Yaml.boolOf? text with
      | some b => .invalidType (.bool b) expected
      | none => .invalidValue (.str text) "a boolean"
    else if t == coreTag "int" then
      match Yaml.integerOf? text with
      | some r => .invalidType r.found expected
      | none => .invalidValue (.str text) "an integer"
    else if t == coreTag "float" then
      match Yaml.realText? text with
      | some r => .invalidType (.float r) expected
      | none => .invalidValue (.str text) "a float"
    else if t == coreTag "null" then
      if Yaml.isNullText text then .invalidType .unit expected
      else .invalidValue (.str text) "null"
    else if t.startsWith "!" then untagged
    else .invalidType (.str text) expected

/-- A reader's error as an error of loading YAML, without a place yet. -/
def Error.toYaml (e : Error) : Yaml.Error := .mismatch (e.message .yaml) none

/-- Gives an error without a place the path and position of the value it is about. -/
def placed (e : Yaml.Error) (mark : Yaml.Mark) (path : String) : Yaml.Error :=
  match e with
  | .mismatch m none => .mismatch m (some (path, mark))
  | e => e

/-- Why a node does not fit where `expected` was wanted. -/
def nodeMismatch (n : Yaml.Node) (expected : String) : Yaml.Error :=
  match n with
  | .scalar tag text style => (scalarMismatch tag text style expected).toYaml
  | .sequenceStart _ => (Error.invalidType .seq expected).toYaml
  | .mappingStart _ => (Error.invalidType .map expected).toYaml
  | _ => .endOfStream

/-- A position among the nodes of a document. -/
structure Cursor where
  doc : Yaml.Document
  pos : Nat := 0
  deriving Inhabited

namespace Cursor

/-- The node here; past the last node, the error that ended the document, or the end. -/
def peek (c : Cursor) : Except Yaml.Error (Yaml.Node × Yaml.Mark) :=
  match c.doc.nodes[c.pos]? with
  | some x => .ok x
  | none => .error (c.doc.error.getD .endOfStream)

/-- The node here, and the cursor after it. -/
def next (c : Cursor) : Except Yaml.Error (Yaml.Node × Yaml.Mark × Cursor) := do
  let (n, m) ← c.peek
  pure (n, m, { c with pos := c.pos + 1 })

/-- The node here, an alias followed to the node its anchor names, and the cursor after it. -/
def resolve (c : Cursor) : Except Yaml.Error (Yaml.Node × Yaml.Mark × Cursor) := do
  let (n, m, after) ← c.next
  match n with
  | .alias id =>
    match c.doc.target? id with
    | some pos =>
      let (n, m, _) ← { c with pos }.next
      pure (n, m, after)
    | none => pure (n, m, after)
  | _ => pure (n, m, after)

/-- Skips one node and all nodes inside it. -/
def skipNode : Nat → Nat → Cursor → Except Yaml.Error Cursor
  | 0, _, c => pure c
  | fuel + 1, depth, c => do
    let (n, _, c) ← c.next
    let depth := match n with
      | .sequenceStart _ | .mappingStart _ => depth + 1
      | .sequenceEnd | .mappingEnd => depth - 1
      | _ => depth
    if depth == 0 then pure c else skipNode fuel depth c

end Cursor

/-- A count below 2^64 at `path`: a plain scalar, whatever its tag, or a literal block scalar
tagged as an integer, spelling a non-negative integer. -/
def readCount (c : Cursor) (path : String) : Except Yaml.Error (Nat × Cursor) := do
  let (n, m, c) ← c.resolve
  let count : Option Nat := match n with
    | .scalar tag text style =>
      let integral : Bool := match style, tag with
        | .plain, _ => true
        | .literal, some t => t == coreTag "int"
        | _, _ => false
      if integral then Yaml.unsignedOf? text (Nat.pow 2 64) else none
    | _ => none
  match count with
  | some v => pure (v, c)
  | none => throw (placed (nodeMismatch n "u64") m path)

/-- A text that may be absent, at `path`. -/
def readOptionalText (c : Cursor) (path : String) : Except Yaml.Error (Option String × Cursor) := do
  let (n, m, c) ← c.resolve
  match n with
  | .scalar tag text style =>
    if style != .plain then pure (some text, c)
    else match tag with
      | some t =>
        if t != coreTag "null" then pure (some text, c)
        else if Yaml.isNullText text then pure (none, c)
        else throw (Error.invalidValue (.str text) "null").toYaml
      | none => pure (if text.isEmpty || Yaml.isNullText text then none else some text, c)
  | .void => pure (none, c)
  | n => throw (placed (nodeMismatch n "a string") m path)

/-- The variant a local tag names: the tag without its `!`, or `!` itself, when its bytes
spell UTF-8 text. -/
def variantOfTag : Option String → Option String
  | some t =>
    if t.startsWith "!" then
      let name := if t.length > 1 then (t.drop 1).toString else t
      String.fromUTF8? (ByteArray.mk (name.toList.map fun ch => ch.toNat.toUInt8).toArray)
    else none
  | none => none

/-- A failure policy at `path`. -/
def readPolicy (c : Cursor) (path : String) : Except Yaml.Error (FailurePolicy × Cursor) := do
  let (n, m, c) ← c.resolve
  let fail (e : Error) : Yaml.Error := placed e.toYaml m path
  let named (name : String) : Except Yaml.Error FailurePolicy :=
    match policyOfName name with
    | .ok p => pure p
    | .error e => throw (fail e)
  -- the variant a tag names is read past the value's own reader: an unknown name is placed
  -- by the mapping around the value
  let tagged (name : String) : Except Yaml.Error FailurePolicy :=
    (policyOfName name).mapError Error.toYaml
  match n with
  | .scalar tag text style =>
    match variantOfTag tag with
    | some name =>
      let p ← tagged name
      if style == .plain && (text.isEmpty || Yaml.isNullText text) then pure (p, c)
      else throw (fail (.invalidValue (.str text) "null"))
    | none => pure (← named text, c)
  | .mappingStart tag | .sequenceStart tag =>
    let found : Found := if n matches .mappingStart _ then .map else .seq
    match variantOfTag tag with
    | some name =>
      let _ ← tagged name
      throw (fail (.invalidType found "unit"))
    | none => throw (fail (.invalidType found "a YAML tag starting with '!'"))
  | _ => throw .endOfStream

/-- The keys a configuration knows. -/
def configKeys : List String := ["log_level", "default_interval_ms", "failure_policy"]

/-- Reads the value of a known configuration key, found at `path`, into `cfg`. -/
def readConfigValue (cfg : Config) (key path : String) (c : Cursor) :
    Except Yaml.Error (Config × Cursor) :=
  if key == "log_level" then do
    let (v, c) ← readOptionalText c path
    pure ({ cfg with logLevel := v }, c)
  else if key == "default_interval_ms" then do
    let (v, c) ← readCount c path
    pure ({ cfg with defaultIntervalMs := v }, c)
  else do
    let (v, c) ← readPolicy c path
    pure ({ cfg with failurePolicy := v }, c)

/-- The entries of a configuration mapping, up to its end. -/
def readEntries : Nat → Config → List String → Cursor → Except Yaml.Error (Config × Cursor)
  | 0, cfg, _, c => pure (cfg, c)
  | fuel + 1, cfg, seen, c => do
    let (n, _) ← c.peek
    match n with
    | .mappingEnd | .void => pure (cfg, { c with pos := c.pos + 1 })
    | _ =>
      let (key, km, c) ← c.resolve
      let key ← match key with
        | .scalar _ text _ => pure text
        | other => throw (placed (nodeMismatch other "field identifier") km ".")
      let path := if n matches .scalar .. then key else "?"
      if configKeys.contains key then
        if seen.contains key then throw (Error.duplicateField key).toYaml
        let (cfg, c) ← readConfigValue cfg key path c
        readEntries fuel cfg (key :: seen) c
      else
        let c ← Cursor.skipNode (c.doc.nodes.size + 1) 0 c
        readEntries fuel cfg seen c

/-- A configuration, the whole value of a document. -/
def readConfig (c : Cursor) : Except Yaml.Error (Config × Cursor) := do
  let (n, m, c) ← c.resolve
  match n with
  | .mappingStart _ =>
    match readEntries (c.doc.nodes.size + 1) {} [] c with
    | .ok r => pure r
    | .error e => throw (placed e m ".")
  | .void => pure ({}, c)
  | .scalar _ "" .plain => pure ({}, c)
  | n => throw (placed (nodeMismatch n "struct LoopConfig") m ".")

/-- Reads the one document of a text with `read`. A syntax error after the value, or a second
document, is an error. -/
def ofYamlText {α : Type} (read : Cursor → Except Yaml.Error (α × Cursor)) (text : String) :
    Except Yaml.Error α :=
  let loader := Yaml.Loader.ofString text
  match loader.nextDocument with
  | (none, _) => .error .endOfStream
  | (some doc, loader) => do
    let (v, _) ← read { doc }
    if let some e := doc.error then throw e
    match loader.nextDocument with
    | (none, _) => pure v
    | (some _, _) => throw .moreThanOneDocument

/-- A configuration from a YAML text. -/
def configOfYaml (text : String) : Except Yaml.Error Config := ofYamlText readConfig text

/-- A count from a YAML text. -/
def countOfYaml (text : String) : Except Yaml.Error Nat := ofYamlText (readCount · ".") text

end Cadence.Decode
