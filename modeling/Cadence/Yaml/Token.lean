import Cadence.Yaml.Error

/-!
# YAML tokens

The pieces a YAML text is cut into before its structure is read: stream and document bounds,
directives, the bounds of block and flow collections, the entry, key and value indicators,
anchors, aliases, tags and scalars. Every token records where it starts and ends.
-/
namespace Cadence.Yaml

/-- How a scalar was written. -/
inductive ScalarStyle where
  | plain
  | singleQuoted
  | doubleQuoted
  | literal
  | folded
  deriving Repr, BEq, DecidableEq, Inhabited

/-- What a token is. -/
inductive TokenKind where
  | streamStart
  | streamEnd
  | versionDirective (major minor : Nat)
  | tagDirective (handle pfx : String)
  | documentStart
  | documentEnd
  | blockSequenceStart
  | blockMappingStart
  | blockEnd
  | flowSequenceStart
  | flowSequenceEnd
  | flowMappingStart
  | flowMappingEnd
  | blockEntry
  | flowEntry
  | key
  | value
  | alias (name : String)
  | anchor (name : String)
  /-- A tag, as bytes: one character of the same code for each. -/
  | tag (handle suffix : String)
  | scalar (text : String) (style : ScalarStyle)
  deriving Repr, BEq, Inhabited

/-- A token and the span it covers. -/
structure Token where
  kind : TokenKind
  start : Mark
  stop : Mark
  deriving Repr, Inhabited

/-- A line break: carriage return, line feed, next line, line or paragraph separator. -/
def isBreak (c : Char) : Bool :=
  c == '\r' || c == '\n' || c == '\x85' || c == '\u2028' || c == '\u2029'

/-- A blank: space or tab. -/
def isBlank (c : Char) : Bool := c == ' ' || c == '\t'

/-- The end of the text, which reads as NUL (a character the text itself cannot hold). -/
def isEnd (c : Char) : Bool := c == '\x00'

/-- A line break or the end of the text. -/
def isBreakOrEnd (c : Char) : Bool := isBreak c || isEnd c

/-- A blank, a line break or the end of the text. -/
def isSpaceOrEnd (c : Char) : Bool := isBlank c || isBreakOrEnd c

/-- A character of anchor names and tag handles: ASCII letters and digits, `_` and `-`. -/
def isWordChar (c : Char) : Bool := c.isAlphanum || c == '_' || c == '-'

end Cadence.Yaml
