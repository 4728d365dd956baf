import Cadence.Text.Quoted

/-!
# YAML errors

A YAML text fails to load either because it is not well-formed YAML, or because its value does
not fit the type it is read into, or because it holds no value or more than one document.

Positions are marks: the byte index, line and column of a character, all counted from zero; they are
shown counted from one, as `line L column C`. A position at the very start is not shown.

* A text with a control character cannot be read at all; the error gives its byte offset.
* A syntax error names its problem and where it was found, and may name what was being read
  (`while parsing a block mapping`) and where that began; the second position is shown only
  when it differs from the first.
* A type error may carry the path of the value within the document (`default_interval_ms`,
  `.` for the whole) and the position of the value. The path is shown unless it is `.`.
-/
namespace Cadence.Yaml

/-- A position in a YAML text, counted from zero. -/
structure Mark where
  index : Nat := 0
  line : Nat := 0
  column : Nat := 0
  deriving Repr, BEq, Inhabited

namespace Mark

/-- Whether a mark is at the very start of the text. -/
def atStart (m : Mark) : Bool := m.line == 0 && m.column == 0

/-- A position as text, counted from one. -/
def describe (m : Mark) : String :=
  "line " ++ toString (m.line + 1) ++ " column " ++ toString (m.column + 1)

/-- The diagnostic form of a mark. -/
def debugText (m : Mark) : String :=
  if m.atStart then "Mark \x7b index: " ++ toString m.index ++ " \x7d"
  else "Mark \x7b line: " ++ toString (m.line + 1) ++ ", column: " ++ toString (m.column + 1) ++ " \x7d"

end Mark

/-- The stage at which a text was found not to be well-formed. -/
inductive Stage where
  | scanner
  | parser
  deriving Repr, BEq, Inhabited

/-- Why a YAML text could not be loaded. -/
inductive Error where
  /-- Not well-formed: the problem and its position, and what was being read and where it
  began. -/
  | malformed (stage : Stage) (problem : String) (position : Mark) (context : Option (String × Mark))
  /-- The value does not fit: the message, and the path and position of the value when known. -/
  | mismatch (message : String) (place : Option (String × Mark))
  /-- The text holds no value. -/
  | endOfStream
  /-- The text holds more than one document. -/
  | moreThanOneDocument
  /-- An alias names no anchor. -/
  | unknownAnchor (position : Mark)
  /-- The value nests too deeply. -/
  | recursionLimit (position : Mark)
  /-- The text holds a character YAML does not allow (a control character), at this byte
  offset. -/
  | unreadable (offset : Nat)
  deriving Repr, BEq, Inhabited

namespace Error

/-- The message of an error, without its position. -/
def bareMessage : Error → String
  | .malformed _ problem _ _ => problem
  | .mismatch m none => m
  | .mismatch m (some (path, _)) => (if path == "." then "" else path ++ ": ") ++ m
  | .endOfStream => "EOF while parsing a value"
  | .moreThanOneDocument =>
    "deserializing from YAML containing more than one document is not supported"
  | .unknownAnchor _ => "unknown anchor"
  | .recursionLimit _ => "recursion limit exceeded"
  | .unreadable _ => "control characters are not allowed"

/-- The position an error is shown with, if any. -/
def mark? : Error → Option Mark
  | .mismatch _ (some (_, m)) => some m
  | .unknownAnchor m => some m
  | .recursionLimit m => some m
  | _ => none

/-- The text of an error. -/
def message : Error → String
  | .malformed _ problem m context =>
    let head := problem ++ (if m.atStart then "" else " at " ++ m.describe)
    match context with
    | none => head
    | some (what, cm) =>
      head ++ ", " ++ what ++
        (if !cm.atStart && (cm.line != m.line || cm.column != m.column) then " at " ++ cm.describe
         else "")
  | .unreadable offset =>
    "control characters are not allowed" ++
      (if offset == 0 then "" else " at position " ++ toString offset)
  | e =>
    match e.mark? with
    | some m => e.bareMessage ++ (if m.atStart then "" else " at " ++ m.describe)
    | none => e.bareMessage

/-- The diagnostic form of an error. -/
def debugText : Error → String
  | .malformed stage problem m context =>
    let kind := match stage with
      | .scanner => "SCANNER"
      | .parser => "PARSER"
    let fields := ["kind: " ++ kind, "problem: " ++ Text.quoted problem] ++
      (if m.atStart then [] else ["problem_mark: " ++ m.debugText]) ++
      (match context with
       | none => []
       | some (what, cm) =>
         ["context: " ++ Text.quoted what] ++
           (if cm.atStart then [] else ["context_mark: " ++ cm.debugText]))
    "Error \x7b " ++ ", ".intercalate fields ++ " \x7d"
  | .unreadable offset =>
    "Error \x7b kind: READER, problem: " ++ Text.quoted "control characters are not allowed" ++
      (if offset == 0 then "" else ", problem_offset: " ++ toString offset) ++ " \x7d"
  | e =>
    "Error(" ++ Text.quoted e.bareMessage ++
      (match e.mark? with
       | some m => ", line: " ++ toString (m.line + 1) ++ ", column: " ++ toString (m.column + 1)
       | none => "") ++ ")"

end Error

end Cadence.Yaml
