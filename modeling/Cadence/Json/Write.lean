import Cadence.Json.Basic
import Cadence.Number.Shortest

/-!
# Writing JSON text

Two layouts of one value. The compact layout has no blanks at all. The pretty layout puts each
member and item on a line of its own, indented by two spaces per level, with `": "` between a
key and its value; an empty array or object stays `[]` or `{}`.

In strings, the quote and the backslash are escaped, the control characters below U+0020 are
written as `\b`, `\f`, `\n`, `\r`, `\t` or `\u00xx` with lower-case hex digits, and every other
character, non-ASCII text included, is written as itself.
-/
namespace Cadence.Json

/-- The lower-case hexadecimal digit of a value below 16. -/
def hexDigit (n : Nat) : Char :=
  if n < 10 then Char.ofNat ('0'.toNat + n) else Char.ofNat ('a'.toNat + n - 10)

/-- One character of a string's body, escaped as the format requires. -/
def escapeChar (c : Char) : List Char :=
  match c with
  | '"' => ['\\', '"']
  | '\\' => ['\\', '\\']
  | '\n' => ['\\', 'n']
  | '\r' => ['\\', 'r']
  | '\t' => ['\\', 't']
  | '\x08' => ['\\', 'b']
  | '\x0c' => ['\\', 'f']
  | c =>
    if c.toNat < 0x20 then ['\\', 'u', '0', '0', hexDigit (c.toNat / 16), hexDigit (c.toNat % 16)]
    else [c]

/-- A string written as a JSON string literal, quotes included. -/
def quote (s : String) : String :=
  String.ofList ('"' :: (s.toList.flatMap escapeChar ++ ['"']))

/-- The text of a number. -/
def Number.render : Number → String
  | .natural n => toString n
  | .negative n => toString n
  | .real v => v.scientificText

mutual

/-- The compact text of a value. -/
def compact : Json → String
  | .null => "null"
  | .bool b => if b then "true" else "false"
  | .number n => n.render
  | .string s => quote s
  | .array items => "[" ++ compactItems items ++ "]"
  | .object members => "\x7b" ++ compactMembers members ++ "\x7d"

/-- The compact text of array items, comma-separated. -/
def compactItems : List Json → String
  | [] => ""
  | [v] => compact v
  | v :: rest => compact v ++ "," ++ compactItems rest

/-- The compact text of object members, comma-separated. -/
def compactMembers : List (String × Json) → String
  | [] => ""
  | [m] => compactMember m
  | m :: rest => compactMember m ++ "," ++ compactMembers rest

/-- The compact text of one object member. -/
def compactMember : String × Json → String
  | (k, v) => quote k ++ ":" ++ compact v

end

/-- Two spaces per level of nesting. -/
def indent (level : Nat) : String :=
  String.ofList (List.replicate (2 * level) ' ')

mutual

/-- The pretty text of a value that starts at nesting `level`. -/
def prettyAt (level : Nat) : Json → String
  | .array [] => "[]"
  | .object [] => "\x7b\x7d"
  | .array items => "[\n" ++ prettyItems (level + 1) items ++ "\n" ++ indent level ++ "]"
  | .object members => "\x7b\n" ++ prettyMembers (level + 1) members ++ "\n" ++ indent level ++ "\x7d"
  | v => compact v

/-- Pretty array items at nesting `level`, one per line. -/
def prettyItems (level : Nat) : List Json → String
  | [] => ""
  | [v] => indent level ++ prettyAt level v
  | v :: rest => indent level ++ prettyAt level v ++ ",\n" ++ prettyItems level rest

/-- Pretty object members at nesting `level`, one per line. -/
def prettyMembers (level : Nat) : List (String × Json) → String
  | [] => ""
  | [m] => prettyMember level m
  | m :: rest => prettyMember level m ++ ",\n" ++ prettyMembers level rest

/-- One pretty object member at nesting `level`. -/
def prettyMember (level : Nat) : String × Json → String
  | (k, v) => indent level ++ quote k ++ ": " ++ prettyAt level v

end

/-- The pretty text of a value. -/
def pretty (v : Json) : String := prettyAt 0 v

end Cadence.Json
