import Cadence.Text.Printable

/-!
# Quoted text

The quoted form of a text, as diagnostic output shows strings: the text between double quotes,
with the double quote and the backslash escaped by a backslash, tab, carriage return, line
feed and NUL written as `\t`, `\r`, `\n` and `\0`, every other character that does not show as
itself (see `Text.showsAsItself`) written as `\u{h}` with its code point in lower-case hex
without leading zeros, and all else as itself. The single quote is not escaped.
-/
namespace Cadence.Text

/-- The lower-case hex digits of a code point, without leading zeros. -/
def hexText (n : Nat) : String :=
  String.ofList (Nat.toDigits 16 n)

/-- One character of quoted text. -/
def escapeChar (c : Char) : String :=
  match c with
  | '"' => "\\\""
  | '\\' => "\\\\"
  | '\t' => "\\t"
  | '\r' => "\\r"
  | '\n' => "\\n"
  | '\x00' => "\\0"
  | c => if showsAsItself c then c.toString else "\\u\x7b" ++ hexText c.toNat ++ "\x7d"

/-- A text between double quotes, escaped. -/
def quoted (s : String) : String :=
  "\"" ++ String.join (s.toList.map escapeChar) ++ "\""

end Cadence.Text
