import Cadence.Text.Regex.Syntax

/-!
# How a complaint about a pattern reads

The pattern is shown line by line with a line of `^` under each stretch the complaint points
at, one `^` at least; a repeated flag or name is marked at both of its places. A pattern of
one line is indented by four. A pattern of several lines is framed by rules of 79 `~` and its
lines are numbered, the numbers right-aligned to the width of the largest; stretches that run
over several lines are named by their lines and columns below the frame. Lines end at a line
feed, one that comes after a carriage return taking the carriage return with it. Lines and
columns count characters from one.
-/
namespace Cadence.Text.Regex

/-- The line and the column of a character offset of the pattern. -/
def lineColumn (cs : List Char) (offset : Nat) : Nat × Nat :=
  let before := cs.take offset
  (1 + before.count '\n', 1 + (before.reverse.takeWhile (· != '\n')).length)

/-- The lines of a text: split after each line feed, which is dropped along with a carriage
return before it; a last line feed starts no further line. -/
def textLines (text : String) : List String :=
  let pieces := text.splitOn "\n"
  let complete := pieces.dropLast.map fun line =>
    if line.endsWith "\r" then String.ofList line.toList.dropLast else line
  match pieces.getLast? with
  | some "" | none => complete
  | some last => complete ++ [last]

/-- A text of `n` copies of a character. -/
def repeatChar (n : Nat) (c : Char) : String := String.ofList (List.replicate n c)

/-- The marks under one line: for each stretch, spaces up to its column and its `^`s. -/
def markLine (marks : List (Nat × Nat)) : String :=
  let (text, _) := marks.foldl (fun (acc : String × Nat) (m : Nat × Nat) =>
    let (text, column) := acc
    let gap := m.1 - 1 - column
    let width := max 1 (m.2 - m.1)
    (text ++ repeatChar gap ' ' ++ repeatChar width '^', column + gap + width)) ("", 0)
  text

/-- How a complaint about a pattern reads. -/
def SyntaxError.describe (e : SyntaxError) (pattern : String) : String :=
  let cs := pattern.toList
  let spans := (e.span :: e.earlier.toList).mergeSort fun a b =>
    a.start < b.start || (a.start == b.start && a.stop ≤ b.stop)
  let located := spans.map fun s => (lineColumn cs s.start, lineColumn cs s.stop)
  let lines := textLines pattern
  let count := lines.length + (if pattern.endsWith "\n" then 1 else 0)
  let width := if count ≤ 1 then 0 else (toString count).length
  let padding := if width == 0 then 4 else width + 2
  let numbered (n : Nat) : String :=
    if width == 0 then "    " else repeatChar (width - (toString n).length) ' ' ++ toString n ++ ": "
  let body := (lines.zipIdx 1).foldl (fun text (line, n) =>
    let marks := located.filterMap fun (a, b) =>
      if a.1 == n && b.1 == n then some (a.2, b.2) else none
    let text := text ++ numbered n ++ line ++ "\n"
    if marks.isEmpty then text else text ++ repeatChar padding ' ' ++ markLine marks ++ "\n") ""
  let wide := located.filter fun (a, b) => a.1 != b.1
  if cs.contains '\n' then
    let rule := repeatChar 79 '~'
    let notes := wide.map fun (a, b) =>
      "on line " ++ toString a.1 ++ " (column " ++ toString a.2 ++ ") through line " ++
        toString b.1 ++ " (column " ++ toString (b.2 - 1) ++ ")"
    let notes := if notes.isEmpty then "" else String.intercalate "\n" notes ++ "\n"
    "regex parse error:\n" ++ rule ++ "\n" ++ body ++ rule ++ "\n" ++ notes ++ "error: " ++
      e.problem.message
  else "regex parse error:\n" ++ body ++ "error: " ++ e.problem.message

end Cadence.Text.Regex
