/-!
# Styled terminal text

Text for a terminal is a list of pieces, each with a style: bold, underlined, and one of the
eight basic colours. Shown with colours, a styled piece is its escape sequences (effects first,
then the colour), the text, and the reset sequence; a plain piece is its text alone. Shown
without colours, every piece is its text alone.
-/
namespace Cadence.Text

/-- One of the eight basic terminal colours. -/
inductive Color where
  | black
  | red
  | green
  | yellow
  | blue
  | magenta
  | cyan
  | white
  deriving Repr, BEq, Inhabited

/-- The foreground code of a colour. -/
def Color.code : Color → Nat
  | .black => 30
  | .red => 31
  | .green => 32
  | .yellow => 33
  | .blue => 34
  | .magenta => 35
  | .cyan => 36
  | .white => 37

/-- How a piece of text is shown. -/
structure Style where
  bold : Bool := false
  underline : Bool := false
  color : Option Color := none
  deriving Repr, BEq, Inhabited

namespace Style

/-- Whether a style changes nothing. -/
def isPlain (s : Style) : Bool := !s.bold && !s.underline && s.color.isNone

/-- The escape sequences that switch a style on. -/
def start (s : Style) : String :=
  (if s.bold then "\x1b[1m" else "") ++ (if s.underline then "\x1b[4m" else "") ++
    (match s.color with
     | some c => "\x1b[" ++ toString c.code ++ "m"
     | none => "")

/-- The escape sequence that switches a style off. -/
def reset (s : Style) : String := if s.isPlain then "" else "\x1b[0m"

/-- Text in a colour. -/
def colored (c : Color) : Style := { color := some c }

end Style

/-- Text made of styled pieces. -/
abbrev Styled := List (Style × String)

namespace Styled

/-- Plain text. -/
def plain (s : String) : Styled := [({}, s)]

/-- Text in one style. -/
def styled (st : Style) (s : String) : Styled := [(st, s)]

/-- The text as shown, with or without colours. -/
def render (ansi : Bool) (t : Styled) : String :=
  t.foldl (fun acc (st, s) => acc ++ (if ansi then st.start ++ s ++ st.reset else s)) ""

/-- The number of characters shown. -/
def width (t : Styled) : Nat := t.foldl (fun n (_, s) => n + s.length) 0

/-- The text without its trailing blanks and line breaks. -/
def trimEnd (t : Styled) : Styled :=
  let strip (s : String) : String :=
    String.ofList (s.toList.reverse.dropWhile (fun c => c == ' ' || c == '\n')).reverse
  let rec go : List (Style × String) → List (Style × String)
    | [] => []
    | (st, s) :: rest =>
      let s' := strip s
      if s'.isEmpty then go rest else (st, s') :: rest
  (go t.reverse).reverse

end Styled

end Cadence.Text
