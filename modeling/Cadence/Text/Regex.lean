import Cadence.Text.Regex.Parse
import Cadence.Text.Regex.Compile
import Cadence.Text.Regex.Automaton
import Cadence.Text.Regex.Report

/-!
# Regular expressions

The patterns a log filter may give after its `/`. A pattern is read into a syntax tree
(`parseAst`), given its meaning with the flags in force (`compileAst`), and built into a
forward automaton that must fit in `sizeLimit` bytes, which may not hold Unicode word
boundaries, and then into a backward automaton that must fit as well (`automatonBytes`). A
pattern that fails a step is reported: a syntax or meaning problem with the pattern and marks
under the stretches concerned (`SyntaxError.describe`), the others by a line of their own.
-/
namespace Cadence.Text

/-- A compiled pattern. -/
structure Regex where
  expr : Regex.Expr
  deriving Repr, Inhabited

namespace Regex

/-- Compiles a pattern, or says why it cannot be. -/
def compile (pattern : String) : Except String Regex :=
  match parseAst pattern with
  | .error e => .error (e.describe pattern)
  | .ok ast =>
    match compileAst {} ast with
    | .error e => .error (e.describe pattern)
    | .ok (expr, _) =>
      let tooBig := "Compiled regex exceeds size limit of " ++ toString sizeLimit ++ " bytes."
      if expr.automatonBytes .forward > sizeLimit then .error tooBig
      else if expr.hasUnicodeWord then .error "error building NFA"
      else if expr.automatonBytes .backward > sizeLimit then .error tooBig
      else .ok ⟨expr⟩

/-- Whether some part of a text matches the pattern. -/
def isMatch (r : Regex) (text : String) : Bool := r.expr.isMatch text

end Regex

end Cadence.Text
