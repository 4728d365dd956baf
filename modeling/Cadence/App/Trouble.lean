/-!
# Errors the program ends with

When the program fails it prints `Error: ` and what it was doing, then the chain of causes
under `Caused by:`, outermost first. Several causes are numbered, the number right-aligned in
four columns; a single cause is indented by four. The later lines of a cause that spans
several lines are indented to match; empty lines stay empty.
-/
namespace Cadence.App

/-- What the program was doing when it failed, and why, outermost cause first. -/
structure Trouble where
  context : String
  causes : List String
  deriving Repr, BEq, Inhabited

/-- A text with `first` before its first line and `rest` before each later non-empty line. -/
def indentLines (first rest : String) (s : String) : String :=
  match s.splitOn "\n" with
  | [] => first
  | l :: ls => "\n".intercalate ((first ++ l) :: ls.map fun x => if x.isEmpty then x else rest ++ x)

/-- A number right-aligned in four columns. -/
def rightAligned (n : Nat) : String :=
  let s := toString n
  String.ofList (List.replicate (4 - s.length) ' ') ++ s

/-- The text the program prints for a failure. -/
def Trouble.render (t : Trouble) : String :=
  let causes :=
    match t.causes with
    | [] => ""
    | [c] => "\n\nCaused by:\n" ++ indentLines "    " "    " c
    | cs =>
      "\n\nCaused by:" ++
        String.join ((cs.zipIdx.map fun (c, i) =>
          "\n" ++ indentLines (rightAligned i ++ ": ") "      " c))
  "Error: " ++ t.context ++ causes ++ "\n"

end Cadence.App
