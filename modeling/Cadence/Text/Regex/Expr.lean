import Cadence.Text.Regex.Charset

/-!
# What a pattern matches

A pattern means an expression over characters. A text matches it when some part of the text
does; matching works on the set of places a part can end at from a given place, so it never
backtracks.

A repetition `r{lo,hi}` reaches the places of `lo` rounds of `r`, then gathers the places of up
to `hi - lo` more. Rounds only move forward, so among `n + 1` places a chain of more than `n`
rounds must stay put somewhere, at a place where `r` matches the empty text; such a round can
be dropped or repeated. Hence `n + 2` rounds reach everything any number of rounds reaches,
and a repetition never needs more, whatever its count.

Word boundaries look at ASCII word characters: letters, digits and `_`. Line assertions know
the line feed, and also the carriage return when `R` is set, where a `\r\n` is one break.
-/
namespace Cadence.Text.Regex

/-- The word boundary assertions. -/
inductive WordLook where
  | boundary
  | notBoundary
  | start
  | finish
  | startHalf
  | finishHalf
  deriving Repr, BEq, Inhabited

/-- An assertion about a place of the text. -/
inductive Look where
  | textStart
  | textEnd
  | lineStart (crlf : Bool)
  | lineEnd (crlf : Bool)
  /-- A word boundary; `unicode` tells that it would use Unicode word characters. -/
  | word (kind : WordLook) (unicode : Bool)
  deriving Repr, BEq, Inhabited

/-- The meaning of a pattern. -/
inductive Expr where
  | empty
  | literal (c : Char)
  /-- One character of the ranges. -/
  | chars (ranges : Ranges)
  | look (l : Look)
  | capture (sub : Expr)
  | concat (parts : List Expr)
  | alternation (branches : List Expr)
  /-- From `low` to `high` rounds, without bound when `high` is `none`. -/
  | repetition (low : Nat) (high : Option Nat) (sub : Expr)
  deriving Repr, Inhabited

/-- Whether a character is an ASCII word character. -/
def isWordChar (c : Char) : Bool := c.isAlphanum || c == '_'

/-- Whether an assertion holds at place `i` of the text `s`. -/
def Look.holds (s : Array Char) (i : Nat) : Look → Bool
  | .textStart => i == 0
  | .textEnd => i == s.size
  | .lineStart false => i == 0 || s[i - 1]? == some '\n'
  | .lineEnd false => i == s.size || s[i]? == some '\n'
  | .lineStart true =>
    i == 0 || s[i - 1]? == some '\n' || (s[i - 1]? == some '\r' && s[i]? != some '\n')
  | .lineEnd true =>
    i == s.size || s[i]? == some '\r' ||
      (s[i]? == some '\n' && (i == 0 || s[i - 1]? != some '\r'))
  | .word kind _ =>
    let before := i > 0 && (s[i - 1]?.map isWordChar).getD false
    let after := (s[i]?.map isWordChar).getD false
    match kind with
    | .boundary => before != after
    | .notBoundary => before == after
    | .start => !before && after
    | .finish => before && !after
    | .startHalf => !before
    | .finishHalf => !after

/-- Places without repeats, in the order first seen. -/
def dedupe (ps : List Nat) : List Nat := ps.eraseDups

/-- Whether two lists of places hold the same places. -/
def samePlaces (a b : List Nat) : Bool := a.all b.contains && b.all a.contains

/-- The places after `rounds` rounds of `step` from `ps`, stopping once nothing is left or a
round changes nothing. -/
def iterateRounds (step : List Nat → List Nat) : Nat → List Nat → List Nat
  | 0, ps => ps
  | rounds + 1, ps =>
    if ps.isEmpty then ps
    else
      let next := step ps
      if samePlaces next ps then ps else iterateRounds step rounds next

/-- The places `seen` gathers within `rounds` more rounds of `step`; `frontier` holds the places
first reached in the last round. -/
def gatherRounds (step : List Nat → List Nat) : Nat → List Nat → List Nat → List Nat
  | 0, _, seen => seen
  | rounds + 1, frontier, seen =>
    let fresh := (step frontier).filter (!seen.contains ·)
    if fresh.isEmpty then seen else gatherRounds step rounds fresh (seen ++ fresh)

mutual

/-- The places of `s` where a match of the expression that starts at place `i` can end. -/
def Expr.ends (s : Array Char) : Expr → Nat → List Nat
  | .empty, i => [i]
  | .literal c, i => if s[i]? == some c then [i + 1] else []
  | .chars rs, i =>
    match s[i]? with
    | some c => if rangesHas rs c.toNat then [i + 1] else []
    | none => []
  | .look l, i => if l.holds s i then [i] else []
  | .capture sub, i => sub.ends s i
  | .concat parts, i => concatEnds s parts [i]
  | .alternation branches, i => alternationEnds s branches i
  | .repetition low high sub, i =>
    let cap := s.size + 2
    let step (ps : List Nat) : List Nat := dedupe (ps.flatMap (sub.ends s))
    let required := iterateRounds step (min low cap) [i]
    let more := match high with
      | none => cap
      | some h => min (h - low) cap
    gatherRounds step more required required

/-- The places a sequence of expressions reaches from the places `ps`. -/
def concatEnds (s : Array Char) : List Expr → List Nat → List Nat
  | [], ps => ps
  | e :: rest, ps => concatEnds s rest (dedupe (ps.flatMap (e.ends s)))

/-- The places any of the branches reaches from place `i`. -/
def alternationEnds (s : Array Char) : List Expr → Nat → List Nat
  | [], _ => []
  | e :: rest, i => dedupe (e.ends s i ++ alternationEnds s rest i)

end

mutual

/-- Whether an expression can only match the empty text. -/
def Expr.onlyEmpty : Expr → Bool
  | .empty | .look _ => true
  | .literal _ | .chars _ => false
  | .capture sub => sub.onlyEmpty
  | .concat parts => allOnlyEmpty parts
  | .alternation branches => !branches.isEmpty && allOnlyEmpty branches
  | .repetition _ high sub => high.isSome && (high == some 0 || sub.onlyEmpty)

/-- Whether every expression of a list can only match the empty text. -/
def allOnlyEmpty : List Expr → Bool
  | [] => true
  | e :: rest => e.onlyEmpty && allOnlyEmpty rest

end

/-- Whether some part of a text matches the expression. -/
def Expr.isMatch (e : Expr) (text : String) : Bool :=
  let s := text.toList.toArray
  (List.range (s.size + 1)).any fun i => !(e.ends s i).isEmpty

end Cadence.Text.Regex
