import Cadence.Text.Regex.Expr

/-!
# How large the automata of a pattern are

A pattern is built into two automata over UTF-8 bytes, and each must fit in `sizeLimit` bytes:
one reads forward and records where groups start and end, the other reads backward and
records nothing. A state takes 32 bytes, each branch of a branching state 4, each transition
of a class state 8, and the start of the one pattern 4 more.

The states come from the parts of the expression:

* a literal has a state per UTF-8 byte; an assertion or the empty expression has one;
* a class of ASCII characters only has an end state and a state with one transition per
  range;
* a class past ASCII is cut into runs of byte ranges (`utf8Runs`). Forward, the runs are
  merged into the smallest automaton that reads them, with a state for each distinct set of
  ways to finish a run. Backward, each run is a chain of one state per byte range, where
  chains share the states of equal beginnings and all hang from one branching state;
* a group has two states forward and none backward;
* alternations and repetitions add branching states, and a counted repetition repeats its
  body once per round it counts.

A branching state that ends an expression gains a branch to whatever follows it, so each
expression counts that branch itself. Around the expression stand the group of the whole
match (forward only) and the match state. In front stands a loop over any byte that lets a
match start anywhere, unless every match is anchored at the end of the text where reading
starts.
-/
namespace Cadence.Text.Regex

/-- The way an automaton reads its text. -/
inductive Direction where
  | forward
  | backward
  deriving Repr, BEq, Inhabited

/-- The parts of an automaton: states, branches of branching states, and transitions of class
states. -/
structure Cost where
  states : Nat
  branches : Nat
  transitions : Nat
  deriving Repr, BEq, Inhabited

instance : Add Cost := ⟨fun a b => ⟨a.states + b.states, a.branches + b.branches,
  a.transitions + b.transitions⟩⟩

/-- A cost taken `n` times. -/
def Cost.times (n : Nat) (c : Cost) : Cost := ⟨n * c.states, n * c.branches, n * c.transitions⟩

/-- The bytes a cost takes. -/
def Cost.bytes (c : Cost) : Nat := 32 * c.states + 4 * c.branches + 8 * c.transitions

/-- One state. -/
def oneState : Cost := ⟨1, 0, 0⟩

/-- Nothing at all. -/
def noCost : Cost := ⟨0, 0, 0⟩

/-- The UTF-8 bytes of a code point. -/
def utf8Bytes (n : Nat) : List Nat :=
  if n < 0x80 then [n]
  else if n < 0x800 then [0xC0 + n / 64, 0x80 + n % 64]
  else if n < 0x10000 then [0xE0 + n / 4096, 0x80 + n / 64 % 64, 0x80 + n % 64]
  else [0xF0 + n / 262144, 0x80 + n / 4096 % 64, 0x80 + n / 64 % 64, 0x80 + n % 64]

/-- The largest code point whose UTF-8 form has `k` bytes, for `k` below four. -/
def utf8Largest : Nat → Nat
  | 1 => 0x7F
  | 2 => 0x7FF
  | _ => 0xFFFF

/-- Cuts a range of code points at the first edge of a block it crosses, trying blocks of
`64`, `4096` and `262144` code points: the code points of a block share all UTF-8 bytes but
the last one, two or three. The piece before the cut is the one that starts the range when
the range starts inside a block, and the one that ends it otherwise. -/
def blockSplit (lo hi : Nat) : List Nat → Option ((Nat × Nat) × (Nat × Nat))
  | [] => none
  | b :: rest =>
    if lo / b != hi / b then
      if lo % b != 0 then some ((lo, lo - lo % b + b - 1), (lo - lo % b + b, hi))
      else if hi % b != b - 1 then some ((lo, hi - hi % b - 1), (hi - hi % b, hi))
      else blockSplit lo hi rest
    else blockSplit lo hi rest

/-- Splits a range of code points in two, if it must be split before its UTF-8 forms make one
run of byte ranges: around the surrogates, where the UTF-8 length grows, or at the edge of a
block. -/
def utf8Split (lo hi : Nat) : Option ((Nat × Nat) × (Nat × Nat)) :=
  if lo < 0xE000 && 0xD7FF < hi then some ((lo, 0xD7FF), (0xE000, hi))
  else
    match [1, 2, 3].find? (fun k => lo ≤ utf8Largest k && utf8Largest k < hi) with
    | some k => some ((lo, utf8Largest k), (utf8Largest k + 1, hi))
    | none => if hi < 0x80 then none else blockSplit lo hi [64, 4096, 262144]

/-- The runs of byte ranges whose UTF-8 forms cover the ranges of code points on the stack,
in order: a range that needs no split is the run of its first and last code points' bytes,
taken pairwise. Each range splits into at most a few dozen runs, which `fuel` covers. -/
def utf8Runs : Nat → List (Nat × Nat) → List (List (Nat × Nat))
  | 0, _ => []
  | _, [] => []
  | fuel + 1, (lo, hi) :: rest =>
    if hi < lo then utf8Runs fuel rest
    else
      match utf8Split lo hi with
      | some (first, second) => utf8Runs fuel (first :: second :: rest)
      | none => (utf8Bytes lo).zip (utf8Bytes hi) :: utf8Runs fuel rest

/-- The runs of a class's ranges. -/
def classRuns (rs : Ranges) : List (List (Nat × Nat)) :=
  rs.flatMap fun r => utf8Runs 256 [r]

/-- The ways the runs that begin with `head` finish: the byte ranges after it. -/
def finishing (runs : List (List (Nat × Nat))) (head : List (Nat × Nat)) :
    List (List (Nat × Nat)) :=
  runs.filterMap fun run => if head.isPrefixOf run then some (run.drop head.length) else none

/-- The forward automaton of runs: a state for each distinct set of ways to finish a proper
beginning of a run, whose transitions are the distinct first ranges of those ways, and the
state every run ends in. -/
def forwardRunsCost (runs : List (List (Nat × Nat))) : Cost :=
  let heads := (runs.flatMap fun run => (List.range run.length).map run.take).eraseDups
  let ways := (heads.map (finishing runs)).eraseDups
  ways.foldl (fun c w => c + ⟨1, 0, (w.filterMap List.head?).eraseDups.length⟩) oneState

/-- The backward chains of runs: a state for each distinct beginning of a run, the branching
state with a branch to each chain, and the state every chain ends in. -/
def backwardRunsCost (runs : List (List (Nat × Nat))) : Cost :=
  let heads := (runs.flatMap fun run => (List.range run.length).map fun k => run.take (k + 1))
  ⟨2 + heads.eraseDups.length, runs.length, 0⟩

/-- The cost of a class in a direction. -/
def classCost (d : Direction) (rs : Ranges) : Cost :=
  if rs.all (·.2 < 0x80) then ⟨2, 0, rs.length⟩
  else
    match d with
    | .forward => forwardRunsCost (classRuns rs)
    | .backward => backwardRunsCost (classRuns rs)

/-- The smaller of two lengths that may be missing; a missing one wins. -/
def minLength : Option Nat → Option Nat → Option Nat
  | some a, some b => some (min a b)
  | _, _ => none

/-- The sum of two lengths that may be missing; a missing one wins. -/
def addLength : Option Nat → Option Nat → Option Nat
  | some a, some b => some (a + b)
  | _, _ => none

mutual

/-- The UTF-8 length of the shortest text an expression matches, missing for an expression
with an empty class in a place every match passes through. -/
def Expr.shortest : Expr → Option Nat
  | .empty | .look _ => some 0
  | .literal c => some c.utf8Size
  | .chars rs => rs.head?.map fun r => (utf8Bytes r.1).length
  | .capture sub => sub.shortest
  | .concat parts => sumShortest parts
  | .alternation branches => minShortest branches
  | .repetition low _ sub => sub.shortest.map (· * low)

/-- The shortest lengths of a list of expressions added up. -/
def sumShortest : List Expr → Option Nat
  | [] => some 0
  | e :: rest => addLength e.shortest (sumShortest rest)

/-- The least of the shortest lengths of a list of expressions, missing for an empty list. -/
def minShortest : List Expr → Option Nat
  | [] => none
  | [e] => e.shortest
  | e :: rest => minLength e.shortest (minShortest rest)

end

/-- Whether every match of an expression consumes a byte. -/
def Expr.consumes (e : Expr) : Bool :=
  match e.shortest with
  | some n => n > 0
  | none => false

mutual

/-- The cost of the automaton of an expression in a direction. -/
def Expr.cost (d : Direction) : Expr → Cost
  | .empty | .look _ => oneState
  | .literal c => ⟨c.utf8Size, 0, 0⟩
  | .chars rs => classCost d rs
  | .capture sub => if d == .forward then sub.cost d + ⟨2, 0, 0⟩ else sub.cost d
  | .concat parts => if parts.isEmpty then oneState else sumCost d parts
  | .alternation branches =>
    if branches.isEmpty then oneState
    else if branches.length == 1 then sumCost d branches
    else sumCost d branches + ⟨2, branches.length, 0⟩
  | .repetition low high sub =>
    let c := sub.cost d
    let exactly (n : Nat) : Cost := if n == 0 then oneState else c.times n
    match high with
    | none =>
      if low == 0 then
        if sub.consumes then c + ⟨1, 2, 0⟩ else c + ⟨3, 4, 0⟩
      else exactly low + ⟨1, 2, 0⟩
    | some h =>
      if low == 0 && h == 1 then c + ⟨2, 2, 0⟩
      else if low == h then exactly low
      else exactly low + oneState + (c + ⟨1, 2, 0⟩).times (h - low)

/-- The total cost of a list of expressions in a direction. -/
def sumCost (d : Direction) : List Expr → Cost
  | [] => noCost
  | e :: rest => e.cost d + sumCost d rest

end

mutual

/-- Whether every match of an expression passes the assertion before its first character. -/
def Expr.opensWith (l : Look) : Expr → Bool
  | .look l' => l' == l
  | .capture sub => sub.opensWith l
  | .repetition low _ sub => low > 0 && sub.opensWith l
  | .concat parts => partsOpenWith l parts
  | .alternation branches => !branches.isEmpty && allOpenWith l branches
  | _ => false

/-- Whether every match of a sequence passes the assertion before its first character: one
of the parts before the first that can match more than the empty text, that one included,
always does. -/
def partsOpenWith (l : Look) : List Expr → Bool
  | [] => false
  | e :: rest => e.opensWith l || (e.onlyEmpty && partsOpenWith l rest)

/-- Whether every expression of a list opens with the assertion. -/
def allOpenWith (l : Look) : List Expr → Bool
  | [] => true
  | e :: rest => e.opensWith l && allOpenWith l rest

end

mutual

/-- Whether every match of an expression passes the assertion after its last character. -/
def Expr.closesWith (l : Look) : Expr → Bool
  | .look l' => l' == l
  | .capture sub => sub.closesWith l
  | .repetition low _ sub => low > 0 && sub.closesWith l
  | .concat parts => partsCloseWith l parts
  | .alternation branches => !branches.isEmpty && allCloseWith l branches
  | _ => false

/-- Whether every match of a sequence passes the assertion after its last character: one of
the parts after the last that can match more than the empty text, that one included, always
does. -/
def partsCloseWith (l : Look) : List Expr → Bool
  | [] => false
  | e :: rest => partsCloseWith l rest || (allOnlyEmpty rest && e.closesWith l)

/-- Whether every expression of a list closes with the assertion. -/
def allCloseWith (l : Look) : List Expr → Bool
  | [] => true
  | e :: rest => e.closesWith l && allCloseWith l rest

end

/-- The bytes of the automaton of an expression in a direction: the expression, the group of
the whole match when reading forward, the match state, the start of the pattern, and in front
either one empty state, when every match is anchored where reading starts, or the loop over
any byte, with its two branches and its one transition. -/
def Expr.automatonBytes (d : Direction) (e : Expr) : Nat :=
  let anchored := match d with
    | .forward => e.opensWith .textStart
    | .backward => e.closesWith .textEnd
  let front : Cost := if anchored then oneState else ⟨3, 2, 1⟩
  let whole : Cost := if d == .forward then ⟨2, 0, 0⟩ else noCost
  (e.cost d + front + whole + oneState).bytes + 4

/-- The greatest size of an automaton, in bytes. -/
def sizeLimit : Nat := 10 * Nat.pow 2 20

mutual

/-- Whether an expression holds a word boundary over Unicode word characters. -/
def Expr.hasUnicodeWord : Expr → Bool
  | .look (.word _ unicode) => unicode
  | .capture sub | .repetition _ _ sub => sub.hasUnicodeWord
  | .concat es | .alternation es => anyUnicodeWord es
  | _ => false

/-- Whether some expression of a list holds a Unicode word boundary. -/
def anyUnicodeWord : List Expr → Bool
  | [] => false
  | e :: rest => e.hasUnicodeWord || anyUnicodeWord rest

end

end Cadence.Text.Regex
