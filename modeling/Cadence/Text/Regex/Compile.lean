import Cadence.Text.Regex.Syntax
import Cadence.Text.Regex.Expr

/-!
# Giving a syntax tree its meaning

The tree is walked in reading order with the flags in force: `(?flags)` changes them for the
rest of its group, and `(?flags:…)` for its own body. The matcher has no Unicode data, which
decides what is refused:

* with Unicode on, the classes `\d`, `\s` and `\w` (and their negations) and every property
  `\p..` are unknown, and case folding (`i`) of any literal or of a class that is not known to
  be folded already is unavailable;
* with Unicode off, a construct that can match a byte above `0x7F` is refused, since the text
  is UTF-8: `.`, `\B`, negated classes that reach past ASCII, and `\xNN` above `0x7F`; a
  non-ASCII character may not appear in a class, nor be case folded, and properties are not
  allowed at all.

Each complaint points at the construct: a literal, a short class, a bracketed or named class,
or, for the sides of a set operator, the side that cannot be folded (the right one is tried
first).
-/
namespace Cadence.Text.Regex

/-- The flags that give a tree its meaning. -/
structure Flags where
  fold : Bool := false
  multiLine : Bool := false
  dotAll : Bool := false
  swapGreed : Bool := false
  unicode : Bool := true
  crlf : Bool := false
  deriving Repr, BEq, Inhabited

/-- The flags with one of them turned on or off. -/
def Flags.turn (f : Flags) (flag : Flag) (on : Bool) : Flags :=
  match flag with
  | .caseInsensitive => { f with fold := on }
  | .multiLine => { f with multiLine := on }
  | .dotAll => { f with dotAll := on }
  | .swapGreed => { f with swapGreed := on }
  | .unicode => { f with unicode := on }
  | .crlf => { f with crlf := on }
  | .ignoreWhitespace => f

/-- The flags after the items of a flag group: those before a `-` are turned on, those after
it off. -/
def Flags.apply (f : Flags) (items : List FlagItem) : Flags :=
  (items.foldl (fun (acc : Flags × Bool) item =>
    match item.flag with
    | none => (acc.1, true)
    | some flag => (acc.1.turn flag !acc.2, acc.2)) (f, false)).1

/-- A complaint about a stretch. -/
def refuse {α : Type} (problem : Problem) (span : Span) : Except SyntaxError α :=
  .error { problem, span }

/-- All code points, or all bytes when Unicode is off. -/
def whole (f : Flags) : Ranges := if f.unicode then [(0, 0x10FFFF)] else [(0, 255)]

/-- A class of a bracket or a named class, case folded and negated as asked. With Unicode on,
folding succeeds only for a class known to be folded or empty; with it off, the result must
stay within ASCII. -/
def foldAndNegate (f : Flags) (span : Span) (negated : Bool) (c : CharClass) :
    Except SyntaxError CharClass := do
  if f.unicode then
    if f.fold && !c.folded && !c.ranges.isEmpty then refuse .unicodeCaseUnavailable span
    let c := if f.fold then { c with folded := true } else c
    pure (if negated then c.negate (whole f) else c)
  else
    let c := if f.fold then c.foldAscii else c
    let c := if negated then c.negate (whole f) else c
    if c.isAscii then pure c else refuse .invalidUtf8 span

/-- Folds one side of a set operator as the flags ask. -/
def foldSide (f : Flags) (span : Span) (c : CharClass) : Except SyntaxError CharClass :=
  if !f.fold then pure c
  else if f.unicode then
    if !c.folded && !c.ranges.isEmpty then refuse .unicodeCaseUnavailable span
    else pure { c with folded := true }
  else pure c.foldAscii

/-- The byte a literal of a class stands for when Unicode is off: an ASCII character, or a
`\xNN` at most `0x7F`. -/
def classByte (lit : Literal) : Except SyntaxError Nat :=
  if lit.c.toNat < 128 then pure lit.c.toNat
  else if lit.byte then refuse .invalidUtf8 lit.span
  else refuse .unicodeNotAllowed lit.span

/-- The named class behind a short class. -/
def ShortClass.ascii : ShortClass → AsciiKind
  | .digit => .digit
  | .space => .space
  | .word => .word

/-- The class of `\d`, `\s` or `\w`, which exists only in ASCII. -/
def shortClass (f : Flags) (span : Span) (kind : ShortClass) (negated : Bool) :
    Except SyntaxError CharClass :=
  if f.unicode then refuse .unicodeShortClassNotFound span
  else
    let c := CharClass.ofRanges kind.ascii.ranges
    let c := if negated then c.negate (whole f) else c
    if c.isAscii then pure c else refuse .invalidUtf8 span

mutual

/-- The class a part of a bracketed class stands for, with the flags in force. -/
def compileClass (f : Flags) : ClassSet → Except SyntaxError CharClass
  | .empty _ => pure CharClass.empty
  | .literal lit =>
    if f.unicode then pure (CharClass.range lit.c.toNat lit.c.toNat)
    else do
      let b ← classByte lit
      pure (CharClass.range b b)
  | .range _ lo hi =>
    if f.unicode then pure (CharClass.range lo.c.toNat hi.c.toNat)
    else do
      let a ← classByte lo
      let b ← classByte hi
      pure (CharClass.range a b)
  | .ascii span kind negated => foldAndNegate f span negated (CharClass.ofRanges kind.ranges)
  | .property span => refuse (if f.unicode then .unicodePropertyNotFound else .unicodeNotAllowed) span
  | .short span kind negated => shortClass f span kind negated
  | .bracketed span negated inner => do
    let c ← compileClass f inner
    foldAndNegate f span negated c
  | .union _ items => compileItems f items CharClass.empty
  | .op _ kind lhs rhs => do
    let l ← compileClass f lhs
    let r ← compileClass f rhs
    let r ← foldSide f rhs.span r
    let l ← foldSide f lhs.span l
    pure <| match kind with
      | .intersection => l.intersect r
      | .difference => l.difference r
      | .symmetricDifference => l.symmetricDifference r

/-- The union of the classes of a list of parts, after `acc`. -/
def compileItems (f : Flags) : List ClassSet → CharClass → Except SyntaxError CharClass
  | [], acc => pure acc
  | item :: rest, acc => do
    let c ← compileClass f item
    compileItems f rest (acc.union c)

end

/-- The expression of a class: one that holds a single character is that literal. -/
def classExpr (rs : Ranges) : Expr :=
  match rs with
  | [(lo, hi)] => if lo == hi then .literal (Char.ofNat lo) else .chars rs
  | _ => .chars rs

/-- The characters of an expression that matches exactly one character of a class or one
literal; `none` for any other expression. -/
def Expr.singleRanges? : Expr → Option Ranges
  | .literal c => some [(c.toNat, c.toNat)]
  | .chars rs => some rs
  | _ => none

/-- An alternation, simplified: nested alternations are flattened, and branches that are all
single literals, or all classes, become one class. -/
def alternationOf (branches : List Expr) : Expr :=
  let flat := branches.flatMap fun b =>
    match b with
    | .alternation inner => inner
    | other => [other]
  let literals := flat.all fun b => match b with | .literal _ => true | _ => false
  let classes := flat.all fun b => match b with | .chars _ => true | _ => false
  match flat with
  | [] => .chars []
  | [b] => b
  | _ =>
    if literals || classes then classExpr (canonical (flat.flatMap fun b => (b.singleRanges?).getD []))
    else .alternation flat

/-- A concatenation, simplified: nested concatenations are flattened and empty parts dropped;
none is the empty expression, and one is that part. -/
def concatOf (parts : List Expr) : Expr :=
  let flat := parts.flatMap fun part =>
    match part with
    | .concat inner => inner
    | .empty => []
    | other => [other]
  match flat with
  | [] => .empty
  | [part] => part
  | _ => .concat flat

/-- What a literal matches. -/
def literalExpr (f : Flags) (lit : Literal) : Except SyntaxError Expr := do
  if !f.unicode && lit.byte && lit.c.toNat > 0x7F then refuse .invalidUtf8 lit.span
  let c := lit.c
  if !f.fold then pure (.literal c)
  else if f.unicode then refuse .unicodeCaseUnavailable lit.span
  else if c.toNat ≥ 128 then refuse .unicodeNotAllowed lit.span
  else if c.isAlpha then pure (classExpr (CharClass.range c.toNat c.toNat).foldAscii.ranges)
  else pure (.literal c)

/-- What an assertion matches. -/
def assertionExpr (f : Flags) (span : Span) : Assertion → Except SyntaxError Expr
  | .startLine => pure (.look (if f.multiLine then .lineStart f.crlf else .textStart))
  | .endLine => pure (.look (if f.multiLine then .lineEnd f.crlf else .textEnd))
  | .startText => pure (.look .textStart)
  | .endText => pure (.look .textEnd)
  | .wordBoundary => pure (.look (.word .boundary f.unicode))
  | .notWordBoundary =>
    if f.unicode then pure (.look (.word .notBoundary true)) else refuse .invalidUtf8 span
  | .wordStart => pure (.look (.word .start f.unicode))
  | .wordEnd => pure (.look (.word .finish f.unicode))
  | .wordStartHalf => pure (.look (.word .startHalf f.unicode))
  | .wordEndHalf => pure (.look (.word .finishHalf f.unicode))

/-- The characters `.` matches: any, or any but the line breaks. -/
def dotRanges (f : Flags) : Ranges :=
  if f.dotAll then [(0, 0x10FFFF)]
  else if f.crlf then [(0, 9), (11, 12), (14, 0x10FFFF)]
  else [(0, 9), (11, 0x10FFFF)]

/-- A repetition, simplified: a body that matches only the empty text needs at most one
round, no rounds is the empty expression, and exactly one round is the body. -/
def repetitionOf (low : Nat) (high : Option Nat) (sub : Expr) : Expr :=
  let (low, high) := if sub.onlyEmpty then (min low 1, some (min (high.getD 1) 1)) else (low, high)
  if low == 0 && high == some 0 then .empty
  else if low == 1 && high == some 1 then sub
  else .repetition low high sub

mutual

/-- The meaning of a node with the flags in force, and the flags after it. -/
def compileAst : Flags → Ast → Except SyntaxError (Expr × Flags)
  | f, .empty _ => pure (.empty, f)
  | f, .flags _ items => pure (.empty, f.apply items)
  | f, .literal lit => do pure (← literalExpr f lit, f)
  | f, .dot span => if f.unicode then pure (classExpr (dotRanges f), f) else refuse .invalidUtf8 span
  | f, .assertion span kind => do pure (← assertionExpr f span kind, f)
  | f, .property span =>
    refuse (if f.unicode then .unicodePropertyNotFound else .unicodeNotAllowed) span
  | f, .short span kind negated => do
    let c ← shortClass f span kind negated
    pure (classExpr c.ranges, f)
  | f, .bracketed span negated set => do
    let c ← compileClass f set
    let c ← foldAndNegate f span negated c
    pure (classExpr c.ranges, f)
  | f, .repetition _ low high sub => do
    let (e, f) ← compileAst f sub
    pure (repetitionOf low high e, f)
  | f, .group _ capture items sub => do
    let (e, _) ← compileAst (f.apply items) sub
    pure (if capture then .capture e else e, f)
  | f, .alternation _ branches => do
    let (es, f) ← compileAsts f branches
    pure (alternationOf es, f)
  | f, .concat _ parts => do
    let (es, f) ← compileAsts f parts
    pure (concatOf es, f)

/-- The meanings of a list of nodes, the flags flowing from each to the next. -/
def compileAsts : Flags → List Ast → Except SyntaxError (List Expr × Flags)
  | f, [] => pure ([], f)
  | f, a :: rest => do
    let (e, f) ← compileAst f a
    let (es, f) ← compileAsts f rest
    pure (e :: es, f)

end

end Cadence.Text.Regex
