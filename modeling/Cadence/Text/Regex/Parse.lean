import Cadence.Text.Regex.Syntax
import Cadence.Text.Letters

/-!
# Reading a pattern

The reader walks the pattern one character at a time and builds its syntax tree (`Ast`). Where
it stops on a problem decides the stretch the complaint points at, so the order of its steps is
part of its meaning:

* blanks and `#` comments are skipped between items only under `x`, but a counted repetition
  `{ n , m }` skips blanks around its numbers always;
* a repetition operator needs an item before it in the same branch, and a flag group
  `(?flags)` is not one;
* in a bracketed class a `]` right after the opening `[` or `[^` is a literal, and so are `-`s
  there; `&&`, `--` and `~~` combine the sets on either side, left to right;
* `\b{` is a special word boundary only when a letter or `-` follows the brace; otherwise the
  brace starts a counted repetition of `\b`;
* escapes of digits are back-references, which are refused; an ASCII character that is neither
  a letter, a digit, `<` nor `>` may be escaped to stand for itself.

Loops carry fuel: every round consumes a character, so the length of the pattern (twice it for
nested calls, which may consume nothing but a bracket) bounds them.

Once read, the tree is checked for depth: groups, classes, repetitions, alternations and
concatenations nest at most `nestLimit` deep.
-/
namespace Cadence.Text.Regex

/-- The white space characters of Unicode. -/
def isWhiteSpace (c : Char) : Bool :=
  let n := c.toNat
  n == 32 || (9 ≤ n && n ≤ 13) || n == 0x85 || n == 0xA0 || n == 0x1680 ||
    (0x2000 ≤ n && n ≤ 0x200A) || n == 0x2028 || n == 0x2029 || n == 0x202F || n == 0x205F ||
    n == 0x3000

/-- The characters with a meaning of their own, which an escape makes literal. -/
def isMetaCharacter (c : Char) : Bool :=
  "\\.+*?()|[]{}^$#&-~".toList.contains c

/-- Whether an escaped character stands for itself: a meta character, or an ASCII character that
is neither a letter, a digit, `<` nor `>` (those are kept for escapes with a meaning). -/
def isEscapable (c : Char) : Bool :=
  isMetaCharacter c || (c.toNat < 128 && !c.isAlphanum && c != '<' && c != '>')

/-- Whether a character may stand in a capture group name; the first must be a letter or `_`. -/
def isCaptureChar (c : Char) (first : Bool) : Bool :=
  if first then c == '_' || isAlphabetic c
  else c == '_' || c == '.' || c == '[' || c == ']' || isAlphanumeric c

/-- The value of a hexadecimal digit. -/
def hexDigit? (c : Char) : Option Nat :=
  if c.isDigit then some (c.toNat - 48)
  else if 'a' ≤ c && c ≤ 'f' then some (c.toNat - 87)
  else if 'A' ≤ c && c ≤ 'F' then some (c.toNat - 55)
  else none

/-- Whether a number is a Unicode scalar value: at most `0x10FFFF` and not a surrogate. -/
def isScalar (n : Nat) : Bool := n ≤ 0x10FFFF && !(0xD800 ≤ n && n ≤ 0xDFFF)

/-- Where the reader stands: the offset of the next character, whether blanks and comments are
skipped (`x`), and the capture names read so far with their stretches. -/
structure Reader where
  pos : Nat := 0
  blanks : Bool := false
  names : List (String × Span) := []

/-- The reading of a pattern, which may stop on a complaint. -/
abbrev ReadM := StateT Reader (Except SyntaxError)

/-- Stops on a complaint. -/
def complain {α : Type} (problem : Problem) (span : Span) : ReadM α :=
  throw { problem, span }

/-- A primitive item: what an escape or a plain character outside a class reads as. -/
inductive Primitive where
  | literal (lit : Literal)
  | assertion (span : Span) (kind : Assertion)
  | dot (span : Span)
  | short (span : Span) (kind : ShortClass) (negated : Bool)
  | property (span : Span)
  deriving Repr, Inhabited

/-- The stretch of a primitive. -/
def Primitive.span : Primitive → Span
  | .literal lit => lit.span
  | .assertion s _ | .dot s | .short s _ _ | .property s => s

/-- A primitive as a node of the tree. -/
def Primitive.toAst : Primitive → Ast
  | .literal lit => .literal lit
  | .assertion s k => .assertion s k
  | .dot s => .dot s
  | .short s k n => .short s k n
  | .property s => .property s

/-- How a group begins: `(?flags)` alone, or a group with its `(`, whether it captures, and
its flags. -/
inductive Opening where
  | setFlags (span : Span) (items : List FlagItem)
  | group (opening : Span) (capture : Bool) (items : List FlagItem)

/-- The items of a bracketed class read so far at one level, and their stretch. -/
structure ClassUnion where
  span : Span
  items : List ClassSet

/-- Adds an item to a union; the stretch grows to cover it. -/
def ClassUnion.push (u : ClassUnion) (item : ClassSet) : ClassUnion :=
  let start := if u.items.isEmpty then item.span.start else u.span.start
  { span := ⟨start, item.span.stop⟩, items := u.items ++ [item] }

/-- A union as one class part: nothing, its only item, or the union. -/
def ClassUnion.toSet (u : ClassUnion) : ClassSet :=
  match u.items with
  | [] => .empty u.span
  | [item] => item
  | items => .union u.span items

/-- Combines a pending operator and its left side with a right side. -/
def combine (pending : Option (SetOp × ClassSet)) (rhs : ClassSet) : ClassSet :=
  match pending with
  | some (kind, lhs) => .op ⟨lhs.span.start, rhs.span.stop⟩ kind lhs rhs
  | none => rhs

/-- The branches of the body being read: the finished ones, where the first began, and the
current one with where it began and its parts, last first. -/
structure Body where
  branches : List Ast := []
  altStart : Nat
  start : Nat
  parts : List Ast := []

/-- A body that begins at an offset. -/
def Body.new (offset : Nat) : Body := { altStart := offset, start := offset }

/-- The current branch as one node, ending at `stop`. -/
def Body.branch (b : Body) (stop : Nat) : Ast :=
  match b.parts.reverse with
  | [] => .empty ⟨b.start, stop⟩
  | [part] => part
  | parts => .concat ⟨b.start, stop⟩ parts

/-- Ends the current branch at a `|` at `stop`; the next begins at `next`. -/
def Body.alternate (b : Body) (stop next : Nat) : Body :=
  { b with branches := b.branches ++ [b.branch stop], start := next, parts := [] }

/-- Adds a part to the current branch. -/
def Body.push (b : Body) (part : Ast) : Body := { b with parts := part :: b.parts }

/-- The whole body, ending at `stop`. -/
def Body.finish (b : Body) (stop : Nat) : Ast :=
  if b.branches.isEmpty then b.branch stop
  else .alternation ⟨b.altStart, stop⟩ (b.branches ++ [b.branch stop])

/-- The state a `flags` list gives a flag, if it names it. -/
def flagState (items : List FlagItem) (flag : Flag) : Option Bool :=
  let rec go (negated : Bool) : List FlagItem → Option Bool
    | [] => none
    | item :: rest =>
      match item.flag with
      | none => go true rest
      | some f => if f == flag then some !negated else go negated rest
  go false items

/-- The offset after the comment that starts with the `#` at `i`: past its line feed. -/
def commentEnd (p : Array Char) (i : Nat) : Nat :=
  match (p.toList.drop (i + 1)).findIdx? (· == '\n') with
  | some k => i + k + 2
  | none => p.size

/-- The offset after the blanks and comments at `i`. -/
def blanksEnd (p : Array Char) : Nat → Nat → Nat
  | 0, i => i
  | fuel + 1, i =>
    match p[i]? with
    | some c =>
      if isWhiteSpace c then blanksEnd p fuel (i + 1)
      else if c == '#' then blanksEnd p fuel (commentEnd p i)
      else i
    | none => i

/-- The first character after the current one that is not a blank, under `x`; a `#` starts a
comment, and the first character after it that is not a blank ends the search. -/
def peekScan : Bool → List (Nat × Char) → Option Nat
  | _, [] => none
  | inComment, (i, c) :: rest =>
    if isWhiteSpace c then peekScan inComment rest
    else if !inComment && c == '#' then peekScan true rest
    else if inComment && c == '\n' then peekScan false rest
    else some i

section
variable (p : Array Char)

/-- The character at the reader, if any. -/
def current : ReadM (Option Char) := do return p[(← get).pos]?

/-- The offset of the reader. -/
def here : ReadM Nat := do return (← get).pos

/-- The stretch of the character at the reader. -/
def spanChar : ReadM Span := do
  let i ← here
  return ⟨i, i + 1⟩

/-- Whether the reader is at the end. -/
def atEnd : ReadM Bool := do return (← get).pos ≥ p.size

/-- Moves past one character; whether a character follows. -/
def bump : ReadM Bool := do
  modify fun r => if r.pos < p.size then { r with pos := r.pos + 1 } else r
  return (← get).pos < p.size

/-- Skips blanks and comments, under `x`. -/
def bumpSpace : ReadM Unit :=
  modify fun r => if r.blanks then { r with pos := blanksEnd p (p.size + 1) r.pos } else r

/-- Moves past one character and the blanks after it; whether a character follows. -/
def bumpAndSpace : ReadM Bool := do
  if !(← bump p) then return false
  bumpSpace p
  return !(← atEnd p)

/-- Moves past a fixed text if it comes next. -/
def bumpIf (text : String) : ReadM Bool := do
  let r ← get
  let cs := text.toList
  if (p.toList.drop r.pos).take cs.length == cs then
    set { r with pos := r.pos + cs.length }
    return true
  return false

/-- The character after the current one. -/
def peek : ReadM (Option Char) := do return p[(← get).pos + 1]?

/-- The character after the current one, blanks and comments skipped under `x`. -/
def peekSpace : ReadM (Option Char) := do
  let r ← get
  if !r.blanks then return p[r.pos + 1]?
  if r.pos ≥ p.size then return none
  let start := r.pos + 1
  let indexed := ((p.toList.drop start).zipIdx start).map fun (c, i) => (i, c)
  match peekScan false indexed with
  | some i => return p[i]?
  | none => return p[start]?

/-- Skips white space, whatever the flags. -/
def skipWhite : Nat → ReadM Unit
  | 0 => pure ()
  | fuel + 1 => do
    match ← current p with
    | some c => if isWhiteSpace c then do let _ ← bump p; skipWhite fuel else pure ()
    | none => pure ()

/-- Skips white space one character at a time, with the blanks after each under `x`. -/
def skipWhiteSpaced : Nat → ReadM Unit
  | 0 => pure ()
  | fuel + 1 => do
    match ← current p with
    | some c => if isWhiteSpace c then do let _ ← bumpAndSpace p; skipWhiteSpaced fuel else pure ()
    | none => pure ()

/-- Reads decimal digits; `acc` holds those read, last first. -/
def readDigits : Nat → List Char → ReadM (List Char)
  | 0, acc => pure acc
  | fuel + 1, acc => do
    match ← current p with
    | some c => if c.isDigit then do let _ ← bumpAndSpace p; readDigits fuel (c :: acc) else pure acc
    | none => pure acc

/-- Reads a decimal number between blanks. The reader moves on even when no number is there, so
the answer is the number or the complaint, for the caller to raise when it needs the number. -/
def parseDecimal : ReadM (Except SyntaxError Nat) := do
  skipWhite p (p.size + 1)
  let start ← here
  let digits := (← readDigits p (p.size + 1) []).reverse
  let span : Span := ⟨start, ← here⟩
  skipWhiteSpaced p (p.size + 1)
  if digits.isEmpty then return .error { problem := .decimalEmpty, span }
  let value := digits.foldl (fun n d => n * 10 + (d.toNat - 48)) 0
  if value ≥ Nat.pow 2 32 then return .error { problem := .decimalInvalid, span }
  return .ok value

/-- A number of a counted repetition, its absence reported as such. -/
def countOf (e : Except SyntaxError Nat) : ReadM Nat :=
  match e with
  | .ok n => pure n
  | .error err =>
    if err.problem == .decimalEmpty then throw { err with problem := .repetitionCountDecimalEmpty }
    else throw err

/-- Takes the item a repetition applies to off the current branch. -/
def repeated (parts : List Ast) : ReadM (Ast × List Ast) := do
  match parts with
  | [] => complain .repetitionMissing (Span.at (← here))
  | .empty _ :: _ | .flags _ _ :: _ => complain .repetitionMissing (Span.at (← here))
  | sub :: rest => pure (sub, rest)

/-- Reads `?`, `*` or `+`, and a `?` that makes it lazy. -/
def parseUncounted (parts : List Ast) (low : Nat) (high : Option Nat) : ReadM (List Ast) := do
  let (sub, rest) ← repeated parts
  if (← bump p) && (← current p) == some '?' then
    let _ ← bump p
  return .repetition ⟨sub.span.start, ← here⟩ low high sub :: rest

/-- Reads a counted repetition `{n}`, `{n,}` or `{n,m}`, and a `?` that makes it lazy. -/
def parseCounted (parts : List Ast) : ReadM (List Ast) := do
  let start ← here
  let (sub, rest) ← repeated parts
  let unclosed : ReadM Unit := do complain .repetitionCountUnclosed ⟨start, ← here⟩
  if !(← bumpAndSpace p) then unclosed
  let first ← parseDecimal p
  if ← atEnd p then unclosed
  let (low, high) ← if (← current p) == some ',' then do
      if !(← bumpAndSpace p) then unclosed
      if (← current p) != some '}' then do
        let low ← countOf first
        let high ← countOf (← parseDecimal p)
        pure (low, some high)
      else pure (← countOf first, none)
    else do
      let n ← countOf first
      pure (n, some n)
  if (← atEnd p) || (← current p) != some '}' then unclosed
  if (← bumpAndSpace p) && (← current p) == some '?' then
    let _ ← bumpAndSpace p
  let stop ← here
  if high.any (· < low) then complain .repetitionCountInvalid ⟨start, stop⟩
  return .repetition ⟨sub.span.start, stop⟩ low high sub :: rest

/-- Reads hexadecimal digits up to a `}`; `acc` holds them, last first. -/
def readHexBraced : Nat → List Char → ReadM (List Char)
  | 0, acc => pure acc
  | fuel + 1, acc => do
    if !(← bumpAndSpace p) then return acc
    match ← current p with
    | some '}' => return acc
    | some c =>
      if (hexDigit? c).isNone then complain .escapeHexInvalidDigit (← spanChar)
      readHexBraced fuel (c :: acc)
    | none => return acc

/-- The value of hexadecimal digits. -/
def hexValue (ds : List Char) : Nat := ds.foldl (fun n d => n * 16 + ((hexDigit? d).getD 0)) 0

/-- Reads `{hex}` after `\x`, `\u` or `\U`, from the brace. -/
def parseHexBrace : ReadM Literal := do
  let brace ← here
  let start := brace + 1
  let digits := (← readHexBraced p (p.size + 1) []).reverse
  if ← atEnd p then complain .escapeUnexpectedEof ⟨brace, ← here⟩
  let stop ← here
  let _ ← bumpAndSpace p
  if digits.isEmpty then complain .escapeHexEmpty ⟨brace, ← here⟩
  let value := hexValue digits
  if value ≥ Nat.pow 2 32 || !isScalar value then complain .escapeHexInvalid ⟨start, stop⟩
  return { span := ⟨start, ← here⟩, c := Char.ofNat value }

/-- Reads `count` hexadecimal digits; `acc` holds them, last first. -/
def readHexFixed : Nat → Nat → List Char → ReadM (List Char)
  | 0, _, acc => pure acc
  | count + 1, index, acc => do
    if index > 0 then
      if !(← bumpAndSpace p) then complain .escapeUnexpectedEof (Span.at (← here))
    match ← current p with
    | some c =>
      if (hexDigit? c).isNone then complain .escapeHexInvalidDigit (← spanChar)
      readHexFixed count (index + 1) (c :: acc)
    | none => complain .escapeUnexpectedEof (Span.at (← here))

/-- Reads the hexadecimal escape after `\`, at its `x`, `u` or `U`. -/
def parseHex : ReadM Literal := do
  let kind := (← current p).getD 'x'
  let count := if kind == 'x' then 2 else if kind == 'u' then 4 else 8
  if !(← bumpAndSpace p) then complain .escapeUnexpectedEof (Span.at (← here))
  if (← current p) == some '{' then parseHexBrace p
  else
    let start ← here
    let digits := (← readHexFixed p count 0 []).reverse
    let _ ← bumpAndSpace p
    let stop ← here
    let value := hexValue digits
    if !isScalar value then complain .escapeHexInvalid ⟨start, stop⟩
    return { span := ⟨start, stop⟩, c := Char.ofNat value, byte := kind == 'x' }

/-- Skips to the `}` of a property name. -/
def skipToBrace : Nat → ReadM Unit
  | 0 => pure ()
  | fuel + 1 => do
    if (← bumpAndSpace p) && (← current p) != some '}' then skipToBrace fuel

/-- Reads a Unicode property after `\`, at its `p` or `P`: the offset after it. -/
def parseProperty : ReadM Nat := do
  if !(← bumpAndSpace p) then complain .escapeUnexpectedEof (Span.at (← here))
  if (← current p) == some '{' then
    skipToBrace p (p.size + 1)
    if ← atEnd p then complain .escapeUnexpectedEof (Span.at (← here))
    let _ ← bump p
    here
  else
    if (← current p) == some '\\' then complain .unicodeClassInvalid (← spanChar)
    let _ ← bumpAndSpace p
    here

/-- Whether a character may stand in the name of a special word boundary. -/
def isBoundaryNameChar (c : Char) : Bool := c.isAlpha || c == '-'

/-- Reads the characters of a special word boundary name; `acc` holds them, last first. -/
def readBoundaryName : Nat → List Char → ReadM (List Char)
  | 0, acc => pure acc
  | fuel + 1, acc => do
    match ← current p with
    | some c =>
      if isBoundaryNameChar c then do
        let _ ← bumpAndSpace p
        readBoundaryName fuel (c :: acc)
      else pure acc
    | none => pure acc

/-- Reads `{start}`, `{end}`, `{start-half}` or `{end-half}` after `\b`, from the brace; nothing,
and the reader back at the brace, when no name can follow. -/
def parseSpecialBoundary (escapeStart : Nat) : ReadM (Option Assertion) := do
  let start ← here
  if !(← bumpAndSpace p) then
    complain .specialWordOrRepetitionUnexpectedEof ⟨escapeStart, ← here⟩
  let contents ← here
  if !((← current p).map isBoundaryNameChar).getD false then
    modify fun r => { r with pos := start }
    return none
  let name := String.ofList (← readBoundaryName p (p.size + 1) []).reverse
  if (← atEnd p) || (← current p) != some '}' then
    complain .specialWordBoundaryUnclosed ⟨start, ← here⟩
  let stop ← here
  let _ ← bump p
  match name with
  | "start" => return some .wordStart
  | "end" => return some .wordEnd
  | "start-half" => return some .wordStartHalf
  | "end-half" => return some .wordEndHalf
  | _ => complain .specialWordBoundaryUnrecognized ⟨contents, stop⟩

/-- Reads an escape, at its `\`. -/
def parseEscape : ReadM Primitive := do
  let start ← here
  if !(← bump p) then complain .escapeUnexpectedEof ⟨start, ← here⟩
  let c := (← current p).getD ' '
  if c.isDigit then complain .unsupportedBackreference ⟨start, (← here) + 1⟩
  if c == 'x' || c == 'u' || c == 'U' then
    let lit ← parseHex p
    return .literal { lit with span := ⟨start, lit.span.stop⟩ }
  if c == 'p' || c == 'P' then
    return .property ⟨start, ← parseProperty p⟩
  let shortKind : Option ShortClass := match c.toLower with
    | 'd' => some .digit
    | 's' => some .space
    | 'w' => some .word
    | _ => none
  if let some kind := shortKind then
    let _ ← bump p
    return .short ⟨start, ← here⟩ kind c.isUpper
  let _ ← bump p
  let span : Span := ⟨start, ← here⟩
  if isEscapable c then return .literal { span, c }
  match c with
  | 'a' => return .literal { span, c := '\x07' }
  | 'f' => return .literal { span, c := '\x0c' }
  | 't' => return .literal { span, c := '\t' }
  | 'n' => return .literal { span, c := '\n' }
  | 'r' => return .literal { span, c := '\r' }
  | 'v' => return .literal { span, c := '\x0b' }
  | 'A' => return .assertion span .startText
  | 'z' => return .assertion span .endText
  | 'b' =>
    if (← current p) == some '{' then
      match ← parseSpecialBoundary p start with
      | some kind => return .assertion ⟨start, ← here⟩ kind
      | none => return .assertion span .wordBoundary
    else return .assertion span .wordBoundary
  | 'B' => return .assertion span .notWordBoundary
  | '<' => return .assertion span .wordStart
  | '>' => return .assertion span .wordEnd
  | _ => complain .escapeUnrecognized span

/-- Reads a primitive item outside a class. -/
def parsePrimitive : ReadM Primitive := do
  let span ← spanChar
  match (← current p).getD ' ' with
  | '\\' => parseEscape p
  | '.' => do let _ ← bump p; return .dot span
  | '^' => do let _ ← bump p; return .assertion span .startLine
  | '$' => do let _ ← bump p; return .assertion span .endLine
  | c => do let _ ← bump p; return .literal { span, c }

/-- The flag a letter names. -/
def flagOf? : Char → Option Flag
  | 'i' => some .caseInsensitive
  | 'm' => some .multiLine
  | 's' => some .dotAll
  | 'U' => some .swapGreed
  | 'u' => some .unicode
  | 'R' => some .crlf
  | 'x' => some .ignoreWhitespace
  | _ => none

/-- Reads the flags of a flag group up to its `:` or `)`; `items` holds those read, and
`dangling` the stretch of a `-` that no flag has followed yet. -/
def parseFlags : Nat → List FlagItem → Option Span → ReadM (List FlagItem)
  | 0, items, _ => pure items
  | fuel + 1, items, dangling => do
    let c := (← current p).getD ')'
    if c == ':' || c == ')' then
      if let some s := dangling then complain .flagDanglingNegation s
      return items
    let span ← spanChar
    let (item, dangling) ← if c == '-' then
        match items.find? (·.flag.isNone) with
        | some first => throw { problem := .flagRepeatedNegation, span, earlier := some first.span }
        | none => pure ({ span, flag := none }, some span)
      else
        match flagOf? c with
        | none => complain .flagUnrecognized span
        | some f =>
          match items.find? (·.flag == some f) with
          | some first => throw { problem := .flagDuplicate, span, earlier := some first.span }
          | none => pure ({ span, flag := some f }, none)
    if !(← bump p) then complain .flagUnexpectedEof (Span.at (← here))
    parseFlags fuel (items ++ [item]) dangling

/-- Reads the characters of a capture group name up to its `>`. -/
def readName : Nat → Nat → ReadM Unit
  | 0, _ => pure ()
  | fuel + 1, start => do
    match ← current p with
    | some '>' => pure ()
    | some c =>
      if !isCaptureChar c ((← here) == start) then complain .groupNameInvalid (← spanChar)
      if ← bump p then readName fuel start
    | none => pure ()

/-- Reads a capture group name and its `>`, after `(?P<` or `(?<`. -/
def parseCaptureName : ReadM Unit := do
  if ← atEnd p then complain .groupNameUnexpectedEof (Span.at (← here))
  let start ← here
  readName p (p.size + 1) start
  let stop ← here
  if ← atEnd p then complain .groupNameUnexpectedEof (Span.at stop)
  let _ ← bump p
  let name := String.ofList ((p.toList.drop start).take (stop - start))
  if name.isEmpty then complain .groupNameEmpty (Span.at start)
  let span : Span := ⟨start, stop⟩
  match (← get).names.lookup name with
  | some first => throw { problem := .groupNameDuplicate, span, earlier := some first }
  | none => modify fun r => { r with names := r.names ++ [(name, span)] }

/-- Moves past the first of the texts that comes next, if one does. -/
def bumpAny : List String → ReadM Bool
  | [] => pure false
  | text :: rest => do if ← bumpIf p text then pure true else bumpAny rest

/-- Moves past `?=`, `?!`, `?<=` or `?<!`, which begin a look-around. -/
def lookAround : ReadM Bool := bumpAny p ["?=", "?!", "?<=", "?<!"]

/-- Moves past `?P<` or `?<`, which begin a named group. -/
def captureOpening : ReadM Bool := bumpAny p ["?P<", "?<"]

/-- Reads how a group begins, at its `(`. -/
def parseOpening : ReadM Opening := do
  let opening ← spanChar
  let _ ← bump p
  bumpSpace p
  if ← lookAround p then complain .unsupportedLookAround ⟨opening.start, ← here⟩
  let inner := Span.at (← here)
  if ← captureOpening p then
    parseCaptureName p
    return .group opening true []
  if ← bumpIf p "?" then
    if ← atEnd p then complain .groupUnclosed opening
    let items ← parseFlags p (p.size + 1) [] none
    let closer := (← current p).getD ')'
    let _ ← bump p
    if closer == ')' then
      if items.isEmpty then complain .repetitionMissing inner
      return .setFlags ⟨opening.start, ← here⟩ items
    return .group opening false items
  return .group opening true []

/-- Reads `[:name:]` or `[:^name:]` inside a class, at its `[`; nothing, and the reader back
at the `[`, when it is not one. -/
def parseAsciiClass : ReadM (Option ClassSet) := do
  let start ← here
  let back : ReadM (Option ClassSet) := do
    modify fun r => { r with pos := start }
    return none
  if !(← bump p) || (← current p) != some ':' then return ← back
  if !(← bump p) then return ← back
  let negated := (← current p) == some '^'
  if negated then
    if !(← bump p) then return ← back
  let nameStart ← here
  let nameLength := (p.toList.drop nameStart).takeWhile (· != ':') |>.length
  modify fun r => { r with pos := nameStart + nameLength }
  if ← atEnd p then return ← back
  let name := String.ofList ((p.toList.drop nameStart).take nameLength)
  if !(← bumpIf p ":]") then return ← back
  match AsciiKind.ofName? name with
  | some kind => return some (.ascii ⟨start, ← here⟩ kind negated)
  | none => back

/-- Reads a class item that may be one end of a range: an escape or a plain character. -/
def parseClassPrimitive : ReadM Primitive := do
  if (← current p) == some '\\' then parseEscape p
  else
    let span ← spanChar
    let c := (← current p).getD ' '
    let _ ← bump p
    return .literal { span, c }

/-- A primitive as a class item. -/
def classItemOf : Primitive → ReadM ClassSet
  | .literal lit => pure (.literal lit)
  | .short s k n => pure (.short s k n)
  | .property s => pure (.property s)
  | prim => complain .classEscapeInvalid prim.span

/-- A primitive as an end of a range. -/
def rangeEndOf : Primitive → ReadM Literal
  | .literal lit => pure lit
  | prim => complain .classRangeLiteral prim.span

/-- Reads a class item or a range `a-z`; `open` is the stretch of the innermost open class. -/
def parseClassRange (opening : Span) : ReadM ClassSet := do
  let first ← parseClassPrimitive p
  bumpSpace p
  if ← atEnd p then complain .classUnclosed opening
  let next ← peekSpace p
  if (← current p) != some '-' || next == some ']' || next == some '-' then
    return ← classItemOf first
  if !(← bumpAndSpace p) then complain .classUnclosed opening
  let second ← parseClassPrimitive p
  let span : Span := ⟨first.span.start, second.span.stop⟩
  let lo ← rangeEndOf first
  let hi ← rangeEndOf second
  if lo.c > hi.c then complain .classRangeInvalid span
  return .range span lo hi

/-- Reads the leading `-`s of a class as literals. -/
def readDashes : Nat → Nat → ClassUnion → ReadM ClassUnion
  | 0, _, u => pure u
  | fuel + 1, start, u => do
    if (← current p) != some '-' then return u
    let u := u.push (.literal { span := ← spanChar, c := '-' })
    if !(← bumpAndSpace p) then complain .classUnclosed (Span.at start)
    readDashes fuel start u

/-- Reads the opening of a class, at its `[`: its stretch so far, whether it is negated, and the
literal `-`s and `]` that may follow. -/
def parseClassOpen : ReadM (Span × Bool × ClassUnion) := do
  let start ← here
  if !(← bumpAndSpace p) then complain .classUnclosed ⟨start, ← here⟩
  let negated := (← current p) == some '^'
  if negated then
    if !(← bumpAndSpace p) then complain .classUnclosed ⟨start, ← here⟩
  let u ← readDashes p (p.size + 1) start { span := Span.at (← here), items := [] }
  let u ← if u.items.isEmpty && (← current p) == some ']' then do
      let u := u.push (.literal { span := ← spanChar, c := ']' })
      if !(← bumpAndSpace p) then complain .classUnclosed ⟨start, ← here⟩
      pure u
    else pure u
  return (⟨start, ← here⟩, negated, u)

/-- Reads the rest of a class after its opening, up to its `]`: the items of the current union,
and the operator pending with its left side. -/
def parseClassLevel : Nat → Span → Bool → ClassUnion → Option (SetOp × ClassSet) →
    ReadM ClassSet
  | 0, opening, _, _, _ => complain .classUnclosed opening
  | fuel + 1, opening, negated, u, pending => do
    bumpSpace p
    if ← atEnd p then complain .classUnclosed opening
    let c := (← current p).getD ' '
    let next ← peek p
    let operator (kind : SetOp) : ReadM ClassSet := do
      let _ ← bump p
      let _ ← bump p
      let pending := some (kind, combine pending u.toSet)
      parseClassLevel fuel opening negated { span := Span.at (← here), items := [] } pending
    if c == '[' then
      match ← parseAsciiClass p with
      | some item => parseClassLevel fuel opening negated (u.push item) pending
      | none =>
        let (inner, innerNegated, innerUnion) ← parseClassOpen p
        let nested ← parseClassLevel fuel inner innerNegated innerUnion none
        parseClassLevel fuel opening negated (u.push nested) pending
    else if c == ']' then
      let set := combine pending u.toSet
      let _ ← bump p
      return .bracketed ⟨opening.start, ← here⟩ negated set
    else if c == '&' && next == some '&' then operator .intersection
    else if c == '-' && next == some '-' then operator .difference
    else if c == '~' && next == some '~' then operator .symmetricDifference
    else
      let item ← parseClassRange p opening
      parseClassLevel fuel opening negated (u.push item) pending

/-- Reads a bracketed class, at its `[`. -/
def parseClass : ReadM Ast := do
  let (opening, negated, u) ← parseClassOpen p
  match ← parseClassLevel p (2 * p.size + 2) opening negated u none with
  | .bracketed span negated set => return .bracketed span negated set
  | set => return .bracketed set.span negated set

/-- Reads a body, a group's or the whole pattern's, up to a `)` or the end: the body as one node
and whether a `)` ended it. A `)` ends only a group's body. -/
def parseBody : Nat → Bool → Body → ReadM (Ast × Bool)
  | 0, _, _ => do complain .groupUnclosed (Span.at (← here))
  | fuel + 1, inGroup, body => do
    bumpSpace p
    let pos ← here
    match ← current p with
    | none => return (body.finish pos, false)
    | some ')' =>
      if inGroup then return (body.finish pos, true)
      else complain .groupUnopened ⟨pos, pos + 1⟩
    | some '|' =>
      let _ ← bump p
      parseBody fuel inGroup (body.alternate pos (← here))
    | some '(' =>
      match ← parseOpening p with
      | .setFlags span items =>
        if let some on := flagState items .ignoreWhitespace then
          modify fun r => { r with blanks := on }
        parseBody fuel inGroup (body.push (.flags span items))
      | .group opening capture items =>
        let outer := (← get).blanks
        modify fun r => { r with blanks := (flagState items .ignoreWhitespace).getD outer }
        let (sub, closed) ← parseBody fuel true (Body.new (← here))
        if !closed then complain .groupUnclosed opening
        modify fun r => { r with blanks := outer }
        let _ ← bump p
        parseBody fuel inGroup (body.push (.group ⟨opening.start, ← here⟩ capture items sub))
    | some '[' => parseBody fuel inGroup (body.push (← parseClass p))
    | some '?' => parseBody fuel inGroup { body with parts := ← parseUncounted p body.parts 0 (some 1) }
    | some '*' => parseBody fuel inGroup { body with parts := ← parseUncounted p body.parts 0 none }
    | some '+' => parseBody fuel inGroup { body with parts := ← parseUncounted p body.parts 1 none }
    | some '{' => parseBody fuel inGroup { body with parts := ← parseCounted p body.parts }
    | some _ => parseBody fuel inGroup (body.push (← parsePrimitive p).toAst)

end

mutual

/-- The stretch of the first node that nests deeper than `nestLimit`, at depth `depth`. -/
def nestAst (depth : Nat) : Ast → Option Span
  | .bracketed s _ set => if depth + 1 > nestLimit then some s else nestClass (depth + 1) set
  | .repetition s _ _ sub => if depth + 1 > nestLimit then some s else nestAst (depth + 1) sub
  | .group s _ _ sub => if depth + 1 > nestLimit then some s else nestAst (depth + 1) sub
  | .alternation s bs => if depth + 1 > nestLimit then some s else nestAsts (depth + 1) bs
  | .concat s ps => if depth + 1 > nestLimit then some s else nestAsts (depth + 1) ps
  | _ => none

/-- The first node of a list that nests too deep. -/
def nestAsts (depth : Nat) : List Ast → Option Span
  | [] => none
  | a :: rest => (nestAst depth a).orElse fun _ => nestAsts depth rest

/-- The first class part that nests too deep. -/
def nestClass (depth : Nat) : ClassSet → Option Span
  | .bracketed s _ inner => if depth + 1 > nestLimit then some s else nestClass (depth + 1) inner
  | .union s items => if depth + 1 > nestLimit then some s else nestClasses (depth + 1) items
  | .op s _ lhs rhs =>
    if depth + 1 > nestLimit then some s
    else (nestClass (depth + 1) lhs).orElse fun _ => nestClass (depth + 1) rhs
  | _ => none

/-- The first class part of a list that nests too deep. -/
def nestClasses (depth : Nat) : List ClassSet → Option Span
  | [] => none
  | c :: rest => (nestClass depth c).orElse fun _ => nestClasses depth rest

end

/-- Reads a pattern into its syntax tree. -/
def parseAst (pattern : String) : Except SyntaxError Ast := do
  let p := pattern.toList.toArray
  let ((ast, _), _) ← (parseBody p (2 * p.size + 4) false (Body.new 0)).run {}
  match nestAst 0 ast with
  | some span => throw { problem := .nestLimitExceeded, span }
  | none => pure ast

end Cadence.Text.Regex
