import Cadence.Yaml.Token

/-!
# Cutting YAML text into tokens

The lexer cuts a YAML text into tokens on demand. It keeps the indentation levels of the open
block collections and emits the bounds of a block collection when a line starts further in or
further out. A plain or quoted scalar, an anchor, an alias or a tag may turn out to be a key
once a `:` follows it on the same line; the lexer remembers where such a simple key could
start and, when the `:` comes, inserts the key token (and, if a new block mapping starts there,
its start token) in front of it. A token is handed out only once no remembered simple key
could still claim its place, so a reader sees tokens, and errors, in the order in which that
lookahead finds them.

Errors name the problem at the current position and what was being scanned and where it began:
a tab where indentation is expected, a `:` where no value may stand, a quoted scalar left open,
a simple key without its `:` on the same line.
-/
namespace Cadence.Yaml

/-- A place where a simple key may start. -/
structure SimpleKey where
  possible : Bool := false
  required : Bool := false
  tokenNumber : Nat := 0
  mark : Mark := {}
  deriving Repr, Inhabited

/-- The single quote. -/
def apostrophe : Char := Char.ofNat 39

/-- The grave accent. -/
def graveAccent : Char := Char.ofNat 96

/-- The state of a lexer. -/
structure Lexer where
  rest : List Char
  mark : Mark := {}
  started : Bool := false
  ended : Bool := false
  flowLevel : Nat := 0
  /-- Tokens scanned and not yet taken. -/
  queue : List Token := []
  /-- Tokens taken so far. -/
  taken : Nat := 0
  /-- Whether the first token of the queue may be handed out. -/
  available : Bool := false
  indent : Int := -1
  indents : List Int := []
  simpleKeyAllowed : Bool := false
  /-- One remembered simple key per flow level, innermost first. -/
  keys : List SimpleKey := []
  /-- The byte offset of the first character YAML does not allow, if any. -/
  unreadable : Option Nat := none
  deriving Repr, Inhabited

namespace Lexer

/-- The character `k` places ahead, NUL past the end. -/
def ahead (s : Lexer) (k : Nat) : Char := s.rest.getD k '\x00'

/-- The current character. -/
def cur (s : Lexer) : Char := s.ahead 0

/-- Moves past one character that is not a line break. -/
def skip (s : Lexer) : Lexer :=
  match s.rest with
  | [] => s
  | c :: rest =>
    { s with rest, mark := { s.mark with index := s.mark.index + c.utf8Size, column := s.mark.column + 1 } }

/-- Moves past one line break; a carriage return and line feed count as one. -/
def skipLine (s : Lexer) : Lexer :=
  let next (rest : List Char) (width : Nat) : Lexer :=
    { s with rest, mark := { index := s.mark.index + width, line := s.mark.line + 1, column := 0 } }
  match s.rest with
  | '\r' :: '\n' :: rest => next rest 2
  | c :: rest => if isBreak c then next rest c.utf8Size else s
  | [] => s

/-- Moves past one line break and answers how it reads inside a scalar: a line or paragraph
separator as itself, every other break as a line feed. -/
def readLine (s : Lexer) : List Char × Lexer :=
  let c := s.cur
  if c == '\u2028' || c == '\u2029' then ([c], s.skipLine)
  else if isBreak c then (['\n'], s.skipLine)
  else ([], s)

/-- Skips characters while `p` holds of the lexer; never moves past a line break. -/
def skipWhile (p : Lexer → Bool) : Nat → Lexer → Lexer
  | 0, s => s
  | n + 1, s => if p s && !isBreakOrEnd s.cur then skipWhile p n s.skip else s

/-- Reads characters while `p` holds of the current one; never a line break. -/
def readWhile (p : Char → Bool) : Nat → List Char → Lexer → List Char × Lexer
  | 0, acc, s => (acc, s)
  | n + 1, acc, s =>
    if p s.cur && !isBreakOrEnd s.cur then readWhile p n (acc ++ [s.cur]) s.skip else (acc, s)

/-- Appends a token. -/
def push (s : Lexer) (kind : TokenKind) (start stop : Mark) : Lexer :=
  { s with queue := s.queue ++ [⟨kind, start, stop⟩] }

/-- An error at the current position, while reading what began at `contextMark`. -/
def fail (s : Lexer) (context : Option String) (contextMark : Mark) (problem : String) : Error :=
  .malformed .scanner problem s.mark (context.map fun c => (c, contextMark))

/-- The innermost remembered simple key. -/
def topKey (s : Lexer) : SimpleKey := s.keys.headD {}

/-- Replaces the innermost remembered simple key. -/
def setTopKey (s : Lexer) (k : SimpleKey) : Lexer :=
  { s with keys := k :: s.keys.tail }

/-- Forgets the innermost simple key; one that was required is an error. -/
def removeKey (s : Lexer) : Except Error Lexer :=
  let k := s.topKey
  if k.possible && k.required then
    .error (s.fail (some "while scanning a simple key") k.mark "could not find expected ':'")
  else .ok (s.setTopKey { k with possible := false })

/-- Remembers that a simple key may start here, if one may. -/
def saveKey (s : Lexer) : Except Error Lexer := do
  if s.simpleKeyAllowed then
    let required := s.flowLevel == 0 && s.indent == (s.mark.column : Int)
    let k : SimpleKey :=
      { possible := true, required, tokenNumber := s.taken + s.queue.length, mark := s.mark }
    let s ← s.removeKey
    pure (s.setTopKey k)
  else pure s

/-- Forgets simple keys that can no longer be keys: those on an earlier line or more than 1024
bytes back. A required one is an error. -/
def staleKeys (s : Lexer) : Except Error Lexer := do
  let keys ← s.keys.reverse.mapM fun k =>
    if k.possible && (k.mark.line < s.mark.line || k.mark.index + 1024 < s.mark.index) then
      if k.required then
        throw (s.fail (some "while scanning a simple key") k.mark "could not find expected ':'")
      else pure { k with possible := false }
    else pure k
  pure { s with keys := keys.reverse }

/-- Enters a flow collection. -/
def increaseFlow (s : Lexer) : Lexer :=
  { s with keys := {} :: s.keys, flowLevel := s.flowLevel + 1 }

/-- Leaves a flow collection. -/
def decreaseFlow (s : Lexer) : Lexer :=
  if s.flowLevel > 0 then { s with flowLevel := s.flowLevel - 1, keys := s.keys.tail } else s

/-- Puts a token at place `i` of the queue. -/
def insertAt (q : List Token) (i : Nat) (t : Token) : List Token := q.take i ++ t :: q.drop i

/-- Opens a block collection at `column` if it is further in than the current indentation;
the start token goes at the end of the queue, or before token number `number`. -/
def rollIndent (s : Lexer) (column : Nat) (number : Option Nat) (kind : TokenKind)
    (mark : Mark) : Lexer :=
  if s.flowLevel > 0 then s
  else if s.indent < (column : Int) then
    let t : Token := ⟨kind, mark, mark⟩
    let queue := match number with
      | none => s.queue ++ [t]
      | some n => insertAt s.queue (n - s.taken) t
    { s with indents := s.indent :: s.indents, indent := column, queue }
  else s

/-- Closes the block collections indented further than `column`. -/
def unrollTo (column : Int) : Nat → Lexer → Lexer
  | 0, s => s
  | n + 1, s =>
    if s.indent > column then
      let s := s.push .blockEnd s.mark s.mark
      unrollTo column n { s with indent := s.indents.headD (-1), indents := s.indents.tail }
    else s

/-- Closes the block collections indented further than `column`, outside flow collections. -/
def unrollIndent (s : Lexer) (column : Int) : Lexer :=
  if s.flowLevel > 0 then s else unrollTo column (s.indents.length + 1) s

/-- Skips blanks, comments and line breaks up to the next token. Tabs count as blanks inside
flow collections and where no simple key may start. -/
def toNextToken : Nat → Lexer → Lexer
  | 0, s => s
  | n + 1, s =>
    let s := if s.mark.column == 0 && s.cur == '\uFEFF' then s.skip else s
    let s := skipWhile (fun s => s.cur == ' ' ||
      ((s.flowLevel > 0 || !s.simpleKeyAllowed) && s.cur == '\t')) s.rest.length s
    let s := if s.cur == '#' then skipWhile (fun _ => true) s.rest.length s else s
    if isBreak s.cur then
      let s := s.skipLine
      toNextToken n (if s.flowLevel == 0 then { s with simpleKeyAllowed := true } else s)
    else s

/-- Skips blanks. -/
def skipBlanks (s : Lexer) : Lexer := skipWhile (fun s => isBlank s.cur) s.rest.length s

/-- Skips blanks and a comment up to the end of the line. -/
def skipToLineEnd (s : Lexer) : Lexer :=
  let s := s.skipBlanks
  if s.cur == '#' then skipWhile (fun _ => true) s.rest.length s else s

/-! ### Stream, directives and document markers -/

/-- The start of the stream. -/
def fetchStreamStart (s : Lexer) : Lexer :=
  let s := { s with indent := -1, keys := [{}], simpleKeyAllowed := true, started := true }
  s.push .streamStart s.mark s.mark

/-- The end of the stream, on a line of its own. -/
def fetchStreamEnd (s : Lexer) : Except Error Lexer := do
  let s := if s.mark.column != 0 then
      { s with mark := { s.mark with column := 0, line := s.mark.line + 1 } }
    else s
  let s := s.unrollIndent (-1)
  let s ← s.removeKey
  let s := { s with simpleKeyAllowed := false, ended := true }
  pure (s.push .streamEnd s.mark s.mark)

/-- The digits of a version number. -/
def versionNumber (s : Lexer) (start : Mark) : Except Error (Nat × Lexer) :=
  let (ds, s) := readWhile Char.isDigit 9 [] s
  if s.cur.isDigit then
    .error (s.fail (some "while scanning a %YAML directive") start "found extremely long version number")
  else if ds.isEmpty then
    .error (s.fail (some "while scanning a %YAML directive") start "did not find expected version number")
  else .ok (ds.foldl (fun n d => n * 10 + (d.toNat - '0'.toNat)) 0, s)

/-- A tag handle: `!`, `!!` or `!name!`. -/
def tagHandle (s : Lexer) (directive : Bool) (start : Mark) : Except Error (String × Lexer) := do
  let context := if directive then "while scanning a tag directive" else "while scanning a tag"
  if s.cur != '!' then throw (s.fail (some context) start "did not find expected '!'")
  let (name, s) := readWhile isWordChar s.rest.length [] s.skip
  if s.cur == '!' then pure ("!" ++ String.ofList name ++ "!", s.skip)
  else if directive && !name.isEmpty then
    throw (s.fail (some "while parsing a tag directive") start "did not find expected '!'")
  else pure ("!" ++ String.ofList name, s)

/-- The characters a tag may hold; inside `!<…>` also `,`, `[` and `]`. -/
def isUriChar (verbatim : Bool) (c : Char) : Bool :=
  isWordChar c || [';', '/', '?', ':', '@', '&', '=', '+', '$', '.', '%', '!', '~', '*',
    apostrophe, '(', ')'].contains c || (verbatim && [',', '[', ']'].contains c)

/-- The value of a hexadecimal digit. -/
def hexDigitValue (c : Char) : Option Nat :=
  if c.isDigit then some (c.toNat - '0'.toNat)
  else if 'a' ≤ c ∧ c ≤ 'f' then some (c.toNat - 'a'.toNat + 10)
  else if 'A' ≤ c ∧ c ≤ 'F' then some (c.toNat - 'A'.toNat + 10)
  else none

/-- The bytes of `%xx` escapes, up to one UTF-8 character. -/
def uriEscapes (directive : Bool) (start : Mark) : Nat → Nat → List UInt8 → Lexer →
    Except Error (List UInt8 × Lexer)
  | 0, _, acc, s => .ok (acc, s)
  | fuel + 1, width, acc, s => do
    let context := if directive then "while parsing a %TAG directive" else "while parsing a tag"
    match s.cur == '%', hexDigitValue (s.ahead 1), hexDigitValue (s.ahead 2) with
    | true, some hi, some lo =>
      let octet := hi * 16 + lo
      let width ← if width == 0 then
          if octet < 0x80 then pure 1
          else if octet / 32 == 6 then pure 2
          else if octet / 16 == 14 then pure 3
          else if octet / 8 == 30 then pure 4
          else throw (s.fail (some context) start "found an incorrect leading UTF-8 octet")
        else if octet / 64 != 2 then
          throw (s.fail (some context) start "found an incorrect trailing UTF-8 octet")
        else pure width
      let acc := acc ++ [octet.toUInt8]
      let s := s.skip.skip.skip
      if width == 1 then pure (acc, s) else uriEscapes directive start fuel (width - 1) acc s
    | _, _, _ => throw (s.fail (some context) start "did not find URI escaped octet")

/-- The characters of a tag after its handle; `head` is a handle that turned out to be part of
it (its `!` is dropped). A tag is kept as bytes, one character of the same code for each: the
characters of a tag are ASCII, and an escape `%xx` stands for the byte it writes, so a tag
whose escapes do not spell UTF-8 text is kept as it is. -/
def tagUri (s : Lexer) (verbatim directive : Bool) (head : String) (start : Mark) :
    Except Error (String × Lexer) :=
  let rec go : Nat → List Char → Nat → Lexer → Except Error (List Char × Nat × Lexer)
    | 0, acc, n, s => .ok (acc, n, s)
    | fuel + 1, acc, n, s =>
      if !isUriChar verbatim s.cur then .ok (acc, n, s)
      else if s.cur == '%' then do
        let (bytes, s) ← uriEscapes directive start 4 0 [] s
        go fuel (acc ++ bytes.map fun b => Char.ofNat b.toNat) (n + 1) s
      else go fuel (acc ++ [s.cur]) (n + 1) s.skip
  do
    let (cs, n, s) ← go s.rest.length (head.toList.drop 1) head.length s
    if n == 0 then
      let context := if directive then "while parsing a %TAG directive" else "while parsing a tag"
      throw (s.fail (some context) start "did not find expected tag URI")
    pure (String.ofList cs, s)

/-- A `%YAML` or `%TAG` directive and the rest of its line. -/
def fetchDirective (s : Lexer) : Except Error Lexer := do
  let s := s.unrollIndent (-1)
  let s ← s.removeKey
  let s := { s with simpleKeyAllowed := false }
  let start := s.mark
  let (name, s) := readWhile isWordChar s.rest.length [] s.skip
  let context := some "while scanning a directive"
  if name.isEmpty then throw (s.fail context start "could not find expected directive name")
  if !isSpaceOrEnd s.cur then
    throw (s.fail context start "found unexpected non-alphabetical character")
  let (kind, s) ← match String.ofList name with
    | "YAML" => do
      let s := s.skipBlanks
      let (major, s) ← s.versionNumber start
      if s.cur != '.' then
        throw (s.fail (some "while scanning a %YAML directive") start
          "did not find expected digit or '.' character")
      let (minor, s) ← s.skip.versionNumber start
      pure (TokenKind.versionDirective major minor, s)
    | "TAG" => do
      let s := s.skipBlanks
      let (handle, s) ← s.tagHandle true start
      if !isBlank s.cur then
        throw (s.fail (some "while scanning a %TAG directive") start "did not find expected whitespace")
      let s := s.skipBlanks
      let (pfx, s) ← s.tagUri true true "" start
      if !isSpaceOrEnd s.cur then
        throw (s.fail (some "while scanning a %TAG directive") start
          "did not find expected whitespace or line break")
      pure (TokenKind.tagDirective handle pfx, s)
    | _ => throw (s.fail context start "found unknown directive name")
  let stop := s.mark
  let s := s.skipToLineEnd
  if !isBreakOrEnd s.cur then
    throw (s.fail context start "did not find expected comment or line break")
  let s := if isBreak s.cur then s.skipLine else s
  pure (s.push kind start stop)

/-- A `---` or `...` marker. -/
def fetchDocumentIndicator (s : Lexer) (kind : TokenKind) : Except Error Lexer := do
  let s := s.unrollIndent (-1)
  let s ← s.removeKey
  let s := { s with simpleKeyAllowed := false }
  let start := s.mark
  let s := s.skip.skip.skip
  pure (s.push kind start s.mark)

/-! ### Indicators -/

/-- `[` or `{`. -/
def fetchFlowStart (s : Lexer) (kind : TokenKind) : Except Error Lexer := do
  let s ← s.saveKey
  let s := { s.increaseFlow with simpleKeyAllowed := true }
  let start := s.mark
  let s := s.skip
  pure (s.push kind start s.mark)

/-- `]` or `}`. -/
def fetchFlowEnd (s : Lexer) (kind : TokenKind) : Except Error Lexer := do
  let s ← s.removeKey
  let s := { s.decreaseFlow with simpleKeyAllowed := false }
  let start := s.mark
  let s := s.skip
  pure (s.push kind start s.mark)

/-- `,`. -/
def fetchFlowEntry (s : Lexer) : Except Error Lexer := do
  let s ← s.removeKey
  let s := { s with simpleKeyAllowed := true }
  let start := s.mark
  let s := s.skip
  pure (s.push .flowEntry start s.mark)

/-- `-` followed by a blank. -/
def fetchBlockEntry (s : Lexer) : Except Error Lexer := do
  let s ← if s.flowLevel == 0 then
      if !s.simpleKeyAllowed then
        throw (s.fail none s.mark "block sequence entries are not allowed in this context")
      else pure (s.rollIndent s.mark.column none .blockSequenceStart s.mark)
    else pure s
  let s ← s.removeKey
  let s := { s with simpleKeyAllowed := true }
  let start := s.mark
  let s := s.skip
  pure (s.push .blockEntry start s.mark)

/-- `?`. -/
def fetchKey (s : Lexer) : Except Error Lexer := do
  let s ← if s.flowLevel == 0 then
      if !s.simpleKeyAllowed then
        throw (s.fail none s.mark "mapping keys are not allowed in this context")
      else pure (s.rollIndent s.mark.column none .blockMappingStart s.mark)
    else pure s
  let s ← s.removeKey
  let s := { s with simpleKeyAllowed := s.flowLevel == 0 }
  let start := s.mark
  let s := s.skip
  pure (s.push .key start s.mark)

/-- `:`; a remembered simple key becomes a key here. -/
def fetchValue (s : Lexer) : Except Error Lexer := do
  let k := s.topKey
  let s ← if k.possible then
      let s := { s with queue := insertAt s.queue (k.tokenNumber - s.taken) ⟨.key, k.mark, k.mark⟩ }
      let s := s.rollIndent k.mark.column (some k.tokenNumber) .blockMappingStart k.mark
      pure { s.setTopKey { k with possible := false } with simpleKeyAllowed := false }
    else if s.flowLevel == 0 then
      if !s.simpleKeyAllowed then
        throw (s.fail none s.mark "mapping values are not allowed in this context")
      else
        let s := s.rollIndent s.mark.column none .blockMappingStart s.mark
        pure { s with simpleKeyAllowed := true }
    else pure { s with simpleKeyAllowed := false }
  let start := s.mark
  let s := s.skip
  pure (s.push .value start s.mark)

/-- `*name` (an alias) or `&name` (an anchor). -/
def fetchAnchor (s : Lexer) (isAlias : Bool) : Except Error Lexer := do
  let s ← s.saveKey
  let s := { s with simpleKeyAllowed := false }
  let start := s.mark
  let (name, s) := readWhile isWordChar s.rest.length [] s.skip
  let c := s.cur
  let ends := isSpaceOrEnd c || ['?', ':', ',', ']', '\x7d', '%', '@', graveAccent].contains c
  if name.isEmpty || !ends then
    throw (s.fail (some (if isAlias then "while scanning an alias" else "while scanning an anchor"))
      start "did not find expected alphabetic or numeric character")
  let kind := if isAlias then TokenKind.alias (String.ofList name) else .anchor (String.ofList name)
  pure (s.push kind start s.mark)

/-- A tag: `!<uri>`, `!!suffix`, `!handle!suffix`, `!suffix` or `!`. -/
def fetchTag (s : Lexer) : Except Error Lexer := do
  let s ← s.saveKey
  let s := { s with simpleKeyAllowed := false }
  let start := s.mark
  let (handle, suffix, s) ← if s.ahead 1 == '<' then do
      let (suffix, s) ← s.skip.skip.tagUri true false "" start
      if s.cur != '>' then
        throw (s.fail (some "while scanning a tag") start "did not find the expected '>'")
      pure ("", suffix, s.skip)
    else do
      let (handle, s) ← s.tagHandle false start
      if handle.length > 1 && handle.endsWith "!" then
        let (suffix, s) ← s.tagUri false false "" start
        pure (handle, suffix, s)
      else
        let (suffix, s) ← s.tagUri false false handle start
        if suffix.isEmpty then pure ("", "!", s) else pure ("!", suffix, s)
  if !isSpaceOrEnd s.cur && (s.flowLevel == 0 || s.cur != ',') then
    throw (s.fail (some "while scanning a tag") start "did not find expected whitespace or line break")
  pure (s.push (.tag handle suffix) start s.mark)

/-! ### Scalars -/

/-- Whether a `---` or `...` marker starts here, at the start of a line. -/
def atDocumentIndicator (s : Lexer) : Bool :=
  s.mark.column == 0 &&
    ((s.ahead 0 == '-' && s.ahead 1 == '-' && s.ahead 2 == '-') ||
     (s.ahead 0 == '.' && s.ahead 1 == '.' && s.ahead 2 == '.')) &&
    isSpaceOrEnd (s.ahead 3)

/-- The indentation and the empty lines before a line of a block scalar. Spaces up to the
block's indentation are skipped (all of them while it is still unknown); a tab among them is an
error. Answers the line breaks read, the position after the last one, and the indentation, fixed
from the deepest empty line when it was unknown. -/
def blockBreaks (start : Mark) (outer : Int) : Nat → Nat → Nat → List Char → Mark → Lexer →
    Except Error (Nat × List Char × Mark × Lexer)
  | 0, indent, _, breaks, stop, s => .ok (indent, breaks, stop, s)
  | fuel + 1, indent, deepest, breaks, stop, s =>
    let s := skipWhile (fun s => (indent == 0 || s.mark.column < indent) && s.cur == ' ')
      s.rest.length s
    let deepest := max deepest s.mark.column
    if (indent == 0 || s.mark.column < indent) && s.cur == '\t' then
      .error (s.fail (some "while scanning a block scalar") start
        "found a tab character where an indentation space is expected")
    else if !isBreak s.cur then
      let indent := if indent != 0 then indent else max (max deepest (outer + 1).toNat) 1
      .ok (indent, breaks, stop, s)
    else
      let (b, s) := s.readLine
      blockBreaks start outer fuel indent deepest (breaks ++ b) s.mark s

/-- The lines of a block scalar at its indentation. A line break between two lines that start
with no blank folds to a space in a folded scalar (or disappears before empty lines); every
other break is kept. Answers the text, the break after the last line, and the breaks after it. -/
def blockLines (start : Mark) (literal : Bool) (outer : Int) (indent : Nat) :
    Nat → List Char → List Char → List Char → Bool → Mark → Lexer →
    Except Error (List Char × List Char × List Char × Mark × Lexer)
  | 0, text, leading, trailing, _, stop, s => .ok (text, leading, trailing, stop, s)
  | fuel + 1, text, leading, trailing, leadingBlank, stop, s =>
    if s.mark.column != indent || isEnd s.cur then .ok (text, leading, trailing, stop, s)
    else do
      let trailingBlank := isBlank s.cur
      let text :=
        if !literal && leading.headD ' ' == '\n' && !leadingBlank && !trailingBlank then
          if trailing.isEmpty then text ++ [' '] else text
        else text ++ leading
      let text := text ++ trailing
      let leadingBlank := isBlank s.cur
      let (line, s) := readWhile (fun _ => true) s.rest.length [] s
      let (leading, s) := s.readLine
      let (_, trailing, stop, s) ← blockBreaks start outer s.rest.length indent 0 [] s.mark s
      blockLines start literal outer indent fuel (text ++ line) leading trailing leadingBlank stop s

/-- A block scalar, `|` (literal) or `>` (folded), with its chomping (`+` keeps the final
breaks, `-` drops them) and indentation indicators. -/
def fetchBlockScalar (s : Lexer) (literal : Bool) : Except Error Lexer := do
  let s ← s.removeKey
  let s := { s with simpleKeyAllowed := true }
  let start := s.mark
  let s := s.skip
  let context := some "while scanning a block scalar"
  let chompOf (c : Char) : Int := if c == '+' then 1 else -1
  let (chomping, increment, s) ← if s.cur == '+' || s.cur == '-' then do
      let chomping := chompOf s.cur
      let s := s.skip
      if s.cur.isDigit then
        if s.cur == '0' then throw (s.fail context start "found an indentation indicator equal to 0")
        pure (chomping, s.cur.toNat - '0'.toNat, s.skip)
      else pure (chomping, 0, s)
    else if s.cur.isDigit then do
      if s.cur == '0' then throw (s.fail context start "found an indentation indicator equal to 0")
      let increment := s.cur.toNat - '0'.toNat
      let s := s.skip
      if s.cur == '+' || s.cur == '-' then pure (chompOf s.cur, increment, s.skip)
      else pure (0, increment, s)
    else pure (0, 0, s)
  let s := s.skipToLineEnd
  if !isBreakOrEnd s.cur then
    throw (s.fail context start "did not find expected comment or line break")
  let s := if isBreak s.cur then s.skipLine else s
  let indent : Nat := if increment == 0 then 0
    else if s.indent >= 0 then (s.indent + increment).toNat else increment
  let (indent, trailing, stop, s) ← blockBreaks start s.indent s.rest.length indent 0 [] s.mark s
  let (text, leading, trailing, stop, s) ←
    blockLines start literal s.indent indent s.rest.length [] [] trailing false stop s
  let text := if chomping != -1 then text ++ leading else text
  let text := if chomping == 1 then text ++ trailing else text
  let style := if literal then ScalarStyle.literal else .folded
  pure (s.push (.scalar (String.ofList text) style) start stop)

/-- The character an escape letter of a double-quoted scalar stands for, or the number of hex
digits that follow it. -/
def escapeOf (c : Char) : Option (Sum Char Nat) :=
  match c with
  | '0' => some (.inl '\x00')
  | 'a' => some (.inl '\x07')
  | 'b' => some (.inl '\x08')
  | 't' => some (.inl '\t')
  | '\t' => some (.inl '\t')
  | 'n' => some (.inl '\n')
  | 'v' => some (.inl '\x0b')
  | 'f' => some (.inl '\x0c')
  | 'r' => some (.inl '\r')
  | 'e' => some (.inl '\x1b')
  | ' ' => some (.inl ' ')
  | '"' => some (.inl '"')
  | '/' => some (.inl '/')
  | '\\' => some (.inl '\\')
  | 'N' => some (.inl '\x85')
  | '_' => some (.inl '\xa0')
  | 'L' => some (.inl '\u2028')
  | 'P' => some (.inl '\u2029')
  | 'x' => some (.inr 2)
  | 'u' => some (.inr 4)
  | 'U' => some (.inr 8)
  | c => if c == apostrophe then some (.inl apostrophe) else none

/-- The value of `count` hex digits. -/
def hexValue (s : Lexer) (count : Nat) : Option Nat :=
  (List.range count).foldl (fun acc k => do
    let v ← acc
    let d ← hexDigitValue (s.ahead k)
    pure (v * 16 + d)) (some 0)

/-- The characters of one line of a quoted scalar up to a blank, a break or its closing quote.
Answers the text and whether an escaped line break ended the line. -/
def quotedRun (single : Bool) (start : Mark) : Nat → List Char → Lexer →
    Except Error (List Char × Bool × Lexer)
  | 0, acc, s => .ok (acc, false, s)
  | fuel + 1, acc, s =>
    let c := s.cur
    if isSpaceOrEnd c then .ok (acc, false, s)
    else if single && c == apostrophe && s.ahead 1 == apostrophe then
      quotedRun single start fuel (acc ++ [apostrophe]) s.skip.skip
    else if c == (if single then apostrophe else '"') then .ok (acc, false, s)
    else if !single && c == '\\' && isBreak (s.ahead 1) then .ok (acc, true, s.skip.skipLine)
    else if !single && c == '\\' then
      match escapeOf (s.ahead 1) with
      | none => .error (s.fail (some "while parsing a quoted scalar") start
          "found unknown escape character")
      | some (.inl e) => quotedRun single start fuel (acc ++ [e]) s.skip.skip
      | some (.inr width) =>
        let s := s.skip.skip
        match s.hexValue width with
        | none => .error (s.fail (some "while parsing a quoted scalar") start
            "did not find expected hexadecimal number")
        | some v =>
          if (0xD800 ≤ v ∧ v ≤ 0xDFFF) ∨ v > 0x10FFFF then
            .error (s.fail (some "while parsing a quoted scalar") start
              "found invalid Unicode character escape code")
          else quotedRun single start fuel (acc ++ [Char.ofNat v]) (skipN width s)
    else quotedRun single start fuel (acc ++ [c]) s.skip
where
  skipN : Nat → Lexer → Lexer
    | 0, s => s
    | n + 1, s => skipN n s.skip

/-- Blanks and line breaks inside a quoted scalar: blanks before the first break are kept,
blanks after it are dropped, breaks are collected. -/
def quotedGap : Nat → Bool → List Char → List Char → List Char → Lexer →
    List Char × List Char × List Char × Bool × Lexer
  | 0, brk, ws, leading, trailing, s => (ws, leading, trailing, brk, s)
  | fuel + 1, brk, ws, leading, trailing, s =>
    if isBlank s.cur then
      if brk then quotedGap fuel brk ws leading trailing s.skip
      else quotedGap fuel brk (ws ++ [s.cur]) leading trailing s.skip
    else if isBreak s.cur then
      let (b, s) := s.readLine
      if brk then quotedGap fuel brk ws leading (trailing ++ b) s
      else quotedGap fuel true [] b trailing s
    else (ws, leading, trailing, brk, s)

/-- How the blanks and breaks between two runs of a quoted or plain scalar read: one line break
becomes a space, more keep all but the first, blanks within a line stay. -/
def joinGap (brk : Bool) (ws leading trailing : List Char) : List Char :=
  if brk then
    if leading.headD ' ' == '\n' then
      if trailing.isEmpty then [' '] else trailing
    else leading ++ trailing
  else ws

/-- The lines of a quoted scalar up to its closing quote. -/
def quotedLines (single : Bool) (start : Mark) : Nat → List Char → Lexer →
    Except Error (List Char × Lexer)
  | 0, acc, s => .ok (acc, s)
  | fuel + 1, acc, s => do
    if s.atDocumentIndicator then
      throw (s.fail (some "while scanning a quoted scalar") start "found unexpected document indicator")
    if isEnd s.cur then
      throw (s.fail (some "while scanning a quoted scalar") start "found unexpected end of stream")
    let (run, escapedBreak, s) ← quotedRun single start s.rest.length [] s
    let acc := acc ++ run
    if s.cur == (if single then apostrophe else '"') then pure (acc, s)
    else
      let (ws, leading, trailing, brk, s) := quotedGap s.rest.length escapedBreak [] [] [] s
      quotedLines single start fuel (acc ++ joinGap brk ws leading trailing) s

/-- A single- or double-quoted scalar. -/
def fetchFlowScalar (s : Lexer) (single : Bool) : Except Error Lexer := do
  let s ← s.saveKey
  let s := { s with simpleKeyAllowed := false }
  let start := s.mark
  let (text, s) ← quotedLines single start (s.rest.length + 1) [] s.skip
  let s := s.skip
  let style := if single then ScalarStyle.singleQuoted else .doubleQuoted
  pure (s.push (.scalar (String.ofList text) style) start s.mark)

/-- The characters of one line of a plain scalar, up to a blank, a break, `: ` or (inside flow
collections) a flow indicator. -/
def plainRun (start : Mark) : Nat → List Char → Lexer → Except Error (List Char × Lexer)
  | 0, acc, s => .ok (acc, s)
  | fuel + 1, acc, s =>
    let c := s.cur
    let flowIndicator (c : Char) : Bool := [',', '[', ']', '\x7b', '\x7d'].contains c
    if isSpaceOrEnd c then .ok (acc, s)
    else if s.flowLevel > 0 && c == ':' && (flowIndicator (s.ahead 1) || s.ahead 1 == '?') then
      .error (s.fail (some "while scanning a plain scalar") start "found unexpected ':'")
    else if (c == ':' && isSpaceOrEnd (s.ahead 1)) || (s.flowLevel > 0 && flowIndicator c) then
      .ok (acc, s)
    else plainRun start fuel (acc ++ [c]) s.skip

/-- Blanks and line breaks after a line of a plain scalar. A tab in the indentation of a block
scalar's continuation line is an error. -/
def plainGap (start : Mark) : Nat → Bool → List Char → List Char → List Char → Lexer →
    Except Error (List Char × List Char × List Char × Bool × Lexer)
  | 0, brk, ws, leading, trailing, s => .ok (ws, leading, trailing, brk, s)
  | fuel + 1, brk, ws, leading, trailing, s =>
    if isBlank s.cur then
      if brk && (s.mark.column : Int) < s.indent + 1 && s.cur == '\t' then
        .error (s.fail (some "while scanning a plain scalar") start
          "found a tab character that violates indentation")
      else if brk then plainGap start fuel brk ws leading trailing s.skip
      else plainGap start fuel brk (ws ++ [s.cur]) leading trailing s.skip
    else if isBreak s.cur then
      let (b, s) := s.readLine
      if brk then plainGap start fuel brk ws leading (trailing ++ b) s
      else plainGap start fuel true [] b trailing s
    else .ok (ws, leading, trailing, brk, s)

/-- The lines of a plain scalar. It ends before a comment, a document marker, or a line
indented no further than the enclosing block. `gap` is the pending text between the last line
and the next, and `brk` whether a line break was in it. Answers the text, the position after its
last character and whether the last gap held a line break. -/
def plainLines (start : Mark) (indent : Int) : Nat → List Char → Mark → List Char → Bool →
    Lexer → Except Error (List Char × Mark × Bool × Lexer)
  | 0, acc, stop, _, brk, s => .ok (acc, stop, brk, s)
  | fuel + 1, acc, stop, gap, brk, s => do
    if s.atDocumentIndicator || s.cur == '#' then return (acc, stop, brk, s)
    let (run, s) ← plainRun start s.rest.length [] s
    if run.isEmpty then return (acc, stop, brk, s)
    let acc := acc ++ gap ++ run
    let stop := s.mark
    if !(isBlank s.cur || isBreak s.cur) then return (acc, stop, false, s)
    let (ws, leading, trailing, brk, s) ← plainGap start s.rest.length false [] [] [] s
    if s.flowLevel == 0 && (s.mark.column : Int) < indent then return (acc, stop, brk, s)
    plainLines start indent fuel acc stop (joinGap brk ws leading trailing) brk s

/-- A plain scalar; a line break inside it lets a simple key follow. -/
def fetchPlainScalar (s : Lexer) : Except Error Lexer := do
  let s ← s.saveKey
  let s := { s with simpleKeyAllowed := false }
  let start := s.mark
  let (text, stop, brk, s) ← plainLines start (s.indent + 1) (s.rest.length + 1) [] start [] false s
  let s := if brk then { s with simpleKeyAllowed := true } else s
  pure (s.push (.scalar (String.ofList text) .plain) start stop)

/-! ### The next token -/

/-- Whether a plain scalar may start here. -/
def startsPlain (s : Lexer) : Bool :=
  let c := s.cur
  let indicators := ['-', '?', ':', ',', '[', ']', '\x7b', '\x7d', '#', '&', '*', '!', '|', '>',
    apostrophe, '"', '%', '@', graveAccent]
  !(isSpaceOrEnd c || indicators.contains c) ||
    (c == '-' && !isBlank (s.ahead 1)) ||
    (s.flowLevel == 0 && (c == '?' || c == ':') && !isSpaceOrEnd (s.ahead 1))

/-- Scans the next token, or more than one when it closes block collections or turns an
earlier scalar into a key. -/
def fetchNext (s : Lexer) : Except Error Lexer := do
  if !s.started then
    if let some offset := s.unreadable then throw (.unreadable offset)
    return s.fetchStreamStart
  let s := toNextToken (s.rest.length + 1) s
  let s ← s.staleKeys
  let s := s.unrollIndent s.mark.column
  let c := s.cur
  let lineStart := s.mark.column == 0
  if isEnd c then s.fetchStreamEnd
  else if lineStart && c == '%' then s.fetchDirective
  else if lineStart && s.ahead 1 == c && s.ahead 2 == c && isSpaceOrEnd (s.ahead 3) && c == '-' then
    s.fetchDocumentIndicator .documentStart
  else if lineStart && s.ahead 1 == c && s.ahead 2 == c && isSpaceOrEnd (s.ahead 3) && c == '.' then
    s.fetchDocumentIndicator .documentEnd
  else if c == '[' then s.fetchFlowStart .flowSequenceStart
  else if c == '\x7b' then s.fetchFlowStart .flowMappingStart
  else if c == ']' then s.fetchFlowEnd .flowSequenceEnd
  else if c == '\x7d' then s.fetchFlowEnd .flowMappingEnd
  else if c == ',' then s.fetchFlowEntry
  else if c == '-' && isSpaceOrEnd (s.ahead 1) then s.fetchBlockEntry
  else if c == '?' && (s.flowLevel > 0 || isSpaceOrEnd (s.ahead 1)) then s.fetchKey
  else if c == ':' && (s.flowLevel > 0 || isSpaceOrEnd (s.ahead 1)) then s.fetchValue
  else if c == '*' then s.fetchAnchor true
  else if c == '&' then s.fetchAnchor false
  else if c == '!' then s.fetchTag
  else if c == '|' && s.flowLevel == 0 then s.fetchBlockScalar true
  else if c == '>' && s.flowLevel == 0 then s.fetchBlockScalar false
  else if c == apostrophe then s.fetchFlowScalar true
  else if c == '"' then s.fetchFlowScalar false
  else if s.startsPlain then s.fetchPlainScalar
  else throw (s.fail (some "while scanning for the next token") s.mark
    "found character that cannot start any token")

/-- Scans until the first token of the queue can no longer become part of a key. -/
def fetchMore : Nat → Lexer → Except Error Lexer
  | 0, s => .ok { s with available := true }
  | fuel + 1, s => do
    let (need, s) ← if s.queue.isEmpty then pure (true, s) else do
      let s ← s.staleKeys
      pure (s.keys.any (fun k => k.possible && k.tokenNumber == s.taken), s)
    if !need || s.ended then pure { s with available := true }
    else fetchMore fuel (← s.fetchNext)

/-- Whether YAML allows a character in a text: tab, line feed, carriage return, printable
ASCII, next line, and the rest of Unicode except the C1 controls, surrogates, U+FFFE and
U+FFFF. -/
def isAllowed (c : Char) : Bool :=
  let n := c.toNat
  n == 0x09 || n == 0x0A || n == 0x0D || (0x20 ≤ n && n ≤ 0x7E) || n == 0x85 ||
    (0xA0 ≤ n && n ≤ 0xD7FF) || (0xE000 ≤ n && n ≤ 0xFFFD) || 0x10000 ≤ n

/-- The byte offset of the first character that YAML does not allow. -/
def firstUnreadable (cs : List Char) (offset : Nat) : Option Nat :=
  match cs with
  | [] => none
  | c :: rest => if isAllowed c then firstUnreadable rest (offset + c.utf8Size) else some offset

/-- A lexer at the start of a text. A byte order mark is read like any other character; where
a line starts with one, it is skipped before the next token (`toNextToken`). -/
def ofString (text : String) : Lexer :=
  { rest := text.toList, unreadable := firstUnreadable text.toList 0 }

/-- The next token, scanning as far as needed; the end of the stream once all are taken. -/
def peek (s : Lexer) : Except Error (Token × Lexer) := do
  let s ← if s.available then pure s else fetchMore (s.rest.length + 8) s
  match s.queue with
  | t :: _ => pure (t, s)
  | [] => pure (⟨.streamEnd, s.mark, s.mark⟩, s)

/-- Takes the first token. -/
def advance (s : Lexer) : Lexer :=
  { s with queue := s.queue.tail, taken := s.taken + 1, available := false }

end Lexer

end Cadence.Yaml
