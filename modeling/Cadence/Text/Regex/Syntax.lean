/-!
# The syntax of patterns

A pattern is read into a syntax tree before it means anything. Every node keeps the stretch of
the pattern it came from, because every later complaint, from the reader or from the checks
that give the tree its meaning, points at such a stretch.

The flags are `i` (case folding), `m` (`^` and `$` at line breaks), `s` (`.` matches a line
feed), `U` (lazy and greedy swapped), `u` (Unicode), `R` (line breaks are `\r\n` as well as
`\n`) and `x` (blanks and `#` comments are ignored).
-/
namespace Cadence.Text.Regex

/-- A stretch of the pattern as character offsets: `start` included, `stop` excluded. -/
structure Span where
  start : Nat
  stop : Nat
  deriving Repr, BEq, Inhabited

/-- The empty stretch at an offset. -/
def Span.at (offset : Nat) : Span := ⟨offset, offset⟩

/-- A flag of `(?flags)`. -/
inductive Flag where
  | caseInsensitive
  | multiLine
  | dotAll
  | swapGreed
  | unicode
  | crlf
  | ignoreWhitespace
  deriving Repr, BEq, Inhabited

/-- One item of a flag group: a flag, or the `-` (`none`) that clears the flags after it. -/
structure FlagItem where
  span : Span
  flag : Option Flag
  deriving Repr, BEq, Inhabited

/-- The assertions: `^`, `$`, `\A`, `\z`, and the word boundaries `\b`, `\B`, `\b{start}` or
`\<`, `\b{end}` or `\>`, `\b{start-half}` and `\b{end-half}`. -/
inductive Assertion where
  | startLine
  | endLine
  | startText
  | endText
  | wordBoundary
  | notWordBoundary
  | wordStart
  | wordEnd
  | wordStartHalf
  | wordEndHalf
  deriving Repr, BEq, Inhabited

/-- The short classes `\d`, `\s` and `\w`. -/
inductive ShortClass where
  | digit
  | space
  | word
  deriving Repr, BEq, Inhabited

/-- The named classes of `[[:name:]]`. -/
inductive AsciiKind where
  | alnum
  | alpha
  | ascii
  | blank
  | cntrl
  | digit
  | graph
  | lower
  | print
  | punct
  | space
  | upper
  | word
  | xdigit
  deriving Repr, BEq, Inhabited

/-- The named class a name stands for, if any. -/
def AsciiKind.ofName? : String → Option AsciiKind
  | "alnum" => some .alnum
  | "alpha" => some .alpha
  | "ascii" => some .ascii
  | "blank" => some .blank
  | "cntrl" => some .cntrl
  | "digit" => some .digit
  | "graph" => some .graph
  | "lower" => some .lower
  | "print" => some .print
  | "punct" => some .punct
  | "space" => some .space
  | "upper" => some .upper
  | "word" => some .word
  | "xdigit" => some .xdigit
  | _ => none

/-- The code points of a named class, as closed ranges. -/
def AsciiKind.ranges : AsciiKind → List (Nat × Nat)
  | .alnum => [(48, 57), (65, 90), (97, 122)]
  | .alpha => [(65, 90), (97, 122)]
  | .ascii => [(0, 127)]
  | .blank => [(9, 9), (32, 32)]
  | .cntrl => [(0, 31), (127, 127)]
  | .digit => [(48, 57)]
  | .graph => [(33, 126)]
  | .lower => [(97, 122)]
  | .print => [(32, 126)]
  | .punct => [(33, 47), (58, 64), (91, 96), (123, 126)]
  | .space => [(9, 13), (32, 32)]
  | .upper => [(65, 90)]
  | .word => [(48, 57), (65, 90), (95, 95), (97, 122)]
  | .xdigit => [(48, 57), (65, 70), (97, 102)]

/-- A literal character; `byte` tells that it was written `\xNN`, which stands for a byte when
Unicode is off. -/
structure Literal where
  span : Span
  c : Char
  byte : Bool := false
  deriving Repr, BEq, Inhabited

/-- The operators between the sets of a class: `&&`, `--` and `~~`. -/
inductive SetOp where
  | intersection
  | difference
  | symmetricDifference
  deriving Repr, BEq, Inhabited

/-- What a bracketed class is made of. -/
inductive ClassSet where
  /-- Nothing, as between `&&` and `]`. -/
  | empty (span : Span)
  | literal (lit : Literal)
  | range (span : Span) (lo hi : Literal)
  | ascii (span : Span) (kind : AsciiKind) (negated : Bool)
  /-- A Unicode property `\p..` or `\P..`. -/
  | property (span : Span)
  | short (span : Span) (kind : ShortClass) (negated : Bool)
  | bracketed (span : Span) (negated : Bool) (inner : ClassSet)
  | union (span : Span) (items : List ClassSet)
  | op (span : Span) (kind : SetOp) (lhs rhs : ClassSet)
  deriving Repr, Inhabited

/-- The stretch of a class part. -/
def ClassSet.span : ClassSet → Span
  | .empty s | .range s _ _ | .ascii s _ _ | .property s | .short s _ _ | .bracketed s _ _
  | .union s _ | .op s _ _ _ => s
  | .literal lit => lit.span

/-- The syntax tree of a pattern. -/
inductive Ast where
  | empty (span : Span)
  /-- `(?flags)`, which sets flags for the rest of the enclosing group. -/
  | flags (span : Span) (items : List FlagItem)
  | literal (lit : Literal)
  | dot (span : Span)
  | assertion (span : Span) (kind : Assertion)
  | property (span : Span)
  | short (span : Span) (kind : ShortClass) (negated : Bool)
  | bracketed (span : Span) (negated : Bool) (set : ClassSet)
  /-- A repetition from `low` to `high` times, without bound when `high` is `none`. -/
  | repetition (span : Span) (low : Nat) (high : Option Nat) (sub : Ast)
  /-- A group; `capture` tells whether it captures, and `items` are the flags of `(?flags:`. -/
  | group (span : Span) (capture : Bool) (items : List FlagItem) (sub : Ast)
  | alternation (span : Span) (branches : List Ast)
  | concat (span : Span) (parts : List Ast)
  deriving Repr, Inhabited

/-- The stretch of a node. -/
def Ast.span : Ast → Span
  | .empty s | .flags s _ | .dot s | .assertion s _ | .property s | .short s _ _
  | .bracketed s _ _ | .repetition s _ _ _ | .group s _ _ _ | .alternation s _
  | .concat s _ => s
  | .literal lit => lit.span

/-- What is wrong with a pattern. -/
inductive Problem where
  | classEscapeInvalid
  | classRangeInvalid
  | classRangeLiteral
  | classUnclosed
  | decimalEmpty
  | decimalInvalid
  | escapeHexEmpty
  | escapeHexInvalid
  | escapeHexInvalidDigit
  | escapeUnexpectedEof
  | escapeUnrecognized
  | flagDanglingNegation
  | flagDuplicate
  | flagRepeatedNegation
  | flagUnexpectedEof
  | flagUnrecognized
  | groupNameDuplicate
  | groupNameEmpty
  | groupNameInvalid
  | groupNameUnexpectedEof
  | groupUnclosed
  | groupUnopened
  | nestLimitExceeded
  | repetitionCountInvalid
  | repetitionCountDecimalEmpty
  | repetitionCountUnclosed
  | repetitionMissing
  | specialWordBoundaryUnclosed
  | specialWordBoundaryUnrecognized
  | specialWordOrRepetitionUnexpectedEof
  | unicodeClassInvalid
  | unsupportedBackreference
  | unsupportedLookAround
  /-- A Unicode construct where Unicode is off. -/
  | unicodeNotAllowed
  /-- A construct that can match a byte that is not part of valid UTF-8. -/
  | invalidUtf8
  | unicodePropertyNotFound
  | unicodeShortClassNotFound
  | unicodeCaseUnavailable
  deriving Repr, BEq, Inhabited

/-- The greatest depth of nested groups, classes and repetitions. -/
def nestLimit : Nat := 250

/-- How a problem reads. -/
def Problem.message : Problem → String
  | .classEscapeInvalid => "invalid escape sequence found in character class"
  | .classRangeInvalid => "invalid character class range, the start must be <= the end"
  | .classRangeLiteral => "invalid range boundary, must be a literal"
  | .classUnclosed => "unclosed character class"
  | .decimalEmpty => "decimal literal empty"
  | .decimalInvalid => "decimal literal invalid"
  | .escapeHexEmpty => "hexadecimal literal empty"
  | .escapeHexInvalid => "hexadecimal literal is not a Unicode scalar value"
  | .escapeHexInvalidDigit => "invalid hexadecimal digit"
  | .escapeUnexpectedEof => "incomplete escape sequence, reached end of pattern prematurely"
  | .escapeUnrecognized => "unrecognized escape sequence"
  | .flagDanglingNegation => "dangling flag negation operator"
  | .flagDuplicate => "duplicate flag"
  | .flagRepeatedNegation => "flag negation operator repeated"
  | .flagUnexpectedEof => "expected flag but got end of regex"
  | .flagUnrecognized => "unrecognized flag"
  | .groupNameDuplicate => "duplicate capture group name"
  | .groupNameEmpty => "empty capture group name"
  | .groupNameInvalid => "invalid capture group character"
  | .groupNameUnexpectedEof => "unclosed capture group name"
  | .groupUnclosed => "unclosed group"
  | .groupUnopened => "unopened group"
  | .nestLimitExceeded =>
    "exceed the maximum number of nested parentheses/brackets (" ++ toString nestLimit ++ ")"
  | .repetitionCountInvalid => "invalid repetition count range, the start must be <= the end"
  | .repetitionCountDecimalEmpty => "repetition quantifier expects a valid decimal"
  | .repetitionCountUnclosed => "unclosed counted repetition"
  | .repetitionMissing => "repetition operator missing expression"
  | .specialWordBoundaryUnclosed =>
    "special word boundary assertion is either unclosed or contains an invalid character"
  | .specialWordBoundaryUnrecognized =>
    "unrecognized special word boundary assertion, valid choices are: start, end, start-half or end-half"
  | .specialWordOrRepetitionUnexpectedEof =>
    "found either the beginning of a special word boundary or a bounded repetition on a \\b with an opening brace, but no closing brace"
  | .unicodeClassInvalid => "invalid Unicode character class"
  | .unsupportedBackreference => "backreferences are not supported"
  | .unsupportedLookAround =>
    "look-around, including look-ahead and look-behind, is not supported"
  | .unicodeNotAllowed => "Unicode not allowed here"
  | .invalidUtf8 => "pattern can match invalid UTF-8"
  | .unicodePropertyNotFound => "Unicode property not found"
  | .unicodeShortClassNotFound =>
    "Unicode-aware Perl class not found (make sure the unicode-perl feature is enabled)"
  | .unicodeCaseUnavailable =>
    "Unicode-aware case insensitivity matching is not available (make sure the unicode-case feature is enabled)"

/-- A complaint about a pattern: the problem, the stretch it concerns, and for a repeated flag
or name the stretch of the first occurrence. -/
structure SyntaxError where
  problem : Problem
  span : Span
  earlier : Option Span := none
  deriving Repr, Inhabited

end Cadence.Text.Regex
