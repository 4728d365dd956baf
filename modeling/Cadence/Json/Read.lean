import Cadence.Json.Basic
import Cadence.Json.Real

/-!
# Reading JSON text

The grammar of RFC 8259: blanks are space, tab, line feed and carriage return; a string holds
no raw control character and its `\u` escapes pair surrogates; a number is
`-? (0 | [1-9][0-9]*) (. [0-9]+)? ([eE] [+-]? [0-9]+)?`. Integer literals in the ranges of
`Json.Number` keep their integer form; every other literal is read as a double (`readReal`),
and one out of its range is an error.

The reader looks at one character at a time, and an error points at a byte of the text:

* a character that cannot go on (`expected value`, `expected ident`, `invalid number`, a
  missing comma, colon or closing bracket, trailing characters) is reported at its own byte,
  counted from one;
* running out of text is reported at the last byte;
* a `\u` escape is four bytes long, so a bad one is reported at its fourth byte, and one cut
  short by the end of the text at the last byte;
* a number out of range is reported at its last digit, or at the digit of its exponent that
  passes `2^31 - 1`.

The byte is turned into a line and a column, both from one, when the message is written.
Containers nest at most 127 deep; the bracket that opens the 128th is an error. The nesting of
the recursive readers is bounded by a budget that starts at twice the length of the text plus
two, which no text can exhaust, since every nested call consumes one unit and at least one
character.
-/
namespace Cadence.Json

/-- An error of the reader: what went wrong, and the byte index it is reported at. A character
that begins at index `i` is reported at `i + 1`. -/
structure ReadError where
  message : String
  index : Nat
  deriving Repr

/-- The line and the column of a byte index of `text`: the line counts the line feeds before
the index, and the column the bytes since the last of them. -/
def position (text : List Char) (index : Nat) : Nat × Nat :=
  let rec go (line lineStart offset : Nat) : List Char → Nat × Nat
    | [] => (line, index - lineStart)
    | c :: rest =>
      if offset < index && c == '\n' then go (line + 1) (offset + 1) (offset + 1) rest
      else if offset < index then go line lineStart (offset + c.utf8Size) rest
      else (line, index - lineStart)
  go 1 0 0 text

/-- The message of an error, with its line and column in `text`. -/
def ReadError.describe (text : List Char) (e : ReadError) : String :=
  let (line, column) := position text e.index
  e.message ++ " at line " ++ toString line ++ " column " ++ toString column

/-- The four blanks of the grammar. -/
def isBlank (c : Char) : Bool :=
  c == ' ' || c == '\t' || c == '\n' || c == '\r'

/-- Skips blanks, which are one byte each: the index after them and the rest. -/
def skipBlanks (index : Nat) (cs : List Char) : Nat × List Char :=
  (index + (cs.takeWhile isBlank).length, cs.dropWhile isBlank)

/-- The value of one hexadecimal digit. -/
def hexValue (c : Char) : Option Nat :=
  if '0' ≤ c ∧ c ≤ '9' then some (c.toNat - '0'.toNat)
  else if 'a' ≤ c ∧ c ≤ 'f' then some (c.toNat - 'a'.toNat + 10)
  else if 'A' ≤ c ∧ c ≤ 'F' then some (c.toNat - 'A'.toNat + 10)
  else none

/-- The value of four hexadecimal digits. -/
def hex4 (a b c d : Char) : Option Nat := do
  let a ← hexValue a
  let b ← hexValue b
  let c ← hexValue c
  let d ← hexValue d
  pure (((a * 16 + b) * 16 + c) * 16 + d)

/-- The message for a text that ends inside a string. -/
def unfinishedString : String := "EOF while parsing a string"

/-- The error of a `\u` escape at `index` with fewer than four characters left: fewer than four
bytes end the text, and four bytes that are not hexadecimal digits are an invalid escape,
reported at the fourth. -/
def shortHex (total index : Nat) (cs : List Char) : ReadError :=
  if cs.foldl (fun n c => n + c.utf8Size) 0 < 4 then ⟨unfinishedString, total⟩
  else ⟨"invalid escape", index + 4⟩

/-- Whether a `\u` value is a leading surrogate. -/
def isLeading (n : Nat) : Bool := 0xD800 ≤ n && n ≤ 0xDBFF

/-- Whether a `\u` value is a trailing surrogate. -/
def isTrailing (n : Nat) : Bool := 0xDC00 ≤ n && n ≤ 0xDFFF

/-- Reads the rest of a string whose next character starts at byte `index`; `acc` holds the
characters read so far, last first. The answer is the string, the index after the closing
quote, and the rest. -/
def readString (total : Nat) (acc : List Char) (index : Nat) :
    List Char → Except ReadError (String × Nat × List Char)
  | [] => .error ⟨unfinishedString, total⟩
  | '"' :: rest => .ok (String.ofList acc.reverse, index + 1, rest)
  | '\\' :: 'u' :: a :: b :: c :: d :: rest =>
    let i := index + 2
    match hex4 a b c d with
    | none => .error ⟨"invalid escape", i + 4⟩
    | some n =>
      if isTrailing n then .error ⟨"lone leading surrogate in hex escape", i + 4⟩
      else if !isLeading n then readString total (Char.ofNat n :: acc) (i + 4) rest
      else
        match rest with
        | [] => .error ⟨unfinishedString, total⟩
        | '\\' :: 'u' :: e :: f :: g :: h :: more =>
          match hex4 e f g h with
          | none => .error ⟨"invalid escape", i + 10⟩
          | some m =>
            if !isTrailing m then .error ⟨"lone leading surrogate in hex escape", i + 10⟩
            else
              let c := Char.ofNat (0x10000 + (n - 0xD800) * 0x400 + (m - 0xDC00))
              readString total (c :: acc) (i + 10) more
        | '\\' :: 'u' :: short => .error (shortHex total (i + 6) short)
        | '\\' :: [] => .error ⟨unfinishedString, total⟩
        | '\\' :: _ :: _ => .error ⟨"unexpected end of hex escape", i + 6⟩
        | _ :: _ => .error ⟨"unexpected end of hex escape", i + 5⟩
  | '\\' :: 'u' :: short => .error (shortHex total (index + 2) short)
  | '\\' :: c :: rest =>
    let simple : Option Char := match c with
      | '"' => some '"'
      | '\\' => some '\\'
      | '/' => some '/'
      | 'b' => some '\x08'
      | 'f' => some '\x0c'
      | 'n' => some '\n'
      | 'r' => some '\r'
      | 't' => some '\t'
      | _ => none
    match simple with
    | some e => readString total (e :: acc) (index + 2) rest
    | none => .error ⟨"invalid escape", index + 2⟩
  | '\\' :: [] => .error ⟨unfinishedString, total⟩
  | c :: rest =>
    if c.toNat < 0x20 then
      .error ⟨"control character (\\u0000-\\u001F) found while parsing a string", index + 1⟩
    else readString total (c :: acc) (index + c.utf8Size) rest

/-- Splits off the longest prefix of decimal digits. -/
def spanDigits (cs : List Char) : List Char × List Char :=
  (cs.takeWhile Char.isDigit, cs.dropWhile Char.isDigit)

/-- The value of a list of decimal digits. -/
def digitsValue (ds : List Char) : Nat :=
  ds.foldl (fun n d => n * 10 + (d.toNat - '0'.toNat)) 0

/-- How many exponent digits are read when the exponent first passes `2^31 - 1`, if it does;
`count` digits are already read into `acc`. -/
def exponentOverflow (acc count : Nat) : List Nat → Option Nat
  | [] => none
  | d :: ds =>
    if acc * 10 + d > exponentLimit then some (count + 1)
    else exponentOverflow (acc * 10 + d) (count + 1) ds

/-- Reads a number literal whose first character starts at byte `index`: the number, the index
after it, and the rest. -/
def readNumber (total index : Nat) (cs : List Char) :
    Except ReadError (Number × Nat × List Char) := do
  let (minus, i, cs) : Bool × Nat × List Char := match cs with
    | '-' :: rest => (true, index + 1, rest)
    | _ => (false, index, cs)
  match cs with
  | [] => throw ⟨"EOF while parsing a value", total⟩
  | c :: _ => if !c.isDigit then throw ⟨"invalid number", i + 1⟩
  let (whole, rest) := spanDigits cs
  if whole.length > 1 && whole.head? == some '0' then throw ⟨"invalid number", i + 2⟩
  let i := i + whole.length
  let (frac, i, rest) ← match rest with
    | '.' :: more =>
      let (ds, after) := spanDigits more
      if ds.isEmpty then
        if more.isEmpty then throw ⟨"EOF while parsing a value", total⟩
        else throw ⟨"invalid number", i + 2⟩
      else pure (some ds, i + 1 + ds.length, after)
    | _ => pure (none, i, rest)
  let (expo, i, rest) ← match rest with
    | 'e' :: more | 'E' :: more =>
      let (up, j, more) : Bool × Nat × List Char := match more with
        | '+' :: m => (true, i + 2, m)
        | '-' :: m => (false, i + 2, m)
        | m => (true, i + 1, m)
      match more with
      | [] => throw ⟨"EOF while parsing a value", total⟩
      | c :: _ => if !c.isDigit then throw ⟨"invalid number", j + 1⟩
      let (ds, after) := spanDigits more
      pure (some (up, ds, j), j + ds.length, after)
    | _ => pure (none, i, rest)
  let digitValues (ds : List Char) : List Nat := ds.map fun d => d.toNat - '0'.toNat
  let significand := (gather (gather 0 (digitValues whole)).1 (digitValues (frac.getD []))).1
  let real : Except ReadError Number :=
    match readReal minus (digitValues whole) (digitValues (frac.getD []))
        (expo.map fun (up, ds, _) => (up, digitValues ds)) with
    | some v => pure (.real v)
    | none =>
      match expo with
      | some (true, ds, j) =>
        match exponentOverflow 0 0 (digitValues ds) with
        | some k => if significand = 0 then pure (.real (Binary64.zero minus))
          else throw ⟨"number out of range", j + k⟩
        | none => throw ⟨"number out of range", i⟩
      | _ => throw ⟨"number out of range", i⟩
  let value := digitsValue whole
  match frac, expo with
  | none, none =>
    if minus then
      if value = 0 || value > Nat.pow 2 63 then return (← real, i, rest)
      else pure (.negative (-(value : Int)), i, rest)
    else if value < Nat.pow 2 64 then pure (.natural value, i, rest)
    else return (← real, i, rest)
  | _, _ => return (← real, i, rest)

/-- Reads the letters of `null`, `true` or `false` after the first one. -/
def readWord (total : Nat) (word : List Char) (index : Nat) (cs : List Char) :
    Except ReadError (Nat × List Char) :=
  match word, cs with
  | [], _ => .ok (index, cs)
  | _ :: _, [] => .error ⟨"EOF while parsing a value", total⟩
  | w :: ws, c :: rest =>
    if c == w then readWord total ws (index + 1) rest
    else .error ⟨"expected ident", index + 1⟩

/-- Adds a member to an object: a repeated key keeps its place and takes the new value. -/
def addMember (members : List (String × Json)) (key : String) (value : Json) :
    List (String × Json) :=
  if members.any (·.1 == key) then members.map fun m => if m.1 == key then (key, value) else m
  else members ++ [(key, value)]

/-- What a reader of a nested value answers: the value, the index after it, and the rest. -/
abbrev Reading := Except ReadError (Json × Nat × List Char)

mutual

/-- Reads one value after any blanks. `depth` counts the containers that may still open, and
`budget` bounds the recursion. -/
def readValue (total depth : Nat) : Nat → Nat → List Char → Reading
  | 0, _, _ => .error ⟨"recursion limit exceeded", total⟩
  | budget + 1, index, cs =>
    let (index, cs) := skipBlanks index cs
    match cs with
    | [] => .error ⟨"EOF while parsing a value", total⟩
    | 'n' :: rest => (readWord total ['u', 'l', 'l'] (index + 1) rest).map fun (i, r) => (.null, i, r)
    | 't' :: rest =>
      (readWord total ['r', 'u', 'e'] (index + 1) rest).map fun (i, r) => (.bool true, i, r)
    | 'f' :: rest =>
      (readWord total ['a', 'l', 's', 'e'] (index + 1) rest).map fun (i, r) => (.bool false, i, r)
    | '"' :: rest => (readString total [] (index + 1) rest).map fun (s, i, r) => (.string s, i, r)
    | '[' :: rest =>
      if depth ≤ 1 then .error ⟨"recursion limit exceeded", index + 1⟩
      else readItems total (depth - 1) budget true [] (index + 1) rest
    | '{' :: rest =>
      if depth ≤ 1 then .error ⟨"recursion limit exceeded", index + 1⟩
      else readMembers total (depth - 1) budget true [] (index + 1) rest
    | c :: rest =>
      if c == '-' || c.isDigit then
        (readNumber total index (c :: rest)).map fun (n, i, r) => (.number n, i, r)
      else .error ⟨"expected value", index + 1⟩

/-- Reads the items of an array after its opening bracket; `first` tells that none is read yet,
and `acc` holds those read, last first. -/
def readItems (total depth : Nat) : Nat → Bool → List Json → Nat → List Char → Reading
  | 0, _, _, _, _ => .error ⟨"recursion limit exceeded", total⟩
  | budget + 1, first, acc, index, cs =>
    let (index, cs) := skipBlanks index cs
    let next : Except ReadError (Nat × List Char) := match cs with
      | ',' :: rest => if first then .ok (index, cs) else .ok (skipBlanks (index + 1) rest)
      | [] => .error ⟨"EOF while parsing a list", total⟩
      | ']' :: _ => .ok (index, cs)
      | _ => if first then .ok (index, cs) else .error ⟨"expected `,` or `]`", index + 1⟩
    match cs with
    | ']' :: rest => .ok (.array acc.reverse, index + 1, rest)
    | _ => do
      let (index, cs) ← next
      match cs with
      | ']' :: _ => throw ⟨"trailing comma", index + 1⟩
      | [] => throw ⟨"EOF while parsing a value", total⟩
      | _ =>
        let (item, index, rest) ← readValue total depth budget index cs
        readItems total depth budget false (item :: acc) index rest

/-- Reads the members of an object after its opening brace; `first` tells that none is read
yet, and `members` holds those read. -/
def readMembers (total depth : Nat) :
    Nat → Bool → List (String × Json) → Nat → List Char → Reading
  | 0, _, _, _, _ => .error ⟨"recursion limit exceeded", total⟩
  | budget + 1, first, members, index, cs =>
    let (index, cs) := skipBlanks index cs
    let next : Except ReadError (Nat × List Char) := match cs with
      | ',' :: rest => if first then .ok (index, cs) else .ok (skipBlanks (index + 1) rest)
      | [] => .error ⟨"EOF while parsing an object", total⟩
      | '}' :: _ => .ok (index, cs)
      | _ => if first then .ok (index, cs) else .error ⟨"expected `,` or `\x7d`", index + 1⟩
    match cs with
    | '}' :: rest => .ok (.object members, index + 1, rest)
    | _ => do
      let (index, cs) ← next
      match cs with
      | '"' :: rest =>
        let (key, index, rest) ← readString total [] (index + 1) rest
        let (index, rest) := skipBlanks index rest
        match rest with
        | ':' :: rest =>
          let (item, index, rest) ← readValue total depth budget (index + 1) rest
          readMembers total depth budget false (addMember members key item) index rest
        | [] => throw ⟨"EOF while parsing an object", total⟩
        | _ => throw ⟨"expected `:`", index + 1⟩
      | '}' :: _ => throw ⟨"trailing comma", index + 1⟩
      | [] => throw ⟨"EOF while parsing a value", total⟩
      | _ => throw ⟨"key must be a string", index + 1⟩

end

/-- Reads a whole text as one JSON value, with nothing but blanks after it. -/
def parse (text : String) : Except String Json :=
  let cs := text.toList
  let total := text.utf8ByteSize
  let read : Except ReadError Json := do
    let (value, index, rest) ← readValue total 128 (2 * cs.length + 2) 0 cs
    let (index, rest) := skipBlanks index rest
    if rest.isEmpty then pure value else throw ⟨"trailing characters", index + 1⟩
  read.mapError (·.describe cs)

end Cadence.Json
