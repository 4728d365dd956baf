import Cadence.Decode.Error
import Cadence.Number.Shortest

/-!
# What a plain scalar stands for

A plain (unquoted, untagged) scalar is read by its text, in this order:

* empty, `~`, `null`, `Null` or `NULL`: the empty value;
* `true`, `True`, `TRUE`, `false`, `False`, `FALSE`: a boolean;
* an integer: decimal, or hexadecimal, octal or binary after `0x`, `0o`, `0b`, with at most one
  `+` before it, or `-` before a negative one; a decimal with a leading zero and more digits
  (`007`) is not a number;
* a finite real in decimal notation (`1.5`, `2e3`, `.5`), or `.inf`, `-.inf`, `.nan` in three
  spellings each;
* otherwise the text itself.

Integers are read in the width the reader needs; one that fits no 64-bit integer is described
with the 128-bit type that holds it (`integer 18446744073709551616 as u128`). Reals are
read as the nearest double and described by its shortest decimal in positional notation with at
least one decimal (`1.5`, `100000.0`).
-/
namespace Cadence.Yaml

/-- The value of a digit in bases up to 36: `0`–`9`, then letters in either case. -/
def digitValue (c : Char) : Option Nat :=
  if c.isDigit then some (c.toNat - '0'.toNat)
  else if 'a' ≤ c ∧ c ≤ 'z' then some (c.toNat - 'a'.toNat + 10)
  else if 'A' ≤ c ∧ c ≤ 'Z' then some (c.toNat - 'A'.toNat + 10)
  else none

/-- The value of digits in a base, after an optional `+` (or `-` when `signed`). An empty text,
a lone sign or any other character reads as nothing. -/
def radixValue? (radix : Nat) (signed : Bool) (cs : List Char) : Option Int :=
  let (negative, digits) : Bool × List Char := match cs with
    | ['+'] | ['-'] => (false, ['+'])
    | '+' :: rest => (false, rest)
    | '-' :: rest => if signed then (true, rest) else (false, cs)
    | _ => (false, cs)
  if digits.isEmpty then none
  else
    let value := digits.foldl (fun acc c => acc.bind fun v =>
      (digitValue c).bind fun d => if d < radix then some (v * radix + d) else none) (some 0)
    value.map fun n => if negative then -(n : Int) else n

/-- Whether a text is a leading zero followed by more digits, after an optional sign: such a
text is not a number. -/
def digitsButNotNumber (cs : List Char) : Bool :=
  let t := match cs with
    | '-' :: rest | '+' :: rest => rest
    | _ => cs
  t.length > 1 && t.head? == some '0' && (t.drop 1).all Char.isDigit

/-- Whether a text starts with a sign. -/
def startsWithSign (cs : List Char) : Bool := cs.head? == some '+' || cs.head? == some '-'

/-- A non-negative integer below `bound`, in any of the four bases. -/
def unsignedOf? (text : String) (bound : Nat) : Option Nat :=
  let cs := text.toList
  let u := match cs with
    | '+' :: rest => rest
    | _ => cs
  let inRange (v : Option Int) : Option Nat :=
    v.bind fun i => if 0 ≤ i ∧ i < bound then some i.toNat else none
  -- `some r` settles the answer as `r`; `none` tries the next form
  let prefixed (pfx : List Char) (radix : Nat) : Option (Option Nat) :=
    if u.take 2 == pfx then
      let rest := u.drop 2
      if startsWithSign rest then some none else (inRange (radixValue? radix false rest)).map some
    else none
  match prefixed ['0', 'x'] 16 with
  | some r => r
  | none =>
    match prefixed ['0', 'o'] 8 with
    | some r => r
    | none =>
      match prefixed ['0', 'b'] 2 with
      | some r => r
      | none =>
        if startsWithSign u || digitsButNotNumber cs then none
        else inRange (radixValue? 10 false u)

/-- An integer in `[low, high)`, negative ones in any of the four bases. -/
def signedOf? (text : String) (low high : Int) : Option Int :=
  let cs := text.toList
  let inRange (v : Option Int) : Option Int := v.bind fun i => if low ≤ i ∧ i < high then some i else none
  let prefixed (pfx : List Char) (radix : Nat) : Option Int :=
    if cs.take 3 == pfx then inRange (radixValue? radix true ('-' :: cs.drop 3)) else none
  match prefixed ['-', '0', 'x'] 16 with
  | some i => some i
  | none =>
    match prefixed ['-', '0', 'o'] 8 with
    | some i => some i
    | none =>
      match prefixed ['-', '0', 'b'] 2 with
      | some i => some i
      | none => if digitsButNotNumber cs then none else inRange (radixValue? 10 true cs)

/-- The parts of a decimal real: sign, digits without leading or trailing zeros, and the
exponent of the last digit. Digits before or after the point (at least one), then an optional
exponent. -/
def decimalParts? (cs : List Char) : Option (Bool × List Char × Int) :=
  let (negative, cs) : Bool × List Char := match cs with
    | '-' :: rest => (true, rest)
    | '+' :: rest => (false, rest)
    | _ => (false, cs)
  let whole := cs.takeWhile Char.isDigit
  let rest := cs.dropWhile Char.isDigit
  let (frac, rest) : List Char × List Char := match rest with
    | '.' :: more => (more.takeWhile Char.isDigit, more.dropWhile Char.isDigit)
    | _ => ([], rest)
  let expo : Option Int := match rest with
    | [] => some 0
    | 'e' :: more | 'E' :: more =>
      let (neg, ds) : Bool × List Char := match more with
        | '-' :: ds => (true, ds)
        | '+' :: ds => (false, ds)
        | ds => (false, ds)
      if ds.isEmpty || !ds.all Char.isDigit then none
      else
        let v : Int := ds.foldl (fun n d => n * 10 + (d.toNat - '0'.toNat)) 0
        some (if neg then -v else v)
    | _ => none
  if whole.isEmpty && frac.isEmpty then none
  else expo.map fun x =>
    let digits := (whole ++ frac).dropWhile (· == '0')
    let kept := (digits.reverse.dropWhile (· == '0')).reverse
    (negative, kept, x - frac.length + (digits.length - kept.length))

/-- The description of a real written in a plain scalar, if it is one: `inf`, `-inf`, `NaN`, or
the positional text of the double nearest a finite real. A real that rounds past the greatest
double is none; one too small reads as zero. -/
def realText? (text : String) : Option String :=
  let cs := text.toList
  let unsigned := match cs with
    | '+' :: rest => rest
    | _ => cs
  if cs.head? == some '+' && startsWithSign unsigned then none
  else
    let u := String.ofList unsigned
    if u == ".inf" || u == ".Inf" || u == ".INF" then some "inf"
    else if text == "-.inf" || text == "-.Inf" || text == "-.INF" then some "-inf"
    else if text == ".nan" || text == ".NaN" || text == ".NAN" then some "NaN"
    else
      (decimalParts? unsigned).bind fun (negative, ds, k) =>
        (Binary64.ofDecimal negative (ds.foldl (fun n d => n * 10 + (d.toNat - '0'.toNat)) 0) k).map
          Binary64.positionalText

/-- What a plain scalar stands for. -/
inductive Reading where
  | null
  | bool (b : Bool)
  | unsigned (n : Nat)
  | signed (i : Int)
  /-- An integer that only a 128-bit type holds, as it is described. -/
  | wide (description : String)
  | real (text : String)
  | text (s : String)
  deriving Repr, BEq

/-- Whether a text is one of the spellings of the empty value. -/
def isNullText (s : String) : Bool := s == "~" || s == "null" || s == "Null" || s == "NULL"

/-- The boolean a text spells, if any. -/
def boolOf? (s : String) : Option Bool :=
  if s == "true" || s == "True" || s == "TRUE" then some true
  else if s == "false" || s == "False" || s == "FALSE" then some false
  else none

/-- The integer a text spells, in the first type that holds it: 64-bit unsigned, 64-bit signed,
then the 128-bit types. -/
def integerOf? (s : String) : Option Reading :=
  match unsignedOf? s (Nat.pow 2 64) with
  | some n => some (.unsigned n)
  | none =>
    match signedOf? s (-Int.ofNat (Nat.pow 2 63)) (Int.ofNat (Nat.pow 2 63)) with
    | some i => some (.signed i)
    | none =>
      match unsignedOf? s (Nat.pow 2 128) with
      | some n => some (.wide ("integer `" ++ toString n ++ "` as u128"))
      | none =>
        (signedOf? s (-Int.ofNat (Nat.pow 2 127)) (Int.ofNat (Nat.pow 2 127))).map fun i =>
          .wide ("integer `" ++ toString i ++ "` as i128")

/-- What a plain scalar stands for. -/
def Reading.ofPlain (s : String) : Reading :=
  if s.isEmpty || isNullText s then .null
  else match boolOf? s with
    | some b => .bool b
    | none =>
      match integerOf? s with
      | some r => r
      | none =>
        if digitsButNotNumber s.toList then .text s
        else match realText? s with
          | some t => .real t
          | none => .text s

/-- How a reading is described in a type error. -/
def Reading.found : Reading → Decode.Found
  | .null => .unit
  | .bool b => .bool b
  | .unsigned n => .unsigned n
  | .signed i => .signed i
  | .wide d => .other d
  | .real t => .float t
  | .text s => .str s

end Cadence.Yaml
