import Cadence.Number.Binary64

/-!
# The double a real literal reads as

A number literal outside the two integer ranges of `Json.Number` is read as a double the way a
streaming reader with a 64-bit significand reads it, which is not always the double nearest the
literal:

* the digits are gathered into a significand while it stays below `2^64`; each digit of the
  integer part that no longer fits raises the decimal exponent by one, and the digits of the
  fraction that no longer fit are dropped; each digit of the fraction that fits lowers it by
  one;
* the exponent written after `e` is added, the sum held within 32 bits; an exponent that
  passes `2^31 - 1` while it is read makes the literal out of range when it is positive and the
  significand is not zero, and zero otherwise;
* the significand is rounded to a double and then multiplied or divided by the double nearest
  `10^|k|`, each step rounded; past `10^308`, a zero stays zero, a positive exponent is out of
  range, and a negative one divides by the double nearest `1e308` first, as often as needed. A
  product that overflows is out of range.

So `123456789012345678901` reads as the double nearest `12345678901234567890`, times ten and
rounded again: one unit below the double nearest the literal.
-/
namespace Cadence.Json

/-- The greatest value of the 64-bit significand. -/
def significandLimit : Nat := Nat.pow 2 64 - 1

/-- The greatest value of the 32-bit exponent. -/
def exponentLimit : Nat := Nat.pow 2 31 - 1

/-- Gathers digits into a significand while it stays within `significandLimit`: the
significand and the digits that did not fit, the first of which stopped it. -/
def gather : Nat → List Nat → Nat × List Nat
  | acc, [] => (acc, [])
  | acc, d :: ds =>
    if acc * 10 + d > significandLimit then (acc, d :: ds) else gather (acc * 10 + d) ds

/-- The value of exponent digits, or `none` once it would pass `exponentLimit`. -/
def exponentValue : Nat → List Nat → Option Nat
  | acc, [] => some acc
  | acc, d :: ds => if acc * 10 + d > exponentLimit then none else exponentValue (acc * 10 + d) ds

/-- An exponent held within 32 bits. -/
def saturate (k : Int) : Int :=
  max (-(exponentLimit : Int) - 1) (min k exponentLimit)

/-- The double nearest `10^k`, for `k ≤ 308`. -/
def tenPower (k : Nat) : Binary64 := (Binary64.ofDecimal false 1 k).getD (Binary64.zero false)

/-- Multiplies or divides `f` by ten to the power `k`, through the doubles nearest the powers
of ten; `none` when the result is out of range. Each step past `10^308` raises a negative `k`
by 308, so the fuel `|k| / 308 + 2` is enough. -/
def scaleByTen (f : Binary64) : Nat → Int → Option Binary64
  | 0, _ => some f
  | fuel + 1, k =>
    if k.natAbs ≤ 308 then
      if 0 ≤ k then f.mul (tenPower k.natAbs) else f.div (tenPower k.natAbs)
    else if f.isZero then some f
    else if 0 ≤ k then none
    else (f.div (tenPower 308)).bind fun g => scaleByTen g fuel (k + 308)

/-- The double a literal reads as, from its sign, the digits before the point, those after it,
and the exponent's sign and digits; `none` when it is out of range. -/
def readReal (negative : Bool) (whole frac : List Nat) (expo : Option (Bool × List Nat)) :
    Option Binary64 :=
  let (s, spilled) := gather 0 whole
  let (s, dropped) := gather s frac
  let k : Int := (spilled.length : Int) - (frac.length - dropped.length : Nat)
  let k : Option Int := match expo with
    | none => some k
    | some (up, ds) =>
      match exponentValue 0 ds with
      | some x => some (saturate (if up then k + x else k - x))
      | none => none
  let f := (Binary64.ofNat s).getD (Binary64.zero false)
  let sign (g : Binary64) : Binary64 := if negative then g.neg else g
  match k with
  | some k => (scaleByTen f (k.natAbs / 308 + 2) k).map sign
  | none =>
    match expo with
    | some (true, _) => if s = 0 then some (sign (Binary64.zero false)) else none
    | _ => some (sign (Binary64.zero false))

end Cadence.Json
