/-!
# Binary64 doubles

The finite doubles of IEEE 754 binary64 as exact data: a sign and the magnitude
`significand × 2^exponent`, with `significand < 2^53` and `-1074 ≤ exponent ≤ 971`. A double in
canonical form has `2^52 ≤ significand` (a normal double) or `exponent = -1074` (a subnormal
double or zero), so each value has one form; a zero keeps its sign.

Rounding is to nearest, a tie going to the even significand. A positive ratio `num / den` is
divided by the power of two `2^e` that puts it in `[2^52, 2^53)`, with `e` never below
`-1074`; the quotient is rounded once, and a carry up to `2^53` moves into the exponent. A
result whose exponent passes `971` is at least `2^1024` after rounding: it overflows, `none`.

A machine sum, product or quotient is the exact result rounded once, so `add`, `mul` and `div`
round the exact rational result; the double a decimal literal stands for is its exact value
rounded once (`ofDecimal`). Everything is computed over integers: no machine float is
involved.
-/
namespace Cadence

/-- A finite binary64 double: `(-1)^negative × significand × 2^exponent`. -/
structure Binary64 where
  negative : Bool
  significand : Nat
  exponent : Int
  deriving Repr, BEq, Inhabited

namespace Binary64

/-- The exponent of the least subnormal unit, `2^-1074`. -/
def minExponent : Int := -1074

/-- The greatest exponent of a finite double. -/
def maxExponent : Int := 971

/-- The least significand of a normal double, `2^52`. -/
def hiddenBit : Nat := Nat.pow 2 52

/-- A zero with the given sign. -/
def zero (negative : Bool) : Binary64 := ⟨negative, 0, minExponent⟩

/-- Whether a double is a zero of either sign. -/
def isZero (x : Binary64) : Bool := x.significand == 0

/-- The double with the other sign. -/
def neg (x : Binary64) : Binary64 := { x with negative := !x.negative }

/-- The integer nearest `n / d`, a tie going to the even one. -/
def roundHalfEven (n d : Nat) : Nat :=
  let q := n / d
  let twice := 2 * (n % d)
  if twice > d || (twice == d && q % 2 == 1) then q + 1 else q

/-- The ratio `n / d` divided by `2^e`, again as a numerator and a denominator. -/
def shifted (n d : Nat) (e : Int) : Nat × Nat :=
  if 0 ≤ e then (n, d * Nat.pow 2 e.toNat) else (n * Nat.pow 2 (-e).toNat, d)

/-- The exponent `t` with `2^t ≤ n / d < 2^(t+1)`, for positive `n` and `d`. With
`2^a ≤ n < 2^(a+1)` and `2^b ≤ d < 2^(b+1)` the ratio lies strictly between `2^(a-b-1)` and
`2^(a-b+1)`, so `t` is `a - b` when the ratio reaches `2^(a-b)` and `a - b - 1` otherwise. -/
def floorLog2 (n d : Nat) : Int :=
  let t : Int := (n.log2 : Int) - d.log2
  let scaled := shifted n d t
  if scaled.1 < scaled.2 then t - 1 else t

/-- The double nearest `num / den` with the given sign, or `none` when it overflows; `den` is
positive. -/
def ofRatio (negative : Bool) (num den : Nat) : Option Binary64 :=
  if num = 0 then some (zero negative)
  else
    let e := max (floorLog2 num den - 52) minExponent
    let scaled := shifted num den e
    let q := roundHalfEven scaled.1 scaled.2
    let carried : Nat × Int := if q = 2 * hiddenBit then (hiddenBit, e + 1) else (q, e)
    if carried.2 > maxExponent then none else some ⟨negative, carried.1, carried.2⟩

/-- The magnitude of a double as a numerator and a positive denominator. -/
def ratio (x : Binary64) : Nat × Nat :=
  if 0 ≤ x.exponent then (x.significand * Nat.pow 2 x.exponent.toNat, 1)
  else (x.significand, Nat.pow 2 (-x.exponent).toNat)

/-- The number of decimal digits of a positive natural number. -/
def decimalLength (n : Nat) : Nat := (Nat.toDigits 10 n).length

/-- The double nearest `digits × 10^k` with the given sign, or `none` when it overflows. A
value of `10^310` or more is past the greatest double, and one below `10^-324` is below half
the least subnormal, so those are settled without computing the power. -/
def ofDecimal (negative : Bool) (digits : Nat) (k : Int) : Option Binary64 :=
  let top : Int := decimalLength digits + k
  if digits = 0 then some (zero negative)
  else if top > 310 then none
  else if top < -324 then some (zero negative)
  else if 0 ≤ k then ofRatio negative (digits * Nat.pow 10 k.toNat) 1
  else ofRatio negative digits (Nat.pow 10 (-k).toNat)

/-- The double nearest a natural number. -/
def ofNat (n : Nat) : Option Binary64 := ofRatio false n 1

/-- The rounded product of two doubles, or `none` when it overflows. -/
def mul (x y : Binary64) : Option Binary64 :=
  ofRatio (x.negative != y.negative) (x.ratio.1 * y.ratio.1) (x.ratio.2 * y.ratio.2)

/-- The value of a double as a signed numerator over a positive denominator. -/
def signedRatio (x : Binary64) : Int × Nat :=
  let (n, d) := x.ratio
  (if x.negative then -(n : Int) else n, d)

/-- The rounded sum of two doubles, or `none` when it overflows. An exact zero is positive
unless both operands are negative. -/
def add (x y : Binary64) : Option Binary64 :=
  let (a, b) := x.signedRatio
  let (c, d) := y.signedRatio
  let n := a * d + c * b
  if n == 0 then some (zero (x.negative && y.negative))
  else ofRatio (n < 0) n.natAbs (b * d)

/-- Whether one double is less than another; the two zeros are equal. -/
def lt (x y : Binary64) : Bool :=
  let (a, b) := x.signedRatio
  let (c, d) := y.signedRatio
  a * d < c * b

/-- The rounded quotient of two doubles, or `none` when it overflows or the divisor is zero. -/
def div (x y : Binary64) : Option Binary64 :=
  if y.isZero then none
  else ofRatio (x.negative != y.negative) (x.ratio.1 * y.ratio.2) (x.ratio.2 * y.ratio.1)

end Binary64

end Cadence
