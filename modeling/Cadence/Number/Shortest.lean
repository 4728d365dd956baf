import Cadence.Number.Binary64

/-!
# The shortest decimal of a double

A double `x = m × 2^e` is what every real in its rounding interval reads as: the reals nearer
to `x` than to its neighbours, the two midpoints included when `m` is even (a tie goes to the
even significand). The midpoints lie at `(4m ± 2) × 2^(e-2)`, except that below a power of two
(`m = 2^52` above the least exponent) the lower neighbour is half as far and the lower midpoint
is `(4m - 1) × 2^(e-2)`.

The shortest decimal of `x` is `c × 10^p` in that interval with `p` as large as possible, and
`c` the integer nearest to `x / 10^p` among those that fit, a tie going to the even one. At the
largest such `p` no fitting `c` is a multiple of ten, so `c` has no trailing zero. The search
starts at a power of ten above the interval and steps down; seventeen significant digits
always fit, so it ends within a few dozen steps, and the fuel is set well past that.

Two layouts write the digits out:

* `Binary64.scientificText`: positional while the decimal exponent is moderate, otherwise a
  mantissa and an exponent with its sign (`1e+16`, `1.2345e-6`);
* `Binary64.positionalText`: always positional, with at least one decimal (`100000.0`).
-/
namespace Cadence.Binary64

/-- `x × 2^e / 10^p` as a numerator and a positive denominator. -/
def scaledRatio (x : Nat) (e p : Int) : Nat × Nat :=
  let twos := Nat.pow 2 e.natAbs
  let tens := Nat.pow 10 p.natAbs
  ((if 0 ≤ e then x * twos else x) * (if p < 0 then tens else 1),
    (if e < 0 then twos else 1) * (if 0 < p then tens else 1))

/-- The least and greatest `c` with `c × 10^p` in the rounding interval of `m × 2^e`. -/
def candidates (m : Nat) (e p : Int) : Nat × Nat :=
  let inclusive := m % 2 == 0
  let low := if m == hiddenBit && e > minExponent then 4 * m - 1 else 4 * m - 2
  let lo := scaledRatio low (e - 2) p
  let hi := scaledRatio (4 * m + 2) (e - 2) p
  let least := if lo.1 % lo.2 == 0 && inclusive then lo.1 / lo.2 else lo.1 / lo.2 + 1
  let greatest := if hi.1 % hi.2 == 0 && !inclusive then hi.1 / hi.2 - 1 else hi.1 / hi.2
  (least, greatest)

/-- The exact decimal of `m × 2^e`: digits and the exponent of ten. -/
def exactDecimal (m : Nat) (e : Int) : Nat × Int :=
  if 0 ≤ e then (m * Nat.pow 2 e.toNat, 0) else (m * Nat.pow 5 e.natAbs, e)

/-- Steps the power of ten down from `p` until a decimal fits the rounding interval of
`m × 2^e`, and answers the fitting `c` nearest to `m × 2^e / 10^p`. -/
def searchDown (m : Nat) (e : Int) : Nat → Int → Nat × Int
  | 0, _ => exactDecimal m e
  | fuel + 1, p =>
    let range := candidates m e p
    if range.1 ≤ range.2 then
      let v := scaledRatio (4 * m) (e - 2) p
      (min (max (roundHalfEven v.1 v.2) range.1) range.2, p)
    else searchDown m e fuel (p - 1)

/-- A power of ten at least two above the top of the rounding interval of `m × 2^e`: the
interval ends below `2^b`, and `b × 0.30103` exceeds `b × log₁₀ 2` by less than one for the
exponents of doubles. -/
def searchStart (m : Nat) (e : Int) : Int :=
  let b : Int := ((4 * m + 2).log2 : Int) + e - 1
  b * 30103 / 100000 + 2

/-- The shortest decimal `c × 10^p` of a double's magnitude; a zero is `(0, 0)`. -/
def shortest (x : Binary64) : Nat × Int :=
  if x.isZero then (0, 0)
  else searchDown x.significand x.exponent 64 (searchStart x.significand x.exponent)

/-- The sign of a double as text. -/
def signText (x : Binary64) : String := if x.negative then "-" else ""

/-- A run of zeros. -/
def zeros (n : Int) : String := String.ofList (List.replicate n.toNat '0')

/-- The shortest decimal in the layout of a scientific writer, for digits `D` (`n` of them,
no trailing zero) and value `D × 10^k`, with `e = n + k`:

* `0 ≤ k` and `e ≤ 16`: the digits, `k` zeros and `.0` (`100.0`);
* `0 < e ≤ 16`: the digits with a point after the first `e` (`1.5`);
* `-5 < e ≤ 0`: `0.`, `-e` zeros and the digits (`0.001`);
* otherwise the first digit, a point and the rest if there is one, `e`, and the exponent
  `e - 1` with its sign (`1e+20`, `1.5e-7`).

A zero is `0.0`. -/
def scientificText (x : Binary64) : String :=
  let (c, k) := x.shortest
  let ds := Nat.toDigits 10 c
  let n : Int := ds.length
  let e := n + k
  let body :=
    if c = 0 then "0.0"
    else if 0 ≤ k ∧ e ≤ 16 then String.ofList ds ++ zeros k ++ ".0"
    else if 0 < e ∧ e ≤ 16 then
      String.ofList (ds.take e.toNat) ++ "." ++ String.ofList (ds.drop e.toNat)
    else if -5 < e ∧ e ≤ 0 then "0." ++ zeros (-e) ++ String.ofList ds
    else
      let mantissa := match ds with
        | d :: more@(_ :: _) => String.singleton d ++ "." ++ String.ofList more
        | _ => String.ofList ds
      mantissa ++ "e" ++ (if e - 1 < 0 then "-" else "+") ++ toString (e - 1).natAbs
  x.signText ++ body

/-- The shortest decimal in positional notation with at least one decimal: the digits `D` of
the value `D × 10^k` followed by `k` zeros and `.0`, or with a point placed inside them, or
after `0.` and enough zeros. A zero is `0.0`. -/
def positionalText (x : Binary64) : String :=
  let (c, k) := x.shortest
  let ds := Nat.toDigits 10 c
  let e : Int := ds.length + k
  let body :=
    if c = 0 then "0.0"
    else if 0 ≤ k then String.ofList ds ++ zeros k ++ ".0"
    else if 0 < e then String.ofList (ds.take e.toNat) ++ "." ++ String.ofList (ds.drop e.toNat)
    else "0." ++ zeros (-e) ++ String.ofList ds
  x.signText ++ body

end Cadence.Binary64
