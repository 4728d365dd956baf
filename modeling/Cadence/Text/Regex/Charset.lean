/-!
# Sets of characters

A class stands for a set of code points, kept as closed ranges that are sorted, disjoint and
not adjacent. The surrogates `U+D800`–`U+DFFF` are not characters, so two ranges that meet
across them are adjacent, and a range left holding only surrogates is dropped. When Unicode is
off a class is a set of bytes, `0` to `255`.

Beside its ranges a class carries `folded`, a claim that it is known to be closed under case
folding. The claim is conservative: an empty class makes it, a class with a character added
loses it, and the set operations keep it as far as it is sure to hold. Case folding without
Unicode data succeeds only on classes that make the claim.
-/
namespace Cadence.Text.Regex

/-- Closed ranges of code points. -/
abbrev Ranges := List (Nat × Nat)

/-- Whether a range ending at `hi` meets one starting at `lo`: they overlap or touch, possibly
across the surrogates. -/
def touches (hi lo : Nat) : Bool := lo ≤ hi + 1 || (hi == 0xD7FF && lo == 0xE000)

/-- Merges ranges sorted by their starts into the range `r` and those after it. -/
def mergeInto : Nat × Nat → Ranges → Ranges
  | r, [] => [r]
  | (a, b), (c, d) :: rest =>
    if touches b c then mergeInto (a, max b d) rest else (a, b) :: mergeInto (c, d) rest

/-- Moves the ends of a range out of the surrogates; a range of surrogates only disappears. -/
def clipSurrogates (r : Nat × Nat) : Ranges :=
  let lo := if 0xD800 ≤ r.1 && r.1 ≤ 0xDFFF then 0xE000 else r.1
  let hi := if 0xD800 ≤ r.2 && r.2 ≤ 0xDFFF then 0xD7FF else r.2
  if lo ≤ hi then [(lo, hi)] else []

/-- The canonical form of any ranges. -/
def canonical (rs : Ranges) : Ranges :=
  match ((rs.flatMap clipSurrogates).mergeSort fun x y => x.1 ≤ y.1) with
  | [] => []
  | r :: rest => mergeInto r rest

/-- A range without the code points of sorted ranges. -/
def subtractFrom (r : Nat × Nat) : Ranges → Ranges
  | [] => [r]
  | (lo, hi) :: rest =>
    if hi < r.1 || r.2 < lo then subtractFrom r rest
    else
      let left := if r.1 < lo then [(r.1, lo - 1)] else []
      let right := if hi < r.2 then subtractFrom (hi + 1, r.2) rest else []
      left ++ right

/-- The code points of `a` that are not in `b`, both canonical. -/
def rangesDiff (a b : Ranges) : Ranges := canonical (a.flatMap fun r => subtractFrom r b)

/-- The code points in both `a` and `b`. -/
def rangesInter (a b : Ranges) : Ranges := rangesDiff a (rangesDiff a b)

/-- Whether a code point lies in the ranges. -/
def rangesHas (rs : Ranges) (n : Nat) : Bool := rs.any fun r => r.1 ≤ n && n ≤ r.2

/-- The ASCII letters of a range with their case swapped. -/
def swappedCase (r : Nat × Nat) : Ranges :=
  let lower := if max r.1 97 ≤ min r.2 122 then [(max r.1 97 - 32, min r.2 122 - 32)] else []
  let upper := if max r.1 65 ≤ min r.2 90 then [(max r.1 65 + 32, min r.2 90 + 32)] else []
  lower ++ upper

/-- A class: its ranges, and whether it is known to be closed under case folding. -/
structure CharClass where
  ranges : Ranges
  folded : Bool
  deriving Repr, BEq, Inhabited

namespace CharClass

/-- The empty class, which is closed under case folding. -/
def empty : CharClass := ⟨[], true⟩

/-- A class of the given ranges; only an empty one is known to be folded. -/
def ofRanges (rs : Ranges) : CharClass := ⟨canonical rs, (canonical rs).isEmpty⟩

/-- The class of the code points from `lo` to `hi`. -/
def range (lo hi : Nat) : CharClass := ⟨canonical [(lo, hi)], false⟩

/-- The union of two classes; an empty or equal second class changes nothing. -/
def union (a b : CharClass) : CharClass :=
  if b.ranges.isEmpty || a.ranges == b.ranges then a
  else ⟨canonical (a.ranges ++ b.ranges), a.folded && b.folded⟩

/-- The intersection of two classes; an empty result of an empty side is folded. -/
def intersect (a b : CharClass) : CharClass :=
  if a.ranges.isEmpty then a
  else if b.ranges.isEmpty then empty
  else ⟨rangesInter a.ranges b.ranges, a.folded && b.folded⟩

/-- The code points of `a` not in `b`; an empty result is folded. -/
def difference (a b : CharClass) : CharClass :=
  if a.ranges.isEmpty || b.ranges.isEmpty then a
  else
    let rs := rangesDiff a.ranges b.ranges
    ⟨rs, rs.isEmpty || (a.folded && b.folded)⟩

/-- The code points in exactly one of two classes. -/
def symmetricDifference (a b : CharClass) : CharClass :=
  (a.union b).difference (a.intersect b)

/-- The complement within the whole range; the complement of the empty class is folded. -/
def negate (whole : Ranges) (a : CharClass) : CharClass :=
  if a.ranges.isEmpty then ⟨whole, true⟩ else ⟨rangesDiff whole a.ranges, a.folded⟩

/-- The class with the other case of its ASCII letters added. -/
def foldAscii (a : CharClass) : CharClass :=
  ⟨canonical (a.ranges ++ a.ranges.flatMap swappedCase), true⟩

/-- Whether a class holds ASCII code points only. -/
def isAscii (a : CharClass) : Bool := a.ranges.all (·.2 < 128)

end CharClass

end Cadence.Text.Regex
