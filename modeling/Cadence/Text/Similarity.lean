import Cadence.Number.Binary64

/-!
# Jaro similarity

How alike two words are, from 0 (nothing in common) to 1 (equal): characters match when they
are equal and no further apart than half the longer word, less one; with `m` matches, `t` half
the number of matched characters that stand in a different order, and lengths `a` and `b`, the
similarity is `(m / a + m / b + (m - t) / m) / 3`. Two empty words are equal; an empty word has
nothing in common with another.

The similarity is computed in binary64 arithmetic, each quotient, the sums and the division by
three rounded to the nearest double, and it is compared with the double nearest `0.7`; so a
similarity of exactly `0.7` can come out just above it (`2.1 / 3`).
-/
namespace Cadence.Text

/-- Marks, for each character of `a` in turn, the first unmarked equal character of `b` within
`range` places; answers the marks on both words. -/
def jaroMarks (a b : List Char) (range : Nat) : List Bool × List Bool :=
  let step (acc : List Bool × List Bool) (ic : Nat × Char) : List Bool × List Bool :=
    let (i, c) := ic
    let (am, bm) := acc
    let low := i - range
    let high := min b.length (i + range + 1)
    match (List.range high).find? fun j => low ≤ j && b.getD j ' ' == c && !bm.getD j true with
    | some j => (am ++ [true], bm.set j true)
    | none => (am ++ [false], bm)
  (a.zipIdx.map (fun (c, i) => (i, c))).foldl step ([], List.replicate b.length false)

/-- A ratio of natural numbers as the nearest double; the ratios here are at most two. -/
def ratioDouble (n d : Nat) : Binary64 := (Binary64.ofRatio false n d).getD (Binary64.zero false)

/-- The sum of two doubles; the sums here are at most three. -/
def sumDouble (x y : Binary64) : Binary64 := (x.add y).getD (Binary64.zero false)

/-- The Jaro similarity of two words. -/
def jaro (x y : String) : Binary64 :=
  let a := x.toList
  let b := y.toList
  if a.isEmpty && b.isEmpty then ratioDouble 1 1
  else if a.isEmpty || b.isEmpty then ratioDouble 0 1
  else
    let range := max a.length b.length / 2 - 1
    let (am, bm) := jaroMarks a b range
    let fromA := (a.zip am).filterMap fun (c, m) => if m then some c else none
    let fromB := (b.zip bm).filterMap fun (c, m) => if m then some c else none
    let m := fromA.length
    if m == 0 then ratioDouble 0 1
    else
      let t := ((fromA.zip fromB).filter fun (p, q) => p != q).length / 2
      let total := sumDouble (sumDouble (ratioDouble m a.length) (ratioDouble m b.length))
        (ratioDouble (m - t) m)
      ((total.div (ratioDouble 3 1)).getD (Binary64.zero false))

/-- The least similarity that suggests a word is meant: just above the double nearest `0.7`. -/
def similarityBound : Binary64 := (Binary64.ofDecimal false 7 (-1)).getD (Binary64.zero false)

/-- The words of `candidates` more similar to `word` than `similarityBound`, least similar
first; of equally similar words the earlier comes first. -/
def similarWords (word : String) (candidates : List String) : List String :=
  let scored := (candidates.map fun c => (jaro word c, c)).filter fun (s, _) => similarityBound.lt s
  (scored.mergeSort fun p q => !q.1.lt p.1).map (·.2)

end Cadence.Text
