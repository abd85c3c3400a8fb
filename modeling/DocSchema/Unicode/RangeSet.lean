/-!
# Sets of code points

A set of code points is kept as its ranges, in increasing order and with gaps between them.  This
one form serves the tables of character properties, the classes of patterns, and the search for a
character by bisection.

* `RangeSet.contains`: membership by bisection.
* `RangeSet.ofRanges`, `RangeSet.unions`: ranges that overlap or touch are joined.
* `RangeSet.combine`: any operation on two sets that is decided code point by code point, by one
  walk along the ends of their ranges; `inter`, `diff` and `symmDiff` are instances.
* `RangeSet.compl`: all other characters.

## Surrogates

The code points from `D800` to `DFFF` are no characters, and no range of a class ends in them: the
character before `E000` is `D7FF`.  A range may run across them, though, and two ranges may leave
just them out; for this reason ranges touch when their *code points* do.
-/

namespace DocSchema.Unicode

/-! ## Bisection -/

/-- The first position in `[low, high)` at which the test fails, or `high`; the test has to hold up
to that position and to fail from there on. -/
def bisect (test : Nat → Bool) (low high : Nat) : Nat :=
  if low < high then
    let middle := (low + high) / 2
    if test middle then bisect test (middle + 1) high else bisect test low middle
  else
    low
termination_by high - low
decreasing_by all_goals omega

/-! ## Code points and characters -/

/-- The last code point. -/
def lastCode : Nat := 0x10FFFF

/-- Whether a code point is a surrogate. -/
def isSurrogate (code : Nat) : Bool :=
  decide (0xD800 ≤ code) && decide (code ≤ 0xDFFF)

/-- The first character at or behind a code point. -/
def characterFrom (code : Nat) : Nat :=
  if isSurrogate code then 0xE000 else code

/-- The last character at or before a code point. -/
def characterUpTo (code : Nat) : Nat :=
  if isSurrogate code then 0xD7FF else code

/-! ## Sets -/

/-- A set of code points as inclusive ranges in increasing order. -/
structure RangeSet where
  ranges : Array (Nat × Nat)
  deriving DecidableEq, Repr

namespace RangeSet

/-- The set without members. -/
def empty : RangeSet :=
  ⟨#[]⟩

/-- The code points from `low` to `high`. -/
def range (low high : Nat) : RangeSet :=
  ⟨#[(low, high)]⟩

/-- The set of one code point. -/
def single (code : Nat) : RangeSet :=
  range code code

/-- Every character. -/
def full : RangeSet :=
  range 0 lastCode

/-- Whether the set has no members. -/
def isEmpty (set : RangeSet) : Bool :=
  set.ranges.isEmpty

/-- The position of the first range that starts behind a code point. -/
def firstBehind (set : RangeSet) (code : Nat) : Nat :=
  bisect (fun i => decide ((set.ranges[i]?.map Prod.fst).getD 0 ≤ code)) 0 set.ranges.size

/-- Whether a code point is in the set: only the last range that starts at or before it can hold
it. -/
def contains (set : RangeSet) (code : Nat) : Bool :=
  match set.firstBehind code with
  | 0 => false
  | i + 1 => decide (code ≤ (set.ranges[i]?.map Prod.snd).getD 0)

/-- The only member of a set that has just one. -/
def single? (set : RangeSet) : Option Nat :=
  match set.ranges.toList with
  | [(low, high)] => if low = high then some low else none
  | _ => none

/-- Whether all members are ASCII characters. -/
def isAscii (set : RangeSet) : Bool :=
  set.ranges.all fun (_, high) => decide (high < 128)

/-! ## Unions -/

/-- Joins the first range with those behind it that overlap or touch it, and so on; the ranges have
to be ordered by their starts. -/
def join : Nat × Nat → List (Nat × Nat) → List (Nat × Nat)
  | first, [] => [first]
  | (low, high), (low', high') :: rest =>
    if low' ≤ high + 1 then join (low, max high high') rest
    else (low, high) :: join (low', high') rest

/-- The set of ranges in any order. -/
def ofRanges (ranges : List (Nat × Nat)) : RangeSet :=
  match ranges.mergeSort fun a b => decide (a.1 ≤ b.1) with
  | [] => empty
  | first :: rest => ⟨(join first rest).toArray⟩

/-- The members of any of the sets. -/
def unions (sets : List RangeSet) : RangeSet :=
  ofRanges (sets.flatMap fun set => set.ranges.toList)

/-- The members of either set. -/
def union (a b : RangeSet) : RangeSet :=
  unions [a, b]

instance : Union RangeSet :=
  ⟨union⟩

/-! ## Other operations -/

/-- The starts of the ranges and the code points behind their ends, in increasing order: where
membership changes. -/
def edges (set : RangeSet) : List Nat :=
  set.ranges.toList.flatMap fun (low, high) => [low, high + 1]

/-- The edges of the set of all code points for which `op`, applied to their membership in two sets,
holds, given the edges of the two sets; `inA` and `inB` tell on which side of the edges the walk
is. -/
def sweep (op : Bool → Bool → Bool) (inA inB : Bool) : List Nat → List Nat → List Nat
  | [], [] => []
  | x :: xs, [] => emit x (!inA) inB (sweep op (!inA) inB xs [])
  | [], y :: ys => emit y inA (!inB) (sweep op inA (!inB) [] ys)
  | x :: xs, y :: ys =>
    if x < y then emit x (!inA) inB (sweep op (!inA) inB xs (y :: ys))
    else if y < x then emit y inA (!inB) (sweep op inA (!inB) (x :: xs) ys)
    else emit x (!inA) (!inB) (sweep op (!inA) (!inB) xs ys)
termination_by as bs => as.length + bs.length
where
  /-- An edge stays one if the operation sees it. -/
  emit (edge : Nat) (inA' inB' : Bool) (rest : List Nat) : List Nat :=
    if op inA inB == op inA' inB' then rest else edge :: rest

/-- The ranges between edges, from character to character. -/
def betweenEdges : List Nat → List (Nat × Nat)
  | [] => []
  | [low] => [(characterFrom low, lastCode)]
  | low :: behind :: rest =>
    (characterFrom low, characterUpTo (behind - 1)) :: betweenEdges rest

/-- The code points for which `op`, applied to their membership in two sets, holds.  It must not
hold of code points in neither set. -/
def combine (op : Bool → Bool → Bool) (a b : RangeSet) : RangeSet :=
  let ranges := betweenEdges (sweep op false false a.edges b.edges)
  ⟨(ranges.filter fun (low, high) => decide (low ≤ high)).toArray⟩

/-- The members of both sets. -/
def inter (a b : RangeSet) : RangeSet :=
  combine (· && ·) a b

/-- The members of the first set that are not in the second one. -/
def diff (a b : RangeSet) : RangeSet :=
  combine (fun inA inB => inA && !inB) a b

/-- The members of just one of the sets. -/
def symmDiff (a b : RangeSet) : RangeSet :=
  combine (· != ·) a b

instance : Inter RangeSet :=
  ⟨inter⟩

instance : SDiff RangeSet :=
  ⟨diff⟩

/-- The characters outside of a set.  Where a set leaves out just the surrogates, its complement has
the two characters around them. -/
def compl (set : RangeSet) : RangeSet :=
  let outside := sweep (fun inA inB => inB && !inA) false false set.edges full.edges
  ⟨((betweenEdges outside).map fun (low, high) => (min low high, max low high)).toArray⟩

end RangeSet

end DocSchema.Unicode
