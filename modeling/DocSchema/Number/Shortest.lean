import DocSchema.Number.Binary64

/-!
# Shortest decimals

The decimal text of a double should be as short as it can be and still read back as the same
double.  The reals that round to a double form an interval around it.  On the grid of the multiples
of `10 ^ p` only the two neighbours of the double need a test, for if any point of the grid lies in
the interval, so does one of those two.  The coarsest grid with a hit has the fewest digits; of two
hits the nearer one is taken, and an exact tie is left to the format.
-/

namespace DocSchema.Number

/-- Where an exact tie between two shortest decimals goes. -/
inductive Tie where
  | up
  | even
  deriving DecidableEq, Repr

/-- The positive decimal `digits * 10 ^ exponent`. -/
structure Decimal where
  digits : Nat
  exponent : Int
  deriving DecidableEq, Repr

namespace Shortest

/-- The interval of reals that round to `mantissa * 2 ^ exponent`, in units of
`2 ^ (exponent - 2)`.  Its ends belong to it when the mantissa is even.  Below a power of two the
doubles are twice as dense, so the lower end is nearer. -/
structure Interval where
  low : Nat
  middle : Nat
  high : Nat
  closed : Bool
  exponent : Int

/-- The rounding interval of a positive double. -/
def Interval.of (mantissa : Nat) (exponent : Int) : Interval where
  low := if mantissa = Nat.pow 2 52 ∧ minExponent < exponent then 4 * mantissa - 1
    else 4 * mantissa - 2
  middle := 4 * mantissa
  high := 4 * mantissa + 2
  closed := mantissa % 2 = 0
  exponent := exponent - 2

/-- What the point `digits * 10 ^ p` is multiplied with to compare it with the interval in
integers. -/
def pointScale (i : Interval) (p : Int) : Nat :=
  Nat.pow 10 p.toNat * Nat.pow 2 (-i.exponent).toNat

/-- What a number of units of the interval is multiplied with to compare it with a point. -/
def unitScale (i : Interval) (p : Int) : Nat :=
  Nat.pow 2 i.exponent.toNat * Nat.pow 10 (-p).toNat

/-- Whether the point `digits * 10 ^ p` lies in the interval. -/
def Interval.holds (i : Interval) (p : Int) (digits : Nat) : Bool :=
  let point := digits * pointScale i p
  let low := i.low * unitScale i p
  let high := i.high * unitScale i p
  if i.closed then decide (low ≤ point ∧ point ≤ high) else decide (low < point ∧ point < high)

/-- The better of the two neighbours on the grid of the multiples of `10 ^ p`, if one of them lies
in the interval. -/
def onGrid (tie : Tie) (i : Interval) (p : Int) : Option Decimal :=
  let step := pointScale i p
  let middle := i.middle * unitScale i p
  let below := middle / step
  match i.holds p below, i.holds p (below + 1) with
  | false, false => none
  | true, false => some ⟨below, p⟩
  | false, true => some ⟨below + 1, p⟩
  | true, true =>
    let rest := middle % step
    let goUp := match tie with
      | .up => decide (step ≤ 2 * rest)
      | .even => decide (step < 2 * rest ∨ (step = 2 * rest ∧ below % 2 = 1))
    some ⟨if goUp then below + 1 else below, p⟩

/-- An exponent of ten above the double: `2 ^ k ≤ 10 ^ p` when `k * 30103 ≤ p * 100000`, but for
the few powers that the two units on top cover. -/
def startExponent (mantissa : Nat) (exponent : Int) : Int :=
  ((mantissa.log2 : Int) + 1 + exponent) * 30103 / 100000 + 2

end Shortest

open Shortest in
/-- The shortest decimal that reads back as `mantissa * 2 ^ exponent`, for a positive mantissa.
Seventeen digits always suffice, so the search ends long before the last grid. -/
def shortest (tie : Tie) (mantissa : Nat) (exponent : Int) : Decimal :=
  let i := Interval.of mantissa exponent
  let start := startExponent mantissa exponent
  let found := (List.range 25).findSome? fun (k : Nat) => onGrid tie i (start - k)
  found.getD ⟨mantissa, exponent⟩

end DocSchema.Number
