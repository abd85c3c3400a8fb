/-!
# Exact values of doubles

A finite double is an integer times a power of two.  `decode` reads that pair off the bits and
`ofRatio` goes back: it finds the double nearest to a quotient of natural numbers, ties to the even
mantissa.  Both work in exact arithmetic on the bits alone, so that reading and writing numbers
needs no rounding of its own.

* `decode`: sign, mantissa and exponent of a finite double.
* `Dyadic.toInt?`: the integer that a double is, if it is one.
* `nearestBits`: the bits of the double nearest to a quotient.
* `ofInt`, `ofDecimal`: the double nearest to an integer and to a decimal.
-/

namespace DocSchema.Number

/-- The exact value `mantissa * 2 ^ exponent`, with a sign that also zero has. -/
structure Dyadic where
  negative : Bool
  mantissa : Nat
  exponent : Int
  deriving DecidableEq, Repr

/-- The exponent of the smallest positive double, `2 ^ (-1074)`. -/
def minExponent : Int := -1074

/-- The bits of positive infinity; those of every finite positive double are smaller. -/
def infinityBits : Nat := 2047 * Nat.pow 2 52

/-- The exact value of a double; none for the infinities and for a NaN.  Below exponent field one
the leading mantissa bit is not implied and the exponent stays at the smallest. -/
def decode (x : Float) : Option Dyadic :=
  let bits := x.toBits.toNat
  let negative := decide (Nat.pow 2 63 ≤ bits)
  let field : Nat := bits / Nat.pow 2 52 % Nat.pow 2 11
  let fraction : Nat := bits % Nat.pow 2 52
  if field = 2047 then
    none
  else if field = 0 then
    some ⟨negative, fraction, minExponent⟩
  else
    some ⟨negative, Nat.pow 2 52 + fraction, (field : Int) - 1075⟩

/-- The magnitude as an integer, if it is one. -/
def Dyadic.natAbs? (d : Dyadic) : Option Nat :=
  if 0 ≤ d.exponent then
    some (d.mantissa * Nat.pow 2 d.exponent.toNat)
  else if d.mantissa % Nat.pow 2 (-d.exponent).toNat = 0 then
    some (d.mantissa / Nat.pow 2 (-d.exponent).toNat)
  else
    none

/-- The value as an integer, if it is one; the sign of zero is lost. -/
def Dyadic.toInt? (d : Dyadic) : Option Int :=
  d.natAbs?.map fun n => if d.negative then -(n : Int) else n

/-- The integer nearest to `num / den`; a half goes to the even neighbour. -/
def roundHalfEven (num den : Nat) : Nat :=
  let quotient := num / den
  let remainder := num % den
  if 2 * remainder < den ∨ (2 * remainder = den ∧ quotient % 2 = 0) then quotient
  else quotient + 1

/-- The exponent at which `num / den` has a 53-bit integer part, or the smallest exponent if that
is larger. -/
def scaleOf (num den : Nat) : Int :=
  let guess : Int := (num.log2 : Int) - (den.log2 : Int) - 52
  let exponent :=
    if num * Nat.pow 2 (-guess).toNat < den * Nat.pow 2 (52 + guess.toNat) then guess - 1
    else guess
  max exponent minExponent

/-- The bits of the positive double nearest to `num / den`.  Bits of positive doubles are ordered as
their values are, so a mantissa that rounds up to the next power of two carries into the exponent,
and what lies beyond the largest double becomes infinity. -/
def nearestBits (num den : Nat) : Nat :=
  if num = 0 then
    0
  else
    let exponent := scaleOf num den
    let mantissa :=
      roundHalfEven (num * Nat.pow 2 (-exponent).toNat) (den * Nat.pow 2 exponent.toNat)
    min ((exponent - minExponent).toNat * Nat.pow 2 52 + mantissa) infinityBits

/-- The double with a sign and the bits of its magnitude. -/
def ofSignAndBits (negative : Bool) (bits : Nat) : Float :=
  Float.ofBits (UInt64.ofNat (if negative then Nat.pow 2 63 + bits else bits))

/-- The double nearest to `num / den`, with a sign. -/
def ofRatio (negative : Bool) (num den : Nat) : Float :=
  ofSignAndBits negative (nearestBits num den)

/-- The double nearest to an integer. -/
def ofInt (n : Int) : Float :=
  ofRatio (decide (n < 0)) n.natAbs 1

/-- The double nearest to `digits * 10 ^ exponent`.  The first two cases only spare the powers of
ten of a number that is certain to be infinite or zero. -/
def ofDecimal (negative : Bool) (digits : Nat) (exponent : Int) : Float :=
  if digits = 0 ∨ exponent < -((digits.log2 : Int) + 400) then
    ofSignAndBits negative 0
  else if 400 < exponent then
    ofSignAndBits negative infinityBits
  else if 0 ≤ exponent then
    ofRatio negative (digits * Nat.pow 10 exponent.toNat) 1
  else
    ofRatio negative digits (Nat.pow 10 (-exponent).toNat)

/-- Whether a double is neither infinite nor a NaN. -/
def isFinite (x : Float) : Bool :=
  (decode x).isSome

end DocSchema.Number
