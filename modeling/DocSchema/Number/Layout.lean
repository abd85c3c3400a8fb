import DocSchema.Number.Shortest

/-!
# Number texts

How the shortest digits of a double are laid out.  A layout says which numbers are written
positionally and how the others spell their exponent.  Two layouts are in use: `Layout.plain` in
messages and `Layout.json` in documents.
-/

namespace DocSchema.Number

/-- The decisions of a number format. -/
structure Layout where
  /-- Where a tie between two shortest decimals goes. -/
  tie : Tie
  /-- Whether a number whose leading digit stands for `10 ^ e` is written positionally. -/
  positional : Int → Bool
  /-- What follows a positional number without a fraction. -/
  integralEnd : String
  /-- The text of an infinity, without its sign. -/
  infinity : String
  /-- The text of a NaN. -/
  notANumber : String

/-- Messages write every number positionally, and whole numbers without a point. -/
def Layout.plain : Layout where
  tie := .up
  positional := fun _ => true
  integralEnd := ""
  infinity := "inf"
  notANumber := "NaN"

/-- Documents write numbers from `10 ^ (-5)` up to `10 ^ 16` positionally and keep the point of a
whole number; what JSON cannot express is null. -/
def Layout.json : Layout where
  tie := .even
  positional := fun e => decide (-5 ≤ e ∧ e ≤ 15)
  integralEnd := ".0"
  infinity := "null"
  notANumber := "null"

namespace Layout

/-- Removes the trailing zeros of the digits. -/
def trim (d : Decimal) : Decimal :=
  let text := (Nat.toDigits 10 d.digits).reverse
  let zeros := (text.takeWhile (· == '0')).length
  ⟨d.digits / Nat.pow 10 zeros, d.exponent + zeros⟩

/-- A decimal with its point in place. -/
def positionalText (layout : Layout) (d : Decimal) : String :=
  let digits := Nat.toDigits 10 d.digits
  if 0 ≤ d.exponent then
    String.ofList (digits ++ List.replicate d.exponent.toNat '0') ++ layout.integralEnd
  else
    let places := (-d.exponent).toNat
    let padded := List.replicate (places + 1 - digits.length) '0' ++ digits
    let split := padded.length - places
    String.ofList (padded.take split) ++ "." ++ String.ofList (padded.drop split)

/-- A decimal with one digit before the point and its exponent, which always has a sign. -/
def scientificText (d : Decimal) (leading : Int) : String :=
  let exponent := (if leading < 0 then "e-" else "e+") ++ leading.natAbs.repr
  match Nat.toDigits 10 d.digits with
  | [] => exponent
  | [digit] => String.singleton digit ++ exponent
  | digit :: more => String.singleton digit ++ "." ++ String.ofList more ++ exponent

/-- The text of a finite magnitude. -/
def magnitudeText (layout : Layout) (mantissa : Nat) (exponent : Int) : String :=
  if mantissa = 0 then
    "0" ++ layout.integralEnd
  else
    let d := trim (shortest layout.tie mantissa exponent)
    let leading := d.exponent + ((Nat.toDigits 10 d.digits).length : Int) - 1
    if layout.positional leading then layout.positionalText d else scientificText d leading

/-- The text of a double. -/
def text (layout : Layout) (x : Float) : String :=
  match decode x with
  | some d =>
    (if d.negative then "-" else "") ++ layout.magnitudeText d.mantissa d.exponent
  | none =>
    if x.isNaN then layout.notANumber
    else if x < 0 then "-" ++ layout.infinity
    else layout.infinity

end Layout

end DocSchema.Number
