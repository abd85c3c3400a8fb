import DocSchema.Unicode.Property

/-!
# Character classes

A class is a set of code points.  This module has the sets of ASCII characters that patterns name,
and what it means to ignore the case of ASCII letters only.
-/

namespace DocSchema.Pattern

/-- A set of characters. -/
abbrev CharClass : Type := Unicode.RangeSet

namespace CharClass

/-- The class of one character. -/
def ofChar (c : Char) : CharClass :=
  .single c.toNat

/-- The characters from `low` to `high`. -/
def ofRange (low high : Char) : CharClass :=
  .range low.toNat high.toNat

/-- The ASCII digits. -/
def asciiDigit : CharClass :=
  ofRange '0' '9'

/-- The ASCII capital letters. -/
def asciiUpper : CharClass :=
  ofRange 'A' 'Z'

/-- The ASCII small letters. -/
def asciiLower : CharClass :=
  ofRange 'a' 'z'

/-- The ASCII letters. -/
def asciiLetter : CharClass :=
  asciiUpper ∪ asciiLower

/-- The ASCII characters of words. -/
def asciiWord : CharClass :=
  .unions [asciiDigit, asciiLetter, ofChar '_']

/-- The ASCII blanks: tab, the four line breaks and the space. -/
def asciiSpace : CharClass :=
  ofRange '\t' '\r' ∪ ofChar ' '

/-- The members of a class with the other case of every ASCII letter among them. -/
def closeAscii (set : CharClass) : CharClass :=
  let moved := fun (letters : CharClass) (move : Nat → Nat) =>
    (set ∩ letters).ranges.toList.map fun (low, high) => (move low, move high)
  .ofRanges (set.ranges.toList ++ moved asciiUpper (· + 32) ++ moved asciiLower (· - 32))

end CharClass

end DocSchema.Pattern
