/-!
# Ranges of encoded characters

The encodings of the characters in a range do not form one range of each byte.  This module cuts a
range of code points into pieces whose encodings do: a piece has one length of encoding, and each of
its bytes runs through a range of its own, independently of the others.

* `Utf8.bytes`: the encoding of a code point.
* `Utf8.sequences`: the pieces of a range in increasing order, as rows of byte ranges.
-/

namespace DocSchema.Text.Utf8

/-- A range of bytes. -/
structure ByteRange where
  low : Nat
  high : Nat
  deriving DecidableEq, Repr

/-- The bytes that encode a code point. -/
def bytes (code : Nat) : List Nat :=
  let rest := fun (shift : Nat) => 0x80 + code / Nat.pow 2 shift % 64
  if code < 0x80 then [code]
  else if code < 0x800 then [0xC0 + code / Nat.pow 2 6, rest 0]
  else if code < 0x10000 then [0xE0 + code / Nat.pow 2 12, rest 6, rest 0]
  else [0xF0 + code / Nat.pow 2 18, rest 12, rest 6, rest 0]

/-- The first code points of the encodings of two, three and four bytes. -/
def lengthStarts : List Nat :=
  [0x80, 0x800, 0x10000]

/-- The numbers of code points that share all but the last byte, the last two and the last three. -/
def blockSizes : List Nat :=
  [0x40, 0x1000, 0x40000]

/-- Where a range that is not a piece is cut: the first code point of the part behind. -/
def cut? (low high : Nat) : Option Nat :=
  (lengthStarts.find? fun start => decide (low < start) && decide (start ≤ high)).or
    (blockSizes.findSome? fun size =>
      if low / size = high / size then none
      else if low % size ≠ 0 then some ((low / size + 1) * size)
      else if high % size ≠ size - 1 then some (high / size * size)
      else none)

/-- The pieces of a range without surrogates. -/
def pieces (low high : Nat) : List (List ByteRange) :=
  match if high < 0x80 then none else cut? low high with
  | none => [List.zipWith ByteRange.mk (bytes low) (bytes high)]
  | some start =>
    if _ : low < start ∧ start ≤ high then pieces low (start - 1) ++ pieces start high
    else []
termination_by high - low
decreasing_by all_goals omega

/-- The pieces of the characters in a range; surrogates are none. -/
def sequences (low high : Nat) : List (List ByteRange) :=
  if low < 0xE000 ∧ 0xD7FF < high then
    (if low ≤ 0xD7FF then pieces low 0xD7FF else []) ++ pieces 0xE000 high
  else
    pieces low high

end DocSchema.Text.Utf8
