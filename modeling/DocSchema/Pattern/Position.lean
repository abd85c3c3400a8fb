import DocSchema.Pattern.CharClass

/-!
# Positions in texts

An assertion of a pattern matches no character, but looks at the two characters around a position.
-/

namespace DocSchema.Pattern

/-- The characters next to a position: none at an end of the text. -/
structure Position where
  before : Option Char
  after : Option Char
  deriving DecidableEq, Repr

/-- A condition on a position. -/
inductive Assertion where
  | textStart
  | textEnd
  | lineStart
  | lineEnd
  /-- Line ends may also be a carriage return, with or without a line feed. -/
  | lineStartCrlf
  | lineEndCrlf
  | wordBoundary (ascii : Bool)
  | notWordBoundary (ascii : Bool)
  | wordStart (ascii : Bool)
  | wordEnd (ascii : Bool)
  | wordStartHalf (ascii : Bool)
  | wordEndHalf (ascii : Bool)
  deriving DecidableEq, Repr

namespace Position

/-- Whether a neighbour is there and belongs to a word. -/
def isWordSide (ascii : Bool) (neighbour : Option Char) : Bool :=
  neighbour.any fun c =>
    if ascii then CharClass.asciiWord.contains c.toNat else Unicode.isWord c

/-- Whether an assertion holds at a position. -/
def satisfies (p : Position) : Assertion → Bool
  | .textStart => p.before.isNone
  | .textEnd => p.after.isNone
  | .lineStart => p.before.all (· == '\n')
  | .lineEnd => p.after.all (· == '\n')
  | .lineStartCrlf =>
    p.before.all fun c => c == '\n' || (c == '\r' && p.after != some '\n')
  | .lineEndCrlf =>
    p.after.all fun c => c == '\r' || (c == '\n' && p.before != some '\r')
  | .wordBoundary ascii => isWordSide ascii p.before != isWordSide ascii p.after
  | .notWordBoundary ascii => isWordSide ascii p.before == isWordSide ascii p.after
  | .wordStart ascii => !isWordSide ascii p.before && isWordSide ascii p.after
  | .wordEnd ascii => isWordSide ascii p.before && !isWordSide ascii p.after
  | .wordStartHalf ascii => !isWordSide ascii p.before
  | .wordEndHalf ascii => !isWordSide ascii p.after

end Position

end DocSchema.Pattern
