import DocSchema.Pattern.Term
import DocSchema.Text.Scan

/-!
# Reading escapes

What may follow a backslash in a pattern.  While blanks are ignored, they and comments may also
stand between the parts of an escape; `takeSpaced` is the one place that knows how.
-/

namespace DocSchema.Pattern

open Text

/-- A scanner of pattern text. -/
abbrev Read : Type → Type := Scan PatternError

/-! ## Blanks -/

/-- Splits off at most `count` characters that satisfy `p`.  With `blanks`, white space and comments
up to the end of their line are skipped on the way and behind the last character. -/
def splitSpaced (blanks : Bool) (p : Char → Bool) :
    (count : Nat) → (comment : Bool) → List Char → List Char × List Char
  | _, _, [] => ([], [])
  | count, comment, c :: cs =>
    if comment then splitSpaced blanks p count (c != '\n') cs
    else if blanks && Unicode.isSpace c then splitSpaced blanks p count false cs
    else if blanks && c == '#' then splitSpaced blanks p count true cs
    else if 0 < count && p c then
      let split := splitSpaced blanks p (count - 1) false cs
      (c :: split.1, split.2)
    else ([], c :: cs)

theorem length_splitSpaced_le (blanks : Bool) (p : Char → Bool) (text : List Char) :
    ∀ count comment, (splitSpaced blanks p count comment text).2.length ≤ text.length := by
  induction text with
  | nil => intro count comment; simp [splitSpaced]
  | cons c cs ih =>
    intro count comment
    rw [splitSpaced]
    split
    · exact Nat.le_succ_of_le (ih _ _)
    split
    · exact Nat.le_succ_of_le (ih _ _)
    split
    · exact Nat.le_succ_of_le (ih _ _)
    split
    · exact Nat.le_succ_of_le (ih _ _)
    · exact Nat.le_refl _

/-- Takes at most `count` characters that satisfy `p`, with blanks between them if they are
ignored. -/
def takeSpaced (blanks : Bool) (count : Nat) (p : Char → Bool) : Read (List Char) :=
  ⟨fun text =>
    let split := splitSpaced blanks p count false text
    .ok (split.1, ⟨split.2, length_splitSpaced_le blanks p text count false⟩)⟩

/-- Takes all characters that satisfy `p`, with blanks between them if they are ignored. -/
def takeAllSpaced (blanks : Bool) (p : Char → Bool) : Read (List Char) := do
  takeSpaced blanks (← Scan.ahead).length p

/-- Moves past blanks and comments if they are ignored. -/
def skipBlanks (blanks : Bool) : Read Unit := do
  let _ ← takeSpaced blanks 0 fun _ => false

/-- Takes the next character; the end of the text is the given error. -/
def nextOr (e : PatternError) : Read Char := do
  match ← Scan.next with
  | some c => return c
  | none => Scan.fail e

/-! ## Characters -/

/-- Characters with a meaning of their own in some place of a pattern. -/
def isMeta (c : Char) : Bool :=
  "\\.+*?()|[]\x7b\x7d^$#&-~".toList.contains c

/-- Characters that stand for themselves behind a backslash: all of ASCII but letters, digits and
the two signs of word boundaries. -/
def isEscapable (c : Char) : Bool :=
  isMeta c || (decide (c.toNat < 128) && !c.isAlphanum && c != '<' && c != '>')

/-- Whether a character is a hexadecimal digit. -/
def isHexDigit (c : Char) : Bool :=
  c.isDigit || ('a' ≤ c && c ≤ 'f') || ('A' ≤ c && c ≤ 'F')

/-- The value of a row of hexadecimal digits. -/
def hexNumber (digits : List Char) : Nat :=
  digits.foldl
    (fun n c => 16 * n +
      (if c.isDigit then c.toNat - '0'.toNat else c.toLower.toNat - 'a'.toNat + 10)) 0

/-- The character with a hexadecimal code; there must be digits, and the code must be one of a
character. -/
def charOfHex (digits : List Char) : Except PatternError Char :=
  if !digits.isEmpty && digits.all isHexDigit && decide (hexNumber digits).isValidChar then
    .ok (Char.ofNat (hexNumber digits))
  else
    .error .escapeHex

/-- Turns a result into a scanner that reads nothing. -/
def ofExcept {α : Type} : Except PatternError α → Read α
  | .ok a => return a
  | .error e => Scan.fail e

/-- A character by its code, behind the letter that tells the number of digits. -/
def scanHex (blanks : Bool) (count : Nat) : Read Term := do
  skipBlanks blanks
  match ← Scan.peek with
  | none => Scan.fail .escapeEnd
  | some '\x7b' =>
    Scan.skip
    let digits ← takeAllSpaced blanks (· ≠ '\x7d')
    let _ ← nextOr .escapeEnd
    skipBlanks blanks
    return .literal ⟨← ofExcept (charOfHex digits), false⟩
  | some _ =>
    let digits ← takeSpaced blanks count isHexDigit
    if digits.length = count then
      return .literal ⟨← ofExcept (charOfHex digits), count == 2⟩
    else
      Scan.fail .escapeHex

/-! ## Properties -/

/-- The text before and behind the first place where `mark` stands. -/
def splitAtMark (mark : List Char) : List Char → Option (List Char × List Char)
  | [] => none
  | c :: cs =>
    if mark.isPrefixOf (c :: cs) then some ([], (c :: cs).drop mark.length)
    else (splitAtMark mark cs).map fun (before, behind) => (c :: before, behind)

/-- The marks between a property and its value, the ones that count first in front, each with
whether it asks for all other characters. -/
def valueMarks : List (List Char × Bool) :=
  [(['!', '='], true), ([':'], false), (['='], false)]

/-- The property of a name in braces, and whether the name asks for its complement. -/
def queryOfName (name : List Char) : PropertyQuery × Bool :=
  let split := valueMarks.findSome? fun (mark, negated) =>
    (splitAtMark mark name).map fun (before, behind) =>
      (PropertyQuery.pair (String.ofList before) (String.ofList behind), negated)
  split.getD (.name (String.ofList name), false)

/-- A property behind its `p` or `P`. -/
def scanProperty (blanks negated : Bool) : Read Term := do
  skipBlanks blanks
  match ← nextOr .escapeEnd with
  | '\x7b' =>
    let name ← takeAllSpaced blanks (· ≠ '\x7d')
    let _ ← nextOr .escapeEnd
    let (query, other) := queryOfName name
    return .property query (negated != other)
  | '\\' => Scan.fail .propertyUnknown
  | c =>
    skipBlanks blanks
    return .property (.name (String.singleton c)) negated

/-! ## Word boundaries -/

/-- The characters of the names of word boundaries. -/
def isBoundaryChar (c : Char) : Bool :=
  c.isAlpha || c == '-'

/-- The name in braces that may follow a word boundary; if no such name starts there, the braces
are left for a repetition. -/
def scanBoundaryName (blanks : Bool) : Read (Option Anchor) := do
  Scan.skip
  skipBlanks blanks
  match ← Scan.peek with
  | none => Scan.fail .countUnclosed
  | some c =>
    if isBoundaryChar c then
      let name ← takeAllSpaced blanks isBoundaryChar
      if (← Scan.next) = some '\x7d' then
        match String.ofList name with
        | "start" => return some .wordStart
        | "end" => return some .wordEnd
        | "start-half" => return some .wordStartHalf
        | "end-half" => return some .wordEndHalf
        | _ => Scan.fail .wordBoundaryUnknown
      else
        Scan.fail .wordBoundaryUnknown
    else
      return none

/-- A word boundary behind its `b`. -/
def scanBoundary (blanks : Bool) : Read Term := do
  if (← Scan.peek) = some '\x7b' then
    return .anchor ((← Scan.attempt (scanBoundaryName blanks)).getD .wordBoundary)
  else
    return .anchor .wordBoundary

/-! ## Escapes -/

/-- The literal of a character that is written in any other way than by two hexadecimal digits. -/
def plain (c : Char) : Term :=
  .literal ⟨c, false⟩

/-- What stands behind a backslash. -/
def scanEscape (blanks : Bool) : Read Term := do
  match ← nextOr .escapeEnd with
  | 'x' => scanHex blanks 2
  | 'u' => scanHex blanks 4
  | 'U' => scanHex blanks 8
  | 'p' => scanProperty blanks false
  | 'P' => scanProperty blanks true
  | 'd' => return .letter .digit false
  | 'D' => return .letter .digit true
  | 's' => return .letter .space false
  | 'S' => return .letter .space true
  | 'w' => return .letter .word false
  | 'W' => return .letter .word true
  | 'a' => return plain '\x07'
  | 'f' => return plain '\x0c'
  | 't' => return plain '\t'
  | 'n' => return plain '\n'
  | 'r' => return plain '\r'
  | 'v' => return plain '\x0b'
  | 'A' => return .anchor .textStart
  | 'z' => return .anchor .textEnd
  | 'b' => scanBoundary blanks
  | 'B' => return .anchor .notWordBoundary
  | '<' => return .anchor .wordStart
  | '>' => return .anchor .wordEnd
  | c =>
    if isEscapable c then return plain c
    else if c.isDigit then Scan.fail .backreference
    else Scan.fail .escapeUnknown

end DocSchema.Pattern
