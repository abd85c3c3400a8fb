import DocSchema.Unicode.Property

/-!
# Pattern terms

The tree of a written pattern, before its flags have been applied: what the flags in force mean for
a literal, a class or an assertion is settled when the term is interpreted.

* `Term`, `ClassTerm`: patterns and bracketed classes.
* `Term.depth`: how deep constructs are nested in one another, which the reader limits.
-/

namespace DocSchema.Pattern

/-- Why a pattern is refused. -/
inductive PatternError where
  | backreference
  | classEscape
  | classRangeEnd
  | classRangeReversed
  | classUnclosed
  | countEmpty
  | countReversed
  | countTooLarge
  | countUnclosed
  | escapeEnd
  | escapeHex
  | escapeUnknown
  | flagDangling
  | flagEnd
  | flagRepeated
  | flagUnknown
  | groupNameDuplicate
  | groupNameEnd
  | groupNameInvalid
  | groupUnclosed
  | groupUnopened
  | lookAround
  | nestedTooDeep
  | propertyUnknown
  | repetitionMissing
  | splitsCharacter
  | tooLarge
  | unicodeOff
  | wordBoundaryUnknown
  deriving DecidableEq, Repr

/-- What is wrong with the pattern, in a few words. -/
def PatternError.text : PatternError → String
  | backreference => "backreferences are not supported"
  | classEscape => "invalid escape sequence found in character class"
  | classRangeEnd => "invalid range boundary, must be a literal"
  | classRangeReversed => "invalid character class range, the start must be <= the end"
  | classUnclosed => "unclosed character class"
  | countEmpty => "repetition quantifier expects a valid decimal"
  | countReversed => "invalid repetition count range, the start must be <= the end"
  | countTooLarge => "decimal literal invalid"
  | countUnclosed => "unclosed counted repetition"
  | escapeEnd => "incomplete escape sequence, reached end of pattern prematurely"
  | escapeHex => "invalid hexadecimal literal"
  | escapeUnknown => "unrecognized escape sequence"
  | flagDangling => "dangling flag negation operator"
  | flagEnd => "expected flag but got end of regex"
  | flagRepeated => "duplicate flag"
  | flagUnknown => "unrecognized flag"
  | groupNameDuplicate => "duplicate capture group name"
  | groupNameEnd => "unclosed capture group name"
  | groupNameInvalid => "invalid capture group name"
  | groupUnclosed => "unclosed group"
  | groupUnopened => "unopened group"
  | lookAround => "look-around, including look-ahead and look-behind, is not supported"
  | nestedTooDeep => "exceed the maximum number of nested parentheses/brackets (250)"
  | propertyUnknown => "Unicode property not found"
  | repetitionMissing => "repetition operator missing expression"
  | splitsCharacter => "pattern can match invalid UTF-8"
  | tooLarge => "compiled pattern too large"
  | unicodeOff => "Unicode not allowed here"
  | wordBoundaryUnknown => "unrecognized special word boundary assertion"

/-! ## Parts of terms -/

/-- A switch that changes how the rest of a group is read. -/
inductive Flag where
  | ignoreCase
  | multiLine
  | dotMatchesLineFeed
  | swapGreed
  | unicode
  | crlf
  | ignoreBlanks
  deriving DecidableEq, Repr

/-- The switches that a flag list turns on and off. -/
structure FlagChanges where
  on : List Flag
  off : List Flag
  deriving DecidableEq, Repr

/-- What a flag list makes of a switch. -/
def FlagChanges.apply (changes : FlagChanges) (flag : Flag) (current : Bool) : Bool :=
  if changes.on.contains flag then true
  else if changes.off.contains flag then false
  else current

/-- A literal character; with Unicode turned off, one that is written with two hexadecimal digits is
a byte. -/
structure Literal where
  char : Char
  asByte : Bool
  deriving DecidableEq, Repr

/-- The assertions that a pattern can write. -/
inductive Anchor where
  | caret
  | dollar
  | textStart
  | textEnd
  | wordBoundary
  | notWordBoundary
  | wordStart
  | wordEnd
  | wordStartHalf
  | wordEndHalf
  deriving DecidableEq, Repr

/-- The classes with an escape of one letter. -/
inductive LetterClass where
  | digit
  | space
  | word
  deriving DecidableEq, Repr

/-- The classes written as `[:name:]` inside brackets. -/
inductive AsciiClass where
  | alnum
  | alpha
  | ascii
  | blank
  | cntrl
  | digit
  | graph
  | lower
  | print
  | punct
  | space
  | upper
  | word
  | xdigit
  deriving DecidableEq, Repr

/-- The class with a name. -/
def AsciiClass.ofName? : String → Option AsciiClass
  | "alnum" => some alnum
  | "alpha" => some alpha
  | "ascii" => some ascii
  | "blank" => some blank
  | "cntrl" => some cntrl
  | "digit" => some digit
  | "graph" => some graph
  | "lower" => some lower
  | "print" => some print
  | "punct" => some punct
  | "space" => some space
  | "upper" => some upper
  | "word" => some word
  | "xdigit" => some xdigit
  | _ => none

/-- A property asked for by its name, or by the name and a value of a property with many values. -/
inductive PropertyQuery where
  | name (name : String)
  | pair (name value : String)
  deriving DecidableEq, Repr

/-- The operations between the parts of a bracketed class. -/
inductive ClassOp where
  | inter
  | diff
  | symmDiff
  deriving DecidableEq, Repr

/-! ## Terms -/

/-- The inside of a bracketed class. -/
inductive ClassTerm where
  | empty
  | literal (l : Literal)
  | range (low high : Literal)
  | ascii (name : AsciiClass) (negated : Bool)
  | letter (name : LetterClass) (negated : Bool)
  | property (query : PropertyQuery) (negated : Bool)
  | bracket (negated : Bool) (body : ClassTerm)
  | union (items : List ClassTerm)
  | op (op : ClassOp) (a b : ClassTerm)

/-- A pattern. -/
inductive Term where
  | empty
  | flags (changes : FlagChanges)
  | literal (l : Literal)
  | dot
  | anchor (a : Anchor)
  | letter (name : LetterClass) (negated : Bool)
  | property (query : PropertyQuery) (negated : Bool)
  | bracket (negated : Bool) (body : ClassTerm)
  /-- A lazy repetition prefers fewer copies. -/
  | repeated (t : Term) (least : Nat) (most : Option Nat) (isLazy : Bool)
  /-- A group that captures what it matches has a number. -/
  | group (number : Option Nat) (changes : FlagChanges) (t : Term)
  | either (ts : List Term)
  | concat (ts : List Term)
  deriving Inhabited

/-- The class of the items of a union: no wrapper for a single one. -/
def ClassTerm.ofItems : List ClassTerm → ClassTerm
  | [] => empty
  | [item] => item
  | items => union items

/-- Terms in a row: no wrapper for a single one. -/
def Term.inRow : List Term → Term
  | [] => empty
  | [t] => t
  | ts => concat ts

/-- Alternative terms: no wrapper for a single one. -/
def Term.alternatives : List Term → Term
  | [] => empty
  | [t] => t
  | ts => either ts

/-! ## Nesting -/

mutual

/-- How deep brackets, unions and operations are nested in a class. -/
def ClassTerm.depth : ClassTerm → Nat
  | bracket _ body => body.depth + 1
  | union items => ClassTerm.depths items + 1
  | op _ a b => max a.depth b.depth + 1
  | _ => 0

/-- The greatest depth in a list of classes. -/
def ClassTerm.depths : List ClassTerm → Nat
  | [] => 0
  | item :: rest => max item.depth (depths rest)

end

mutual

/-- How deep the constructs of a pattern are nested. -/
def Term.depth : Term → Nat
  | bracket _ body => body.depth + 1
  | repeated t _ _ _ => t.depth + 1
  | group _ _ t => t.depth + 1
  | either ts => Term.depths ts + 1
  | concat ts => Term.depths ts + 1
  | _ => 0

/-- The greatest depth in a list of patterns. -/
def Term.depths : List Term → Nat
  | [] => 0
  | t :: rest => max t.depth (depths rest)

end

/-- The deepest nesting that is read. -/
def maxNesting : Nat := 250

end DocSchema.Pattern
