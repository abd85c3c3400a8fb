import DocSchema.Pattern.Position

/-!
# Regular expressions

Expressions over character classes with assertions about the characters around a position, in a
normal form: parts that match only the empty text are dropped where they do nothing, literals that
follow one another are one literal, and alternatives that are all classes are one class.  The
functions named for what they build keep this form; they are used in place of the constructors.

The form matters beyond tidiness.  How much memory a pattern needs is measured on it, and that
decides which patterns are refused.

* `Expr.inRow`, `Expr.alternatives`, `Expr.ofClass`, `Expr.copies`: building expressions.
* `Expr.minLength`, `Expr.maxLength`: how long matches are.
* `Expr.startsAnchored`, `Expr.endsAnchored`: whether matches touch an end of the text.
-/

namespace DocSchema.Pattern

/-- A regular expression. -/
inductive Expr where
  | empty
  | literal (text : List Char)
  /-- A character of a class; classes with and without Unicode are told apart. -/
  | set (members : CharClass) (isUnicode : Bool)
  | assertion (a : Assertion)
  /-- At least `least` and at most `most` copies in a row; any number from `least` on without an
  upper limit. -/
  | repeated (e : Expr) (least : Nat) (most : Option Nat) (isLazy : Bool)
  /-- A group that captures what it matches. -/
  | capture (number : Nat) (e : Expr)
  /-- A part and what follows it, which may be a row again; the first part is none. -/
  | concat (a b : Expr)
  /-- A branch and the other ones, which may be several; the first branch is one. -/
  | either (a b : Expr)
  deriving DecidableEq, Repr

namespace Expr

/-! ## Rows -/

/-- The parts of an expression that have to match one after another. -/
def parts : Expr → List Expr
  | empty => []
  | concat a b => a :: b.parts
  | e => [e]

/-- The branches of an expression, one of which has to match. -/
def branches : Expr → List Expr
  | either a b => a :: b.branches
  | e => [e]

/-- Parts in a row. -/
def ofParts : List Expr → Expr
  | [] => empty
  | [e] => e
  | e :: rest => concat e (ofParts rest)

/-- One more part in front of others; literals become one. -/
def prepend : Expr → List Expr → List Expr
  | literal a, literal b :: rest => literal (a ++ b) :: rest
  | e, rest => e :: rest

/-- Expressions that have to match one after another. -/
def inRow (es : List Expr) : Expr :=
  ofParts ((es.flatMap parts).foldr prepend [])

/-! ## Classes -/

/-- The expression that matches nothing. -/
def fail : Expr :=
  set .empty false

/-- A character of a class; the only one of a class is a literal. -/
def ofClass (members : CharClass) (isUnicode : Bool) : Expr :=
  if members.isEmpty then fail
  else match members.single? with
    | some code => literal [Char.ofNat code]
    | none => set members isUnicode

/-- The class of a literal of one character. -/
def letter? : Expr → Option CharClass
  | literal [c] => some (.ofChar c)
  | _ => none

/-- The class of an expression that is one. -/
def class? : Expr → Option CharClass
  | set members _ => some members
  | _ => none

/-! ## Alternatives -/

/-- Branches, one of which has to match. -/
def ofBranches : List Expr → Expr
  | [] => fail
  | [e] => e
  | e :: rest => either e (ofBranches rest)

/-- Branches that share no front.  If all are letters or all are classes, they are one class. -/
def mergedBranches (es : List Expr) : Expr :=
  match es with
  | [] => fail
  | [e] => e
  | _ => match es.mapM letter? with
    | some sets => ofClass (.unions sets) true
    | none => match es.mapM class? with
      | some sets => ofClass (.unions sets) true
      | none => ofBranches es

/-- The front that two rows have in common. -/
def commonFront : List Expr → List Expr → List Expr
  | a :: as, b :: bs => if a = b then a :: commonFront as bs else []
  | _, _ => []

/-- Whether an expression is a row of several parts. -/
def isRow : Expr → Bool
  | concat _ _ => true
  | _ => false

/-- The front that all branches have in common; there is none unless all of them are rows. -/
def sharedFront : List Expr → List Expr
  | [] => []
  | e :: rest =>
    if isRow e && rest.all isRow then
      rest.foldl (fun front other => commonFront front other.parts) e.parts
    else
      []

/-- Expressions of which one has to match.  What all of them start with is written once. -/
def alternatives (es : List Expr) : Expr :=
  let es := es.flatMap branches
  match sharedFront es with
  | [] => mergedBranches es
  | front =>
    let rests := es.map fun e => inRow (e.parts.drop front.length)
    inRow (front ++ [mergedBranches (rests.flatMap branches)])

/-! ## Lengths -/

/-- The number of bytes that encode a literal. -/
def literalLength (text : List Char) : Nat :=
  text.foldl (fun n c => n + c.utf8Size) 0

/-- The number of bytes that encode a code point. -/
def codeLength (code : Nat) : Nat :=
  (Char.ofNat code).utf8Size

/-- The number of bytes of the shortest match; none if there may be no match at all. -/
def minLength : Expr → Option Nat
  | empty => some 0
  | literal text => some (literalLength text)
  | set members _ => members.ranges[0]?.map fun (low, _) => codeLength low
  | assertion _ => some 0
  | repeated e least _ _ => e.minLength.map (· * least)
  | capture _ e => e.minLength
  | concat a b => do return (← a.minLength) + (← b.minLength)
  | either a b => do return min (← a.minLength) (← b.minLength)

/-- The number of bytes of the longest match; none if there is no longest one. -/
def maxLength : Expr → Option Nat
  | empty => some 0
  | literal text => some (literalLength text)
  | set members _ => members.ranges.back?.map fun (_, high) => codeLength high
  | assertion _ => some 0
  | repeated e _ most _ => do return (← e.maxLength) * (← most)
  | capture _ e => e.maxLength
  | concat a b => do return (← a.maxLength) + (← b.maxLength)
  | either a b => do return max (← a.maxLength) (← b.maxLength)

/-! ## Repetitions -/

/-- Copies of an expression in a row.  Of one that matches only the empty text, one is enough. -/
def copies (e : Expr) (least : Nat) (most : Option Nat) (isLazy : Bool) : Expr :=
  let isEmptyWidth := e.maxLength = some 0
  let least := if isEmptyWidth then min least 1 else least
  let most := if isEmptyWidth then some ((most.map (min · 1)).getD 1) else most
  match least, most with
  | 0, some 0 => empty
  | 1, some 1 => e
  | _, _ => repeated e least most isLazy

/-! ## Anchors -/

/-- Whether every match starts at the start of the text, as far as its assertions tell. -/
def startsAnchored : Expr → Bool
  | assertion a => a == .textStart
  | repeated e least _ _ => 0 < least && e.startsAnchored
  | capture _ e => e.startsAnchored
  | concat a b => a.startsAnchored || (a.maxLength == some 0 && b.startsAnchored)
  | either a b => a.startsAnchored && b.startsAnchored
  | _ => false

/-- Whether every match ends at the end of the text, as far as its assertions tell. -/
def endsAnchored : Expr → Bool
  | assertion a => a == .textEnd
  | repeated e least _ _ => 0 < least && e.endsAnchored
  | capture _ e => e.endsAnchored
  | concat a b => b.endsAnchored || (b.maxLength == some 0 && a.endsAnchored)
  | either a b => a.endsAnchored && b.endsAnchored
  | _ => false

end Expr

end DocSchema.Pattern
