import DocSchema.Pattern.Expr
import DocSchema.Pattern.Term

/-!
# The meaning of patterns

A term becomes an expression by applying the switches in force to each of its parts.  Switches set
inside a group end with it; they carry over from one alternative to the next.

With Unicode turned off, a class is one of ASCII characters.  Whatever could then match a part of a
character's encoding is refused: the dot, complements, and bytes beyond ASCII.
-/

namespace DocSchema.Pattern

/-- The switches that matter for the expression of a pattern. -/
structure Switches where
  ignoreCase : Bool
  multiLine : Bool
  dotMatchesLineFeed : Bool
  swapGreed : Bool
  unicode : Bool
  crlf : Bool
  deriving DecidableEq, Repr

namespace Switches

/-- The switches at the start of a pattern. -/
def initial : Switches :=
  ⟨false, false, false, false, true, false⟩

/-- The switches behind a flag list. -/
def change (switches : Switches) (changes : FlagChanges) : Switches where
  ignoreCase := changes.apply .ignoreCase switches.ignoreCase
  multiLine := changes.apply .multiLine switches.multiLine
  dotMatchesLineFeed := changes.apply .dotMatchesLineFeed switches.dotMatchesLineFeed
  swapGreed := changes.apply .swapGreed switches.swapGreed
  unicode := changes.apply .unicode switches.unicode
  crlf := changes.apply .crlf switches.crlf

/-- A class closed under case, if case is ignored. -/
def fold (switches : Switches) (set : CharClass) : CharClass :=
  if !switches.ignoreCase then set
  else if switches.unicode then Unicode.CaseFolding.close set
  else set.closeAscii

/-- A class closed under case, then complemented if it is negated. -/
def foldAndNegate (switches : Switches) (negated : Bool) (set : CharClass) :
    Except PatternError CharClass :=
  let folded := switches.fold set
  if !negated then .ok folded
  else if switches.unicode then .ok folded.compl
  else .error .splitsCharacter

end Switches

/-! ## Classes -/

/-- The characters of an ASCII class. -/
def AsciiClass.set : AsciiClass → CharClass
  | alnum => .asciiDigit ∪ .asciiLetter
  | alpha => .asciiLetter
  | ascii => .range 0 127
  | blank => .ofChar '\t' ∪ .ofChar ' '
  | cntrl => .ofRange '\x00' '\x1f' ∪ .ofChar '\x7f'
  | digit => .asciiDigit
  | graph => .ofRange '!' '~'
  | lower => .asciiLower
  | print => .ofRange ' ' '~'
  | punct =>
    .ofRange '!' '/' ∪ .ofRange ':' '@' ∪ .ofRange '[' '\x60' ∪ .ofRange '\x7b' '~'
  | space => .asciiSpace
  | upper => .asciiUpper
  | word => .asciiWord
  | xdigit => .asciiDigit ∪ .ofRange 'A' 'F' ∪ .ofRange 'a' 'f'

/-- The character of a literal in a class.  With Unicode turned off it has to be an ASCII one. -/
def classLiteral (switches : Switches) (l : Literal) : Except PatternError Char :=
  if switches.unicode || decide (l.char.toNat < 128) then .ok l.char
  else .error (if l.asByte then .splitsCharacter else .unicodeOff)

/-- The class of a one-letter escape; it is closed under case anyway. -/
def letterClass (switches : Switches) (name : LetterClass) (negated : Bool) :
    Except PatternError CharClass :=
  let set := match name, switches.unicode with
    | .digit, true => Unicode.digitSet
    | .space, true => Unicode.Tables.whiteSpace
    | .word, true => Unicode.wordSet
    | .digit, false => CharClass.asciiDigit
    | .space, false => CharClass.asciiSpace
    | .word, false => CharClass.asciiWord
  if !negated then .ok set
  else if switches.unicode then .ok set.compl
  else .error .splitsCharacter

/-- The property that a query asks for. -/
def PropertyQuery.find? : PropertyQuery → Option Unicode.Property
  | name n => Unicode.Property.ofName? n
  | pair n value => Unicode.Property.ofPair? n value

/-- The class of a property. -/
def propertyClass (switches : Switches) (query : PropertyQuery) (negated : Bool) :
    Except PatternError CharClass :=
  if !switches.unicode then .error .unicodeOff
  else match query.find? with
    | none => .error .propertyUnknown
    | some property => switches.foldAndNegate negated property.members

mutual

/-- The characters of a class term. -/
def ClassTerm.set (switches : Switches) : ClassTerm → Except PatternError CharClass
  | .empty => .ok .empty
  | .literal l => do
    return .ofChar (← classLiteral switches l)
  | .range low high => do
    return .ofRange (← classLiteral switches low) (← classLiteral switches high)
  | .ascii name negated => switches.foldAndNegate negated name.set
  | .letter name negated => letterClass switches name negated
  | .property query negated => propertyClass switches query negated
  | .bracket negated body => do
    switches.foldAndNegate negated (← body.set switches)
  | .union items => do
    return .unions (← ClassTerm.sets switches items)
  | .op kind a b => do
    let a := switches.fold (← a.set switches)
    let b := switches.fold (← b.set switches)
    match kind with
    | .inter => return a.inter b
    | .diff => return a.diff b
    | .symmDiff => return a.symmDiff b

/-- The characters of each item of a union. -/
def ClassTerm.sets (switches : Switches) :
    List ClassTerm → Except PatternError (List CharClass)
  | [] => .ok []
  | item :: rest => do
    return (← item.set switches) :: (← ClassTerm.sets switches rest)

end

/-! ## Patterns -/

/-- A literal character, in every case if case is ignored. -/
def literalExpr (switches : Switches) (l : Literal) : Except PatternError Expr :=
  if !switches.unicode && l.asByte && decide (128 ≤ l.char.toNat) then .error .splitsCharacter
  else .ok (.ofClass (switches.fold (.ofChar l.char)) switches.unicode)

/-- Any character, but for the ends of lines unless those are included. -/
def dotExpr (switches : Switches) : Except PatternError Expr :=
  let allBut := fun (ends : List CharClass) => (Unicode.RangeSet.unions ends).compl
  if !switches.unicode then .error .splitsCharacter
  else if switches.dotMatchesLineFeed then .ok (.ofClass .full true)
  else if switches.crlf then .ok (.ofClass (allBut [.ofChar '\r', .ofChar '\n']) true)
  else .ok (.ofClass (allBut [.ofChar '\n']) true)

/-- The assertion that an anchor stands for. -/
def Anchor.assertion (switches : Switches) (a : Anchor) : Assertion :=
  let ascii := !switches.unicode
  match a with
  | caret =>
    if !switches.multiLine then .textStart
    else if switches.crlf then .lineStartCrlf
    else .lineStart
  | dollar =>
    if !switches.multiLine then .textEnd
    else if switches.crlf then .lineEndCrlf
    else .lineEnd
  | textStart => .textStart
  | textEnd => .textEnd
  | wordBoundary => .wordBoundary ascii
  | notWordBoundary => .notWordBoundary ascii
  | wordStart => .wordStart ascii
  | wordEnd => .wordEnd ascii
  | wordStartHalf => .wordStartHalf ascii
  | wordEndHalf => .wordEndHalf ascii

mutual

/-- The expression of a term under the switches in force, and the switches behind it. -/
def Term.meaning (switches : Switches) : Term → Except PatternError (Expr × Switches)
  | .empty => .ok (.empty, switches)
  | .flags changes => .ok (.empty, switches.change changes)
  | .literal l => do
    return (← literalExpr switches l, switches)
  | .dot => do
    return (← dotExpr switches, switches)
  | .anchor a => .ok (.assertion (a.assertion switches), switches)
  | .letter name negated => do
    return (.ofClass (← letterClass switches name negated) switches.unicode, switches)
  | .property query negated => do
    return (.ofClass (← propertyClass switches query negated) true, switches)
  | .bracket negated body => do
    let members ← switches.foldAndNegate negated (← body.set switches)
    return (.ofClass members switches.unicode, switches)
  | .repeated t least most isLazy => do
    let (e, switches') ← t.meaning switches
    return (e.copies least most (isLazy != switches.swapGreed), switches')
  | .group number changes t => do
    let (e, _) ← t.meaning (switches.change changes)
    match number with
    | some number => return (.capture number e, switches)
    | none => return (e, switches)
  | .either ts => do
    let (es, switches) ← Term.meanings switches ts
    return (.alternatives es, switches)
  | .concat ts => do
    let (es, switches) ← Term.meanings switches ts
    return (.inRow es, switches)

/-- The expressions of terms, first to last. -/
def Term.meanings (switches : Switches) :
    List Term → Except PatternError (List Expr × Switches)
  | [] => .ok ([], switches)
  | t :: ts => do
    let (e, switches) ← t.meaning switches
    let (es, switches) ← Term.meanings switches ts
    return (e :: es, switches)

end

end DocSchema.Pattern
