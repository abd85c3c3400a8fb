import DocSchema.Pattern.Escape

/-!
# Reading bracketed classes

A class in brackets holds characters, ranges, escapes, named classes and further brackets; between
its parts may stand the signs of intersection, difference and symmetric difference, which bind
weaker than putting items next to each other and are applied from left to right.
-/

namespace DocSchema.Pattern

open Text

/-- A bracket that is being read: the items since the last operation, in reverse, and the operation
that waits for them as its right-hand side. -/
structure Bracket where
  negated : Bool
  items : List ClassTerm
  pending : Option (ClassOp × ClassTerm)

namespace Bracket

/-- The class that the bracket holds so far. -/
def body (b : Bracket) : ClassTerm :=
  let item := ClassTerm.ofItems b.items.reverse
  match b.pending with
  | none => item
  | some (op, left) => .op op left item

/-- One more item. -/
def add (b : Bracket) (item : ClassTerm) : Bracket :=
  { b with items := item :: b.items }

/-- An operation, whose left-hand side is what the bracket holds so far. -/
def operate (b : Bracket) (op : ClassOp) : Bracket :=
  ⟨b.negated, [], some (op, b.body)⟩

end Bracket

/-- The innermost bracket and the ones around it. -/
structure BracketState where
  current : Bracket
  outer : List Bracket

/-! ## Items -/

/-- A class item as a term. -/
def classOfTerm : Term → Except PatternError ClassTerm
  | .literal l => .ok (.literal l)
  | .letter name negated => .ok (.letter name negated)
  | .property query negated => .ok (.property query negated)
  | _ => .error .classEscape

/-- The literal at an end of a range. -/
def literalOfTerm : Term → Except PatternError Literal
  | .literal l => .ok l
  | _ => .error .classRangeEnd

/-- The item that starts with a character. -/
def scanItem (blanks : Bool) (c : Char) : Read Term :=
  if c = '\\' then scanEscape blanks else return plain c

/-- What stands behind a hyphen.  While blanks are ignored, this looks past them and past the sign
that starts a comment, but not past the comment. -/
def beyondHyphen (blanks : Bool) (text : List Char) : Option Char :=
  if blanks then
    match text.dropWhile Unicode.isSpace with
    | '#' :: rest => (rest.dropWhile Unicode.isSpace).head?
    | rest => rest.head?
  else
    text.head?

/-- An item or a range, given its first character.  A hyphen makes a range unless the bracket closes
behind it or a second hyphen makes it a difference. -/
def scanRange (blanks : Bool) (c : Char) : Read ClassTerm := do
  let first ← scanItem blanks c
  skipBlanks blanks
  match ← Scan.ahead with
  | '-' :: rest =>
    let beyond := beyondHyphen blanks rest
    if beyond = some ']' ∨ beyond = some '-' then
      ofExcept (classOfTerm first)
    else
      Scan.skip
      skipBlanks blanks
      let last ← scanItem blanks (← nextOr .classUnclosed)
      let low ← ofExcept (literalOfTerm first)
      let high ← ofExcept (literalOfTerm last)
      if low.char ≤ high.char then return .range low high else Scan.fail .classRangeReversed
  | _ => ofExcept (classOfTerm first)

/-- A named class behind its opening bracket; declines if there is none. -/
def scanAscii : Read (Option ClassTerm) := do
  if ← Scan.accept [':'] then
    let negated ← Scan.accept ['^']
    let name ← Scan.takeWhile (· ≠ ':')
    if ← Scan.accept [':', ']'] then
      return (AsciiClass.ofName? (String.ofList name)).map fun named => .ascii named negated
    else
      return none
  else
    return none

/-! ## Brackets -/

/-- Takes leading hyphens, which stand for themselves. -/
def takeHyphens (blanks : Bool) : Read (List ClassTerm) := do
  let hyphens ← takeAllSpaced blanks (· = '-')
  return hyphens.map fun c => .literal ⟨c, false⟩

/-- A bracket behind its opening sign: its negation, and the signs that have no meaning of their own
at the start. -/
def scanOpening (blanks : Bool) : Read Bracket := do
  skipBlanks blanks
  let negated ← Scan.accept ['^']
  skipBlanks blanks
  let hyphens ← takeHyphens blanks
  if hyphens.isEmpty then
    if ← Scan.accept [']'] then
      skipBlanks blanks
      return ⟨negated, [.literal ⟨']', false⟩], none⟩
    else
      return ⟨negated, [], none⟩
  else
    return ⟨negated, hyphens, none⟩

/-- Continues behind one of the signs of an operation: a doubled sign is the operation, a single one
an item. -/
def operationStep (blanks : Bool) (state : BracketState) (sign : Char) (op : ClassOp) :
    Read BracketState := do
  if ← Scan.accept [sign] then
    return { state with current := state.current.operate op }
  else
    return { state with current := state.current.add (← scanRange blanks sign) }

/-- One step inside brackets; ends with the outermost bracket. -/
def bracketStep (blanks : Bool) (state : BracketState) (c : Char) :
    Read (BracketState ⊕ Term) := do
  if blanks && Unicode.isSpace c then
    return .inl state
  else if blanks && c = '#' then
    let _ ← Scan.takeWhile (· ≠ '\n')
    return .inl state
  else match c with
    | '[' =>
      match ← Scan.attempt scanAscii with
      | some named => return .inl { state with current := state.current.add named }
      | none => return .inl ⟨← scanOpening blanks, state.current :: state.outer⟩
    | ']' =>
      let b := state.current
      match state.outer with
      | [] => return .inr (.bracket b.negated b.body)
      | around :: outer => return .inl ⟨around.add (.bracket b.negated b.body), outer⟩
    | '&' => return .inl (← operationStep blanks state '&' .inter)
    | '-' => return .inl (← operationStep blanks state '-' .diff)
    | '~' => return .inl (← operationStep blanks state '~' .symmDiff)
    | _ => return .inl { state with current := state.current.add (← scanRange blanks c) }

/-- A bracketed class behind its opening bracket. -/
def scanBracket (blanks : Bool) : Read Term := do
  let opening ← scanOpening blanks
  Scan.loopUntil .classUnclosed (bracketStep blanks) ⟨opening, []⟩

end DocSchema.Pattern
