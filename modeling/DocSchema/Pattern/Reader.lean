import DocSchema.Pattern.Bracket

/-!
# Reading patterns

The text of a pattern is read from left to right.  Open groups wait in a stack of frames with what
stands before them, so one step per construct is enough.

* `Term.parse`: the term of a text, or why there is none.
-/

namespace DocSchema.Pattern

open Text

/-- A group that is still open: what stood before it, and its number and the switches at its
head. -/
structure GroupFrame where
  blanks : Bool
  items : List Term
  branches : List Term
  number : Option Nat
  changes : FlagChanges

/-- The reader's state: whether blanks are ignored, how many groups capture and which names they
have so far, the open groups, and of the innermost one the finished alternatives and the items of
the current one, both in reverse. -/
structure ReadState where
  blanks : Bool
  captures : Nat
  names : List String
  frames : List GroupFrame
  branches : List Term
  items : List Term

namespace ReadState

/-- The state before the first character. -/
def start : ReadState :=
  ⟨false, 0, [], [], [], []⟩

/-- The term of the innermost group so far. -/
def body (state : ReadState) : Term :=
  Term.alternatives ((Term.inRow state.items.reverse :: state.branches).reverse)

/-- One more item. -/
def add (state : ReadState) (t : Term) : ReadState :=
  { state with items := t :: state.items }

/-- Ends the current alternative. -/
def branch (state : ReadState) : ReadState :=
  { state with branches := Term.inRow state.items.reverse :: state.branches, items := [] }

/-- Opens a group. -/
def openGroup (state : ReadState) (number : Option Nat) (changes : FlagChanges) : ReadState where
  blanks := changes.apply .ignoreBlanks state.blanks
  captures := state.captures
  names := state.names
  frames := ⟨state.blanks, state.items, state.branches, number, changes⟩ :: state.frames
  branches := []
  items := []

/-- Opens a group that captures what it matches; such groups are numbered from one. -/
def openCapture (state : ReadState) : ReadState :=
  let number := state.captures + 1
  { state with captures := number }.openGroup (some number) ⟨[], []⟩

/-- Closes the innermost group. -/
def closeGroup (state : ReadState) : Except PatternError ReadState :=
  match state.frames with
  | [] => .error .groupUnopened
  | frame :: frames => .ok {
      blanks := frame.blanks
      captures := state.captures
      names := state.names
      frames := frames
      branches := frame.branches
      items := .group frame.number frame.changes state.body :: frame.items }

/-- Repeats the last item; there has to be one, and switches are none. -/
def repeatLast (state : ReadState) (least : Nat) (most : Option Nat) (isLazy : Bool) :
    Except PatternError ReadState :=
  match state.items with
  | [] | .empty :: _ | .flags _ :: _ => .error .repetitionMissing
  | t :: items => .ok { state with items := .repeated t least most isLazy :: items }

end ReadState

/-! ## Groups -/

/-- The switch of a letter. -/
def flagOfChar? : Char → Option Flag
  | 'i' => some .ignoreCase
  | 'm' => some .multiLine
  | 's' => some .dotMatchesLineFeed
  | 'U' => some .swapGreed
  | 'u' => some .unicode
  | 'R' => some .crlf
  | 'x' => some .ignoreBlanks
  | _ => none

/-- The switches of a row of letters; those behind the hyphen are turned off.  No letter may occur
twice, and the hyphen has to be followed by a letter. -/
def readFlags (letters : List Char) : Except PatternError FlagChanges := do
  let onLetters := letters.takeWhile (· ≠ '-')
  let offLetters := letters.drop (onLetters.length + 1)
  let flagOf := fun c => match flagOfChar? c with
    | some flag => Except.ok flag
    | none => Except.error (if c = '-' then PatternError.flagRepeated else .flagUnknown)
  let on ← onLetters.mapM flagOf
  let off ← offLetters.mapM flagOf
  if onLetters.length < letters.length ∧ offLetters.isEmpty then throw .flagDangling
  if (on ++ off).Nodup then return ⟨on, off⟩ else throw .flagRepeated

/-- Whether a character can start the name of a group.  Names may use letters that are too new to
have a property. -/
def isNameStart (c : Char) : Bool :=
  c == '_' || Unicode.alphabeticSet.contains c.toNat
    || Unicode.Tables.nextAlphabetic.contains c.toNat

/-- Whether a character can stand in the name of a group. -/
def isNameChar (c : Char) : Bool :=
  isNameStart c || c == '.' || c == '[' || c == ']' || Unicode.numberSet.contains c.toNat
    || Unicode.Tables.nextNumber.contains c.toNat

/-- The name of a group up to its closing sign; it must be new. -/
def scanName (names : List String) : Read String := do
  let chars ← Scan.takeWhile (· ≠ '>')
  let _ ← nextOr .groupNameEnd
  match chars with
  | [] => Scan.fail .groupNameInvalid
  | first :: rest =>
    let name := String.ofList chars
    if !isNameStart first || !rest.all isNameChar then Scan.fail .groupNameInvalid
    else if names.contains name then Scan.fail .groupNameDuplicate
    else return name

/-- The marks of look-around groups, which patterns do not have. -/
def lookAroundMarks : List (List Char) :=
  [['?', '='], ['?', '!'], ['?', '<', '='], ['?', '<', '!']]

/-- The marks of a group with a name. -/
def groupNameMarks : List (List Char) :=
  [['?', 'P', '<'], ['?', '<']]

/-- Continues behind an opening parenthesis: a group with or without a name, or switches for the
rest of the group around. -/
def groupStep (state : ReadState) : Read ReadState := do
  skipBlanks state.blanks
  let text ← Scan.ahead
  if lookAroundMarks.any fun mark => mark.isPrefixOf text then
    Scan.fail .lookAround
  else if groupNameMarks.any fun mark => mark.isPrefixOf text then
    let _ ← Scan.takeWhile (· ≠ '<')
    Scan.skip
    let name ← scanName state.names
    return { state with names := name :: state.names }.openCapture
  else if ← Scan.accept ['?'] then
    let letters ← Scan.takeWhile fun c => c ≠ ':' && c ≠ ')'
    let close ← nextOr .flagEnd
    let changes ← ofExcept (readFlags letters)
    if close = ':' then
      return state.openGroup none changes
    else if letters.isEmpty then
      Scan.fail .repetitionMissing
    else
      return { state with blanks := changes.apply .ignoreBlanks state.blanks }.add
        (.flags changes)
  else
    return state.openCapture

/-! ## Repetitions -/

/-- The largest count of a repetition. -/
def maxCount : Nat := Nat.pow 2 32 - 1

/-- A decimal number with blanks around it; none if there is no digit. -/
def scanCount (blanks : Bool) : Read (Option Nat) := do
  let _ ← Scan.takeWhile Unicode.isSpace
  let digits ← takeAllSpaced blanks Char.isDigit
  let _ ← Scan.takeWhile Unicode.isSpace
  skipBlanks blanks
  if digits.isEmpty then
    return none
  else
    let n := digits.foldl (fun n c => 10 * n + (c.toNat - '0'.toNat)) 0
    if n ≤ maxCount then return some n else Scan.fail .countTooLarge

/-- A count that has to be there. -/
def requireCount : Option Nat → Read Nat
  | some n => return n
  | none => Scan.fail .countEmpty

/-- The limits of a repetition behind its opening brace. -/
def scanLimits (blanks : Bool) : Read (Nat × Option Nat) := do
  skipBlanks blanks
  let first ← scanCount blanks
  match ← nextOr .countUnclosed with
  | ',' =>
    skipBlanks blanks
    let least ← requireCount first
    if ← Scan.accept ['\x7d'] then
      return (least, none)
    else
      let most ← requireCount (← scanCount blanks)
      if (← Scan.next) = some '\x7d' then return (least, some most)
      else Scan.fail .countUnclosed
  | '\x7d' =>
    let count ← requireCount first
    return (count, some count)
  | _ => Scan.fail .countUnclosed

/-- Continues behind an opening brace. -/
def countStep (state : ReadState) : Read ReadState := do
  let (least, most) ← scanLimits state.blanks
  skipBlanks state.blanks
  let isLazy ← Scan.accept ['?']
  if most.all fun most => least ≤ most then ofExcept (state.repeatLast least most isLazy)
  else Scan.fail .countReversed

/-- Continues behind the sign of a repetition. -/
def signStep (state : ReadState) (least : Nat) (most : Option Nat) : Read ReadState := do
  let isLazy ← Scan.accept ['?']
  ofExcept (state.repeatLast least most isLazy)

/-! ## Patterns -/

/-- One step of the reader. -/
def readStep (state : ReadState) (c : Char) : Read ReadState := do
  if state.blanks && Unicode.isSpace c then
    return state
  else if state.blanks && c = '#' then
    let _ ← Scan.takeWhile (· ≠ '\n')
    return state
  else match c with
    | '(' => groupStep state
    | ')' => ofExcept state.closeGroup
    | '|' => return state.branch
    | '[' => return state.add (← scanBracket state.blanks)
    | '?' => signStep state 0 (some 1)
    | '*' => signStep state 0 none
    | '+' => signStep state 1 none
    | '\x7b' => countStep state
    | '\\' => return state.add (← scanEscape state.blanks)
    | '.' => return state.add .dot
    | '^' => return state.add (.anchor .caret)
    | '$' => return state.add (.anchor .dollar)
    | _ => return state.add (plain c)

/-- The term of a pattern text. -/
def Term.parse (text : String) : Except PatternError Term := do
  let state ← Scan.loop readStep .start text.toList
  if !state.frames.isEmpty then throw .groupUnclosed
  let t := state.body
  if t.depth ≤ maxNesting then return t else throw .nestedTooDeep

end DocSchema.Pattern
