import DocSchema.Json.Basic
import DocSchema.Text.Scan

/-!
# Reading JSON

The text is read from left to right.  The open arrays and objects wait in a stack of frames, so one
step is enough per bracket, comma, colon or scalar, and the loop over the text does the rest.  Keys
keep their order; of a repeated key the last value counts, at the place of the first.
-/

namespace DocSchema.Json

open Text

/-- Why a text is not JSON. -/
inductive ParseError where
  | unexpectedEnd
  | unexpectedCharacter (c : Char)
  | badEscape
  | badNumber
  deriving DecidableEq, Repr

/-- An open array or object with what it holds so far; array items are in reverse. -/
inductive Frame where
  | array (items : List Json)
  | object (entries : Assoc Json)
  | entry (entries : Assoc Json) (key : String)

/-- What may come next. -/
inductive Expect where
  | value
  | valueOrClose
  | key
  | keyOrClose
  | colon
  | commaOrClose
  | nothing
  deriving DecidableEq

/-- The reader's state: what may come next, the open frames, and the last finished tree. -/
structure State where
  expect : Expect
  frames : List Frame
  result : Json

namespace State

/-- The state before the first character. -/
def start : State :=
  ⟨.value, [], .null⟩

/-- Hands a finished tree to the innermost frame. -/
def finish (frames : List Frame) (json : Json) : State :=
  match frames with
  | [] => ⟨.nothing, [], json⟩
  | .array items :: outer => ⟨.commaOrClose, .array (json :: items) :: outer, .null⟩
  | .entry entries key :: outer => ⟨.commaOrClose, .object (entries.put key json) :: outer, .null⟩
  | .object entries :: outer => ⟨.commaOrClose, .object entries :: outer, .null⟩

end State

/-! ## Strings -/

/-- The value of a hexadecimal digit. -/
def hexValue? (c : Char) : Option Nat :=
  if c.isDigit then some (c.toNat - '0'.toNat)
  else if 'a' ≤ c ∧ c ≤ 'f' then some (c.toNat - 'a'.toNat + 10)
  else if 'A' ≤ c ∧ c ≤ 'F' then some (c.toNat - 'A'.toNat + 10)
  else none

/-- Four hexadecimal digits. -/
def scanUnit : Scan ParseError Nat := do
  let mut n := 0
  for _ in [0, 1, 2, 3] do
    match (← Scan.next).bind hexValue? with
    | some d => n := 16 * n + d
    | none => Scan.fail .badEscape
  return n

/-- The character behind `\u`: one unit, or a pair of surrogates. -/
def scanUnicode : Scan ParseError Char := do
  let high ← scanUnit
  if 0xD800 ≤ high ∧ high < 0xDC00 then
    if ← Scan.accept ['\\', 'u'] then
      let low ← scanUnit
      if 0xDC00 ≤ low ∧ low < 0xE000 then
        return Char.ofNat (0x10000 + (high - 0xD800) * 0x400 + (low - 0xDC00))
    Scan.fail .badEscape
  else if 0xDC00 ≤ high ∧ high < 0xE000 then
    Scan.fail .badEscape
  else
    return Char.ofNat high

/-- The character that an escape stands for. -/
def scanEscape : Scan ParseError Char := do
  match ← Scan.next with
  | some '"' => return '"'
  | some '\\' => return '\\'
  | some '/' => return '/'
  | some 'b' => return '\x08'
  | some 'f' => return '\x0c'
  | some 'n' => return '\n'
  | some 'r' => return '\r'
  | some 't' => return '\t'
  | some 'u' => scanUnicode
  | some _ => Scan.fail .badEscape
  | none => Scan.fail .unexpectedEnd

/-- One character of a string; the state holds the characters so far in reverse. -/
def stringStep (read : List Char) (c : Char) : Scan ParseError (List Char ⊕ String) :=
  if c = '"' then
    return .inr (String.ofList read.reverse)
  else if c = '\\' then do
    return .inl ((← scanEscape) :: read)
  else if c.toNat < 32 then
    Scan.fail (.unexpectedCharacter c)
  else
    return .inl (c :: read)

/-- A string behind its opening quote. -/
def scanString : Scan ParseError String :=
  Scan.loopUntil .unexpectedEnd stringStep []

/-! ## Numbers -/

/-- The value of a row of decimal digits. -/
def digitsValue (digits : List Char) : Nat :=
  digits.foldl (fun n c => 10 * n + (c.toNat - '0'.toNat)) 0

/-- The digits behind a point, or nothing. -/
def fractionDigits? : List Char → Option (List Char × List Char)
  | '.' :: cs =>
    let digits := cs.takeWhile Char.isDigit
    if digits.isEmpty then none else some (digits, cs.dropWhile Char.isDigit)
  | cs => some ([], cs)

/-- The value of a row of digits that is not empty. -/
def digitRow? (cs : List Char) : Option Nat :=
  if !cs.isEmpty && cs.all Char.isDigit then some (digitsValue cs) else none

/-- The exponent behind its mark, with or without a sign. -/
def exponent? : List Char → Option Int
  | '+' :: cs => (digitRow? cs).map Int.ofNat
  | '-' :: cs => (digitRow? cs).map fun n => -(n : Int)
  | cs => (digitRow? cs).map Int.ofNat

/-- The number of a sign and the characters behind it.  Only a row of digits is an integer, and
only within 64 bits; minus zero is a double, for an integer has no such sign. -/
def numberOfChars? (negative : Bool) (cs : List Char) : Option JsonNumber := do
  let whole := cs.takeWhile Char.isDigit
  guard (!whole.isEmpty && (whole.length = 1 || whole.head? ≠ some '0'))
  let (fraction, rest) ← fractionDigits? (cs.dropWhile Char.isDigit)
  let exponent ← match rest with
    | [] => some 0
    | mark :: rest => if mark = 'e' ∨ mark = 'E' then exponent? rest else none
  let n := digitsValue whole
  if fraction.isEmpty && rest.isEmpty &&
      (if negative then 0 < n && n ≤ Nat.pow 2 63 else n < Nat.pow 2 64) then
    return .integer (if negative then -(n : Int) else n)
  else
    let x := Number.ofDecimal negative (digitsValue (whole ++ fraction))
      (exponent - (fraction.length : Int))
    guard (Number.isFinite x)
    return .real x

/-- Whether a character can stand in a number. -/
def isNumberChar (c : Char) : Bool :=
  c.isDigit || c = '.' || c = 'e' || c = 'E' || c = '+' || c = '-'

/-- A number, given its first character. -/
def scanNumber (first : Char) : Scan ParseError JsonNumber := do
  let more ← Scan.takeWhile isNumberChar
  let number :=
    if first = '-' then numberOfChars? true more else numberOfChars? false (first :: more)
  match number with
  | some n => return n
  | none => Scan.fail .badNumber

/-! ## Trees -/

/-- Continues behind the first character of a value. -/
def valueStep (frames : List Frame) (c : Char) : Scan ParseError State := do
  match c with
  | '[' => return ⟨.valueOrClose, .array [] :: frames, .null⟩
  | '\x7b' => return ⟨.keyOrClose, .object [] :: frames, .null⟩
  | '"' => return .finish frames (.string (← scanString))
  | 'n' =>
    if ← Scan.accept ['u', 'l', 'l'] then return .finish frames .null
    else Scan.fail (.unexpectedCharacter c)
  | 't' =>
    if ← Scan.accept ['r', 'u', 'e'] then return .finish frames (.bool true)
    else Scan.fail (.unexpectedCharacter c)
  | 'f' =>
    if ← Scan.accept ['a', 'l', 's', 'e'] then return .finish frames (.bool false)
    else Scan.fail (.unexpectedCharacter c)
  | _ =>
    if c = '-' ∨ c.isDigit then return .finish frames (.number (← scanNumber c))
    else Scan.fail (.unexpectedCharacter c)

/-- Continues behind a comma or a closing bracket. -/
def closeStep (frames : List Frame) (c : Char) : Scan ParseError State :=
  match frames, c with
  | .array items :: outer, ',' => return ⟨.value, .array items :: outer, .null⟩
  | .array items :: outer, ']' => return .finish outer (.array items.reverse)
  | .object entries :: outer, ',' => return ⟨.key, .object entries :: outer, .null⟩
  | .object entries :: outer, '\x7d' => return .finish outer (.object entries)
  | _, _ => Scan.fail (.unexpectedCharacter c)

/-- Continues behind the first character of a key. -/
def keyStep (frames : List Frame) (c : Char) : Scan ParseError State := do
  match frames, c with
  | .object entries :: outer, '"' =>
    return ⟨.colon, .entry entries (← scanString) :: outer, .null⟩
  | _, _ => Scan.fail (.unexpectedCharacter c)

/-- One step of the reader. -/
def step (state : State) (c : Char) : Scan ParseError State :=
  if c = ' ' ∨ c = '\t' ∨ c = '\n' ∨ c = '\r' then
    return state
  else match state.expect with
    | .value => valueStep state.frames c
    | .valueOrClose => if c = ']' then closeStep state.frames c else valueStep state.frames c
    | .key => keyStep state.frames c
    | .keyOrClose => if c = '\x7d' then closeStep state.frames c else keyStep state.frames c
    | .colon =>
      if c = ':' then return { state with expect := .value }
      else Scan.fail (.unexpectedCharacter c)
    | .commaOrClose => closeStep state.frames c
    | .nothing => Scan.fail (.unexpectedCharacter c)

/-- The tree of a text. -/
def parse (text : String) : Except ParseError Json := do
  let state ← Scan.loop step .start text.toList
  if state.expect = .nothing then return state.result else throw .unexpectedEnd

end DocSchema.Json
