import DocSchema.Unicode.RangeSet

/-!
# Tables as texts

The tables of character properties are texts of hexadecimal code points, which are read once.

* `RangeSet.ofHex`: a set, written `41-5A 61-7A B5`.
* `RunTable`: a function of the code point that is constant on runs, written `0 Cc 20 Zs 21 Po`.
* `hexGroups`: groups of code points, written `4B 6B 212A , 53 73 17F`.
-/

namespace DocSchema.Unicode

/-- The words of a text, separated by blanks and line ends. -/
def words (text : String) : List String :=
  (text.splitToList fun c => c = ' ' ∨ c = '\n').filter fun word => !word.isEmpty

/-- The value of a row of upper-case hexadecimal digits. -/
def hexValue (digits : List Char) : Nat :=
  digits.foldl
    (fun n c => 16 * n + (if c.isDigit then c.toNat - '0'.toNat else c.toNat - 'A'.toNat + 10)) 0

/-- The groups of code points of a text, separated by commas. -/
def hexGroups (text : String) : Array (List Nat) :=
  let close := fun (groups : Array (List Nat)) (group : List Nat) => groups.push group.reverse
  let (groups, last) := (words text).foldl
    (fun (groups, group) word =>
      if word = "," then (close groups group, []) else (groups, hexValue word.toList :: group))
    (#[], [])
  close groups last

/-- The range of a word such as `41-5A` or `B5`. -/
def readRange (word : String) : Nat × Nat :=
  let digits := word.toList
  let low := digits.takeWhile (· ≠ '-')
  match digits.drop (low.length + 1) with
  | [] => (hexValue low, hexValue low)
  | high => (hexValue low, hexValue high)

/-- The set of a text, whose ranges are in increasing order. -/
def RangeSet.ofHex (text : String) : RangeSet :=
  ⟨((words text).map readRange).toArray⟩

/-! ## Functions that are constant on runs -/

/-- The code points at which the value changes, in increasing order, each with its new value. -/
structure RunTable (α : Type) where
  starts : List (Nat × α)

namespace RunTable

variable {α : Type}

/-- Pairs up the words of a table. -/
def readRuns (value : String → α) : List String → List (Nat × α)
  | start :: name :: rest => (hexValue start.toList, value name) :: readRuns value rest
  | _ => []

/-- The table of a text whose values are named. -/
def ofHex (value : String → α) (text : String) : RunTable α :=
  ⟨readRuns value (words text)⟩

/-- The runs, from start to end, whose values satisfy `p`. -/
def selectRuns (p : α → Bool) : List (Nat × α) → List (Nat × Nat)
  | [] => []
  | [(start, value)] => if p value then [(start, lastCode)] else []
  | (start, value) :: (next, value') :: rest =>
    let behind := selectRuns p ((next, value') :: rest)
    if p value then (start, next - 1) :: behind else behind

/-- The code points whose value satisfies `p`. -/
def select (table : RunTable α) (p : α → Bool) : RangeSet :=
  .ofRanges (selectRuns p table.starts)

end RunTable

end DocSchema.Unicode
