import DocSchema.Pattern.Expr
import DocSchema.Text.Utf8
import Std.Data.HashMap

/-!
# The footprint of patterns

A counted repetition is short to write and long to run, for it stands for as many copies of its
part.  What a pattern costs is the memory of its automaton over the bytes of encoded text, in which
all copies are written out; a pattern whose automaton is too big is refused.  The automaton itself
is never built.  `Footprint` counts its states and edges in the order in which it would grow, and
stops where the limit is passed, so that the count takes no longer than the limit allows.

Text is read in both directions, by two automata, and both have to fit.  The one that reads backward
records no captures.  Only a long list of plain words needs neither.

## Characters as bytes

A class beyond ASCII becomes a tree of byte ranges whose equal parts are shared.  Which parts are
still known is a matter of two small tables with one place per hash value: `Shared` is such a table.
Whether a part is shared can thus depend on the numbers of states, and this is why the count runs
through every copy instead of multiplying.

* `Footprint.bytes`: the memory of an automaton.
* `Expr.measure`: the automaton of an expression.
* `Expr.fits`: whether both automata of a pattern are small enough.
-/

namespace DocSchema.Pattern

open Text.Utf8 (ByteRange)

/-! ## Counting -/

/-- The size of an automaton: its states, its edges labelled with bytes as far as they come in
lists, and its edges that take no byte as far as they come in lists. -/
structure Footprint where
  states : Nat
  byteEdges : Nat
  freeEdges : Nat
  deriving DecidableEq, Repr

namespace Footprint

/-- The automaton without states. -/
def zero : Footprint :=
  ⟨0, 0, 0⟩

/-- The memory in bytes. -/
def bytes (size : Footprint) : Nat :=
  32 * size.states + 8 * size.byteEdges + 4 * size.freeEdges

/-- The memory that an automaton may have: ten mebibytes. -/
def maxBytes : Nat := 10 * Nat.pow 2 20

end Footprint

/-- A step in the growth of an automaton; none if it grows too big. -/
abbrev Growth (α : Type) : Type := StateT Footprint Option α

namespace Growth

/-- Grows by states and edges. -/
def add (states byteEdges freeEdges : Nat) : Growth Unit := fun size =>
  let size : Footprint :=
    ⟨size.states + states, size.byteEdges + byteEdges, size.freeEdges + freeEdges⟩
  if size.bytes ≤ Footprint.maxBytes then some ((), size) else none

/-- Adds a state and gives its number. -/
def newState (byteEdges : Nat) : Growth Nat := do
  let size ← get
  add 1 byteEdges 0
  return size.states

end Growth

/-! ## Sharing -/

/-- A table that remembers one state per hash value, the last one, with what it was built from. -/
structure Shared (α : Type) where
  places : Nat
  known : Std.HashMap Nat (α × Nat)

namespace Shared

variable {α : Type} [DecidableEq α]

/-- The table that remembers nothing. -/
def ofPlaces (places : Nat) : Shared α :=
  ⟨places, ∅⟩

/-- The hash value of numbers: multiplied and mixed one after another, in words of 64 bits. -/
def hash (numbers : List Nat) : UInt64 :=
  numbers.foldl (fun h n => (h ^^^ UInt64.ofNat n) * 1099511628211) 14695981039346656037

/-- The state that was built from `parts`, or a new one with the given number of edges. -/
def stateOf (shared : Shared α) (numbers : α → List Nat) (parts : α) (byteEdges : Nat) :
    Growth (Nat × Shared α) := do
  let place := (hash (numbers parts)).toNat % shared.places
  let build : Growth (Nat × Shared α) := do
    let state ← Growth.newState byteEdges
    return (state, { shared with known := shared.known.insert place (parts, state) })
  match shared.known[place]? with
  | some (parts', state) => if parts' = parts then return (state, shared) else build
  | none => build

end Shared

/-! ## Classes, read forward -/

/-- An edge labelled with bytes. -/
structure Edge where
  range : ByteRange
  target : Nat
  deriving DecidableEq, Repr

/-- The numbers of an edge. -/
def Edge.numbers (edge : Edge) : List Nat :=
  [edge.range.low, edge.range.high, edge.target]

/-- A state that is still growing: its edges in reverse, and the range of the last one as long as
its target is growing, too. -/
structure OpenState where
  edges : List Edge
  last : Option ByteRange

/-- The edges of a state once the target of the last one is known. -/
def OpenState.closed (s : OpenState) (target : Nat) : List Edge :=
  match s.last with
  | some range => ⟨range, target⟩ :: s.edges
  | none => s.edges

/-- The states behind a class that is being read: the table, and the common end. -/
structure ForwardClass where
  shared : Shared (List Edge)
  target : Nat

namespace ForwardClass

/-- Finishes a row of growing states, the last one first; gives the first one. -/
def finish (states : List OpenState) (c : ForwardClass) : Growth (Nat × ForwardClass) :=
  match states with
  | [] => return (c.target, c)
  | s :: rest => do
    let (next, c) ← finish rest c
    let edges := (s.closed next).reverse
    let (state, shared) ← c.shared.stateOf (·.flatMap Edge.numbers) edges edges.length
    return (state, { c with shared })

/-- Adds a row of byte ranges to the growing states.  As far as it agrees with the row before, the
states stay open; those behind are finished. -/
def add : List OpenState → List ByteRange → ForwardClass → Growth (List OpenState × ForwardClass)
  | s :: states, range :: ranges, c =>
    if s.last = some range then do
      let (states, c) ← add states ranges c
      return (s :: states, c)
    else do
      let (next, c) ← finish states c
      let s : OpenState := ⟨s.closed next, some range⟩
      return (s :: ranges.map fun range => ⟨[], some range⟩, c)
  | states, _, c => return (states, c)

/-- The automaton of a class, read forward. -/
def measure (sequences : List (List ByteRange)) : Growth Unit := do
  let target ← Growth.newState 0
  let start : List OpenState × ForwardClass :=
    ([⟨[], none⟩], ⟨.ofPlaces 10000, target⟩)
  let (states, c) ← sequences.foldlM (fun (states, c) ranges => add states ranges c) start
  let _ ← finish states c

end ForwardClass

/-! ## Classes, read backward -/

namespace BackwardClass

/-- Adds the states of a row of byte ranges in front of the end that all rows share, the first range
next to it. -/
def add (target : Nat) (ranges : List ByteRange) (shared : Shared (Nat × ByteRange)) :
    Growth (Shared (Nat × ByteRange)) := do
  let (_, shared) ← ranges.foldlM
    (fun (next, shared) range =>
      shared.stateOf (fun (next, range) => [next, range.low, range.high]) (next, range) 0)
    (target, shared)
  Growth.add 0 0 1
  return shared

/-- The automaton of a class, read backward. -/
def measure (sequences : List (List ByteRange)) : Growth Unit := do
  Growth.add 1 0 0
  let target ← Growth.newState 0
  let _ ← sequences.foldlM (fun shared ranges => add target ranges shared) (.ofPlaces 1000)

end BackwardClass

/-! ## Literals as alternatives -/

/-- The number of words that are empty, but only one of those in front of all others. -/
def countEnds (words : List (List Nat)) : Nat :=
  let front := words.takeWhile List.isEmpty
  min front.length 1 + ((words.drop front.length).filter List.isEmpty).length

/-- The words between the empty ones. -/
def runs (words : List (List Nat)) : List (List (List Nat)) :=
  (words.splitBy fun a b => !a.isEmpty && !b.isEmpty).filter fun run => run.all (!·.isEmpty)

/-- The tree of words that are tried in order; words with the same start share it, unless a word
that ends there stands between them.  No word is longer than `depth`. -/
def measureWords : (depth : Nat) → List (List Nat) → Growth Unit
  | 0, _ => return
  | depth + 1, words =>
    if words.all List.isEmpty then return
    else do
      let runs := runs words
      runs.forM fun run => do
        let heads := (run.filterMap List.head?).eraseDups
        Growth.add 1 (if heads.length = 1 then 0 else heads.length) 0
        heads.forM fun head =>
          measureWords depth ((run.filter (·.head? = some head)).map List.tail)
      Growth.add 1 0 (runs.length + countEnds words)

/-! ## Expressions -/

/-- The direction in which text is read. -/
inductive Direction where
  | forward
  | backward
  deriving DecidableEq, Repr

/-- Where an automaton ends: in a state with one way on, or in one with a list of them, which has to
be made longer to go on. -/
inductive End where
  | single
  | list

/-- Goes on from an end. -/
def End.link : End → Growth Unit
  | single => return
  | list => Growth.add 0 0 1

/-- Where an expression stands among alternatives. -/
inductive Place where
  | alone
  | second
  | later

/-- Joins a branch to the ones before.  Two branches meet in a fork and a common end. -/
def Place.close (place : Place) (last : End) : Growth End :=
  match place with
  | alone => return last
  | second => do
    Growth.add 2 0 1
    last.link
    return .single
  | later => do
    Growth.add 0 0 1
    last.link
    return .single

/-- Copies in a row behind a first one. -/
def moreCopies (copy : Growth End) : Nat → End → Growth End
  | 0, last => return last
  | n + 1, last => do
    let next ← copy
    last.link
    moreCopies copy n next

/-- A number of copies in a row. -/
def exactCopies (copy : Growth End) : Nat → Growth End
  | 0 => do
    Growth.add 1 0 0
    return .single
  | n + 1 => do
    let first ← copy
    moreCopies copy n first

/-- Copies in a row behind a first part, each behind a fork that leads past all that follow. -/
def optionalCopies (copy : Growth End) : Nat → End → Growth End
  | 0, last => return last
  | n + 1, last => do
    Growth.add 1 0 0
    let next ← copy
    last.link
    Growth.add 0 0 2
    optionalCopies copy n next

/-- Any number of copies; `isNonempty` tells that none of them can be empty. -/
def anyCopies (copy : Growth End) (isNonempty : Bool) : Growth End :=
  if isNonempty then do
    Growth.add 1 0 0
    let last ← copy
    Growth.add 0 0 1
    last.link
    return .list
  else do
    let last ← copy
    last.link
    Growth.add 3 0 4
    return .single

/-- A repetition. -/
def measureCopies (copy : Growth End) (isNonempty : Bool) (least : Nat) :
    Option Nat → Growth End
  | none => match least with
    | 0 => anyCopies copy isNonempty
    | before + 1 => do
      if 0 < before then
        let last ← exactCopies copy before
        last.link
      let last ← copy
      Growth.add 1 0 1
      last.link
      return .list
  | some most =>
    if least = most then exactCopies copy least
    else if least = 0 ∧ most = 1 then do
      Growth.add 1 0 0
      let last ← copy
      Growth.add 1 0 2
      last.link
      return .single
    else do
      let first ← exactCopies copy least
      Growth.add 1 0 0
      let last ← optionalCopies copy (most - least) first
      last.link
      return .single

/-- The bytes of a literal in the order in which they are read. -/
def literalBytes (direction : Direction) (text : List Char) : List Nat :=
  let bytes := text.flatMap fun c => Text.Utf8.bytes c.toNat
  match direction with
  | .forward => bytes
  | .backward => bytes.reverse

/-- The automaton of a class. -/
def CharClass.measure (direction : Direction) (members : CharClass) : Growth Unit :=
  if members.isAscii then Growth.add 2 members.ranges.size 0
  else
    let sequences := members.ranges.toList.flatMap fun (low, high) =>
      Text.Utf8.sequences low high
    match direction with
    | .forward => ForwardClass.measure sequences
    | .backward => BackwardClass.measure sequences

namespace Expr

/-- The text of a literal. -/
def literal? : Expr → Option (List Char)
  | literal text => some text
  | _ => none

/-- The automaton of an expression that stands at a place among alternatives. -/
def measure (direction : Direction) (place : Place) : Expr → Growth End
  | empty => do
    Growth.add 1 0 0
    place.close .single
  | literal text => do
    Growth.add (literalLength text) 0 0
    place.close .single
  | set members _ => do
    members.measure direction
    place.close .single
  | assertion _ => do
    Growth.add 1 0 0
    place.close .single
  | capture _ e => match direction with
    | .forward => do
      Growth.add 1 0 0
      let last ← e.measure direction .alone
      Growth.add 1 0 0
      last.link
      place.close .single
    | .backward => do place.close (← e.measure direction .alone)
  | repeated e least most _ => do
    let isNonempty := e.minLength.any (0 < ·)
    place.close (← measureCopies (e.measure direction .alone) isNonempty least most)
  | concat a b => match direction with
    | .forward => do
      let last ← a.measure direction .alone
      let last' ← b.measure direction .alone
      last.link
      place.close last'
    | .backward => do
      let last ← b.measure direction .alone
      let last' ← a.measure direction .alone
      last.link
      place.close last'
  | either a b => match place with
    | .alone => match (a :: b.branches).mapM literal? with
      | some texts => do
        let words := texts.map (literalBytes direction)
        Growth.add 1 0 0
        measureWords (words.foldl (fun n word => max n word.length) 0) words
        return .single
      | none => do
        let last ← a.measure direction .alone
        Growth.add 0 0 1
        last.link
        b.measure direction .second
    | _ => do
      let last ← place.close (← a.measure direction .alone)
      let _ ← b.measure direction .later
      return last

/-- The automaton of a pattern.  Unless its matches are anchored, it starts with a loop over all
bytes; reading forward, it records the whole match. -/
def measureWhole (direction : Direction) (e : Expr) : Growth Unit := do
  let (isAnchored, captureStates) := match direction with
    | .forward => (e.startsAnchored, 1)
    | .backward => (e.endsAnchored, 0)
  if isAnchored then Growth.add 1 0 0 else Growth.add 3 1 2
  Growth.add captureStates 0 0
  let last ← e.measure direction .alone
  Growth.add (captureStates + 1) 0 0
  last.link

/-- Whether an expression is a long list of words.  Such a list is searched for without an
automaton of its own, whatever the size of the list. -/
def isWordList (e : Expr) : Bool :=
  decide (3000 ≤ e.branches.length) && e.branches.all fun branch => branch.literal?.isSome

/-- Whether the automata of a pattern are small enough, or none are built. -/
def fits (e : Expr) : Bool :=
  e.isWordList ||
    ((measureWhole .forward e).run .zero).isSome && ((measureWhole .backward e).run .zero).isSome

end Expr

end DocSchema.Pattern
