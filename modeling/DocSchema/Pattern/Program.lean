import DocSchema.Pattern.Expr

/-!
# Programs

An expression is run as a program: a list of instructions, each of which names the ones that come
next.  A search keeps the set of instructions that wait for a character, all matches at once, and
goes through the text one time; it neither goes back nor depends on how the matches overlap.

* `Program.ofExpr`: the instructions are laid down from the end of a match to its start, so that
  each one knows where to go on.
* `Program.visit`: follows the instructions that take no character.  Each one is visited once at a
  position: the marks remember which ones have been.
* `Program.search`: whether a match starts and ends anywhere in a text.
-/

namespace DocSchema.Pattern

/-- One instruction. -/
inductive Instruction where
  /-- The match is complete. -/
  | accept
  /-- Takes a character of a class. -/
  | take (members : CharClass) (next : Nat)
  /-- Goes on if an assertion holds. -/
  | check (a : Assertion) (next : Nat)
  /-- Goes on in two ways. -/
  | fork (left right : Nat)
  deriving DecidableEq, Repr

/-- Instructions, and which of them is the first one. -/
structure Program where
  instructions : Array Instruction
  start : Nat
  deriving DecidableEq, Repr

namespace Program

/-! ## Laying down instructions -/

/-- One more instruction, which is the first one from then on. -/
def push : Program → Instruction → Program
  | ⟨instructions, _⟩, instruction =>
    let start := instructions.size
    ⟨instructions.push instruction, start⟩

/-- Any number of copies of what `lay` puts in front of a program.  The fork of the loop stands
before its body, so it is laid down first and completed when the body is known. -/
def loop (lay : Program → Program) (program : Program) : Program :=
  let entry := program.instructions.size
  let exit := program.start
  let body := lay (program.push (.fork entry exit))
  let fork := .fork body.start exit
  ⟨body.instructions.setIfInBounds entry fork, entry⟩

/-- A copy that may be left out; then the program goes on at `exit`. -/
def option (lay : Program → Program) (exit : Nat) (program : Program) : Program :=
  let body := lay program
  let fork := .fork body.start exit
  body.push fork

/-- Puts the instructions of an expression in front of a program. -/
def lay : Expr → Program → Program
  | .empty, program => program
  | .literal text, program =>
    text.foldr (fun c program => program.push (.take (.ofChar c) program.start)) program
  | .set members _, program => program.push (.take members program.start)
  | .assertion a, program => program.push (.check a program.start)
  | .repeated e least none _, program => Nat.repeat (lay e) least (loop (lay e) program)
  | .repeated e least (some most) _, program =>
    Nat.repeat (lay e) least
      (Nat.repeat (option (lay e) program.start) (most - least) program)
  | .capture _ e, program => lay e program
  | .concat a b, program => lay a (lay b program)
  | .either a b, program =>
    let exit := program.start
    let ⟨instructions, right⟩ := lay b program
    let ⟨instructions, left⟩ := lay a ⟨instructions, exit⟩
    push ⟨instructions, left⟩ (.fork left right)

/-- The program of an expression. -/
def ofExpr (e : Expr) : Program :=
  lay e ⟨#[.accept], 0⟩

/-! ## Searching -/

/-- How many instructions have not been visited in a round. -/
def unvisited (round : Nat) (marks : Array Nat) : Nat :=
  marks.countP (· != round)

theorem unvisited_set_lt {round : Nat} {marks : Array Nat} {i : Nat} (hi : i < marks.size)
    (h : marks[i] ≠ round) : unvisited round (marks.set i round) < unvisited round marks := by
  have hpos : 0 < marks.countP (· != round) :=
    Array.countP_pos_iff.2 ⟨marks[i], Array.getElem_mem hi, by simpa using h⟩
  unfold unvisited
  rw [Array.countP_set]
  simp only [bne_self_eq_false, Bool.false_eq_true, if_false, Nat.add_zero]
  have : (marks[i] != round) = true := by simpa using h
  rw [if_pos this]
  omega

/-- What a visit finds: the marks, the instructions that wait for a character, and whether a match
is complete. -/
structure Visit where
  marks : Array Nat
  waiting : List (CharClass × Nat)
  isMatch : Bool

/-- Follows instructions at a position as far as they take no character. -/
def visit (program : Program) (p : Position) (round : Nat) (todo : List Nat) (marks : Array Nat)
    (waiting : List (CharClass × Nat)) (isMatch : Bool) : Visit :=
  match todo with
  | [] => ⟨marks, waiting, isMatch⟩
  | i :: todo =>
    if hi : i < marks.size then
      if h : marks[i] = round then
        program.visit p round todo marks waiting isMatch
      else
        let marks' := marks.set i round
        match program.instructions[i]? with
        | some .accept => program.visit p round todo marks' waiting true
        | some (.take members next) =>
          program.visit p round todo marks' ((members, next) :: waiting) isMatch
        | some (.check a next) =>
          let todo := if p.satisfies a then next :: todo else todo
          program.visit p round todo marks' waiting isMatch
        | some (.fork left right) =>
          program.visit p round (left :: right :: todo) marks' waiting isMatch
        | none => program.visit p round todo marks' waiting isMatch
    else
      program.visit p round todo marks waiting isMatch
termination_by (unvisited round marks, todo.length)
decreasing_by
  all_goals first
    | exact Prod.Lex.left _ _ (unvisited_set_lt hi h)
    | exact Prod.Lex.right _ (Nat.lt_succ_self _)

/-- Searches the text behind the character `before`, given the instructions at which the matches go
on that have started; a new match may start at every position. -/
def searchFrom (program : Program) (round : Nat) (before : Option Char) (todo : List Nat)
    (marks : Array Nat) : List Char → Bool
  | [] =>
    (program.visit ⟨before, none⟩ round (program.start :: todo) marks [] false).isMatch
  | c :: rest =>
    let found := program.visit ⟨before, some c⟩ round (program.start :: todo) marks [] false
    if found.isMatch then true
    else
      let todo := found.waiting.filterMap fun (members, next) =>
        if members.contains c.toNat then some next else none
      program.searchFrom (round + 1) (some c) todo found.marks rest

/-- Whether a text contains a match. -/
def search (program : Program) (text : String) : Bool :=
  program.searchFrom 1 none [] (.replicate program.instructions.size 0) text.toList

end Program

end DocSchema.Pattern
