/-!
# Scanners

A scanner reads from the front of a text and hands back the rest, or stops with an error.  The
rest carries the proof that it is no longer than the text, so a loop that first takes one
character and then runs any scanner ends: its text has become shorter.  No reader of the library
needs a step counter for that reason.

* `Scan.bind`: the bound is kept when one scanner follows another.
* `Scan.loop`: runs one scanner per character until the text is used up.
-/

namespace DocSchema.Text

/-- What is left of a text of `n` characters. -/
abbrev Rest (n : Nat) : Type := { rest : List Char // rest.length ≤ n }

/-- A reader of the front of a text. -/
structure Scan (ε α : Type) where
  run : (text : List Char) → Except ε (α × Rest text.length)

namespace Scan

variable {ε α β : Type}

/-- Reads nothing. -/
def pure (a : α) : Scan ε α :=
  ⟨fun text => .ok (a, ⟨text, Nat.le_refl _⟩)⟩

/-- Runs one scanner and goes on with the rest. -/
def bind (p : Scan ε α) (f : α → Scan ε β) : Scan ε β :=
  ⟨fun text => match p.run text with
    | .error e => .error e
    | .ok (a, rest) => match (f a).run rest.1 with
      | .error e => .error e
      | .ok (b, rest') => .ok (b, ⟨rest'.1, Nat.le_trans rest'.2 rest.2⟩)⟩

instance : Monad (Scan ε) where
  pure := pure
  bind := bind

/-- Stops with an error. -/
def fail (e : ε) : Scan ε α :=
  ⟨fun _ => .error e⟩

/-- The whole text ahead, without moving. -/
def ahead : Scan ε (List Char) :=
  ⟨fun text => .ok (text, ⟨text, Nat.le_refl _⟩)⟩

/-- The next character, without moving. -/
def peek : Scan ε (Option Char) :=
  ⟨fun text => .ok (text.head?, ⟨text, Nat.le_refl _⟩)⟩

/-- Takes the next character; none at the end of the text. -/
def next : Scan ε (Option Char) :=
  ⟨fun text => .ok (text.head?, ⟨text.tail, by rw [List.length_tail]; exact Nat.sub_le _ _⟩)⟩

/-- Moves past one character. -/
def skip : Scan ε Unit := do
  let _ ← next

theorem length_dropWhile_le (p : Char → Bool) (text : List Char) :
    (text.dropWhile p).length ≤ text.length :=
  (List.dropWhile_suffix p).sublist.length_le

/-- Takes the longest front of the text whose characters all satisfy `p`. -/
def takeWhile (p : Char → Bool) : Scan ε (List Char) :=
  ⟨fun text => .ok (text.takeWhile p, ⟨text.dropWhile p, length_dropWhile_le p text⟩)⟩

/-- Moves past `word` if the text starts with it, and says whether it did. -/
def accept (word : List Char) : Scan ε Bool :=
  ⟨fun text =>
    if word.isPrefixOf text then
      .ok (true, ⟨text.drop word.length, by rw [List.length_drop]; exact Nat.sub_le _ _⟩)
    else
      .ok (false, ⟨text, Nat.le_refl _⟩)⟩

/-- Runs a scanner that may decline; if it declines, the text is as before. -/
def attempt (p : Scan ε (Option α)) : Scan ε (Option α) :=
  ⟨fun text => match p.run text with
    | .error e => .error e
    | .ok (some a, rest) => .ok (some a, rest)
    | .ok (none, _) => .ok (none, ⟨text, Nat.le_refl _⟩)⟩

/-- Feeds the state one character at a time, each time with the scanner that `step` chooses for
the characters behind it, until the text is used up. -/
def loop {σ : Type} (step : σ → Char → Scan ε σ) (state : σ) (text : List Char) : Except ε σ :=
  match text with
  | [] => .ok state
  | c :: cs => match (step state c).run cs with
    | .error e => .error e
    | .ok (state', rest) => loop step state' rest.1
termination_by text.length
decreasing_by
  have := rest.2
  simp only [List.length_cons]
  omega

/-- Like `loop`, but `step` also decides when to stop; `unfinished` is the error of a text that
ends before it does. -/
def loopUntil {σ : Type} (unfinished : ε) (step : σ → Char → Scan ε (σ ⊕ α)) (state : σ) :
    Scan ε α :=
  ⟨fun text => go state text⟩
where
  /-- One round per character. -/
  go (state : σ) (text : List Char) : Except ε (α × Rest text.length) :=
    match text with
    | [] => .error unfinished
    | c :: cs => match (step state c).run cs with
      | .error e => .error e
      | .ok (.inr a, rest) => .ok (a, ⟨rest.1, Nat.le_succ_of_le rest.2⟩)
      | .ok (.inl state', rest) => match go state' rest.1 with
        | .error e => .error e
        | .ok (a, rest') => .ok (a, ⟨rest'.1, Nat.le_succ_of_le (Nat.le_trans rest'.2 rest.2)⟩)
  termination_by text.length
  decreasing_by
    have := rest.2
    simp only [List.length_cons]
    omega

end Scan

end DocSchema.Text
