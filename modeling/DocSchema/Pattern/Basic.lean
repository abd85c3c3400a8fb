import DocSchema.Pattern.Footprint
import DocSchema.Pattern.Meaning
import DocSchema.Pattern.Program
import DocSchema.Pattern.Reader

/-!
# Patterns

A pattern is a source text together with what it matches.  The two are kept apart, for the source
alone does not tell what a pattern matches: a pattern may have been made under other rules than
those by which a text is read, and such a source may stand for something else by these rules, or for
nothing.

* `Pattern.Refusal`: why a text is no pattern.
* `Pattern.Dialect`: the rules by which texts are read as patterns.
* `Pattern.standard`: the usual dialect.
* `Pattern.ofSource`: the pattern of a text.
-/

namespace DocSchema

/-- A pattern: its source, and whether a string contains a match. -/
structure Pattern where
  source : String
  isMatch : String → Bool

namespace Pattern

/-! ## Dialects -/

/-- Why a text is no pattern. -/
inductive Refusal where
  /-- The text breaks the grammar, or asks for something that there is not. -/
  | malformed (text : String)
  /-- The automaton of the pattern takes more memory than the limit. -/
  | tooLarge (limit : Nat)
  deriving DecidableEq, Repr

/-- The text of the refusal. -/
def Refusal.message : Refusal → String
  | malformed text => text
  | tooLarge limit => "Compiled regex exceeds size limit of " ++ limit.repr ++ " bytes."

/-- The rules by which texts are read as patterns: what the pattern of a text matches, or why the
text is refused. -/
abbrev Dialect : Type := String → Except Refusal (String → Bool)

/-- Whether a text is a pattern of the dialect. -/
def Dialect.Accepts (dialect : Dialect) (source : String) : Prop :=
  ∃ isMatch, dialect source = .ok isMatch

/-! ## The usual dialect -/

/-- The program that a text stands for, or why it stands for none. -/
def compile (source : String) : Except PatternError Program := do
  let (e, _) ← (← Term.parse source).meaning .initial
  if e.fits then return .ofExpr e else throw .tooLarge

/-- The refusal for an error. -/
def PatternError.refusal : PatternError → Refusal
  | tooLarge => .tooLarge Footprint.maxBytes
  | e => .malformed e.text

/-- The usual dialect: a text is searched by the program that the source stands for. -/
def standard : Dialect := fun source =>
  match compile source with
  | .ok program => .ok program.search
  | .error e => .error e.refusal

theorem accepts_standard_iff {source : String} :
    standard.Accepts source ↔ (compile source).isOk = true := by
  rw [Dialect.Accepts, standard]
  cases compile source with
  | ok program => exact iff_of_true ⟨program.search, rfl⟩ rfl
  | error e => exact iff_of_false nofun Bool.false_ne_true

/-- The pattern of a text. -/
def ofSource (source : String) (dialect : Dialect := standard) : Except Refusal Pattern :=
  (dialect source).map fun isMatch => ⟨source, isMatch⟩

end Pattern

end DocSchema
