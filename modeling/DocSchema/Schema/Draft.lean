import DocSchema.Schema.Node

/-!
# Drafts

Building declarations step by step.  A draft holds what has been said so far about a field; each
step adds or replaces one thing, and `toNode` is the declaration.
-/

namespace DocSchema

open Calendar (Instant)

/-- A text field in the making. -/
structure StringDraft where
  rule : StringRule
  isRequired : Bool

namespace StringDraft

/-- A text without constraints. -/
def new : StringDraft :=
  ⟨.none, false⟩

/-- At least so many characters. -/
def minLength (draft : StringDraft) (length : UInt64) : StringDraft :=
  { draft with rule := { draft.rule with minLength := some length } }

/-- At most so many characters. -/
def maxLength (draft : StringDraft) (length : UInt64) : StringDraft :=
  { draft with rule := { draft.rule with maxLength := some length } }

/-- Only texts that contain a match. -/
def pattern (draft : StringDraft) (pattern : Pattern) : StringDraft :=
  { draft with rule := { draft.rule with pattern := some pattern } }

/-- Only texts that contain a match of the pattern of a source, or why the source is refused. -/
def patternSource (draft : StringDraft) (source : String) :
    Except Pattern.Refusal StringDraft :=
  (Pattern.ofSource source).map draft.pattern

/-- Only the given texts. -/
def oneOf (draft : StringDraft) (allowed : List String) : StringDraft :=
  { draft with rule := { draft.rule with allowed := some allowed } }

/-- Marks the value as required. -/
def required (draft : StringDraft) : StringDraft :=
  { draft with isRequired := true }

/-- The declaration. -/
def toNode (draft : StringDraft) : Node :=
  .leaf (.string draft.rule) draft.isRequired

end StringDraft

/-- A number field in the making. -/
structure NumberDraft where
  bounds : Bounds Float
  isDecimal : Bool
  isRequired : Bool

namespace NumberDraft

/-- A number without limits. -/
def number : NumberDraft :=
  ⟨.none, false, false⟩

/-- A decimal without limits; it is checked like a number. -/
def decimal : NumberDraft :=
  ⟨.none, true, false⟩

/-- Sets the lower limit. -/
def min (draft : NumberDraft) (limit : Float) : NumberDraft :=
  { draft with bounds := { draft.bounds with min := some limit } }

/-- Sets the upper limit. -/
def max (draft : NumberDraft) (limit : Float) : NumberDraft :=
  { draft with bounds := { draft.bounds with max := some limit } }

/-- Sets both limits. -/
def range (draft : NumberDraft) (low high : Float) : NumberDraft :=
  (draft.min low).max high

/-- Marks the value as required. -/
def required (draft : NumberDraft) : NumberDraft :=
  { draft with isRequired := true }

/-- The declaration. -/
def toNode (draft : NumberDraft) : Node :=
  .leaf (if draft.isDecimal then .decimal draft.bounds else .number draft.bounds) draft.isRequired

end NumberDraft

/-- A date field in the making. -/
structure DateDraft where
  bounds : Bounds Instant
  isRequired : Bool

namespace DateDraft

/-- A date without limits. -/
def new : DateDraft :=
  ⟨.none, false⟩

/-- Sets the earliest date. -/
def min (draft : DateDraft) (limit : Instant) : DateDraft :=
  { draft with bounds := { draft.bounds with min := some limit } }

/-- Sets the latest date. -/
def max (draft : DateDraft) (limit : Instant) : DateDraft :=
  { draft with bounds := { draft.bounds with max := some limit } }

/-- Marks the value as required. -/
def required (draft : DateDraft) : DateDraft :=
  { draft with isRequired := true }

/-- The declaration. -/
def toNode (draft : DateDraft) : Node :=
  .leaf (.date draft.bounds) draft.isRequired

end DateDraft

end DocSchema
