import DocSchema.Path

/-!
# Failures

What a validator reports about one place in a document.  The path always leads to that place; the
message may name the bare key only.
-/

namespace DocSchema

/-- The category of a failure. -/
inductive FailureKind where
  /-- The value has another base type than the declared one. -/
  | typeMismatch
  /-- The value has the right type and breaks a bound, a length, a pattern or an enumeration. -/
  | constraintViolation
  /-- A required value is absent. -/
  | requiredMissing
  deriving DecidableEq, Repr, Inhabited

/-- The code of a failure that has no more precise one. -/
def FailureKind.defaultCode : FailureKind → String
  | typeMismatch => "invalid_type"
  | constraintViolation => "constraint"
  | requiredMissing => "required"

/-- A failure at one place. -/
structure Failure where
  path : Path
  kind : FailureKind
  code : String
  message : String
  got : Option String
  expected : Option String
  deriving DecidableEq, Repr, Inhabited

namespace Failure

/-- A failure with the code of its kind and nothing said on what was found. -/
def ofKind (path : Path) (kind : FailureKind) (message : String) : Failure :=
  ⟨path, kind, kind.defaultCode, message, none, none⟩

/-- The failure with another code. -/
def withCode (failure : Failure) (code : String) : Failure :=
  { failure with code := code }

/-- The failure with what was found. -/
def withGot (failure : Failure) (got : String) : Failure :=
  { failure with got := some got }

/-- The failure with what was expected. -/
def withExpected (failure : Failure) (expected : String) : Failure :=
  { failure with expected := some expected }

end Failure

end DocSchema
