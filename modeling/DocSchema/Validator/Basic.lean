import DocSchema.Validator.Test

/-!
# Validators

A validator checks one slot and reports at most one failure.  It is a tree: tests at the leaves,
arrays and shapes whose children are validators, and lists of validators that are tried in order.
Each node knows whether its value is required.

* `Validator.failure?`: the first failure of a slot.
* `Validator.combine`: several validators as one.
-/

namespace DocSchema

/-- A check of one slot. -/
inductive Validator where
  | test (test : Test) (required : Bool)
  | arrayOf (element : Validator) (required : Bool)
  | shape (fields : List (String × Validator)) (required : Bool)
  | all (checks : List Validator) (required : Bool)

namespace Validator

/-- Whether an absent value fails. -/
def isRequired : Validator → Bool
  | test _ required | arrayOf _ required | shape _ required | all _ required => required

/-- The validator with its flag set. -/
def withRequired : Validator → Bool → Validator
  | test t _, required => test t required
  | arrayOf element _, required => arrayOf element required
  | shape fields _, required => shape fields required
  | all checks _, required => all checks required

/-- The validator that an absent value fails. -/
def required (v : Validator) : Validator :=
  v.withRequired true

/-- Whether a missing value is named by its full path or by its bare key. -/
def namesPath : Validator → Bool
  | test t _ => t.namesPath
  | arrayOf _ _ | shape _ _ => true
  | all _ _ => false

/-! ## Building validators -/

/-- The optional validator of a test. -/
def ofTest (t : Test) : Validator :=
  test t false

/-- Several validators as one that reports the first failure.  A single one stays as it is, with its
own flag and its own way of naming. -/
def combine : List Validator → Validator
  | [only] => only
  | checks => all checks false

/-- The text of a validator for diagnostics: only the flag shows. -/
def summary (v : Validator) : String :=
  "Validator \x7b is_required: " ++ (if v.isRequired then "true" else "false") ++ ", .. \x7d"

/-! ## Checking slots -/

/-- The failure of a required value that is absent. -/
def missing (slot : Slot) (label : String) (namesPath : Bool) : Failure :=
  let shown := if namesPath then slot.path.render else slot.name
  let absent := slot.absentLabel
  (Failure.ofKind slot.path .requiredMissing
    s!"The prop `{shown}` is marked as required in `{label}`, but its value is `{absent}`.")
    |>.withExpected "value" |>.withGot absent

/-- The failure of an absent required value, else the outcome of the check. -/
def demand (required namesPath : Bool) (slot : Slot) (label : String)
    (outcome : Option Failure) : Option Failure :=
  if required && slot.present?.isNone then some (missing slot label namesPath) else outcome

/-- The failure of a value that is no array. -/
def notArray (slot : Slot) (label : String) (value : Value) : Failure :=
  Test.wrongType slot label value.primitiveName value.primitiveName "an array" "array"

/-- The failure of a value that is no object. -/
def notObject (slot : Slot) (label : String) (value : Value) : Failure :=
  Test.wrongType slot label value.primitiveName value.primitiveName "`object`" "object"

mutual

/-- The first failure of a slot, if there is one.  Elements are checked in order, and fields in the
order of the shape; a date passes as an object and has no fields. -/
def failure? : Validator → Slot → String → Option Failure
  | test t required, slot, label =>
    demand required t.namesPath slot label (t.failure? slot label)
  | arrayOf element required, slot, label =>
    demand required true slot label <|
      slot.present?.bind fun value => match value.array? with
        | none => some (notArray slot label value)
        | some items => (List.range items.length).findSome? fun position =>
          failure? element (slot.child value (.index position)) label
  | shape fields required, slot, label =>
    demand required true slot label <|
      slot.present?.bind fun value =>
        if value.primitiveName = "object" then fieldsFailure? fields slot value label
        else some (notObject slot label value)
  | all checks required, slot, label =>
    demand required false slot label (checksFailure? checks slot label)

/-- The first failure of the fields of a value. -/
def fieldsFailure? : List (String × Validator) → Slot → Value → String → Option Failure
  | [], _, _, _ => none
  | (name, v) :: rest, slot, value, label =>
    match failure? v (slot.child value (.field name)) label with
    | some failure => some failure
    | none => fieldsFailure? rest slot value label

/-- The first failure among checks of the same slot. -/
def checksFailure? : List Validator → Slot → String → Option Failure
  | [], _, _ => none
  | v :: rest, slot, label =>
    match failure? v slot label with
    | some failure => some failure
    | none => checksFailure? rest slot label

end

end Validator

end DocSchema
