import DocSchema.Failure
import DocSchema.Pattern.Basic
import DocSchema.Validator.Slot

/-!
# Tests

The checks of a single value, without a look at its children.  All of them let absent values pass;
whether a value has to be there is the validator's business.  Constraints also let values of a type
pass that they cannot measure: a wrong type is reported by the type test before them.
-/

namespace DocSchema

open Calendar (Instant)

/-- The types that primitive tests tell apart. -/
inductive Primitive where
  | string
  | number
  | boolean
  | object
  | array
  deriving DecidableEq, Repr

/-- The name of a primitive type. -/
def Primitive.name : Primitive → String
  | string => "string"
  | number => "number"
  | boolean => "boolean"
  | object => "object"
  | array => "array"

/-- An inclusive limit for numbers or for dates. -/
inductive Limit where
  | number (x : Float)
  | date (t : Instant)

namespace Limit

/-- The text of a limit. -/
def display : Limit → String
  | number x => Value.numberText x
  | date t => t.display

/-- Whether a value is of the limit's type and below it. -/
def isAbove : Limit → Value → Bool
  | number x, .number y => decide (y < x)
  | date t, .date u => decide (u < t)
  | _, _ => false

/-- Whether a value is of the limit's type and above it. -/
def isBelow : Limit → Value → Bool
  | number x, .number y => decide (x < y)
  | date t, .date u => decide (t < u)
  | _, _ => false

end Limit

/-- A check of a single value. -/
inductive Test where
  | anything
  | primitive (type : Primitive)
  | date
  | oneOf (allowed : List String)
  | pattern (pattern : Pattern)
  | minLength (length : UInt64)
  | maxLength (length : UInt64)
  | min (limit : Limit)
  | max (limit : Limit)
  /-- Any other check; it decides itself what an absent value means. -/
  | custom (check : Slot → String → Option Failure)

namespace Test

/-- Whether a missing value is named by its full path, as type tests do, or by its bare key, as
constraints do. -/
def namesPath : Test → Bool
  | anything | primitive _ | date | oneOf _ => true
  | pattern _ | minLength _ | maxLength _ | min _ | max _ | custom _ => false

/-- The failure of a value of a wrong type; `shown` is the type in the message and `got` the one
that is reported. -/
def wrongType (slot : Slot) (label shown got expectation expected : String) : Failure :=
  let path := slot.path.render
  (Failure.ofKind slot.path .typeMismatch
    s!"Invalid prop `{path}` of type `{shown}` supplied to `{label}`, expected {expectation}.")
    |>.withExpected expected |>.withGot got

/-- The failure of a value that breaks a constraint. -/
def violation (slot : Slot) (label code detail expected got : String) : Failure :=
  let name := slot.name
  (Failure.ofKind slot.path .constraintViolation
    s!"Invalid prop `{name}` supplied to `{label}`. {detail}")
    |>.withCode code |>.withExpected expected |>.withGot got

/-- The failure of a value that is none of the allowed texts. -/
def notAllowed (slot : Slot) (label : String) (value : Value) (allowed : List String) : Failure :=
  let path := slot.path.render
  let shown := value.display
  let texts := (Json.array (allowed.map Json.string)).render
  (Failure.ofKind slot.path .constraintViolation
    s!"Invalid prop `{path}` of value `{shown}` supplied to `{label}`, expected one of {texts}.")
    |>.withCode "enum" |>.withExpected ("one of " ++ texts) |>.withGot shown

/-- The failure of a present value, if it does not pass. -/
def failureOf (test : Test) (slot : Slot) (label : String) (value : Value) : Option Failure :=
  match test with
  | anything | custom _ => none
  | primitive type =>
    if value.primitiveName = type.name then none
    else some <| wrongType slot label value.typeName value.typeName
      ("`" ++ type.name ++ "`") type.name
  | date =>
    if value.date?.isSome then none
    else some <| wrongType slot label value.className value.typeName "instance of `Date`" "Date"
  | oneOf allowed =>
    if value.string?.any allowed.contains then none
    else some <| notAllowed slot label value allowed
  | pattern p =>
    value.string?.bind fun text =>
      if p.isMatch text then none
      else some <| violation slot label "pattern" "Regular expression validation failed."
        ("string matching '" ++ p.source ++ "'") text
  | minLength length =>
    value.string?.bind fun text =>
      if length.toNat ≤ text.length then none
      else some <| violation slot label "min_length"
        ("Less than " ++ length.toNat.repr ++ " characters long.")
        ("at least " ++ length.toNat.repr ++ " characters") (text.length.repr ++ " characters")
  | maxLength length =>
    value.string?.bind fun text =>
      if text.length ≤ length.toNat then none
      else some <| violation slot label "max_length"
        ("More than " ++ length.toNat.repr ++ " characters long.")
        ("at most " ++ length.toNat.repr ++ " characters") (text.length.repr ++ " characters")
  | min limit =>
    if limit.isAbove value then
      some <| violation slot label "min" ("Can not be smaller than " ++ limit.display ++ ".")
        (">= " ++ limit.display) value.display
    else none
  | max limit =>
    if limit.isBelow value then
      some <| violation slot label "max" ("Can not be larger than " ++ limit.display ++ ".")
        ("<= " ++ limit.display) value.display
    else none

/-- The failure of what is in a slot; absent values pass, but for a custom check's verdict. -/
def failure? (test : Test) (slot : Slot) (label : String) : Option Failure :=
  match test with
  | custom check => check slot label
  | _ => slot.present?.bind (test.failureOf slot label)

end Test

end DocSchema
