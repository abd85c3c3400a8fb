import DocSchema.Compile.Expansion
import DocSchema.Validator.Basic

/-!
# Validators of expansions

The validator of each part of an expansion: a type test, merged with the constraints of a leaf;
elements and fields for containers; the bare type test for what is flat.
-/

namespace DocSchema

namespace Leaf

/-- The checks of a text: the allowed texts alone, or its type and its constraints in order. -/
def stringChecks (rule : StringRule) : List Test :=
  match rule.allowed with
  | some allowed => [.oneOf allowed]
  | none =>
    [.primitive .string] ++ (rule.pattern.map Test.pattern).toList
      ++ (rule.minLength.map Test.minLength).toList ++ (rule.maxLength.map Test.maxLength).toList

/-- The checks of limits, the lower one first. -/
def boundChecks {α : Type} (limit : α → Limit) (bounds : Bounds α) : List Test :=
  (bounds.min.map fun x => Test.min (limit x)).toList
    ++ (bounds.max.map fun x => Test.max (limit x)).toList

/-- The checks of a leaf in order. -/
def checks : Leaf → List Test
  | string rule => stringChecks rule
  | number bounds | decimal bounds => .primitive .number :: boundChecks .number bounds
  | date bounds => .date :: boundChecks .date bounds
  | boolean => [.primitive .boolean]
  | map => [.primitive .object]
  | anyArray => [.primitive .array]
  | unknown => [.anything]

/-- The optional validator of a leaf. -/
def validator (leaf : Leaf) : Validator :=
  Validator.combine (leaf.checks.map Validator.ofTest)

end Leaf

/-- The type that is left of a flat container. -/
def Flattening.primitive : Flattening → Primitive
  | tooDeep .array => .array
  | _ => .object

namespace Expansion

mutual

/-- The validator of an expansion. -/
def validator : Expansion → Validator
  | leaf kind required => kind.validator.withRequired required
  | arrayOf element required => .arrayOf element.validator required
  | object fields _ required => .shape (fieldValidators fields) required
  | flat reason required => .test (.primitive reason.primitive) required

/-- The validators of fields. -/
def fieldValidators : List (String × Expansion) → List (String × Validator)
  | [] => []
  | (field, e) :: rest => (field, e.validator) :: fieldValidators rest

end

end Expansion

end DocSchema
