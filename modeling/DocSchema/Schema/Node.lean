import DocSchema.Assoc
import DocSchema.Calendar.Instant
import DocSchema.Pattern.Basic

/-!
# Schemas

A description maps field names to declarations, in order.  A declaration is a leaf, which holds
constraints and no further declarations, a reference to a named description, an array of a declared
element, or an object with fields of its own.  Each says whether its value is required.
-/

namespace DocSchema

open Calendar (Instant)

/-- The constraints of a text field.  If there is a list of allowed texts, only that list counts. -/
structure StringRule where
  pattern : Option Pattern
  minLength : Option UInt64
  maxLength : Option UInt64
  allowed : Option (List String)

/-- No constraints on a text. -/
def StringRule.none : StringRule :=
  ⟨.none, .none, .none, .none⟩

/-- Inclusive limits. -/
structure Bounds (α : Type) where
  min : Option α
  max : Option α

/-- No limits. -/
def Bounds.none {α : Type} : Bounds α :=
  ⟨.none, .none⟩

/-- A declaration without further declarations. -/
inductive Leaf where
  | string (rule : StringRule)
  | number (bounds : Bounds Float)
  | decimal (bounds : Bounds Float)
  | date (bounds : Bounds Instant)
  | boolean
  /-- An object with any keys and values. -/
  | map
  /-- An array with any elements. -/
  | anyArray
  /-- Any value at all. -/
  | unknown

/-- The declaration of one field. -/
inductive Node where
  | leaf (kind : Leaf) (required : Bool)
  /-- An object described under a name; without a name, any object. -/
  | reference (name : Option String) (required : Bool)
  | arrayOf (element : Node) (required : Bool)
  | object (fields : List (String × Node)) (required : Bool)

/-- The declarations of the fields of an object, in order. -/
abbrev Description : Type := Assoc Node

namespace Node

/-- Whether the value has to be there. -/
def isRequired : Node → Bool
  | leaf _ required | reference _ required | arrayOf _ required | object _ required => required

/-- The declaration with its flag set. -/
def withRequired : Node → Bool → Node
  | leaf kind _, required => leaf kind required
  | reference name _, required => reference name required
  | arrayOf element _, required => arrayOf element required
  | object fields _, required => object fields required

/-- The declaration with a required value. -/
def required (node : Node) : Node :=
  node.withRequired true

mutual

/-- The names that a declaration refers to, in order, at any nesting. -/
def references : Node → List String
  | leaf _ _ => []
  | reference name _ => name.toList
  | arrayOf element _ => element.references
  | object fields _ => fieldReferences fields

/-- The names that the declarations of fields refer to. -/
def fieldReferences : List (String × Node) → List String
  | [] => []
  | (_, node) :: rest => node.references ++ fieldReferences rest

end

end Node

end DocSchema
