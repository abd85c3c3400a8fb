import DocSchema.Event
import DocSchema.Schema.ReferenceTable

/-!
# Expansions

The expansion of a declaration is the tree that is really checked: references are replaced by the
fields of their descriptions, and containers that are not checked any further are flat.  Validators
and events are both read off this tree, so that they cannot disagree.

## Why expanding ends

Each array, object and expanded reference uses up one level of the depth limit, and below the last
level everything is flat.  The limit is not what ends a cycle, though: a name is not expanded again
inside its own expansion, so a cycle is flat at its first return, whatever the limit.

* `Expansion`: the tree.
* `Expansion.of`: the expansion of a declaration.
-/

namespace DocSchema

/-- Why a container is only checked for its type. -/
inductive Flattening where
  /-- The container lies below the depth limit. -/
  | tooDeep (container : Container)
  /-- The name is being expanded already. -/
  | circular (name : String)
  /-- The name is not registered. -/
  | unresolved (name : String)
  /-- The reference has no name. -/
  | unnamed
  deriving DecidableEq, Repr

/-- The tree that a declaration amounts to. -/
inductive Expansion where
  | leaf (kind : Leaf) (required : Bool)
  | arrayOf (element : Expansion) (required : Bool)
  /-- An object, with the name of its description if it was a reference. -/
  | object (fields : List (String × Expansion)) (name : Option String) (required : Bool)
  | flat (reason : Flattening) (required : Bool)

namespace Expansion

/-- Expands a declaration, with `room` levels left below it and some names being expanded around
it. -/
def of (table : ReferenceTable) (room : Nat) (expanding : List String) (node : Node) : Expansion :=
  match node with
  | .leaf kind required => leaf kind required
  | .reference none required => flat .unnamed required
  | .reference (some name) required =>
    match table.get? name with
    | none => flat (.unresolved name) required
    | some description =>
      if name ∈ expanding then
        flat (.circular name) required
      else match room with
        | 0 => flat (.tooDeep (.reference name)) required
        | room + 1 =>
          object (description.map fun (field, node) =>
            (field, of table room (name :: expanding) node)) (some name) required
  | .arrayOf element required => match room with
    | 0 => flat (.tooDeep .array) required
    | room + 1 => arrayOf (of table room expanding element) required
  | .object fields required => match room with
    | 0 => flat (.tooDeep .object) required
    | room + 1 =>
      object (fields.map fun (field, node) => (field, of table room expanding node)) none required

/-- Expands the declarations of fields. -/
def ofFields (table : ReferenceTable) (room : Nat) (expanding : List String)
    (fields : Description) : List (String × Expansion) :=
  fields.map fun (field, node) => (field, of table room expanding node)

/-- Whether the value has to be there. -/
def isRequired : Expansion → Bool
  | leaf _ required | arrayOf _ required | object _ _ required | flat _ required => required

end Expansion

end DocSchema
