import DocSchema.Value

/-!
# Slots

A validator looks at one key of one container, and knows on which path the container lies.  What it
finds there may be absent: no such key, a container that cannot hold it, or null.
-/

namespace DocSchema

/-- A key of a container, and the path of the container from the root of the document. -/
structure Slot where
  container : Value
  key : Segment
  parent : Path

namespace Slot

/-- The slot of a field at the root. -/
def field (container : Value) (name : String) : Slot :=
  ⟨container, .field name, .root⟩

/-- The path of the slot. -/
def path (slot : Slot) : Path :=
  slot.parent.push slot.key

/-- The bare key. -/
def name (slot : Slot) : String :=
  slot.key.render

/-- What the container holds under the key. -/
def value? (slot : Slot) : Option Value :=
  slot.container.get? slot.key

/-- What the container holds under the key, unless it is null. -/
def present? (slot : Slot) : Option Value :=
  slot.value?.filter fun value => !value.isNull

/-- What an absent value is called: `null` if it is one, else `undefined`. -/
def absentLabel (slot : Slot) : String :=
  match slot.value? with
  | some .null => "null"
  | _ => "undefined"

/-- The slot of a key of the value in this slot. -/
def child (slot : Slot) (value : Value) (key : Segment) : Slot :=
  ⟨value, key, slot.path⟩

@[simp] theorem path_child (slot : Slot) (value : Value) (key : Segment) :
    (slot.child value key).path = slot.path.push key := rfl

theorem present?_eq_some_iff {slot : Slot} {value : Value} :
    slot.present? = some value ↔ slot.value? = some value ∧ value.isNull = false := by
  simp [present?, Option.filter_eq_some_iff]

end Slot

end DocSchema
