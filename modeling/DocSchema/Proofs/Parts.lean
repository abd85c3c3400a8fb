import DocSchema.Schema.Node

/-!
# The parts of a description

A statement about a description at any nesting is a statement about its parts: the declarations of
its fields, what these are made of, and so on.  References end here.  A reference is a part, but the
description under its name is not looked up.

* `Node.induct`: induction over a declaration, with a hypothesis for each field of an object.
* `Node.IsPart`, `Description.HasPart`: the parts of a declaration and of a description.
* `Node.AllParts`, `Description.AllParts`: what holds of all of them.
* `Description.RefersTo`, `Description.mem_fieldReferences_iff`: the names that are referred to are
  those of the parts that are references.
-/

namespace DocSchema

namespace Node

/-- Induction over a declaration. -/
@[elab_as_elim]
theorem induct {motive : Node → Prop}
    (leaf : ∀ kind required, motive (.leaf kind required))
    (reference : ∀ name required, motive (.reference name required))
    (arrayOf : ∀ element required, motive element → motive (.arrayOf element required))
    (object : ∀ fields required, (∀ field ∈ fields, motive field.2) →
      motive (.object fields required)) : ∀ node, motive node
  | .leaf kind required => leaf kind required
  | .reference name required => reference name required
  | .arrayOf element required =>
    arrayOf element required (induct leaf reference arrayOf object element)
  | .object fields required =>
    object fields required fun field _ => induct leaf reference arrayOf object field.2
termination_by node => sizeOf node
decreasing_by
  · simp only [Node.arrayOf.sizeOf_spec]
    omega
  · have hfield : sizeOf field < sizeOf fields := List.sizeOf_lt_of_mem ‹_›
    have hpair : sizeOf field = 1 + sizeOf field.1 + sizeOf field.2 := rfl
    simp only [Node.object.sizeOf_spec]
    omega

/-- Whether a declaration is a part of another one.  Every declaration is a part of itself. -/
inductive IsPart (part : Node) : Node → Prop
  | whole : IsPart part part
  | element {element : Node} {required : Bool} (h : IsPart part element) :
    IsPart part (.arrayOf element required)
  | field {fields : List (String × Node)} {field : String × Node} {required : Bool}
    (hfield : field ∈ fields) (h : IsPart part field.2) : IsPart part (.object fields required)

variable {part : Node} {required : Bool}

@[simp] theorem isPart_leaf_iff {kind : Leaf} :
    part.IsPart (.leaf kind required) ↔ part = .leaf kind required := by
  constructor
  · rintro ⟨⟩
    rfl
  · rintro rfl
    exact .whole

@[simp] theorem isPart_reference_iff {name : Option String} :
    part.IsPart (.reference name required) ↔ part = .reference name required := by
  constructor
  · rintro ⟨⟩
    rfl
  · rintro rfl
    exact .whole

@[simp] theorem isPart_arrayOf_iff {element : Node} :
    part.IsPart (.arrayOf element required) ↔
      part = .arrayOf element required ∨ part.IsPart element := by
  constructor
  · intro h
    cases h with
    | whole => exact .inl rfl
    | element h => exact .inr h
  · rintro (rfl | h)
    · exact .whole
    · exact .element h

@[simp] theorem isPart_object_iff {fields : List (String × Node)} :
    part.IsPart (.object fields required) ↔
      part = .object fields required ∨ ∃ field ∈ fields, part.IsPart field.2 := by
  constructor
  · intro h
    cases h with
    | whole => exact .inl rfl
    | field hfield h => exact .inr ⟨_, hfield, h⟩
  · rintro (rfl | ⟨field, hfield, h⟩)
    · exact .whole
    · exact .field hfield h

end Node

/-- Whether a declaration is a part of the declaration of a field. -/
def Description.HasPart (description : Description) (part : Node) : Prop :=
  ∃ field ∈ description, part.IsPart field.2

namespace Node

theorem mem_fieldReferences_iff {fields : List (String × Node)} {name : String} :
    name ∈ fieldReferences fields ↔ ∃ field ∈ fields, name ∈ field.2.references := by
  induction fields with
  | nil => simp [fieldReferences]
  | cons field rest ih => simp [fieldReferences, ih]

/-- The names that a declaration refers to are those of its parts that are references. -/
theorem mem_references_iff {node : Node} {name : String} :
    name ∈ node.references ↔ ∃ required, (reference (some name) required).IsPart node := by
  induction node using induct with
  | leaf kind required => simp [references]
  | reference other required =>
    rw [references, Option.mem_toList]
    constructor
    · rintro rfl
      exact ⟨required, .whole⟩
    · rintro ⟨flag, h⟩
      cases isPart_reference_iff.mp h
      rfl
  | arrayOf element required ih =>
    rw [references, ih]
    simp only [isPart_arrayOf_iff, reduceCtorEq, false_or]
  | object fields required ih =>
    rw [references, mem_fieldReferences_iff]
    constructor
    · rintro ⟨field, hfield, hname⟩
      obtain ⟨flag, hpart⟩ := (ih field hfield).mp hname
      exact ⟨flag, .field hfield hpart⟩
    · rintro ⟨flag, h⟩
      cases h with
      | field hfield hpart => exact ⟨_, hfield, (ih _ hfield).mpr ⟨flag, hpart⟩⟩

/-! ## What holds of all parts -/

/-- Whether all parts of a declaration have a property. -/
def AllParts (P : Node → Prop) (node : Node) : Prop :=
  ∀ part, part.IsPart node → P part

variable {P : Node → Prop} {required : Bool}

@[simp] theorem allParts_leaf_iff {kind : Leaf} :
    AllParts P (.leaf kind required) ↔ P (.leaf kind required) := by
  simp only [AllParts, isPart_leaf_iff, forall_eq]

@[simp] theorem allParts_reference_iff {name : Option String} :
    AllParts P (.reference name required) ↔ P (.reference name required) := by
  simp only [AllParts, isPart_reference_iff, forall_eq]

@[simp] theorem allParts_arrayOf_iff {element : Node} :
    AllParts P (.arrayOf element required) ↔
      P (.arrayOf element required) ∧ element.AllParts P := by
  simp only [AllParts, isPart_arrayOf_iff, forall_eq_or_imp]

@[simp] theorem allParts_object_iff {fields : List (String × Node)} :
    AllParts P (.object fields required) ↔
      P (.object fields required) ∧ ∀ field ∈ fields, field.2.AllParts P := by
  simp only [AllParts, isPart_object_iff, forall_eq_or_imp]
  refine and_congr_right fun _ => ⟨fun h field hfield part hpart => h part ⟨field, hfield, hpart⟩,
    ?_⟩
  rintro h part ⟨field, hfield, hpart⟩
  exact h field hfield part hpart

/-- A property that does not look at flags still holds with another flag. -/
theorem allParts_withRequired_iff (hP : ∀ node required, P (withRequired node required) ↔ P node)
    (node : Node) (required : Bool) :
    (node.withRequired required).AllParts P ↔ node.AllParts P := by
  have hnode := hP node required
  cases node <;> rw [withRequired] at hnode ⊢ <;> simp [hnode]

end Node

/-- Whether all parts of a description have a property. -/
def Description.AllParts (P : Node → Prop) (description : Description) : Prop :=
  ∀ part, description.HasPart part → P part

theorem Description.allParts_iff {P : Node → Prop} {description : Description} :
    description.AllParts P ↔ ∀ field ∈ description, field.2.AllParts P := by
  constructor
  · intro h field hfield part hpart
    exact h part ⟨field, hfield, hpart⟩
  · rintro h part ⟨field, hfield, hpart⟩
    exact h field hfield part hpart

/-- Whether a description refers to a name, at any nesting. -/
def Description.RefersTo (description : Description) (name : String) : Prop :=
  ∃ required, description.HasPart (.reference (some name) required)

theorem Description.mem_fieldReferences_iff {description : Description} {name : String} :
    name ∈ Node.fieldReferences description ↔ description.RefersTo name := by
  rw [Node.mem_fieldReferences_iff]
  constructor
  · rintro ⟨field, hfield, hname⟩
    obtain ⟨required, hpart⟩ := Node.mem_references_iff.mp hname
    exact ⟨required, field, hfield, hpart⟩
  · rintro ⟨required, field, hfield, hpart⟩
    exact ⟨field, hfield, Node.mem_references_iff.mpr ⟨required, hpart⟩⟩

end DocSchema
