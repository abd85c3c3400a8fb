import DocSchema.Proofs.Parts

/-!
# Patterns by their sources

A document gives the source of a pattern and leaves it to a dialect what that source matches.  So a
description comes back from a document only up to what its patterns match.  Two descriptions are
compared in this way by taking from each all that its patterns say beyond their sources.

* `Node.bySource`: a declaration whose patterns are no more than their sources.
* `Description.SameBySource`: the descriptions that differ in nothing but what their patterns match.
* `Node.AcceptedBy`: the declarations without a pattern that a dialect refuses.
* `Description.SameBySource.allParts_iff`: a property that looks at sources only cannot tell such
  descriptions apart.
-/

namespace DocSchema

/-! ## Reduction to sources -/

/-- The pattern with the same source that matches nothing. -/
def Pattern.bySource (p : Pattern) : Pattern :=
  ⟨p.source, fun _ => false⟩

/-- The constraints with the pattern reduced to its source. -/
def StringRule.bySource (rule : StringRule) : StringRule :=
  { rule with pattern := rule.pattern.map Pattern.bySource }

/-- The leaf with its pattern reduced to its source. -/
def Leaf.bySource : Leaf → Leaf
  | string rule => string rule.bySource
  | kind => kind

namespace Node

mutual

/-- The declaration with all patterns reduced to their sources. -/
def bySource : Node → Node
  | .leaf kind required => .leaf kind.bySource required
  | .reference name required => .reference name required
  | .arrayOf element required => .arrayOf element.bySource required
  | .object fields required => .object (fieldsBySource fields) required

/-- The declarations of fields with all patterns reduced to their sources. -/
def fieldsBySource : List (String × Node) → List (String × Node)
  | [] => []
  | (name, node) :: rest => (name, node.bySource) :: fieldsBySource rest

end

theorem fieldsBySource_eq_map (fields : List (String × Node)) :
    fieldsBySource fields = fields.map fun field => (field.1, field.2.bySource) := by
  induction fields with
  | nil => rfl
  | cons field rest ih => rw [fieldsBySource, ih, List.map_cons]

theorem names_fieldsBySource (fields : List (String × Node)) :
    Assoc.names (fieldsBySource fields) = Assoc.names fields := by
  rw [fieldsBySource_eq_map, Assoc.names, List.map_map]
  rfl

theorem bySource_withRequired (node : Node) (required : Bool) :
    (node.withRequired required).bySource = node.bySource.withRequired required := by
  cases node <;> rfl

end Node

/-- Whether two descriptions are the same but for what their patterns match. -/
def Description.SameBySource (description other : Description) : Prop :=
  Node.fieldsBySource description = Node.fieldsBySource other

/-! ## Patterns of a dialect -/

/-- Whether the pattern of a declaration, if it has one, has a source that the dialect accepts. -/
def Node.AcceptedBy (dialect : Pattern.Dialect) : Node → Prop
  | .leaf (.string rule) _ => ∀ p ∈ rule.pattern, dialect.Accepts p.source
  | _ => True

theorem Node.acceptedBy_bySource_iff {dialect : Pattern.Dialect} (node : Node) :
    node.bySource.AcceptedBy dialect ↔ node.AcceptedBy dialect := by
  cases node with
  | leaf kind required =>
    cases kind with
    | string rule =>
      show (∀ p ∈ rule.pattern.map Pattern.bySource, dialect.Accepts p.source) ↔
        ∀ p ∈ rule.pattern, dialect.Accepts p.source
      cases rule.pattern with
      | none => exact Iff.rfl
      | some p => simp only [Option.map_some, Option.mem_def, Option.some_inj, forall_eq',
          Pattern.bySource]
    | _ => exact Iff.rfl
  | _ => exact Iff.rfl

theorem Node.acceptedBy_withRequired_iff {dialect : Pattern.Dialect} (node : Node)
    (required : Bool) :
    (node.withRequired required).AcceptedBy dialect ↔ node.AcceptedBy dialect := by
  cases node with
  | leaf kind _ => cases kind <;> rfl
  | _ => rfl

/-! ## Properties that look at sources only -/

theorem Node.allParts_bySource_iff {P : Node → Prop} (hP : ∀ node, P (bySource node) ↔ P node)
    (node : Node) : node.bySource.AllParts P ↔ node.AllParts P := by
  induction node using Node.induct with
  | leaf kind required =>
    rw [bySource, allParts_leaf_iff, allParts_leaf_iff]
    exact hP (.leaf kind required)
  | reference name required => rw [bySource]
  | arrayOf element required ih =>
    rw [bySource, allParts_arrayOf_iff, allParts_arrayOf_iff, ih]
    exact and_congr_left fun _ => hP (.arrayOf element required)
  | object fields required ih =>
    have hfields : (∀ field ∈ fieldsBySource fields, field.2.AllParts P) ↔
        ∀ field ∈ fields, field.2.AllParts P := by
      rw [fieldsBySource_eq_map, List.forall_mem_map]
      exact forall₂_congr ih
    rw [bySource, allParts_object_iff, allParts_object_iff, hfields]
    exact and_congr_left fun _ => hP (.object fields required)

/-- A property that looks at sources only holds of all parts of a description if it does of all
parts of one that is the same by sources. -/
theorem Description.SameBySource.allParts_iff {description other : Description} {P : Node → Prop}
    (h : description.SameBySource other) (hP : ∀ node, P (Node.bySource node) ↔ P node) :
    description.AllParts P ↔ other.AllParts P := by
  have hreduced : ∀ fields : Description,
      (∀ field ∈ Node.fieldsBySource fields, field.2.AllParts P) ↔ fields.AllParts P := by
    intro fields
    rw [Node.fieldsBySource_eq_map, List.forall_mem_map, Description.allParts_iff]
    exact forall₂_congr fun field _ => Node.allParts_bySource_iff hP field.2
  rw [← hreduced description, ← hreduced other, h]

end DocSchema
