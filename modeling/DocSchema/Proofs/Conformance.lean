import DocSchema.Proofs.Expansion

/-!
# Conformance

What a schema asks of a document, said of the declarations themselves.  A declaration is looked at
with the number of containers around it and the names being expanded there, since these two decide
whether a container is looked into or only checked for its type.

The rules know nothing of validators or of expansions.  The depth counts up from the root of the
document, while an expansion is made with the levels that are left; the two meet where depth and
levels add up to the limit.

* `Compiler.OpaqueReference`: the references that only ask for an object.
* `Compiler.Conforms`: the rules.
* `Compiler.admits_of_iff_conforms`: an expansion admits what conforms to its declaration.
* `Compiler.validate_eq_accepted_iff_conforms`: a document is accepted exactly if it has an entry
  that conforms for every field.
-/

namespace DocSchema

namespace Compiler

/-! ## The rules -/

/-- The references that only ask for an object: there is no name, no description of that name, the
name is being expanded already, or the limit is reached. -/
inductive OpaqueReference (compiler : Compiler) (depth : Nat) (names : List String) :
    Option String → Prop
  | unnamed : OpaqueReference compiler depth names none
  | unresolved {name : String} :
    compiler.table.get? name = none → OpaqueReference compiler depth names (some name)
  | circular {name : String} : name ∈ names → OpaqueReference compiler depth names (some name)
  | tooDeep {name : String} :
    compiler.maxDepth ≤ depth → OpaqueReference compiler depth names (some name)

/-- Whether an entry conforms to a declaration that has `depth` containers around it, inside the
expansions of `names`. -/
inductive Conforms (compiler : Compiler) : Nat → List String → Node → Option Value → Prop
  /-- What is absent conforms unless it is required. -/
  | absent {depth : Nat} {names : List String} {node : Node} {entry : Option Value} :
    Absent entry → node.isRequired = false → Conforms compiler depth names node entry
  | leaf {depth : Nat} {names : List String} {kind : Leaf} {required : Bool} {value : Value} :
    value.isNull = false → kind.Admits value →
      Conforms compiler depth names (.leaf kind required) (some value)
  /-- A container below the limit has to be an array or an object, and that is all. -/
  | flatArray {depth : Nat} {names : List String} {element : Node} {required : Bool}
    {items : List Value} :
    compiler.maxDepth ≤ depth →
      Conforms compiler depth names (.arrayOf element required) (some (.array items))
  | flatObject {depth : Nat} {names : List String} {fields : Description} {required : Bool}
    {value : Value} :
    compiler.maxDepth ≤ depth → value.IsObject →
      Conforms compiler depth names (.object fields required) (some value)
  | opaqueReference {depth : Nat} {names : List String} {reference : Option String}
    {required : Bool} {value : Value} :
    compiler.OpaqueReference depth names reference → value.IsObject →
      Conforms compiler depth names (.reference reference required) (some value)
  /-- All elements conform, with one more container around them. -/
  | array {depth : Nat} {names : List String} {element : Node} {required : Bool}
    {items : List Value} :
    depth < compiler.maxDepth →
      (∀ item ∈ items, Conforms compiler (depth + 1) names element (some item)) →
      Conforms compiler depth names (.arrayOf element required) (some (.array items))
  /-- All declared fields conform; a date has none of them, and other keys do not matter. -/
  | object {depth : Nat} {names : List String} {fields : Description} {required : Bool}
    {value : Value} :
    depth < compiler.maxDepth → value.IsObject →
      (∀ field ∈ fields,
        Conforms compiler (depth + 1) names field.2 (value.get? (.field field.1))) →
      Conforms compiler depth names (.object fields required) (some value)
  /-- A reference is an object with the fields of its description, inside the expansion of its
  name. -/
  | reference {depth : Nat} {names : List String} {name : String} {description : Description}
    {required : Bool} {value : Value} :
    compiler.table.get? name = some description → name ∉ names → depth < compiler.maxDepth →
      value.IsObject →
      (∀ field ∈ description,
        Conforms compiler (depth + 1) (name :: names) field.2 (value.get? (.field field.1))) →
      Conforms compiler depth names (.reference (some name) required) (some value)

/-! ## The rules read backwards -/

variable {compiler : Compiler} {depth : Nat} {names : List String} {required : Bool} {value : Value}

theorem conforms_iff_of_absent {node : Node} {entry : Option Value} (h : Absent entry) :
    compiler.Conforms depth names node entry ↔ node.isRequired = false := by
  refine ⟨fun hc => ?_, Conforms.absent h⟩
  cases hc with
  | absent _ hr => exact hr
  | leaf hn _ => exact absurd h (not_absent_of_isNull_eq_false hn)
  | flatArray _ | array _ _ => exact absurd h (not_absent_of_isNull_eq_false rfl)
  | flatObject _ hv | opaqueReference _ hv | object _ hv _ | reference _ _ _ hv _ =>
    exact absurd h (not_absent_of_isNull_eq_false hv.isNull_eq_false)

theorem conforms_leaf_iff {kind : Leaf} (hn : value.isNull = false) :
    compiler.Conforms depth names (.leaf kind required) (some value) ↔ kind.Admits value := by
  refine ⟨fun h => ?_, Conforms.leaf hn⟩
  cases h with
  | absent ha _ => exact absurd ha (not_absent_of_isNull_eq_false hn)
  | leaf _ hk => exact hk

theorem OpaqueReference.not_resolved {name : String} {description : Description}
    (h : compiler.OpaqueReference depth names (some name))
    (hd : compiler.table.get? name = some description) (hname : name ∉ names) :
    compiler.maxDepth ≤ depth := by
  cases h with
  | unresolved hu =>
    rw [hu] at hd
    cases hd
  | circular hc => exact absurd hc hname
  | tooDeep hle => exact hle

theorem conforms_reference_iff_of_opaque {reference : Option String} (hn : value.isNull = false)
    (ho : compiler.OpaqueReference depth names reference) :
    compiler.Conforms depth names (.reference reference required) (some value) ↔
      value.IsObject := by
  refine ⟨fun h => ?_, Conforms.opaqueReference ho⟩
  cases h with
  | absent ha _ => exact absurd ha (not_absent_of_isNull_eq_false hn)
  | opaqueReference _ hv | reference _ _ _ hv _ => exact hv

theorem conforms_reference_iff_of_resolved {name : String} {description : Description}
    (hn : value.isNull = false) (hd : compiler.table.get? name = some description)
    (hname : name ∉ names) (hlt : depth < compiler.maxDepth) :
    compiler.Conforms depth names (.reference (some name) required) (some value) ↔
      value.IsObject ∧ ∀ field ∈ description,
        compiler.Conforms (depth + 1) (name :: names) field.2 (value.get? (.field field.1)) := by
  refine ⟨fun h => ?_, fun h => Conforms.reference hd hname hlt h.1 h.2⟩
  cases h with
  | absent ha _ => exact absurd ha (not_absent_of_isNull_eq_false hn)
  | opaqueReference ho _ => exact absurd hlt (Nat.not_lt.mpr (ho.not_resolved hd hname))
  | reference hd' _ _ hv hfields =>
    rw [hd] at hd'
    cases hd'
    exact ⟨hv, hfields⟩

theorem conforms_arrayOf_iff_of_le {element : Node} (hn : value.isNull = false)
    (hle : compiler.maxDepth ≤ depth) :
    compiler.Conforms depth names (.arrayOf element required) (some value) ↔
      ∃ items, value = .array items := by
  constructor
  · intro h
    cases h with
    | absent ha _ => exact absurd ha (not_absent_of_isNull_eq_false hn)
    | flatArray _ | array _ _ => exact ⟨_, rfl⟩
  · rintro ⟨items, rfl⟩
    exact Conforms.flatArray hle

theorem conforms_arrayOf_iff_of_lt {element : Node} (hn : value.isNull = false)
    (hlt : depth < compiler.maxDepth) :
    compiler.Conforms depth names (.arrayOf element required) (some value) ↔
      ∃ items, value = .array items ∧
        ∀ item ∈ items, compiler.Conforms (depth + 1) names element (some item) := by
  constructor
  · intro h
    cases h with
    | absent ha _ => exact absurd ha (not_absent_of_isNull_eq_false hn)
    | flatArray hle => exact absurd hlt (Nat.not_lt.mpr hle)
    | array _ hitems => exact ⟨_, rfl, hitems⟩
  · rintro ⟨items, rfl, hitems⟩
    exact Conforms.array hlt hitems

theorem conforms_object_iff_of_le {fields : Description} (hn : value.isNull = false)
    (hle : compiler.maxDepth ≤ depth) :
    compiler.Conforms depth names (.object fields required) (some value) ↔ value.IsObject := by
  refine ⟨fun h => ?_, Conforms.flatObject hle⟩
  cases h with
  | absent ha _ => exact absurd ha (not_absent_of_isNull_eq_false hn)
  | flatObject _ hv | object _ hv _ => exact hv

theorem conforms_object_iff_of_lt {fields : Description} (hn : value.isNull = false)
    (hlt : depth < compiler.maxDepth) :
    compiler.Conforms depth names (.object fields required) (some value) ↔
      value.IsObject ∧ ∀ field ∈ fields,
        compiler.Conforms (depth + 1) names field.2 (value.get? (.field field.1)) := by
  refine ⟨fun h => ?_, fun h => Conforms.object hlt h.1 h.2⟩
  cases h with
  | absent ha _ => exact absurd ha (not_absent_of_isNull_eq_false hn)
  | flatObject hle _ => exact absurd hlt (Nat.not_lt.mpr hle)
  | object _ hv hfields => exact ⟨hv, hfields⟩

/-! ## Expansions follow the rules -/

/-- A reference only asks for an object, or its description is looked into. -/
theorem opaqueReference_or_resolved (compiler : Compiler) (depth : Nat) (names : List String)
    (reference : Option String) :
    compiler.OpaqueReference depth names reference ∨
      ∃ name description, reference = some name ∧ compiler.table.get? name = some description ∧
        name ∉ names ∧ depth < compiler.maxDepth := by
  rcases reference with _ | name
  · exact Or.inl .unnamed
  · cases hd : compiler.table.get? name with
    | none => exact Or.inl (.unresolved hd)
    | some description =>
      by_cases hname : name ∈ names
      · exact Or.inl (.circular hname)
      · rcases Nat.lt_or_ge depth compiler.maxDepth with hlt | hle
        · exact Or.inr ⟨name, description, rfl, hd, hname, hlt⟩
        · exact Or.inl (.tooDeep hle)

/-- The expansion of an opaque reference is flat, for whichever of the four reasons. -/
theorem OpaqueReference.of_eq_flat {reference : Option String} {room : Nat}
    (ho : compiler.OpaqueReference depth names reference)
    (hroom : depth + room = compiler.maxDepth) :
    ∃ reason, Expansion.of compiler.table room names (.reference reference required) =
      .flat reason required ∧ reason.leaf = .map := by
  cases ho with
  | unnamed => exact ⟨.unnamed, by rw [Expansion.of], rfl⟩
  | @unresolved name hd => exact ⟨.unresolved name, by simp only [Expansion.of, hd], rfl⟩
  | @circular name hname =>
    cases hd : compiler.table.get? name with
    | none => exact ⟨.unresolved name, by simp only [Expansion.of, hd], rfl⟩
    | some description =>
      exact ⟨.circular name, by simp only [Expansion.of, hd, if_pos hname], rfl⟩
  | @tooDeep name hle =>
    obtain rfl : room = 0 := by omega
    cases hd : compiler.table.get? name with
    | none => exact ⟨.unresolved name, by simp only [Expansion.of, hd], rfl⟩
    | some description =>
      by_cases hname : name ∈ names
      · exact ⟨.circular name, by simp only [Expansion.of, hd, if_pos hname], rfl⟩
      · exact ⟨.tooDeep (.reference name), by simp only [Expansion.of, hd, if_neg hname], rfl⟩

/-- **An expansion admits what conforms to its declaration**, with as many levels left as lie
between the depth of the declaration and the limit.  The induction is on these levels: every
container that is looked into uses one up. -/
theorem admits_of_iff_conforms (compiler : Compiler) (room depth : Nat) (names : List String)
    (node : Node) (entry : Option Value) (hroom : depth + room = compiler.maxDepth) :
    (Expansion.of compiler.table room names node).Admits entry ↔
      compiler.Conforms depth names node entry := by
  induction room using Nat.strongRecOn generalizing depth names node entry with
  | ind room ih =>
    rcases absent_or_present entry with ha | ⟨value, rfl, hn⟩
    · rw [Expansion.admits_iff_of_absent ha, conforms_iff_of_absent ha, Expansion.isRequired_of]
    cases node with
    | leaf kind required =>
      rw [Expansion.of, Expansion.admits_leaf_iff hn, conforms_leaf_iff hn]
    | reference reference required =>
      rcases compiler.opaqueReference_or_resolved depth names reference with
        ho | ⟨name, description, rfl, hd, hname, hlt⟩
      · obtain ⟨reason, he, hl⟩ := ho.of_eq_flat hroom
        rw [he, Expansion.admits_flat_iff hn, hl, conforms_reference_iff_of_opaque hn ho]
        rfl
      · obtain ⟨left, rfl⟩ : ∃ left, room = left + 1 := ⟨room - 1, by omega⟩
        rw [Expansion.of_reference_of_resolved hd hname, Expansion.admits_object_iff hn,
          conforms_reference_iff_of_resolved hn hd hname hlt, Expansion.forall_mem_ofFields_iff]
        exact and_congr_right fun _ => forall₂_congr fun field _ =>
          ih left (Nat.lt_succ_self left) (depth + 1) _ _ _ (by omega)
    | arrayOf element required =>
      rcases room with _ | left
      · rw [Expansion.of, Expansion.admits_flat_iff hn, conforms_arrayOf_iff_of_le hn (by omega)]
        rfl
      · rw [Expansion.of, Expansion.admits_arrayOf_iff hn,
          conforms_arrayOf_iff_of_lt hn (by omega)]
        exact exists_congr fun items => and_congr_right fun _ => forall₂_congr fun item _ =>
          ih left (Nat.lt_succ_self left) (depth + 1) _ _ _ (by omega)
    | object fields required =>
      rcases room with _ | left
      · rw [Expansion.of, Expansion.admits_flat_iff hn, conforms_object_iff_of_le hn (by omega)]
        rfl
      · rw [Expansion.of_object_succ, Expansion.admits_object_iff hn,
          conforms_object_iff_of_lt hn (by omega), Expansion.forall_mem_ofFields_iff]
        exact and_congr_right fun _ => forall₂_congr fun field _ =>
          ih left (Nat.lt_succ_self left) (depth + 1) _ _ _ (by omega)

/-- At the top level, all levels are left and no name is being expanded. -/
theorem admits_expand_iff_conforms (compiler : Compiler) (node : Node) (entry : Option Value) :
    (compiler.expand node).Admits entry ↔ compiler.Conforms 0 [] node entry :=
  compiler.admits_of_iff_conforms compiler.maxDepth 0 [] node entry (Nat.zero_add _)

/-- **Acceptance is conformance.**  A compiled schema accepts a document exactly if, for each
declared field, what the document has under its name conforms to the declaration at depth zero with
no name being expanded.  A document that is no object has nothing under any name. -/
theorem validate_eq_accepted_iff_conforms (compiler : Compiler) (description : Description)
    (document : Value) (label : String) :
    (compiler.compile description).validate document label = .accepted ↔
      ∀ name node, (name, node) ∈ description →
        compiler.Conforms 0 [] node (document.get? (.field name)) := by
  rw [CompiledSchema.validate_compile_eq_accepted_iff, Prod.forall]
  exact forall₃_congr fun name node _ =>
    compiler.admits_of_iff_conforms compiler.maxDepth 0 [] node _ (Nat.zero_add _)

end Compiler

/-! ## A sample

A linked list: its cells are described under a name that they refer to themselves. -/

namespace Sample

/-- A cell has a name, and perhaps a next cell. -/
def cell : Description :=
  [("name", .leaf (.string .none) true), ("next", .reference (some "Cell") false)]

/-- The table with the cell. -/
def table : ReferenceTable :=
  ⟨[("Cell", cell)]⟩

/-- A list by its first cell, with more cells beside it, and its owner, whose description is not in
the table. -/
def description : Description :=
  [("head", .reference (some "Cell") true),
    ("spare", .arrayOf (.reference (some "Cell") false) false),
    ("owner", .reference (some "Owner") false)]

/-- A list of two cells, with one beside it.  The second cell has no name: it lies inside the
expansion of the first one, where it is not looked into. -/
def document : Value :=
  .object [("head", .object [("name", .string "a"), ("next", .object [])]),
    ("spare", .array [.object [("name", .string "b")]]),
    ("owner", .object [("first", .object [("name", .string "c")])])]

/-- What an owner is, for a larger table. -/
def owner : Description :=
  [("first", .reference (some "Cell") true)]

end Sample

end DocSchema
