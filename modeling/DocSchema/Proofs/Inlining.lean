import DocSchema.Proofs.Conformance
import Mathlib.Data.Finset.Card
import Mathlib.Data.Finset.Dedup

/-!
# Compiling is inlining followed by truncation

References and the depth limit add nothing to what schemas can say.  A description with references
is compiled like the one where every reference is replaced by the fields of its description, and a
limit on the depth like cutting off what lies below it.  Both replacements are made on declarations,
so that the result can be read without a table and without a limit.

## Why inlining ends

A name is not inlined again inside its own description.  Going into a description adds its name to
the names being expanded, so there are fewer registered names left, and everywhere else the
declarations get smaller.

* `Node.inline`, `Description.inline`: references replaced by objects, cycles by opaque objects.
* `Node.truncate`, `Description.truncate`: containers at the limit replaced by opaque ones.
* `Expansion.validator_of_eq`: the expansion of a declaration has the validator of the declaration
  that is inlined and truncated.
* `Compiler.compile_truncate_inline`: the same for descriptions.
-/

namespace DocSchema

/-! ## Inlining -/

/-- The number of registered names that are not being expanded. -/
def ReferenceTable.unexpanded (table : ReferenceTable) (names : List String) : Nat :=
  (table.names.toFinset \ names.toFinset).card

theorem ReferenceTable.unexpanded_cons_lt {table : ReferenceTable} {names : List String}
    {name : String} {description : Description} (hd : table.get? name = some description)
    (hname : name ∉ names) : table.unexpanded (name :: names) < table.unexpanded names := by
  have hmem : name ∈ table.names.toFinset \ names.toFinset := by
    rw [Finset.mem_sdiff, List.mem_toFinset, List.mem_toFinset]
    exact ⟨Assoc.mem_names_of_get?_eq_some hd, hname⟩
  rw [unexpanded, unexpanded, List.toFinset_cons, Finset.sdiff_insert]
  exact Finset.card_erase_lt_of_mem hmem

namespace Node

mutual

/-- The declaration with its references replaced, inside the descriptions of some names.  A
registered name becomes an object with the fields of its description, unless that is where it
stands; all other references become opaque objects. -/
def inline (table : ReferenceTable) (names : List String) : Node → Node
  | leaf kind required => leaf kind required
  | reference none required => leaf .map required
  | reference (some name) required =>
    match _hd : table.get? name with
    | none => leaf .map required
    | some description =>
      if _hname : name ∈ names then leaf .map required
      else object (inlineFields table (name :: names) description) required
  | arrayOf element required => arrayOf (element.inline table names) required
  | object fields required => object (inlineFields table names fields) required
termination_by node => (table.unexpanded names, sizeOf node)
decreasing_by
  · exact Prod.Lex.left _ _ (ReferenceTable.unexpanded_cons_lt _hd _hname)
  · exact Prod.Lex.right _ (by simp only [arrayOf.sizeOf_spec]; omega)
  · exact Prod.Lex.right _ (by simp only [object.sizeOf_spec]; omega)

/-- The declarations of fields with their references replaced. -/
def inlineFields (table : ReferenceTable) (names : List String) :
    List (String × Node) → List (String × Node)
  | [] => []
  | (name, node) :: rest => (name, node.inline table names) :: inlineFields table names rest
termination_by fields => (table.unexpanded names, sizeOf fields)

end

variable {table : ReferenceTable} {names : List String}

theorem inlineFields_eq_map (fields : List (String × Node)) :
    inlineFields table names fields =
      fields.map fun field => (field.1, field.2.inline table names) := by
  induction fields with
  | nil => rw [inlineFields]; rfl
  | cons field rest ih => rw [inlineFields, ih, List.map_cons]

theorem inline_reference_of_resolved {name : String} {description : Description} {required : Bool}
    (hd : table.get? name = some description) (hname : name ∉ names) :
    (reference (some name) required).inline table names =
      object (inlineFields table (name :: names) description) required := by
  rw [inline]
  split
  · rename_i h
    rw [hd] at h
    cases h
  · rename_i description' h
    rw [hd] at h
    cases h
    rw [dif_neg hname]

theorem inline_reference_of_unresolved {name : String} {required : Bool}
    (h : table.get? name = none ∨ name ∈ names) :
    (reference (some name) required).inline table names = leaf .map required := by
  rw [inline]
  split
  · rfl
  · rename_i hd
    rcases h with h | h
    · rw [hd] at h
      cases h
    · rw [dif_pos h]

/-! ## Truncation -/

mutual

/-- The declaration without what lies at the limit or below it, when there are `depth` containers
around it: an array there has any elements, and an object any fields. -/
def truncate (limit depth : Nat) : Node → Node
  | leaf kind required => leaf kind required
  | reference name required => reference name required
  | arrayOf element required =>
    if limit ≤ depth then leaf .anyArray required
    else arrayOf (element.truncate limit (depth + 1)) required
  | object fields required =>
    if limit ≤ depth then leaf .map required
    else object (truncateFields limit (depth + 1) fields) required

/-- The declarations of fields without what lies at the limit or below it. -/
def truncateFields (limit depth : Nat) : List (String × Node) → List (String × Node)
  | [] => []
  | (name, node) :: rest => (name, node.truncate limit depth) :: truncateFields limit depth rest

end

theorem truncateFields_eq_map (limit depth : Nat) (fields : List (String × Node)) :
    truncateFields limit depth fields =
      fields.map fun field => (field.1, field.2.truncate limit depth) := by
  induction fields with
  | nil => rfl
  | cons field rest ih => rw [truncateFields, ih, List.map_cons]

/-- What is left of an opaque reference is an opaque object, whether inlining or the limit makes it
one. -/
theorem truncate_inline_of_opaque {limit depth : Nat} {reference : Option String} {required : Bool}
    (h : Compiler.OpaqueReference ⟨table, limit⟩ depth names reference) :
    ((Node.reference reference required).inline table names).truncate limit depth =
      leaf .map required := by
  cases h with
  | unnamed => rw [inline, truncate]
  | unresolved hd => rw [inline_reference_of_unresolved (Or.inl hd), truncate]
  | circular hname => rw [inline_reference_of_unresolved (Or.inr hname), truncate]
  | @tooDeep name hle =>
    cases hd : table.get? name with
    | none => rw [inline_reference_of_unresolved (Or.inl hd), truncate]
    | some description =>
      by_cases hname : name ∈ names
      · rw [inline_reference_of_unresolved (Or.inr hname), truncate]
      · rw [inline_reference_of_resolved hd hname, truncate, if_pos hle]

end Node

/-- The description with its references replaced. -/
def Description.inline (table : ReferenceTable) (description : Description) : Description :=
  Node.inlineFields table [] description

/-- The description without containers at the limit; those directly in it have depth zero. -/
def Description.truncate (limit : Nat) (description : Description) : Description :=
  Node.truncateFields limit 0 description

/-! ## Validators -/

namespace Expansion

/-- **An expansion has the validator of the inlined and truncated declaration.**  The latter has no
references left, so that neither the table nor the names being expanded matter to it, and no
container at the limit, so that any higher limit does as well. -/
theorem validator_of_eq (table : ReferenceTable) {room higher depth limit : Nat}
    (names others : List String) (node : Node) (hroom : depth + room = limit)
    (hhigher : room ≤ higher) :
    (of table room names node).validator =
      (of .empty higher others ((node.inline table names).truncate limit depth)).validator := by
  induction room using Nat.strongRecOn generalizing higher depth names others node with
  | ind room ih =>
    have hfields (left higher' : Nat) (names : List String) (fields : Description)
        (hleft : left < room) (hdepth : depth + 1 + left = limit) (hle : left ≤ higher') :
        fieldValidators (ofFields table left names fields) =
          fieldValidators (ofFields .empty higher' others
            (Node.truncateFields limit (depth + 1) (Node.inlineFields table names fields))) := by
      rw [fieldValidators_eq_map, fieldValidators_eq_map, ofFields, ofFields,
        Node.truncateFields_eq_map, Node.inlineFields_eq_map, List.map_map, List.map_map,
        List.map_map, List.map_map]
      refine List.map_congr_left fun field _ => ?_
      exact congrArg (Prod.mk field.1) (ih left hleft names others field.2 hdepth hle)
    cases node with
    | leaf kind required => rw [Node.inline, Node.truncate, of, of]
    | reference reference required =>
      rcases Compiler.opaqueReference_or_resolved ⟨table, limit⟩ depth names reference with
        ho | ⟨name, description, rfl, hd, hname, hlt⟩
      · obtain ⟨reason, he, hl⟩ := ho.of_eq_flat hroom
        rw [he, Node.truncate_inline_of_opaque ho, of, validator_flat, hl]
      · have hpos : depth < limit := hlt
        obtain ⟨left, rfl⟩ : ∃ left, room = left + 1 := ⟨room - 1, by omega⟩
        obtain ⟨higher, rfl⟩ : ∃ h, higher = h + 1 := ⟨higher - 1, by omega⟩
        rw [of_reference_of_resolved hd hname, Node.inline_reference_of_resolved hd hname,
          Node.truncate, if_neg (Nat.not_le.mpr hpos), of_object_succ, validator, validator,
          hfields left higher (name :: names) description (Nat.lt_succ_self left) (by omega)
            (by omega)]
    | arrayOf element required =>
      rcases room with _ | left
      · rw [Node.inline, Node.truncate, if_pos (by omega), of, of, validator_flat]
        rfl
      · obtain ⟨higher, rfl⟩ : ∃ h, higher = h + 1 := ⟨higher - 1, by omega⟩
        have hnext : depth + 1 + left = limit := by omega
        rw [Node.inline, Node.truncate, if_neg (by omega), of, of, validator, validator,
          ih left (Nat.lt_succ_self left) names others element hnext
            (Nat.le_of_succ_le_succ hhigher)]
    | object fields required =>
      rcases room with _ | left
      · rw [Node.inline, Node.truncate, if_pos (by omega), of, of, validator_flat]
        rfl
      · obtain ⟨higher, rfl⟩ : ∃ h, higher = h + 1 := ⟨higher - 1, by omega⟩
        rw [Node.inline, Node.truncate, if_neg (by omega), of_object_succ, of_object_succ,
          validator, validator, hfields left higher names fields (Nat.lt_succ_self left) (by omega)
            (by omega)]

end Expansion

/-! ## Compiled schemas -/

namespace Compiler

variable {limit higher : Nat}

/-- The inlined and truncated description is compiled to the same validators, without a table and
with any limit that is not lower. -/
theorem compile_truncate_inline (table : ReferenceTable) (description : Description)
    (hlimit : limit ≤ higher) :
    compile ⟨.empty, higher⟩ ((description.inline table).truncate limit) =
      compile ⟨table, limit⟩ description := by
  have hfields : (compile ⟨.empty, higher⟩ ((description.inline table).truncate limit)).fields =
      (compile ⟨table, limit⟩ description).fields := by
    rw [fields_compile, fields_compile, Description.truncate, Description.inline,
      Node.truncateFields_eq_map, Node.inlineFields_eq_map, List.map_map, List.map_map]
    refine List.map_congr_left fun field _ => ?_
    have hvalidator := Expansion.validator_of_eq table [] [] field.2 (Nat.zero_add limit) hlimit
    exact congrArg (Prod.mk field.1) hvalidator.symm
  exact congrArg CompiledSchema.mk hfields

/-- **References and the limit are inlining followed by truncation.**  Compiled with a table and a
limit, a description has the same fields in the same order, with the same flags and the same
verdicts on all documents, as the inlined and truncated description compiled without a table and
with any limit that is not lower. -/
theorem compile_agrees_with_truncate_inline (table : ReferenceTable) (description : Description)
    (hlimit : limit ≤ higher) :
    (compile ⟨table, limit⟩ description).fields.names =
        (compile ⟨.empty, higher⟩ ((description.inline table).truncate limit)).fields.names ∧
      (compile ⟨table, limit⟩ description).fields.map (fun field => field.2.isRequired) =
        (compile ⟨.empty, higher⟩ ((description.inline table).truncate limit)).fields.map
          (fun field => field.2.isRequired) ∧
      ∀ document label,
        (compile ⟨table, limit⟩ description).validate document label =
          (compile ⟨.empty, higher⟩ ((description.inline table).truncate limit)).validate
            document label := by
  rw [compile_truncate_inline table description hlimit]
  exact ⟨rfl, rfl, fun _ _ => rfl⟩

/-- The sample, compiled with a limit of one and with a limit of two. -/
theorem compile_sample_agrees_with_truncate_inline :
    1 ≤ 2 ∧
      (compile ⟨Sample.table, 1⟩ Sample.description).fields.names =
          (compile ⟨.empty, 2⟩
            ((Sample.description.inline Sample.table).truncate 1)).fields.names ∧
        (compile ⟨Sample.table, 1⟩ Sample.description).fields.map
            (fun field => field.2.isRequired) =
          (compile ⟨.empty, 2⟩ ((Sample.description.inline Sample.table).truncate 1)).fields.map
            (fun field => field.2.isRequired) ∧
        ∀ document label,
          (compile ⟨Sample.table, 1⟩ Sample.description).validate document label =
            (compile ⟨.empty, 2⟩ ((Sample.description.inline Sample.table).truncate 1)).validate
              document label :=
  ⟨by decide, compile_agrees_with_truncate_inline Sample.table Sample.description (by decide)⟩

/-- The cycle ends at the second cell of the list, the limit at the cells of the array, and there is
no description of an owner. -/
example : (Sample.description.inline Sample.table).truncate 1 =
    [("head", .object [("name", .leaf (.string .none) true), ("next", .leaf .map false)] true),
      ("spare", .arrayOf (.leaf .map false) false), ("owner", .leaf .map false)] := by
  cbv

end Compiler

end DocSchema
