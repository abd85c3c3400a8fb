import DocSchema.Proofs.Conformance

/-!
# Looking less far accepts more

A compiler that knows fewer names, or that stops at a lower depth, checks some containers for their
type only that another compiler looks into.  Such a check is weaker than what it stands for, so the
first compiler accepts every document that the second one accepts.

## Why the names being expanded do not matter

A new name in the table changes where a cycle is cut, for the expansion of the new name may use
names that are also used elsewhere.  It cannot cut a cycle *earlier*, though.  As long as both
compilers look into every container on the way to a declaration, they have expanded the same names
there; and where the one that looks less far has stopped, it asks no more than the type.  The two
are therefore compared at the same depth and inside the same names, by induction on the rules of the
stricter one.

* `ReferenceTable.Extends`: a table with all descriptions of another one.
* `Compiler.Conforms.of_extends`: what conforms for a larger table and a higher limit conforms for
  the smaller ones.
* `Compiler.accepted_of_accepted_of_extends`: the same for the acceptance of documents.
-/

namespace DocSchema

/-- Whether a table has all descriptions of another one, and possibly more. -/
def ReferenceTable.Extends (larger table : ReferenceTable) : Prop :=
  ∀ name description, table.get? name = some description → larger.get? name = some description

/-- Registering a description extends the table. -/
theorem ReferenceTable.extends_of_register {table larger : ReferenceTable} {name : String}
    {description : Description} (h : table.register name description = .ok larger) :
    larger.Extends table := by
  unfold register at h
  split at h
  · cases h
  · rename_i hnew
    cases h
    intro other description' hother
    have hne : name ≠ other := by
      rintro rfl
      refine hnew ?_
      rw [contains, Assoc.contains, show table.entries.get? name = some description' from hother]
      rfl
    show (table.entries.put name description).get? other = some description'
    rw [Assoc.get?_put_of_ne table.entries description hne]
    exact hother

namespace Compiler

variable {table larger : ReferenceTable} {limit higher depth : Nat} {names : List String}

/-- A reference that is opaque to a compiler is opaque to one that looks less far. -/
theorem OpaqueReference.of_extends {reference : Option String} (htable : larger.Extends table)
    (hlimit : limit ≤ higher)
    (h : OpaqueReference ⟨larger, higher⟩ depth names reference) :
    OpaqueReference ⟨table, limit⟩ depth names reference := by
  cases h with
  | unnamed => exact .unnamed
  | @unresolved name hnone =>
    refine .unresolved ?_
    cases hd : table.get? name with
    | none => rfl
    | some description =>
      have hsome : larger.get? name = some description := htable name description hd
      rw [show larger.get? name = none from hnone] at hsome
      cases hsome
  | circular hname => exact .circular hname
  | tooDeep hle => exact .tooDeep (Nat.le_trans hlimit hle)

/-- What conforms for a larger table and a higher limit conforms for the smaller ones. -/
theorem Conforms.of_extends {node : Node} {entry : Option Value} (htable : larger.Extends table)
    (hlimit : limit ≤ higher) (h : Conforms ⟨larger, higher⟩ depth names node entry) :
    Conforms ⟨table, limit⟩ depth names node entry := by
  induction h with
  | absent ha hr => exact .absent ha hr
  | leaf hn hk => exact .leaf hn hk
  | flatArray hle => exact .flatArray (Nat.le_trans hlimit hle)
  | flatObject hle hv => exact .flatObject (Nat.le_trans hlimit hle) hv
  | opaqueReference ho hv => exact .opaqueReference (ho.of_extends htable hlimit) hv
  | @array depth names element required items _ _ ih =>
    -- the compiler that looks less far may have stopped here
    rcases Nat.lt_or_ge depth limit with hlt | hle
    · exact .array hlt ih
    · exact .flatArray hle
  | @object depth names fields required value _ hv _ ih =>
    rcases Nat.lt_or_ge depth limit with hlt | hle
    · exact .object hlt hv ih
    · exact .flatObject hle hv
  | @reference depth names name description required value hd _ _ hv _ ih =>
    rcases opaqueReference_or_resolved ⟨table, limit⟩ depth names (some name) with
      ho | ⟨_, description', hn, hd', hname, hlt⟩
    · exact .opaqueReference ho hv
    · cases hn
      have hsame : larger.get? name = some description' := htable name description' hd'
      rw [show larger.get? name = some description from hd] at hsame
      cases hsame
      exact .reference hd' hname hlt hv ih

/-- **Looking less far accepts more.**  A document that is accepted with a larger reference table
and a higher limit is accepted with the smaller ones, whatever cycles the tables have.  The smaller
table may be empty. -/
theorem accepted_of_accepted_of_extends (htable : larger.Extends table) (hlimit : limit ≤ higher)
    (description : Description) (document : Value) (label : String)
    (h : (compile ⟨larger, higher⟩ description).validate document label = .accepted) :
    (compile ⟨table, limit⟩ description).validate document label = .accepted := by
  rw [CompiledSchema.validate_compile_eq_accepted_iff] at h ⊢
  intro field hfield
  have hconforms := (admits_of_iff_conforms ⟨larger, higher⟩ higher 0 [] field.2 _
    (Nat.zero_add _)).mp (h field hfield)
  exact (admits_of_iff_conforms ⟨table, limit⟩ limit 0 [] field.2 _ (Nat.zero_add _)).mpr
    (hconforms.of_extends htable hlimit)

/-- The sample is accepted when the table says what an owner is, and so it is without. -/
theorem accepted_sample_of_larger_table :
    ((Sample.table.insert "Owner" Sample.owner).Extends Sample.table ∧ 1 ≤ 4 ∧
      (compile ⟨Sample.table.insert "Owner" Sample.owner, 4⟩ Sample.description).validate
        Sample.document "List" = .accepted) ∧
      (compile ⟨Sample.table, 1⟩ Sample.description).validate Sample.document "List" =
        .accepted := by
  have hregister : Sample.table.register "Owner" Sample.owner =
      .ok (Sample.table.insert "Owner" Sample.owner) := rfl
  have htable := ReferenceTable.extends_of_register hregister
  have haccepted : (compile ⟨Sample.table.insert "Owner" Sample.owner, 4⟩
      Sample.description).validate Sample.document "List" = .accepted := by
    decide
  exact ⟨⟨htable, by decide, haccepted⟩,
    accepted_of_accepted_of_extends htable (by decide) _ _ _ haccepted⟩

end Compiler

end DocSchema
