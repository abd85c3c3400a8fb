import DocSchema.Proofs.Expansion

/-!
# Absent values

Whether an absent value passes is decided by the flag of its declaration and by nothing else.  What
the declaration asks of a value only shows in the words of the report: it names the bare key where
constraints are looked at beside the type, and the full path where the type test stands alone.

## Why the kind shows at all

A type test names a missing value by its path, a list of checks by its key.  A list with one member
is that member, so a text or a number changes its way of naming with its first constraint.  Allowed
texts are a single check in place of all others, and containers are never in a list, however they
were flattened.

* `Leaf.Constrained`, `Node.NamesKey`: where constraints are looked at beside the type.
* `Leaf.namesPath_eq_false_iff`, `Expansion.namesPath_of_eq_false_iff`: how a missing value is
  named.
* `Compiler.failure?_compileNode_of_absent`: what is reported of an absent value.
-/

namespace DocSchema

/-! ## Constraints beside the type -/

/-- Whether a leaf has constraints that are looked at beside its type.  A list of allowed texts
stands in place of all of them. -/
def Leaf.Constrained : Leaf → Prop
  | string rule =>
    rule.allowed.isNone ∧ (rule.pattern.isSome ∨ rule.minLength.isSome ∨ rule.maxLength.isSome)
  | number bounds | decimal bounds => bounds.min.isSome ∨ bounds.max.isSome
  | date bounds => bounds.min.isSome ∨ bounds.max.isSome
  | boolean | map | anyArray | unknown => False

instance : DecidablePred Leaf.Constrained
  | .string _ => inferInstanceAs (Decidable (_ ∧ _))
  | .number _ | .decimal _ | .date _ => inferInstanceAs (Decidable (_ ∨ _))
  | .boolean | .map | .anyArray | .unknown => inferInstanceAs (Decidable False)

/-- Whether a missing value of a declaration is named by its bare key. -/
def Node.NamesKey : Node → Prop
  | leaf kind _ => kind.Constrained
  | reference _ _ | arrayOf _ _ | object _ _ => False

instance : DecidablePred Node.NamesKey
  | .leaf kind _ => inferInstanceAs (Decidable kind.Constrained)
  | .reference _ _ | .arrayOf _ _ | .object _ _ => inferInstanceAs (Decidable False)

/-! ## How leaves name a missing value -/

namespace Leaf

/-- A check that names the path loses its way of naming exactly if there are other checks. -/
theorem namesPath_eq_false_iff_of_checks {kind : Leaf} {t : Test} {rest : List Test}
    (h : kind.checks = t :: rest) (ht : t.namesPath = true) :
    kind.namesPath = false ↔ rest ≠ [] := by
  rw [namesPath, h]
  cases rest with
  | nil => simp [ht]
  | cons u others => simp

theorem boundChecks_ne_nil_iff {α : Type} {limit : α → Limit} {bounds : Bounds α} :
    boundChecks limit bounds ≠ [] ↔ bounds.min.isSome ∨ bounds.max.isSome := by
  obtain ⟨min, max⟩ := bounds
  cases min <;> cases max <;> simp [boundChecks]

/-- A leaf names a missing value by its bare key exactly if it has constraints. -/
theorem namesPath_eq_false_iff (kind : Leaf) : kind.namesPath = false ↔ kind.Constrained := by
  cases kind with
  | string rule =>
    obtain ⟨pattern, minLength, maxLength, allowed⟩ := rule
    cases allowed with
    | some texts =>
      rw [namesPath_eq_false_iff_of_checks rfl rfl]
      simp [Constrained]
    | none =>
      rw [namesPath_eq_false_iff_of_checks rfl rfl]
      cases pattern <;> cases minLength <;> cases maxLength <;> simp [Constrained]
  | number bounds | decimal bounds | date bounds =>
    rw [namesPath_eq_false_iff_of_checks rfl rfl, boundChecks_ne_nil_iff]
    rfl
  | boolean | map | anyArray | unknown =>
    rw [namesPath_eq_false_iff_of_checks rfl rfl]
    simp [Constrained]

end Leaf

/-! ## How expansions name a missing value -/

namespace Expansion

variable {table : ReferenceTable} {names : List String}

/-- Only leaves with constraints name the bare key.  What is left of a flat container has none. -/
theorem namesPath_eq_false_iff {e : Expansion} :
    e.namesPath = false ↔ ∃ kind required, e = leaf kind required ∧ kind.Constrained := by
  cases e with
  | leaf kind required =>
    rw [namesPath, Leaf.namesPath_eq_false_iff]
    simp
  | flat reason required =>
    have hleaf : ¬ reason.leaf.Constrained := by
      rcases reason with (_ | _ | _) | _ | _ | _ <;> exact id
    rw [namesPath, Leaf.namesPath_eq_false_iff]
    simp [hleaf]
  | arrayOf element required | object fields name required => simp [namesPath]

/-- Only a leaf is expanded to a leaf. -/
theorem of_eq_leaf_iff {room : Nat} {node : Node} {kind : Leaf} {required : Bool} :
    of table room names node = leaf kind required ↔ node = .leaf kind required := by
  cases node with
  | leaf other flag => rw [of]; simp
  | reference reference flag =>
    rcases reference with _ | name
    · rw [of]; simp
    · rw [of]
      cases table.get? name with
      | none => simp
      | some description =>
        by_cases hname : name ∈ names
        · simp [hname]
        · cases room <;> simp [hname]
  | arrayOf element flag | object fields flag => cases room <;> rw [of] <;> simp

/-- The expansion of a declaration names a missing value as the declaration does, wherever it
stands and whatever was flattened. -/
theorem namesPath_of_eq_false_iff (table : ReferenceTable) (room : Nat) (names : List String)
    (node : Node) : (of table room names node).namesPath = false ↔ node.NamesKey := by
  simp only [namesPath_eq_false_iff, of_eq_leaf_iff]
  cases node <;> simp [Node.NamesKey]

end Expansion

/-! ## The report -/

/-- What an absent value is called depends on whether it is null. -/
theorem Slot.absentLabel_of_absent (slot : Slot) (h : Absent slot.value?) :
    (slot.value? = some .null ∧ slot.absentLabel = "null") ∨
      (slot.value? = none ∧ slot.absentLabel = "undefined") := by
  rcases h with h | h
  · exact .inr ⟨h, by rw [absentLabel, h]⟩
  · exact .inl ⟨h, by rw [absentLabel, h]⟩

/-- The validator of a declaration at any depth: an absent value fails exactly if it is required,
and it is named as the declaration says. -/
theorem Expansion.failure?_of_of_absent (table : ReferenceTable) (room : Nat) (names : List String)
    (node : Node) {slot : Slot} {label : String} (h : Absent slot.value?) :
    (of table room names node).validator.failure? slot label =
      if node.isRequired then some (Validator.missing slot label (!decide node.NamesKey))
      else none := by
  have hnames : (of table room names node).namesPath = !decide node.NamesKey := by
    rw [Bool.eq_iff_iff, Bool.not_eq_true', decide_eq_false_iff_not,
      ← namesPath_of_eq_false_iff table room names node, Bool.not_eq_false]
  rw [failure?_of_absent _ (Slot.present?_eq_none_iff.mpr h), isRequired_of, hnames]

/-- **Absence is decided by the flag alone, and named by the kind.**  Under a key that is missing or
holds null, or in a value that cannot have the key, a declaration reports nothing unless it is
required.  Then it reports the missing value at its path, by the bare key if constraints are looked
at beside the type and by the full path otherwise. -/
theorem Compiler.failure?_compileNode_of_absent (compiler : Compiler) (node : Node)
    (container : Value) (key : Segment) (parent : Path) (label : String)
    (habsent : Absent (container.get? key)) :
    ((compiler.compileNode node).failure? ⟨container, key, parent⟩ label = none ↔
      node.isRequired = false) ∧
    (node.isRequired = true →
      ∃ shown got,
        (node.NamesKey ∧ shown = key.render ∨
          ¬ node.NamesKey ∧ shown = (parent.push key).render) ∧
        (container.get? key = some .null ∧ got = "null" ∨
          container.get? key = none ∧ got = "undefined") ∧
        (compiler.compileNode node).failure? ⟨container, key, parent⟩ label = some
          { path := parent.push key
            kind := .requiredMissing
            code := "required"
            message := "The prop `" ++ shown ++ "` is marked as required in `" ++ label ++
              "`, but its value is `" ++ got ++ "`."
            got := some got
            expected := some "value" }) := by
  let slot : Slot := ⟨container, key, parent⟩
  have hreport : (compiler.compileNode node).failure? slot label =
      if node.isRequired then some (Validator.missing slot label (!decide node.NamesKey))
      else none :=
    Expansion.failure?_of_of_absent compiler.table compiler.maxDepth [] node habsent
  refine ⟨?_, fun hrequired => ?_⟩
  · rw [hreport]
    cases node.isRequired <;> simp
  · rw [hrequired, if_pos rfl] at hreport
    refine ⟨if !decide node.NamesKey then slot.path.render else slot.name, slot.absentLabel, ?_,
      slot.absentLabel_of_absent habsent, hreport⟩
    by_cases hkey : node.NamesKey
    · exact .inl ⟨hkey, by simp [hkey, slot, Slot.name]⟩
    · exact .inr ⟨hkey, by simp [hkey, slot, Slot.path]⟩

/-- A number with a limit, asked for behind the end of an array, is named by its position alone. -/
theorem Compiler.failure?_compileNode_behind_end :
    Absent ((Value.array []).get? (.index 3)) ∧
      (Compiler.default.compileNode (.leaf (.number ⟨some 1.5, none⟩) true)).failure?
          ⟨.array [], .index 3, ⟨[.field "list"]⟩⟩ "Form" =
        some ⟨⟨[.field "list", .index 3]⟩, .requiredMissing, "required",
          "The prop `3` is marked as required in `Form`, but its value is `undefined`.",
          some "undefined", some "value"⟩ := by
  have habsent : Absent ((Value.array []).get? (.index 3)) := .inl rfl
  obtain ⟨shown, got, hshown, hgot, hreport⟩ :=
    (failure?_compileNode_of_absent Compiler.default (.leaf (.number ⟨some 1.5, none⟩) true)
      (.array []) (.index 3) ⟨[.field "list"]⟩ "Form" habsent).2 rfl
  refine ⟨habsent, ?_⟩
  rcases hshown with ⟨-, rfl⟩ | ⟨hkey, -⟩
  · rcases hgot with ⟨hnull, -⟩ | ⟨-, rfl⟩
    · cases hnull
    · exact hreport
  · exact absurd (.inl rfl) hkey

end DocSchema
