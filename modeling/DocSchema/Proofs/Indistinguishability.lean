import DocSchema.Proofs.Conformance

/-!
# What a schema looks at

A schema looks at the types of containers, at the values of leaves and at nothing else.  Two entries
that agree on this are indistinguishable to a declaration: they may have other keys in another
order, and anything at all inside containers that are only checked for their type.  Validators then
report the same failures of both, to the last letter of the message.

The rules are those of conformance, with two entries in the place of one.  The failures are compared
at one place in two containers, since a failure shows where it is and what it found, but nothing of
what is beside it.

* `Leaf.Indistinguishable`: what a leaf looks at.
* `Compiler.Indistinguishable`: what a declaration looks at.
* `Leaf.findSome?_checks_eq`: the checks of a leaf report the same.
* `Compiler.failure?_eq_of_indistinguishable`: the validator of a declaration reports the same.
* `Compiler.validate_eq_of_indistinguishable`: documents that agree on every declared field have the
  same verdict.
-/

namespace DocSchema

open Calendar (Instant)

/-! ## What a declaration looks at -/

/-- Whether a leaf cannot tell two present values apart.  An allowed text is compared with the whole
value, and the failure shows it; otherwise only values of the right type are looked at.  The two
zeros are different numbers here, since a failure spells them differently. -/
def Leaf.Indistinguishable : Leaf → Value → Value → Prop
  | string rule, value, other =>
    match rule.allowed with
    | some _ => value = other
    | none => value.typeName = other.typeName ∧
      ∀ s t, value = .string s → other = .string t → s = t
  | number _, value, other | decimal _, value, other =>
    value.typeName = other.typeName ∧ ∀ x y, value = .number x → other = .number y → x = y
  | date _, value, other =>
    value.typeName = other.typeName ∧ ∀ t u, value = .date t → other = .date u → t = u
  | boolean, value, other | map, value, other | anyArray, value, other =>
    value.typeName = other.typeName
  | unknown, _, _ => True

/-- Whether a declaration that has `depth` containers around it, inside the expansions of `names`,
cannot tell two entries apart. -/
inductive Compiler.Indistinguishable (compiler : Compiler) :
    Nat → List String → Node → Option Value → Option Value → Prop
  | missing {depth : Nat} {names : List String} {node : Node} :
    Indistinguishable compiler depth names node none none
  | null {depth : Nat} {names : List String} {node : Node} :
    Indistinguishable compiler depth names node (some .null) (some .null)
  | leaf {depth : Nat} {names : List String} {kind : Leaf} {required : Bool}
    {value other : Value} :
    value.isNull = false → other.isNull = false → kind.Indistinguishable value other →
      Indistinguishable compiler depth names (.leaf kind required) (some value) (some other)
  /-- A container below the limit has to have the same type, and that is all. -/
  | flatArray {depth : Nat} {names : List String} {element : Node} {required : Bool}
    {value other : Value} :
    compiler.maxDepth ≤ depth → value.isNull = false → other.isNull = false →
      value.typeName = other.typeName →
      Indistinguishable compiler depth names (.arrayOf element required) (some value) (some other)
  | flatObject {depth : Nat} {names : List String} {fields : Description} {required : Bool}
    {value other : Value} :
    compiler.maxDepth ≤ depth → value.isNull = false → other.isNull = false →
      value.typeName = other.typeName →
      Indistinguishable compiler depth names (.object fields required) (some value) (some other)
  | opaqueReference {depth : Nat} {names : List String} {reference : Option String}
    {required : Bool} {value other : Value} :
    compiler.OpaqueReference depth names reference → value.isNull = false →
      other.isNull = false → value.typeName = other.typeName →
      Indistinguishable compiler depth names (.reference reference required) (some value)
        (some other)
  /-- Arrays have to be equally long, with elements that cannot be told apart pair by pair. -/
  | array {depth : Nat} {names : List String} {element : Node} {required : Bool}
    {value other : Value} :
    depth < compiler.maxDepth → value.isNull = false → other.isNull = false →
      value.typeName = other.typeName →
      (∀ items others, value = .array items → other = .array others →
        items.length = others.length) →
      (∀ items others, value = .array items → other = .array others →
        ∀ pair ∈ items.zip others,
          Indistinguishable compiler (depth + 1) names element (some pair.1) (some pair.2)) →
      Indistinguishable compiler depth names (.arrayOf element required) (some value) (some other)
  /-- Objects have to have entries under the declared names that cannot be told apart. -/
  | object {depth : Nat} {names : List String} {fields : Description} {required : Bool}
    {value other : Value} :
    depth < compiler.maxDepth → value.isNull = false → other.isNull = false →
      value.typeName = other.typeName →
      (value.typeName = "object" → ∀ field ∈ fields,
        Indistinguishable compiler (depth + 1) names field.2 (value.get? (.field field.1))
          (other.get? (.field field.1))) →
      Indistinguishable compiler depth names (.object fields required) (some value) (some other)
  | reference {depth : Nat} {names : List String} {name : String} {description : Description}
    {required : Bool} {value other : Value} :
    compiler.table.get? name = some description → name ∉ names → depth < compiler.maxDepth →
      value.isNull = false → other.isNull = false → value.typeName = other.typeName →
      (value.typeName = "object" → ∀ field ∈ description,
        Indistinguishable compiler (depth + 1) (name :: names) field.2
          (value.get? (.field field.1)) (other.get? (.field field.1))) →
      Indistinguishable compiler depth names (.reference (some name) required) (some value)
        (some other)

/-! ## Types -/

namespace Value

variable {value other : Value}

/-- All that is said of the type of a value follows from its name. -/
theorem names_eq_of_typeName_eq (h : value.typeName = other.typeName) :
    value.primitiveName = other.primitiveName ∧ value.className = other.className ∧
      value.date?.isSome = other.date?.isSome := by
  cases value <;> cases other <;> simp_all [typeName, primitiveName, className, date?]

theorem typeName_eq_array_iff : value.typeName = "array" ↔ ∃ items, value = .array items := by
  cases value <;> simp [typeName]

/-- Objects have entries, and so does nothing else with the type of an object. -/
theorem get?_field_of_typeName_ne (h : value.typeName ≠ "object") (name : String) :
    value.get? (.field name) = none := by
  cases value with
  | object entries => exact absurd rfl h
  | _ => rfl

end Value

/-! ## One place in two containers -/

variable {container beside value other : Value} {key : Segment} {parent : Path} {label : String}

/-- A test shows where a value is and what it is, and nothing of the container around it. -/
theorem Test.failureOf_beside (t : Test) :
    t.failureOf ⟨container, key, parent⟩ label value =
      t.failureOf ⟨beside, key, parent⟩ label value := by
  cases t <;> rfl

theorem Test.failureOf_primitive_eq {type : Primitive} (h : value.typeName = other.typeName) :
    (primitive type).failureOf ⟨container, key, parent⟩ label value =
      (primitive type).failureOf ⟨beside, key, parent⟩ label other := by
  obtain ⟨hprimitive, -, -⟩ := Value.names_eq_of_typeName_eq h
  rw [failureOf, failureOf, hprimitive, h]
  rfl

theorem Test.failureOf_date_eq (h : value.typeName = other.typeName) :
    date.failureOf ⟨container, key, parent⟩ label value =
      date.failureOf ⟨beside, key, parent⟩ label other := by
  obtain ⟨-, hclass, hdate⟩ := Value.names_eq_of_typeName_eq h
  rw [failureOf, failureOf, hclass, hdate, h]
  rfl

/-! ## Leaves -/

namespace Leaf

theorem findSome?_failureOf_beside (tests : List Test) :
    (tests.findSome? fun t => t.failureOf ⟨container, key, parent⟩ label value) =
      tests.findSome? fun t => t.failureOf ⟨beside, key, parent⟩ label value :=
  congrArg (tests.findSome? ·) (funext fun t => t.failureOf_beside)

/-- Behind a type test constraints only see values of the right type. -/
theorem findSome?_eq_of_typeTest {test : Test} {rest : List Test}
    (htest : test.failureOf ⟨container, key, parent⟩ label value =
      test.failureOf ⟨beside, key, parent⟩ label other)
    (hsame : test.failureOf ⟨container, key, parent⟩ label value = none →
      test.failureOf ⟨beside, key, parent⟩ label other = none → value = other) :
    ((test :: rest).findSome? fun t => t.failureOf ⟨container, key, parent⟩ label value) =
      (test :: rest).findSome? fun t => t.failureOf ⟨beside, key, parent⟩ label other := by
  rw [List.findSome?_cons, List.findSome?_cons]
  cases hvalue : test.failureOf ⟨container, key, parent⟩ label value with
  | some failure =>
    rw [← htest, hvalue]
  | none =>
    have hother := htest ▸ hvalue
    rw [hother, hsame hvalue hother]
    exact findSome?_failureOf_beside rest

/-- **The checks of a leaf report the same of values that it cannot tell apart.** -/
theorem findSome?_checks_eq {kind : Leaf} (h : kind.Indistinguishable value other) :
    (kind.checks.findSome? fun t => t.failureOf ⟨container, key, parent⟩ label value) =
      kind.checks.findSome? fun t => t.failureOf ⟨beside, key, parent⟩ label other := by
  cases kind with
  | string rule =>
    cases hallowed : rule.allowed with
    | some allowed =>
      simp only [Indistinguishable, hallowed] at h
      rw [h]
      exact findSome?_failureOf_beside _
    | none =>
      simp only [Indistinguishable, hallowed] at h
      obtain ⟨htype, htext⟩ := h
      simp only [checks, stringChecks, hallowed, List.cons_append]
      refine findSome?_eq_of_typeTest (Test.failureOf_primitive_eq htype) fun hv hw => ?_
      obtain ⟨s, rfl⟩ := Test.failureOf_string_eq_none_iff.mp hv
      obtain ⟨t, rfl⟩ := Test.failureOf_string_eq_none_iff.mp hw
      rw [htext s t rfl rfl]
  | number bounds | decimal bounds =>
    obtain ⟨htype, hnumber⟩ := h
    refine findSome?_eq_of_typeTest (Test.failureOf_primitive_eq htype) fun hv hw => ?_
    obtain ⟨x, rfl⟩ := Test.failureOf_number_eq_none_iff.mp hv
    obtain ⟨y, rfl⟩ := Test.failureOf_number_eq_none_iff.mp hw
    rw [hnumber x y rfl rfl]
  | date bounds =>
    obtain ⟨htype, hdate⟩ := h
    refine findSome?_eq_of_typeTest (Test.failureOf_date_eq htype) fun hv hw => ?_
    obtain ⟨t, rfl⟩ := Test.failureOf_date_eq_none_iff.mp hv
    obtain ⟨u, rfl⟩ := Test.failureOf_date_eq_none_iff.mp hw
    rw [hdate t u rfl rfl]
  | boolean | map | anyArray =>
    rw [checks, List.findSome?_singleton, List.findSome?_singleton]
    exact Test.failureOf_primitive_eq h
  | unknown => rfl

end Leaf

/-! ## Parts of an expansion -/

namespace Expansion

/-- Of absent entries it is only said whether they are missing or null. -/
theorem failure?_eq_of_absent (e : Expansion) (habsent : Absent (container.get? key))
    (hsame : container.get? key = beside.get? key) :
    e.validator.failure? ⟨container, key, parent⟩ label =
      e.validator.failure? ⟨beside, key, parent⟩ label := by
  have hmissing : ∀ namesPath, Validator.missing ⟨container, key, parent⟩ label namesPath =
      Validator.missing ⟨beside, key, parent⟩ label namesPath := by
    intro namesPath
    have hlabel : (Slot.mk container key parent).absentLabel =
        (Slot.mk beside key parent).absentLabel := by
      simp only [Slot.absentLabel, Slot.value?, hsame]
    rw [Validator.missing, Validator.missing, hlabel]
    rfl
  have hcontainer : (Slot.mk container key parent).present? = none :=
    Slot.present?_eq_none_iff.mpr habsent
  have hbeside : (Slot.mk beside key parent).present? = none := by
    rw [hsame] at habsent
    exact Slot.present?_eq_none_iff.mpr habsent
  rw [failure?_of_absent e hcontainer, failure?_of_absent e hbeside, hmissing]

variable {required : Bool}
  (hvalue : (Slot.mk container key parent).present? = some value)
  (hother : (Slot.mk beside key parent).present? = some other)

include hvalue hother

theorem failure?_leaf_eq {kind : Leaf} (h : kind.Indistinguishable value other) :
    (leaf kind required).validator.failure? ⟨container, key, parent⟩ label =
      (leaf kind required).validator.failure? ⟨beside, key, parent⟩ label := by
  rw [failure?_leaf_of_present kind required hvalue, failure?_leaf_of_present kind required hother]
  exact Leaf.findSome?_checks_eq h

/-- Of a flat container only the type is looked at. -/
theorem failure?_flat_eq {reason : Flattening} (htype : value.typeName = other.typeName) :
    (flat reason required).validator.failure? ⟨container, key, parent⟩ label =
      (flat reason required).validator.failure? ⟨beside, key, parent⟩ label := by
  have hleaf : reason.leaf.Indistinguishable value other := by
    rcases reason with (_ | _ | _) | _ | _ | _ <;> exact htype
  rw [validator_flat]
  exact failure?_leaf_eq hvalue hother hleaf

/-- Arrays of the same length report the same if their elements do. -/
theorem failure?_arrayOf_eq {element : Expansion} (htype : value.typeName = other.typeName)
    (hitems : ∀ items others, value = .array items → other = .array others →
      items.length = others.length ∧ ∀ position < items.length,
        element.validator.failure?
            ⟨.array items, .index position, (Slot.mk container key parent).path⟩ label =
          element.validator.failure?
            ⟨.array others, .index position, (Slot.mk container key parent).path⟩ label) :
    (arrayOf element required).validator.failure? ⟨container, key, parent⟩ label =
      (arrayOf element required).validator.failure? ⟨beside, key, parent⟩ label := by
  by_cases harray : value.typeName = "array"
  · obtain ⟨items, rfl⟩ := Value.typeName_eq_array_iff.mp harray
    obtain ⟨others, rfl⟩ := Value.typeName_eq_array_iff.mp (htype ▸ harray)
    obtain ⟨hlength, hpositions⟩ := hitems items others rfl rfl
    rw [failure?_arrayOf_of_array element required hvalue,
      failure?_arrayOf_of_array element required hother, ← hlength]
    exact findSome?_congr fun position hposition =>
      hpositions position (List.mem_range.mp hposition)
  · have hnot : ∀ items, value ≠ .array items :=
      fun items h => harray (Value.typeName_eq_array_iff.mpr ⟨items, h⟩)
    have hnot' : ∀ items, other ≠ .array items :=
      fun items h => harray (htype ▸ Value.typeName_eq_array_iff.mpr ⟨items, h⟩)
    obtain ⟨hprimitive, -, -⟩ := Value.names_eq_of_typeName_eq htype
    rw [failure?_arrayOf_of_not_array element required hvalue hnot,
      failure?_arrayOf_of_not_array element required hother hnot', Validator.notArray,
      Validator.notArray, hprimitive]
    rfl

/-- Objects report the same if their fields do.  Dates have no fields to report of. -/
theorem failure?_object_eq {fields : List (String × Expansion)} {name : Option String}
    (htype : value.typeName = other.typeName)
    (hfields : value.typeName = "object" → ∀ entry ∈ fields,
      entry.2.validator.failure?
          ⟨value, .field entry.1, (Slot.mk container key parent).path⟩ label =
        entry.2.validator.failure?
          ⟨other, .field entry.1, (Slot.mk container key parent).path⟩ label) :
    (object fields name required).validator.failure? ⟨container, key, parent⟩ label =
      (object fields name required).validator.failure? ⟨beside, key, parent⟩ label := by
  obtain ⟨hprimitive, -, -⟩ := Value.names_eq_of_typeName_eq htype
  by_cases hobject : value.IsObject
  · have hobject' : other.IsObject := by
      rw [Value.isObject_iff, ← hprimitive, ← Value.isObject_iff]
      exact hobject
    rw [failure?_object_of_isObject fields name required hvalue hobject,
      failure?_object_of_isObject fields name required hother hobject']
    refine findSome?_congr fun entry hentry => ?_
    by_cases hkeys : value.typeName = "object"
    · exact hfields hkeys entry hentry
    · have hnone := Value.get?_field_of_typeName_ne hkeys entry.1
      have hnone' := Value.get?_field_of_typeName_ne (htype ▸ hkeys) entry.1
      exact failure?_eq_of_absent entry.2 (.inl hnone) (hnone.trans hnone'.symm)
  · have hobject' : ¬ other.IsObject := by
      rw [Value.isObject_iff, ← hprimitive, ← Value.isObject_iff]
      exact hobject
    rw [failure?_object_of_not_isObject fields name required hvalue hobject,
      failure?_object_of_not_isObject fields name required hother hobject', Validator.notObject,
      Validator.notObject, hprimitive]
    rfl

end Expansion

/-! ## Declarations -/

namespace Compiler

variable {compiler : Compiler} {description : Description}

/-- **A validator reports the same of entries that its declaration cannot tell apart.**  The
induction is on the rules; the levels left for the expansion are those between the depth and the
limit. -/
theorem failure?_eq_of_indistinguishable {depth : Nat} {names : List String} {node : Node}
    {entry twin : Option Value} (h : compiler.Indistinguishable depth names node entry twin)
    {room : Nat} (hroom : depth + room = compiler.maxDepth) {container beside : Value}
    {key : Segment} {parent : Path} (hentry : container.get? key = entry)
    (htwin : beside.get? key = twin) (label : String) :
    (Expansion.of compiler.table room names node).validator.failure?
        ⟨container, key, parent⟩ label =
      (Expansion.of compiler.table room names node).validator.failure?
        ⟨beside, key, parent⟩ label := by
  induction h generalizing room container beside key parent with
  | missing =>
    exact Expansion.failure?_eq_of_absent _ (.inl hentry) (hentry.trans htwin.symm)
  | null =>
    exact Expansion.failure?_eq_of_absent _ (.inr hentry) (hentry.trans htwin.symm)
  | leaf hn hn' hleaf =>
    rw [Expansion.of]
    exact Expansion.failure?_leaf_eq (Slot.present?_eq_some_iff.mpr ⟨hentry, hn⟩)
      (Slot.present?_eq_some_iff.mpr ⟨htwin, hn'⟩) hleaf
  | flatArray hle hn hn' htype | flatObject hle hn hn' htype =>
    obtain rfl : room = 0 := by omega
    rw [Expansion.of]
    exact Expansion.failure?_flat_eq (Slot.present?_eq_some_iff.mpr ⟨hentry, hn⟩)
      (Slot.present?_eq_some_iff.mpr ⟨htwin, hn'⟩) htype
  | opaqueReference ho hn hn' htype =>
    obtain ⟨reason, he, -⟩ := ho.of_eq_flat hroom
    rw [he]
    exact Expansion.failure?_flat_eq (Slot.present?_eq_some_iff.mpr ⟨hentry, hn⟩)
      (Slot.present?_eq_some_iff.mpr ⟨htwin, hn'⟩) htype
  | array hlt hn hn' htype hlength _ ih =>
    obtain ⟨left, rfl⟩ : ∃ left, room = left + 1 := ⟨room - 1, by omega⟩
    rw [Expansion.of]
    refine Expansion.failure?_arrayOf_eq (Slot.present?_eq_some_iff.mpr ⟨hentry, hn⟩)
      (Slot.present?_eq_some_iff.mpr ⟨htwin, hn'⟩) htype ?_
    rintro items others rfl rfl
    have hsame : items.length = others.length := hlength items others rfl rfl
    refine ⟨hsame, fun position hposition => ?_⟩
    have hposition' : position < others.length := hsame ▸ hposition
    have hpair : (items[position], others[position]) ∈ items.zip others := by
      have hzip : position < (items.zip others).length := by
        rw [List.length_zip]
        omega
      rw [← List.getElem_zip (h := hzip)]
      exact List.getElem_mem hzip
    exact ih items others rfl rfl _ hpair (by omega) (Value.get?_array_of_lt hposition)
      (Value.get?_array_of_lt hposition')
  | object hlt hn hn' htype _ ih =>
    obtain ⟨left, rfl⟩ : ∃ left, room = left + 1 := ⟨room - 1, by omega⟩
    rw [Expansion.of_object_succ]
    refine Expansion.failure?_object_eq (Slot.present?_eq_some_iff.mpr ⟨hentry, hn⟩)
      (Slot.present?_eq_some_iff.mpr ⟨htwin, hn'⟩) htype fun hobject => ?_
    rw [Expansion.forall_mem_ofFields_iff]
    exact fun field hfield => ih hobject field hfield (by omega) rfl rfl
  | reference hd hname hlt hn hn' htype _ ih =>
    obtain ⟨left, rfl⟩ : ∃ left, room = left + 1 := ⟨room - 1, by omega⟩
    rw [Expansion.of_reference_of_resolved hd hname]
    refine Expansion.failure?_object_eq (Slot.present?_eq_some_iff.mpr ⟨hentry, hn⟩)
      (Slot.present?_eq_some_iff.mpr ⟨htwin, hn'⟩) htype fun hobject => ?_
    rw [Expansion.forall_mem_ofFields_iff]
    exact fun field hfield => ih hobject field hfield (by omega) rfl rfl

/-- **Validation sees nothing but what the schema declares.**  Two documents whose entries under
every declared field cannot be told apart by the declaration have the same verdict: both are
accepted, or they have the same failures in the same order, with the same messages.  A document that
is no object has no entry under any name. -/
theorem validate_eq_of_indistinguishable (compiler : Compiler) (description : Description)
    (document twin : Value) (label : String)
    (h : ∀ name node, (name, node) ∈ description →
      compiler.Indistinguishable 0 [] node (document.get? (.field name))
        (twin.get? (.field name))) :
    (compiler.compile description).validate document label =
      (compiler.compile description).validate twin label := by
  rw [CompiledSchema.validate, CompiledSchema.validate, CompiledSchema.failures_compile,
    CompiledSchema.failures_compile]
  refine congrArg Verdict.ofFailures (List.filterMap_congr fun field hfield => ?_)
  exact failure?_eq_of_indistinguishable (h field.1 field.2 hfield)
    (Nat.zero_add compiler.maxDepth) rfl rfl label

end Compiler

namespace Sample

/-- A cell with a flag for its name, which is an error, and an empty next cell. -/
def flagged : Value :=
  .object [("name", .bool false), ("next", .object [])]

/-- The cell with the other flag, a named next cell, and its keys in another order. -/
def reflagged : Value :=
  .object [("next", .object [("name", .string "b")]), ("name", .bool true)]

/-- The table cannot tell the two cells apart: the flags are no texts, and the next cell is flat. -/
theorem indistinguishable_flagged_reflagged (field : String × Node) (hfield : field ∈ cell) :
    Compiler.Indistinguishable ⟨table, 3⟩ 1 ["Cell"] field.2 (flagged.get? (.field field.1))
      (reflagged.get? (.field field.1)) := by
  have htwo : field = ("name", .leaf (.string .none) true) ∨
      field = ("next", .reference (some "Cell") false) := by
    simpa [cell] using hfield
  rcases htwo with rfl | rfl
  · have hflag : flagged.get? (.field "name") = some (.bool false) := rfl
    have hflag' : reflagged.get? (.field "name") = some (.bool true) := rfl
    rw [hflag, hflag']
    exact .leaf rfl rfl ⟨rfl, fun s t hs => nomatch hs⟩
  · have hnext : flagged.get? (.field "next") = some (.object []) := rfl
    have hnext' : reflagged.get? (.field "next") =
        some (.object [("name", .string "b")]) := rfl
    rw [hnext, hnext']
    exact .opaqueReference (.circular List.mem_cons_self) rfl rfl rfl

end Sample

namespace Compiler

/-- Two lists with the two cells at their heads have the same verdict, a further key in one of them
or not. -/
theorem validate_flagged_eq_reflagged :
    (∀ name node, (name, node) ∈ Sample.description →
      Indistinguishable ⟨Sample.table, 3⟩ 0 [] node
        ((Value.object [("head", Sample.flagged)]).get? (.field name))
        ((Value.object [("note", .null), ("head", Sample.reflagged)]).get? (.field name))) ∧
    (compile ⟨Sample.table, 3⟩ Sample.description).validate
        (.object [("head", Sample.flagged)]) "List" =
      (compile ⟨Sample.table, 3⟩ Sample.description).validate
        (.object [("note", .null), ("head", Sample.reflagged)]) "List" := by
  have hfields : ∀ name node, (name, node) ∈ Sample.description →
      Indistinguishable ⟨Sample.table, 3⟩ 0 [] node
        ((Value.object [("head", Sample.flagged)]).get? (.field name))
        ((Value.object [("note", .null), ("head", Sample.reflagged)]).get? (.field name)) := by
    intro name node hmem
    have hthree : (name = "head" ∧ node = .reference (some "Cell") true) ∨
        (name = "spare" ∧ node = .arrayOf (.reference (some "Cell") false) false) ∨
        (name = "owner" ∧ node = .reference (some "Owner") false) := by
      simpa [Sample.description] using hmem
    rcases hthree with ⟨rfl, rfl⟩ | ⟨rfl, rfl⟩ | ⟨rfl, rfl⟩
    · have hget : Sample.table.get? "Cell" = some Sample.cell := rfl
      exact .reference hget List.not_mem_nil (Nat.succ_pos 2) rfl rfl rfl
        fun _ => Sample.indistinguishable_flagged_reflagged
    · exact .missing
    · exact .missing
  exact ⟨hfields, validate_eq_of_indistinguishable ⟨Sample.table, 3⟩ Sample.description
    _ _ "List" hfields⟩

end Compiler

end DocSchema
