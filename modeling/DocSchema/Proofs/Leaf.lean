import DocSchema.Compile.Validators
import Mathlib.Data.List.Basic

/-!
# What a leaf admits

A leaf says which values it admits by their type and its constraints.  Its validator is a list of
tests, so the two have to be shown to agree.

Absence is kept apart from this: no test looks at an absent value, and whether one is accepted is
decided by the flag of the declaration alone.

* `Absent`, `Value.IsObject`: what counts as nothing, and what counts as an object.
* `Leaf.Admits`: the present values that a leaf admits.
* `Validator.failure?_tests`: tests that are combined report the first failure among them.
* `Leaf.findSome?_checks_eq_none_iff`: the checks of a leaf pass exactly on what it admits.
-/

namespace DocSchema

open Calendar (Instant)

/-! ## Absent and present values -/

/-- Whether nothing is found under a key: there is no such key, or it holds null. -/
def Absent (entry : Option Value) : Prop :=
  entry = none ∨ entry = some .null

theorem absent_or_present (entry : Option Value) :
    Absent entry ∨ ∃ value, entry = some value ∧ value.isNull = false := by
  rcases entry with _ | value
  · exact Or.inl (Or.inl rfl)
  · cases h : value.isNull with
    | false => exact Or.inr ⟨value, rfl, h⟩
    | true =>
      refine Or.inl (Or.inr ?_)
      cases value <;> first | rfl | cases h

theorem not_absent_of_isNull_eq_false {value : Value} (h : value.isNull = false) :
    ¬ Absent (some value) := by
  rintro (hn | hn)
  · cases hn
  · rw [Option.some_inj.mp hn] at h
    cases h

theorem Slot.present?_eq_none_iff {slot : Slot} : slot.present? = none ↔ Absent slot.value? := by
  constructor
  · intro h
    rcases absent_or_present slot.value? with ha | ⟨value, hv, hn⟩
    · exact ha
    · rw [Slot.present?_eq_some_iff.mpr ⟨hv, hn⟩] at h
      cases h
  · rintro (h | h) <;> rw [Slot.present?, h] <;> rfl

@[simp] theorem Slot.value?_child (slot : Slot) (value : Value) (key : Segment) :
    (slot.child value key).value? = value.get? key := rfl

theorem Value.get?_array_of_lt {items : List Value} {position : Nat} (h : position < items.length) :
    (array items).get? (.index position) = some items[position] :=
  List.getElem?_eq_getElem h

/-- Whether a value counts as an object: dates do, arrays do not. -/
def Value.IsObject : Value → Prop
  | object _ | date _ => True
  | _ => False

theorem Value.isObject_iff {value : Value} : value.IsObject ↔ value.primitiveName = "object" := by
  cases value <;> simp [IsObject, primitiveName, typeName]

/-- Only dates have another name for primitive tests. -/
theorem Value.primitiveName_of_not_isObject {value : Value} (h : ¬ value.IsObject) :
    value.primitiveName = value.typeName := by
  cases value with
  | date t => exact absurd trivial h
  | _ => rfl

theorem Value.IsObject.isNull_eq_false {value : Value} (h : value.IsObject) :
    value.isNull = false := by
  cases value <;> first | rfl | exact h.elim

/-! ## The meaning of leaves -/

/-- Whether a text keeps a rule.  A list of allowed texts replaces all other constraints; lengths
count characters. -/
def StringRule.Admits (rule : StringRule) (text : String) : Prop :=
  match rule.allowed with
  | some allowed => text ∈ allowed
  | .none =>
    (∀ p ∈ rule.pattern, p.isMatch text = true) ∧ (∀ n ∈ rule.minLength, n.toNat ≤ text.length) ∧
      ∀ n ∈ rule.maxLength, text.length ≤ n.toNat

/-- Whether something lies neither below the lower limit nor above the upper one. -/
def Bounds.Admits {α : Type} [LT α] (bounds : Bounds α) (x : α) : Prop :=
  (∀ low ∈ bounds.min, ¬ x < low) ∧ ∀ high ∈ bounds.max, ¬ high < x

/-- Whether a present value is one that a leaf admits. -/
def Leaf.Admits : Leaf → Value → Prop
  | string rule, value => ∃ text, value = .string text ∧ rule.Admits text
  | number bounds, value | decimal bounds, value => ∃ x, value = .number x ∧ bounds.Admits x
  | date bounds, value => ∃ t, value = .date t ∧ bounds.Admits t
  | boolean, value => ∃ b, value = .bool b
  | map, value => value.IsObject
  | anyArray, value => ∃ items, value = .array items
  | unknown, _ => True

/-! ## Tests -/

namespace Test

variable {slot : Slot} {label : String} {value : Value}

theorem failureOf_primitive_eq_none_iff {type : Primitive} :
    (primitive type).failureOf slot label value = none ↔ value.primitiveName = type.name := by
  simp [failureOf]

theorem failureOf_string_eq_none_iff :
    (primitive .string).failureOf slot label value = none ↔ ∃ text, value = .string text := by
  rw [failureOf_primitive_eq_none_iff]
  cases value <;> simp [Primitive.name, Value.primitiveName, Value.typeName]

theorem failureOf_number_eq_none_iff :
    (primitive .number).failureOf slot label value = none ↔ ∃ x, value = .number x := by
  rw [failureOf_primitive_eq_none_iff]
  cases value <;> simp [Primitive.name, Value.primitiveName, Value.typeName]

theorem failureOf_date_eq_none_iff :
    date.failureOf slot label value = none ↔ ∃ t, value = .date t := by
  cases value <;> simp [failureOf, Value.date?]

theorem failureOf_oneOf_eq_none_iff {allowed : List String} :
    (oneOf allowed).failureOf slot label value = none ↔
      ∃ text, value = .string text ∧ text ∈ allowed := by
  cases value <;> simp [failureOf, Value.string?]

theorem failureOf_pattern_eq_none_iff {p : Pattern} {text : String} :
    (pattern p).failureOf slot label (.string text) = none ↔ p.isMatch text = true := by
  simp [failureOf, Value.string?]

theorem failureOf_minLength_eq_none_iff {n : UInt64} {text : String} :
    (minLength n).failureOf slot label (.string text) = none ↔ n.toNat ≤ text.length := by
  simp [failureOf, Value.string?]

theorem failureOf_maxLength_eq_none_iff {n : UInt64} {text : String} :
    (maxLength n).failureOf slot label (.string text) = none ↔ text.length ≤ n.toNat := by
  simp [failureOf, Value.string?]

theorem failureOf_min_eq_none_iff {limit : Limit} :
    (min limit).failureOf slot label value = none ↔ limit.isAbove value = false := by
  simp [failureOf]

theorem failureOf_max_eq_none_iff {limit : Limit} :
    (max limit).failureOf slot label value = none ↔ limit.isBelow value = false := by
  simp [failureOf]

end Test

/-! ## Required values -/

namespace Validator

variable {slot : Slot} {label : String} {value : Value}

theorem demand_of_absent (h : slot.present? = none) (required namesPath : Bool) :
    demand required namesPath slot label none =
      if required then some (missing slot label namesPath) else none := by
  cases required <;> simp [demand, h]

theorem demand_of_present (h : slot.present? = some value) (required namesPath : Bool)
    (outcome : Option Failure) : demand required namesPath slot label outcome = outcome := by
  simp [demand, h]

theorem failure?_ofTest (t : Test) : (ofTest t).failure? slot label = t.failure? slot label := by
  simp [ofTest, failure?, demand]

/-- Checks of the same slot report the first failure among them. -/
theorem checksFailure?_eq_findSome? (checks : List Validator) :
    checksFailure? checks slot label = checks.findSome? fun v => v.failure? slot label := by
  induction checks with
  | nil => rfl
  | cons v rest ih =>
    rw [checksFailure?, ih, List.findSome?_cons]
    cases v.failure? slot label <;> rfl

/-- So do the fields of a value. -/
theorem fieldsFailure?_eq_findSome? (fields : List (String × Validator)) :
    fieldsFailure? fields slot value label =
      fields.findSome? fun field => field.2.failure? (slot.child value (.field field.1)) label := by
  induction fields with
  | nil => rfl
  | cons field rest ih =>
    obtain ⟨name, v⟩ := field
    rw [fieldsFailure?, ih, List.findSome?_cons]
    cases v.failure? (slot.child value (.field name)) label <;> rfl

theorem checksFailure?_ofTest (tests : List Test) :
    checksFailure? (tests.map ofTest) slot label =
      tests.findSome? fun t => t.failure? slot label := by
  rw [checksFailure?_eq_findSome?, List.findSome?_map]
  simp only [Function.comp_def, failure?_ofTest]

/-- Combined tests report the first failure among them.  Only a single test keeps its own way of
naming a missing value. -/
theorem failure?_tests (tests : List Test) (required : Bool) :
    ((combine (tests.map ofTest)).withRequired required).failure? slot label =
      demand required (match tests with | [t] => t.namesPath | _ => false) slot label
        (tests.findSome? fun t => t.failure? slot label) := by
  rcases tests with _ | ⟨t, _ | ⟨u, rest⟩⟩
  · rfl
  · rw [List.findSome?_cons, List.findSome?_nil]
    cases h : t.failure? slot label <;> simp [combine, ofTest, withRequired, failure?, h]
  · rw [← checksFailure?_ofTest]
    rfl

end Validator

/-! ## The checks of a leaf -/

/-- The first result only depends on the results for the members. -/
theorem findSome?_congr {α β : Type} {members : List α} {f g : α → Option β}
    (h : ∀ a ∈ members, f a = g a) : members.findSome? f = members.findSome? g := by
  rw [← List.head?_filterMap, ← List.head?_filterMap, List.filterMap_congr h]

namespace Leaf

variable {slot : Slot} {label : String} {value : Value}

/-- Whether a missing value is named by its full path: only where the type test stands alone. -/
def namesPath (kind : Leaf) : Bool :=
  match kind.checks with
  | [t] => t.namesPath
  | _ => false

theorem failure?_validator (kind : Leaf) (required : Bool) :
    (kind.validator.withRequired required).failure? slot label =
      Validator.demand required kind.namesPath slot label
        (kind.checks.findSome? fun t => t.failure? slot label) :=
  Validator.failure?_tests kind.checks required

theorem forall_mem_boundChecks_iff {α : Type} {limit : α → Limit} {bounds : Bounds α}
    {P : Test → Prop} :
    (∀ t ∈ boundChecks limit bounds, P t) ↔
      (∀ low ∈ bounds.min, P (.min (limit low))) ∧ ∀ high ∈ bounds.max, P (.max (limit high)) := by
  simp [boundChecks, or_imp, forall_and]

theorem forall_mem_stringChecks_iff {rule : StringRule} {P : Test → Prop}
    (h : rule.allowed = none) :
    (∀ t ∈ stringChecks rule, P t) ↔
      P (.primitive .string) ∧ (∀ p ∈ rule.pattern, P (.pattern p)) ∧
        (∀ n ∈ rule.minLength, P (.minLength n)) ∧ ∀ n ∈ rule.maxLength, P (.maxLength n) := by
  simp [stringChecks, h, or_imp, forall_and]

/-- No leaf has a check of its own making. -/
theorem ne_custom_of_mem_checks {kind : Leaf} {t : Test} (h : t ∈ kind.checks)
    (check : Slot → String → Option Failure) : t ≠ .custom check := by
  rintro rfl
  cases kind with
  | string rule =>
    simp only [checks, stringChecks] at h
    split at h <;> simp at h
  | number bounds | decimal bounds | date bounds => simp [checks, boundChecks] at h
  | boolean | map | anyArray | unknown => simp [checks] at h

/-- The checks of a leaf let an absent value pass. -/
theorem findSome?_checks_of_absent (kind : Leaf) (h : slot.present? = none) :
    (kind.checks.findSome? fun t => t.failure? slot label) = none := by
  rw [List.findSome?_eq_none_iff]
  intro t ht
  cases t with
  | custom check => exact absurd rfl (ne_custom_of_mem_checks ht check)
  | _ => simp [Test.failure?, h]

/-- On a present value the checks of a leaf are tests of that value. -/
theorem findSome?_checks_of_present (kind : Leaf) (h : slot.present? = some value) :
    (kind.checks.findSome? fun t => t.failure? slot label) =
      kind.checks.findSome? fun t => t.failureOf slot label value := by
  refine findSome?_congr fun t ht => ?_
  cases t with
  | custom check => exact absurd rfl (ne_custom_of_mem_checks ht check)
  | _ => simp [Test.failure?, h]

/-- **The checks of a leaf are its meaning.**  They all pass on a present value exactly when the
leaf admits it. -/
theorem findSome?_checks_eq_none_iff (kind : Leaf) :
    (kind.checks.findSome? fun t => t.failureOf slot label value) = none ↔ kind.Admits value := by
  rw [List.findSome?_eq_none_iff]
  cases kind with
  | string rule =>
    cases ha : rule.allowed with
    | some allowed =>
      simp only [checks, stringChecks, ha, List.forall_mem_singleton, Admits, StringRule.Admits,
        Test.failureOf_oneOf_eq_none_iff]
    | none =>
      rw [checks, forall_mem_stringChecks_iff ha, Test.failureOf_string_eq_none_iff]
      constructor
      · rintro ⟨⟨text, rfl⟩, hp, hmin, hmax⟩
        refine ⟨text, rfl, ?_⟩
        simp only [StringRule.Admits, ha]
        exact ⟨fun p h => Test.failureOf_pattern_eq_none_iff.mp (hp p h),
          fun n h => Test.failureOf_minLength_eq_none_iff.mp (hmin n h),
          fun n h => Test.failureOf_maxLength_eq_none_iff.mp (hmax n h)⟩
      · rintro ⟨text, rfl, hrule⟩
        simp only [StringRule.Admits, ha] at hrule
        obtain ⟨hp, hmin, hmax⟩ := hrule
        exact ⟨⟨text, rfl⟩, fun p h => Test.failureOf_pattern_eq_none_iff.mpr (hp p h),
          fun n h => Test.failureOf_minLength_eq_none_iff.mpr (hmin n h),
          fun n h => Test.failureOf_maxLength_eq_none_iff.mpr (hmax n h)⟩
  | number bounds | decimal bounds =>
    rw [checks, List.forall_mem_cons, forall_mem_boundChecks_iff,
      Test.failureOf_number_eq_none_iff]
    cases value <;>
      simp [Admits, Bounds.Admits, Test.failureOf_min_eq_none_iff, Test.failureOf_max_eq_none_iff,
        Limit.isAbove, Limit.isBelow]
  | date bounds =>
    rw [checks, List.forall_mem_cons, forall_mem_boundChecks_iff, Test.failureOf_date_eq_none_iff]
    cases value <;>
      simp [Admits, Bounds.Admits, Test.failureOf_min_eq_none_iff, Test.failureOf_max_eq_none_iff,
        Limit.isAbove, Limit.isBelow]
  | boolean | map | anyArray =>
    rw [checks, List.forall_mem_singleton, Test.failureOf_primitive_eq_none_iff]
    cases value <;>
      simp [Admits, Value.IsObject, Primitive.name, Value.primitiveName, Value.typeName]
  | unknown =>
    simp [checks, Admits, Test.failureOf]

end Leaf

end DocSchema
