import DocSchema.Proofs.Expansion

/-!
# What can be wrong at one place

A failure is about one entry and one part of an expansion.  There are three things that can be
wrong: the entry is absent and required, it has another type than the part asks for, or it breaks
one of the constraints of a leaf.  No two of them hold at once, so the kind of a failure tells which
one it was, and the kind is all that its code and the text of what was found depend on, together
with the first constraint that is broken.

* `Leaf.WrongType`, `Leaf.Breaks`: a wrong type, and a broken constraint.
* `Expansion.WrongType`, `Expansion.Breaks`: the same for the parts of an expansion.
* `Failure.Reports`: where a failure is, and what it reports there.
* `Leaf.reports_of_findSome?_checks`: the checks of a leaf report the truth.
* `Expansion.Faulty.unique`: no two things are wrong at once.
* `Failure.Explains`: a failure says truly what is wrong at a place.
-/

namespace DocSchema

open Calendar (Instant)

/-! ## Constraints -/

/-- The constraints of leaves, in the order in which they are looked at. -/
inductive Constraint where
  | oneOf
  | pattern
  | minLength
  | maxLength
  | min
  | max
  deriving DecidableEq, Repr

namespace Constraint

/-- The code of a failure of the constraint. -/
def code : Constraint → String
  | oneOf => "enum"
  | pattern => "pattern"
  | minLength => "min_length"
  | maxLength => "max_length"
  | min => "min"
  | max => "max"

/-- The place of the constraint in the order. -/
def rank : Constraint → Nat
  | oneOf => 0
  | pattern => 1
  | minLength => 2
  | maxLength => 3
  | min => 4
  | max => 5

/-- What a failure of the constraint shows of a value: the length where that is what counts. -/
def shown : Constraint → Value → String
  | minLength, .string text | maxLength, .string text => text.length.repr ++ " characters"
  | _, value => value.display

/-- Whether a constraint is the first one that is broken. -/
def IsFirst (breaks : Constraint → Prop) (c : Constraint) : Prop :=
  breaks c ∧ ∀ earlier, earlier.rank < c.rank → ¬ breaks earlier

end Constraint

/-- Which constraints of a rule a value breaks.  A list of allowed texts replaces all others, and
what is no text is not on it. -/
def StringRule.Breaks (rule : StringRule) : Constraint → Value → Prop
  | .oneOf, value => ∃ allowed, rule.allowed = some allowed ∧ ∀ text ∈ allowed, value ≠ .string text
  | .pattern, value =>
    rule.allowed = .none ∧
      ∃ p text, rule.pattern = some p ∧ value = .string text ∧ p.isMatch text = false
  | .minLength, value =>
    rule.allowed = .none ∧
      ∃ n text, rule.minLength = some n ∧ value = .string text ∧ text.length < n.toNat
  | .maxLength, value =>
    rule.allowed = .none ∧
      ∃ n text, rule.maxLength = some n ∧ value = .string text ∧ n.toNat < text.length
  | .min, _ | .max, _ => False

/-- Which limits something lies outside of. -/
def Bounds.Breaks {α : Type} [LT α] (bounds : Bounds α) : Constraint → α → Prop
  | .min, x => ∃ low, bounds.min = some low ∧ x < low
  | .max, x => ∃ high, bounds.max = some high ∧ high < x
  | _, _ => False

namespace Leaf

/-- Whether a present value has another type than a leaf asks for.  A list of allowed texts asks for
no type. -/
def WrongType : Leaf → Value → Prop
  | string rule, value => rule.allowed = none ∧ ∀ text, value ≠ .string text
  | number _, value | decimal _, value => ∀ x, value ≠ .number x
  | date _, value => ∀ t, value ≠ .date t
  | boolean, value => ∀ b, value ≠ .bool b
  | map, value => ¬ value.IsObject
  | anyArray, value => ∀ items, value ≠ .array items
  | unknown, _ => False

/-- Which constraints of a leaf a present value breaks. -/
def Breaks : Leaf → Constraint → Value → Prop
  | string rule, c, value => rule.Breaks c value
  | number bounds, c, value | decimal bounds, c, value =>
    ∃ x, value = .number x ∧ bounds.Breaks c x
  | date bounds, c, value => ∃ t, value = .date t ∧ bounds.Breaks c t
  | boolean, _, _ | map, _, _ | anyArray, _, _ | unknown, _, _ => False

/-- Constraints are only broken by values of the right type. -/
theorem not_breaks_of_wrongType {kind : Leaf} {value : Value} (h : kind.WrongType value)
    (c : Constraint) : ¬ kind.Breaks c value := by
  intro hc
  cases kind with
  | string rule =>
    obtain ⟨hnone, htext⟩ := h
    cases c with
    | oneOf =>
      obtain ⟨allowed, hallowed, -⟩ := hc
      rw [hnone] at hallowed
      cases hallowed
    | pattern | minLength | maxLength =>
      obtain ⟨-, _, text, -, hv, -⟩ := hc
      exact htext text hv
    | min | max => exact hc
  | number bounds | decimal bounds | date bounds =>
    obtain ⟨x, hv, -⟩ := hc
    exact h x hv
  | boolean | map | anyArray | unknown => exact hc

end Leaf

/-! ## Parts of an expansion -/

namespace Expansion

/-- Whether a present value has another type than a part asks for. -/
def WrongType : Expansion → Value → Prop
  | leaf kind _, value => kind.WrongType value
  | flat reason _, value => reason.leaf.WrongType value
  | arrayOf _ _, value => ∀ items, value ≠ .array items
  | object _ _ _, value => ¬ value.IsObject

/-- The type that a failure reports of a value.  Where elements are checked, a date is an object. -/
def reportedType : Expansion → Value → String
  | arrayOf _ _, value => value.primitiveName
  | _, value => value.typeName

/-- Which constraints of a part a present value breaks; containers have none. -/
def Breaks : Expansion → Constraint → Value → Prop
  | leaf kind _, c, value => kind.Breaks c value
  | flat reason _, c, value => reason.leaf.Breaks c value
  | arrayOf _ _, _, _ | object _ _ _, _, _ => False

theorem not_breaks_of_wrongType {part : Expansion} {value : Value} (h : part.WrongType value)
    (c : Constraint) : ¬ part.Breaks c value := by
  cases part with
  | leaf kind required | flat reason required => exact Leaf.not_breaks_of_wrongType h c
  | arrayOf element required | object fields name required => exact id

end Expansion

/-! ## Reports -/

/-- Whether a failure is about a slot, with this kind and code, and shows this as what was found. -/
structure Failure.Reports (failure : Failure) (slot : Slot) (kind : FailureKind)
    (code got : String) : Prop where
  path_eq : failure.path = slot.path
  kind_eq : failure.kind = kind
  code_eq : failure.code = code
  got_eq : failure.got = some got

theorem Validator.missing_reports (slot : Slot) (label : String) (namesPath : Bool) :
    (missing slot label namesPath).Reports slot .requiredMissing "required" slot.absentLabel :=
  ⟨rfl, rfl, rfl, rfl⟩

theorem Validator.notArray_reports (slot : Slot) (label : String) (value : Value) :
    (notArray slot label value).Reports slot .typeMismatch "invalid_type" value.primitiveName :=
  ⟨rfl, rfl, rfl, rfl⟩

theorem Validator.notObject_reports (slot : Slot) (label : String) (value : Value) :
    (notObject slot label value).Reports slot .typeMismatch "invalid_type" value.primitiveName :=
  ⟨rfl, rfl, rfl, rfl⟩

namespace Limit

theorem isAbove_number_iff {low x : Float} :
    (number low).isAbove (.number x) = true ↔ x < low := decide_eq_true_iff

theorem isBelow_number_iff {high x : Float} :
    (number high).isBelow (.number x) = true ↔ high < x := decide_eq_true_iff

theorem isAbove_date_iff {low t : Instant} :
    (date low).isAbove (.date t) = true ↔ t < low := decide_eq_true_iff

theorem isBelow_date_iff {high t : Instant} :
    (date high).isBelow (.date t) = true ↔ high < t := decide_eq_true_iff

end Limit

namespace Test

variable {slot : Slot} {label : String} {value : Value} {failure : Failure}

theorem wrongType_reports (slot : Slot) (label shown got expectation expected : String) :
    (wrongType slot label shown got expectation expected).Reports slot .typeMismatch
      "invalid_type" got :=
  ⟨rfl, rfl, rfl, rfl⟩

theorem violation_reports (slot : Slot) (label code detail expected got : String) :
    (violation slot label code detail expected got).Reports slot .constraintViolation code got :=
  ⟨rfl, rfl, rfl, rfl⟩

theorem notAllowed_reports (slot : Slot) (label : String) (value : Value)
    (allowed : List String) :
    (notAllowed slot label value allowed).Reports slot .constraintViolation "enum"
      value.display :=
  ⟨rfl, rfl, rfl, rfl⟩

theorem reports_of_failureOf_primitive {type : Primitive}
    (h : (primitive type).failureOf slot label value = some failure) :
    value.primitiveName ≠ type.name ∧
      failure.Reports slot .typeMismatch "invalid_type" value.typeName := by
  rw [failureOf, Option.ite_none_left_eq_some] at h
  obtain ⟨hne, ⟨⟩⟩ := h
  exact ⟨hne, wrongType_reports ..⟩

theorem reports_of_failureOf_date (h : date.failureOf slot label value = some failure) :
    (∀ t, value ≠ .date t) ∧
      failure.Reports slot .typeMismatch "invalid_type" value.typeName := by
  have hne : ¬ ∃ t, value = .date t := by
    rw [← failureOf_date_eq_none_iff, h]
    exact Option.some_ne_none failure
  rw [failureOf, Option.ite_none_left_eq_some] at h
  obtain ⟨-, ⟨⟩⟩ := h
  exact ⟨not_exists.mp hne, wrongType_reports ..⟩

theorem reports_of_failureOf_oneOf {allowed : List String}
    (h : (oneOf allowed).failureOf slot label value = some failure) :
    (∀ text ∈ allowed, value ≠ .string text) ∧
      failure.Reports slot .constraintViolation "enum" value.display := by
  have hne : ¬ ∃ text, value = .string text ∧ text ∈ allowed := by
    rw [← failureOf_oneOf_eq_none_iff, h]
    exact Option.some_ne_none failure
  rw [failureOf, Option.ite_none_left_eq_some] at h
  obtain ⟨-, ⟨⟩⟩ := h
  exact ⟨fun text htext hv => hne ⟨text, hv, htext⟩, notAllowed_reports ..⟩

theorem reports_of_failureOf_pattern {p : Pattern} {text : String}
    (h : (pattern p).failureOf slot label (.string text) = some failure) :
    p.isMatch text = false ∧ failure.Reports slot .constraintViolation "pattern" text := by
  rw [failureOf, Value.string?, Option.bind_some, Option.ite_none_left_eq_some] at h
  obtain ⟨hne, ⟨⟩⟩ := h
  exact ⟨Bool.eq_false_iff.mpr hne, violation_reports ..⟩

theorem reports_of_failureOf_minLength {n : UInt64} {text : String}
    (h : (minLength n).failureOf slot label (.string text) = some failure) :
    text.length < n.toNat ∧ failure.Reports slot .constraintViolation "min_length"
      (text.length.repr ++ " characters") := by
  rw [failureOf, Value.string?, Option.bind_some, Option.ite_none_left_eq_some] at h
  obtain ⟨hlt, ⟨⟩⟩ := h
  exact ⟨Nat.not_le.mp hlt, violation_reports ..⟩

theorem reports_of_failureOf_maxLength {n : UInt64} {text : String}
    (h : (maxLength n).failureOf slot label (.string text) = some failure) :
    n.toNat < text.length ∧ failure.Reports slot .constraintViolation "max_length"
      (text.length.repr ++ " characters") := by
  rw [failureOf, Value.string?, Option.bind_some, Option.ite_none_left_eq_some] at h
  obtain ⟨hlt, ⟨⟩⟩ := h
  exact ⟨Nat.not_le.mp hlt, violation_reports ..⟩

theorem reports_of_failureOf_min {limit : Limit}
    (h : (min limit).failureOf slot label value = some failure) :
    limit.isAbove value = true ∧
      failure.Reports slot .constraintViolation "min" value.display := by
  rw [failureOf, Option.ite_none_right_eq_some] at h
  obtain ⟨habove, ⟨⟩⟩ := h
  exact ⟨habove, violation_reports ..⟩

theorem reports_of_failureOf_max {limit : Limit}
    (h : (max limit).failureOf slot label value = some failure) :
    limit.isBelow value = true ∧
      failure.Reports slot .constraintViolation "max" value.display := by
  rw [failureOf, Option.ite_none_right_eq_some] at h
  obtain ⟨hbelow, ⟨⟩⟩ := h
  exact ⟨hbelow, violation_reports ..⟩

end Test

/-! ## The checks of a leaf report the truth -/

theorem findSome?_toList_map {α β γ : Type} (x : Option α) (g : α → β) (f : β → Option γ) :
    (x.map g).toList.findSome? f = x.bind fun a => f (g a) := by
  cases x <;> simp

namespace Leaf

variable {slot : Slot} {label : String} {failure : Failure}

/-- Limits that measure a value report the first one it lies outside of. -/
theorem reports_of_findSome?_boundChecks {α : Type} [LT α] {limit : α → Limit}
    {bounds : Bounds α} {value : Value} {x : α}
    (habove : ∀ low, (limit low).isAbove value = true ↔ x < low)
    (hbelow : ∀ high, (limit high).isBelow value = true ↔ high < x)
    (h : ((boundChecks limit bounds).findSome? fun t => t.failureOf slot label value) =
      some failure) :
    ∃ c, Constraint.IsFirst (bounds.Breaks · x) c ∧
      failure.Reports slot .constraintViolation c.code (c.shown value) := by
  rw [boundChecks, List.findSome?_append, findSome?_toList_map, findSome?_toList_map,
    Option.or_eq_some_iff, Option.bind_eq_some_iff, Option.bind_eq_none_iff,
    Option.bind_eq_some_iff] at h
  rcases h with ⟨low, hlow, h⟩ | ⟨hmin, high, hhigh, h⟩
  · obtain ⟨hbreaks, hreports⟩ := Test.reports_of_failureOf_min h
    refine ⟨.min, ⟨⟨low, hlow, (habove low).mp hbreaks⟩, fun earlier hlt hb => ?_⟩, hreports⟩
    cases earlier with
    | oneOf | pattern | minLength | maxLength => exact hb
    | min | max => exact absurd hlt (by decide)
  · obtain ⟨hbreaks, hreports⟩ := Test.reports_of_failureOf_max h
    refine ⟨.max, ⟨⟨high, hhigh, (hbelow high).mp hbreaks⟩, fun earlier hlt hb => ?_⟩, hreports⟩
    cases earlier with
    | oneOf | pattern | minLength | maxLength => exact hb
    | min =>
      obtain ⟨low, hlow, hx⟩ := hb
      have hpass := Test.failureOf_min_eq_none_iff.mp (hmin low hlow)
      rw [(habove low).mpr hx] at hpass
      cases hpass
    | max => exact absurd hlt (by decide)

section

variable {rule : StringRule} {text : String}

theorem not_breaks_oneOf {value : Value} (h : rule.allowed = none) :
    ¬ rule.Breaks .oneOf value := by
  rintro ⟨allowed, hsome, -⟩
  rw [h] at hsome
  cases hsome

theorem not_breaks_pattern
    (h : ∀ p, rule.pattern = some p →
      (Test.pattern p).failureOf slot label (.string text) = none) :
    ¬ rule.Breaks .pattern (.string text) := by
  rintro ⟨-, p, _, hp, hv, hmatch⟩
  cases hv
  rw [Test.failureOf_pattern_eq_none_iff.mp (h p hp)] at hmatch
  cases hmatch

theorem not_breaks_minLength
    (h : ∀ n, rule.minLength = some n →
      (Test.minLength n).failureOf slot label (.string text) = none) :
    ¬ rule.Breaks .minLength (.string text) := by
  rintro ⟨-, n, _, hn, hv, hlt⟩
  cases hv
  have hle := Test.failureOf_minLength_eq_none_iff.mp (h n hn)
  exact absurd hlt (Nat.not_lt.mpr hle)

end

/-- The checks of a text report its type, or the first constraint that it breaks. -/
theorem reports_of_findSome?_stringChecks {rule : StringRule} {value : Value}
    (h : ((stringChecks rule).findSome? fun t => t.failureOf slot label value) = some failure) :
    (string rule).WrongType value ∧
        failure.Reports slot .typeMismatch "invalid_type" value.typeName ∨
      ∃ c, Constraint.IsFirst (rule.Breaks · value) c ∧
        failure.Reports slot .constraintViolation c.code (c.shown value) := by
  rw [stringChecks] at h
  split at h
  · next allowed ha =>
    rw [List.findSome?_singleton] at h
    obtain ⟨hbreaks, hreports⟩ := Test.reports_of_failureOf_oneOf h
    refine Or.inr ⟨.oneOf, ⟨⟨allowed, ha, hbreaks⟩, fun earlier hlt => ?_⟩, hreports⟩
    exact absurd hlt (Nat.not_lt_zero _)
  · next ha =>
    rw [List.append_assoc, List.append_assoc, List.singleton_append, List.findSome?_cons] at h
    cases htype : (Test.primitive .string).failureOf slot label value with
    | some mismatch =>
      rw [htype] at h
      cases h
      obtain ⟨hne, hreports⟩ := Test.reports_of_failureOf_primitive htype
      refine Or.inl ⟨⟨ha, fun text hv => hne ?_⟩, hreports⟩
      rw [hv]
      rfl
    | none =>
      rw [htype] at h
      obtain ⟨text, rfl⟩ := Test.failureOf_string_eq_none_iff.mp htype
      simp only [List.findSome?_append, findSome?_toList_map, Option.or_eq_some_iff,
        Option.bind_eq_some_iff, Option.bind_eq_none_iff] at h
      right
      -- a constraint is only looked at when all earlier ones have passed
      rcases h with ⟨p, hp, h⟩ | ⟨hpattern, ⟨n, hn, h⟩ | ⟨hmin, n, hn, h⟩⟩
      · obtain ⟨hbreaks, hreports⟩ := Test.reports_of_failureOf_pattern h
        refine ⟨.pattern, ⟨⟨ha, p, text, hp, rfl, hbreaks⟩, fun earlier hlt => ?_⟩, hreports⟩
        cases earlier with
        | oneOf => exact not_breaks_oneOf ha
        | _ => exact absurd hlt (by decide)
      · obtain ⟨hbreaks, hreports⟩ := Test.reports_of_failureOf_minLength h
        refine ⟨.minLength, ⟨⟨ha, n, text, hn, rfl, hbreaks⟩, fun earlier hlt => ?_⟩, hreports⟩
        cases earlier with
        | oneOf => exact not_breaks_oneOf ha
        | pattern => exact not_breaks_pattern hpattern
        | _ => exact absurd hlt (by decide)
      · obtain ⟨hbreaks, hreports⟩ := Test.reports_of_failureOf_maxLength h
        refine ⟨.maxLength, ⟨⟨ha, n, text, hn, rfl, hbreaks⟩, fun earlier hlt => ?_⟩, hreports⟩
        cases earlier with
        | oneOf => exact not_breaks_oneOf ha
        | pattern => exact not_breaks_pattern hpattern
        | minLength => exact not_breaks_minLength hmin
        | _ => exact absurd hlt (by decide)

/-- A type test with limits behind it reports the type, or the first limit that is broken. -/
theorem reports_of_findSome?_measured {α : Type} [LT α] {test : Test} {limit : α → Limit}
    {bounds : Bounds α} {wrap : α → Value} {value : Value}
    (htype : ∀ mismatch, test.failureOf slot label value = some mismatch →
      (∀ x, value ≠ wrap x) ∧ mismatch.Reports slot .typeMismatch "invalid_type" value.typeName)
    (hvalue : test.failureOf slot label value = none → ∃ x, value = wrap x)
    (hwrap : Function.Injective wrap)
    (habove : ∀ low x, (limit low).isAbove (wrap x) = true ↔ x < low)
    (hbelow : ∀ high x, (limit high).isBelow (wrap x) = true ↔ high < x)
    (h : ((test :: boundChecks limit bounds).findSome? fun t => t.failureOf slot label value) =
      some failure) :
    (∀ x, value ≠ wrap x) ∧ failure.Reports slot .typeMismatch "invalid_type" value.typeName ∨
      ∃ c, Constraint.IsFirst (fun c => ∃ x, value = wrap x ∧ bounds.Breaks c x) c ∧
        failure.Reports slot .constraintViolation c.code (c.shown value) := by
  rw [List.findSome?_cons] at h
  cases ht : test.failureOf slot label value with
  | some mismatch =>
    rw [ht] at h
    cases h
    exact Or.inl (htype _ ht)
  | none =>
    rw [ht] at h
    obtain ⟨x, rfl⟩ := hvalue ht
    obtain ⟨c, ⟨hbreaks, hearlier⟩, hreports⟩ :=
      reports_of_findSome?_boundChecks (x := x) (habove · x) (hbelow · x) h
    refine Or.inr ⟨c, ⟨⟨x, rfl, hbreaks⟩, ?_⟩, hreports⟩
    rintro earlier hlt ⟨y, hy, hb⟩
    rw [← hwrap hy] at hb
    exact hearlier earlier hlt hb

/-- **What the checks of a leaf report is true**: a wrong type, or the first constraint that is
broken. -/
theorem reports_of_findSome?_checks {kind : Leaf} {value : Value}
    (h : (kind.checks.findSome? fun t => t.failureOf slot label value) = some failure) :
    kind.WrongType value ∧ failure.Reports slot .typeMismatch "invalid_type" value.typeName ∨
      ∃ c, Constraint.IsFirst (kind.Breaks · value) c ∧
        failure.Reports slot .constraintViolation c.code (c.shown value) := by
  cases kind with
  | string rule => exact reports_of_findSome?_stringChecks h
  | number bounds | decimal bounds =>
    refine reports_of_findSome?_measured (fun mismatch ht => ?_)
      Test.failureOf_number_eq_none_iff.mp (fun _ _ => Value.number.inj)
      (fun _ _ => Limit.isAbove_number_iff) (fun _ _ => Limit.isBelow_number_iff) h
    obtain ⟨hne, hreports⟩ := Test.reports_of_failureOf_primitive ht
    refine ⟨fun x hv => hne ?_, hreports⟩
    rw [hv]
    rfl
  | date bounds =>
    exact reports_of_findSome?_measured (fun mismatch => Test.reports_of_failureOf_date)
      Test.failureOf_date_eq_none_iff.mp (fun _ _ => Value.date.inj)
      (fun _ _ => Limit.isAbove_date_iff) (fun _ _ => Limit.isBelow_date_iff) h
  | boolean =>
    rw [checks, List.findSome?_singleton] at h
    obtain ⟨hne, hreports⟩ := Test.reports_of_failureOf_primitive h
    refine Or.inl ⟨fun b hv => hne ?_, hreports⟩
    rw [hv]
    rfl
  | map =>
    rw [checks, List.findSome?_singleton] at h
    obtain ⟨hne, hreports⟩ := Test.reports_of_failureOf_primitive h
    exact Or.inl ⟨fun hv => hne (Value.isObject_iff.mp hv), hreports⟩
  | anyArray =>
    rw [checks, List.findSome?_singleton] at h
    obtain ⟨hne, hreports⟩ := Test.reports_of_failureOf_primitive h
    refine Or.inl ⟨fun items hv => hne ?_, hreports⟩
    rw [hv]
    rfl
  | unknown => cases h

end Leaf

/-! ## Failures that say what is wrong -/

/-- Whether something is wrong with an entry at a part of an expansion, by the kind of failure that
stands for it. -/
def Expansion.Faulty (part : Expansion) (entry : Option Value) : FailureKind → Prop
  | .requiredMissing => Absent entry ∧ part.isRequired = true
  | .typeMismatch => ∃ value, entry = some value ∧ value.isNull = false ∧ part.WrongType value
  | .constraintViolation =>
    ∃ value c, entry = some value ∧ value.isNull = false ∧ part.Breaks c value

theorem Expansion.faulty_iff_of_absent {part : Expansion} {entry : Option Value}
    {kind : FailureKind} (h : Absent entry) :
    part.Faulty entry kind ↔ kind = .requiredMissing ∧ part.isRequired = true := by
  have hpresent : ∀ value, entry = some value → value.isNull ≠ false := by
    rintro value rfl hn
    exact not_absent_of_isNull_eq_false hn h
  cases kind with
  | requiredMissing => simp [Faulty, h]
  | typeMismatch =>
    refine iff_of_false ?_ (by simp)
    rintro ⟨value, hv, hn, -⟩
    exact hpresent value hv hn
  | constraintViolation =>
    refine iff_of_false ?_ (by simp)
    rintro ⟨value, c, hv, hn, -⟩
    exact hpresent value hv hn

theorem Expansion.faulty_iff_of_present {part : Expansion} {value : Value} {kind : FailureKind}
    (hn : value.isNull = false) :
    part.Faulty (some value) kind ↔ kind = .typeMismatch ∧ part.WrongType value ∨
      kind = .constraintViolation ∧ ∃ c, part.Breaks c value := by
  cases kind <;> simp [Faulty, hn, not_absent_of_isNull_eq_false hn]

/-- No two things are wrong at once. -/
theorem Expansion.Faulty.unique {part : Expansion} {entry : Option Value} {k l : FailureKind}
    (hk : part.Faulty entry k) (hl : part.Faulty entry l) : k = l := by
  rcases absent_or_present entry with ha | ⟨value, rfl, hn⟩
  · rw [faulty_iff_of_absent ha] at hk hl
    rw [hk.1, hl.1]
  · rw [faulty_iff_of_present hn] at hk hl
    rcases hk with ⟨rfl, hw⟩ | ⟨rfl, c, hc⟩ <;> rcases hl with ⟨rfl, hw'⟩ | ⟨rfl, c', hc'⟩
    · rfl
    · exact absurd hc' (not_breaks_of_wrongType hw c')
    · exact absurd hc (not_breaks_of_wrongType hw' c)
    · rfl

/-- Whether a failure says truly what is wrong with an entry at a part of an expansion. -/
structure Failure.Explains (failure : Failure) (part : Expansion) (entry : Option Value) :
    Prop where
  /-- The kind tells what is wrong. -/
  kind_iff : ∀ kind, failure.kind = kind ↔ part.Faulty entry kind
  /-- Of an absent entry it is said whether the key was missing or held null. -/
  missing : failure.kind = .requiredMissing → failure.code = "required" ∧
    (entry = none → failure.got = some "undefined") ∧
      (entry = some .null → failure.got = some "null")
  /-- Of a wrong type, which one was found. -/
  mismatch : failure.kind = .typeMismatch → failure.code = "invalid_type" ∧
    ∀ value, entry = some value → failure.got = some (part.reportedType value)
  /-- Of a constraint, which one is the first that is broken, and by what. -/
  violation : failure.kind = .constraintViolation →
    ∀ value, entry = some value → ∃ c, Constraint.IsFirst (part.Breaks · value) c ∧
      failure.code = c.code ∧ failure.got = some (c.shown value)

namespace Failure

variable {failure : Failure} {part : Expansion} {slot : Slot} {value : Value}

theorem Explains.of_missing (ha : Absent slot.value?) (hr : part.isRequired = true)
    (h : failure.Reports slot .requiredMissing "required" slot.absentLabel) :
    failure.Explains part slot.value? where
  kind_iff kind := by
    have hfault : part.Faulty slot.value? failure.kind := h.kind_eq ▸ ⟨ha, hr⟩
    exact ⟨fun hk => hk ▸ hfault, hfault.unique⟩
  missing _ := by
    refine ⟨h.code_eq, fun hv => ?_, fun hv => ?_⟩ <;> rw [h.got_eq, Slot.absentLabel, hv]
  mismatch hk := by
    rw [h.kind_eq] at hk
    cases hk
  violation hk := by
    rw [h.kind_eq] at hk
    cases hk

theorem Explains.of_mismatch (hp : slot.present? = some value) (hw : part.WrongType value)
    (h : failure.Reports slot .typeMismatch "invalid_type" (part.reportedType value)) :
    failure.Explains part slot.value? := by
  obtain ⟨hv, hn⟩ := Slot.present?_eq_some_iff.mp hp
  rw [hv]
  have hfault : part.Faulty (some value) failure.kind := h.kind_eq ▸ ⟨value, rfl, hn, hw⟩
  refine ⟨fun kind => ⟨fun hk => hk ▸ hfault, hfault.unique⟩, fun hk => ?_,
    fun _ => ⟨h.code_eq, ?_⟩, fun hk => ?_⟩
  · rw [h.kind_eq] at hk
    cases hk
  · rintro _ ⟨⟩
    exact h.got_eq
  · rw [h.kind_eq] at hk
    cases hk

theorem Explains.of_violation (hp : slot.present? = some value) {c : Constraint}
    (hc : Constraint.IsFirst (part.Breaks · value) c)
    (h : failure.Reports slot .constraintViolation c.code (c.shown value)) :
    failure.Explains part slot.value? := by
  obtain ⟨hv, hn⟩ := Slot.present?_eq_some_iff.mp hp
  rw [hv]
  have hfault : part.Faulty (some value) failure.kind := h.kind_eq ▸ ⟨value, c, rfl, hn, hc.1⟩
  refine ⟨fun kind => ⟨fun hk => hk ▸ hfault, hfault.unique⟩, fun hk => ?_, fun hk => ?_,
    fun _ => ?_⟩
  · rw [h.kind_eq] at hk
    cases hk
  · rw [h.kind_eq] at hk
    cases hk
  · rintro _ ⟨⟩
    exact ⟨c, hc, h.code_eq, h.got_eq⟩

end Failure

end DocSchema
