import DocSchema.Proofs.Combining
import DocSchema.Proofs.Diagnosis

/-!
# Validators from factories

Validators can be put together by hand: from the tests, by nesting them in arrays and shapes, by
combining lists of them and by taking required forms.  A compiler makes few of these only, so what
holds of compiled validators has to be shown again.  The one thing that is left out is a check that
somebody else has written, of which nothing is known.

## Where a required value can hide

A combined list is not required, even if some of its members are, and then it still rejects an
absent value.  So the flag alone does not tell; it has to be looked for in the members of lists, and
in their members, but nowhere else: an array or a shape does not come to its children if there is
nothing to look into.

* `Validator.Built`: the validators that factories make.
* `Failure.Located`: a failure at the end of a path that can be followed.
* `Validator.Built.exists_located`: failures of built validators are located.
* `Validator.RejectsAbsence`: a required value, perhaps hidden in lists.
* `Validator.Built.exists_failure_iff_of_absent`: this is what an absent value fails for.
* `Validator.failure?_withChildren_of_absent`: an absent value is not looked into.
* `Validator.Built.locates_and_decides_absence`: all of this together.
-/

namespace DocSchema

/-! ## The factories -/

/-- Whether a test is one of the library, and not a check of somebody else's making. -/
def Test.IsStandard : Test → Prop
  | custom _ => False
  | _ => True

/-- A test of the library lets absent values pass and looks at nothing but the value. -/
theorem Test.failure?_of_isStandard {t : Test} (ht : t.IsStandard) (slot : Slot) (label : String) :
    t.failure? slot label = slot.present?.bind (t.failureOf slot label) := by
  cases t with
  | custom check => exact ht.elim
  | _ => rfl

/-- A constraint on texts lets other values pass. -/
theorem Test.violation_cases_of_text {t : Test} {value : Value} {pass : String → Prop}
    [DecidablePred pass] {code detail expected : String} {got : String → String}
    (h : ∀ slot label, t.failureOf slot label value = value.string?.bind fun text =>
      if pass text then none else some (violation slot label code detail expected (got text))) :
    (∀ slot label, t.failureOf slot label value = none) ∨
    ∃ code detail expected got, ∀ slot label, t.failureOf slot label value =
      some (violation slot label code detail expected got) := by
  cases htext : value.string? with
  | none => exact .inl fun slot label => by rw [h, htext]; rfl
  | some text =>
    by_cases hpass : pass text
    · exact .inl fun slot label => by rw [h, htext, Option.bind_some, if_pos hpass]
    · exact .inr ⟨code, detail, expected, got text, fun slot label => by
        rw [h, htext, Option.bind_some, if_neg hpass]⟩

/-- **What a test makes of a value is the same in every slot and under every label**: it passes, or
it has the wrong type, breaks a constraint, or is none of the allowed texts. -/
theorem Test.failureOf_cases (t : Test) (value : Value) :
    (∀ slot label, t.failureOf slot label value = none) ∨
    (∃ shown got expectation expected, ∀ slot label, t.failureOf slot label value =
      some (wrongType slot label shown got expectation expected)) ∨
    (∃ code detail expected got, ∀ slot label, t.failureOf slot label value =
      some (violation slot label code detail expected got)) ∨
    ∃ allowed, ∀ slot label, t.failureOf slot label value =
      some (notAllowed slot label value allowed) := by
  cases t with
  | anything | custom check => exact .inl fun _ _ => rfl
  | primitive type =>
    by_cases hpass : value.primitiveName = type.name
    · exact .inl fun _ _ => if_pos hpass
    · exact .inr (.inl ⟨_, _, _, _, fun _ _ => if_neg hpass⟩)
  | date =>
    by_cases hpass : value.date?.isSome
    · exact .inl fun _ _ => if_pos hpass
    · exact .inr (.inl ⟨_, _, _, _, fun _ _ => if_neg hpass⟩)
  | oneOf allowed =>
    by_cases hpass : value.string?.any allowed.contains
    · exact .inl fun _ _ => if_pos hpass
    · exact .inr (.inr (.inr ⟨allowed, fun _ _ => if_neg hpass⟩))
  | min limit =>
    by_cases hfail : limit.isAbove value
    · exact .inr (.inr (.inl ⟨_, _, _, _, fun _ _ => if_pos hfail⟩))
    · exact .inl fun _ _ => if_neg hfail
  | max limit =>
    by_cases hfail : limit.isBelow value
    · exact .inr (.inr (.inl ⟨_, _, _, _, fun _ _ => if_pos hfail⟩))
    · exact .inl fun _ _ => if_neg hfail
  | pattern p | minLength n | maxLength n =>
    exact (violation_cases_of_text fun _ _ => rfl).imp_right fun hfail => .inr (.inl hfail)

namespace Validator

/-- The validators that factories make.  None of the factories sets the flag but the required
form. -/
inductive Built : Validator → Prop
  | test {t : Test} : t.IsStandard → Built (ofTest t)
  | arrayOf {element : Validator} : Built element → Built (arrayOf element false)
  | shape {fields : List (String × Validator)} :
    (∀ field ∈ fields, Built field.2) → Built (shape fields false)
  | combine {checks : List Validator} : (∀ v ∈ checks, Built v) → Built (combine checks)
  | required {v : Validator} : Built v → Built v.required

variable {slot : Slot} {label : String} {value : Value} {failure : Failure}

/-! ## What arrays and shapes report -/

/-- An array passes what is absent and fails what is no array; else its elements are checked. -/
theorem failure?_arrayOf (element : Validator) :
    (arrayOf element false).failure? slot label = slot.present?.bind fun value =>
      match value.array? with
      | none => some (notArray slot label value)
      | some items => (List.range items.length).findSome? fun position =>
        element.failure? (slot.child value (.index position)) label := by
  rw [failure?]
  rfl

/-- A shape passes what is absent and fails what is no object; else its fields are checked. -/
theorem failure?_shape (fields : List (String × Validator)) :
    (shape fields false).failure? slot label = slot.present?.bind fun value =>
      if value.primitiveName = "object" then
        fields.findSome? fun field => field.2.failure? (slot.child value (.field field.1)) label
      else some (notObject slot label value) := by
  simp only [failure?, fieldsFailure?_eq_findSome?]
  rfl

/-- Only required forms and lists have something to say of an absent value. -/
theorem failure?_ofTest_of_absent {t : Test} (ht : t.IsStandard) (hp : slot.present? = none) :
    (ofTest t).failure? slot label = none := by
  rw [failure?_ofTest, Test.failure?_of_isStandard ht, hp]
  rfl

theorem failure?_arrayOf_of_absent (element : Validator) (hp : slot.present? = none) :
    (arrayOf element false).failure? slot label = none := by
  rw [failure?_arrayOf, hp]
  rfl

theorem failure?_shape_of_absent (fields : List (String × Validator)) (hp : slot.present? = none) :
    (shape fields false).failure? slot label = none := by
  rw [failure?_shape, hp]
  rfl

/-- The failure of an array is its own, or that of one of its elements. -/
theorem eq_notArray_or_of_failure?_arrayOf {element : Validator}
    (h : (arrayOf element false).failure? slot label = some failure) :
    ∃ value, slot.present? = some value ∧
      (failure = notArray slot label value ∨
        ∃ position,
          element.failure? (slot.child value (.index position)) label = some failure) := by
  rw [failure?_arrayOf, Option.bind_eq_some_iff] at h
  obtain ⟨value, hvalue, h⟩ := h
  refine ⟨value, hvalue, ?_⟩
  cases hitems : value.array? with
  | none =>
    rw [hitems] at h
    exact .inl (Option.some_inj.mp h).symm
  | some items =>
    rw [hitems] at h
    obtain ⟨position, -, hposition⟩ := List.exists_of_findSome?_eq_some h
    exact .inr ⟨position, hposition⟩

/-- The failure of a shape is its own, or that of one of its fields. -/
theorem eq_notObject_or_of_failure?_shape {fields : List (String × Validator)}
    (h : (shape fields false).failure? slot label = some failure) :
    ∃ value, slot.present? = some value ∧
      (failure = notObject slot label value ∨
        ∃ field ∈ fields,
          field.2.failure? (slot.child value (.field field.1)) label = some failure) := by
  rw [failure?_shape, Option.bind_eq_some_iff] at h
  obtain ⟨value, hvalue, h⟩ := h
  refine ⟨value, hvalue, ?_⟩
  by_cases hname : value.primitiveName = "object"
  · rw [if_pos hname] at h
    exact .inr (List.exists_of_findSome?_eq_some h)
  · rw [if_neg hname] at h
    exact .inl (Option.some_inj.mp h).symm

end Validator

/-! ## Located failures -/

/-- Whether a failure lies at the end of a path that leads on from a slot by some steps.  The path
can be followed from the container of the slot; what it comes to is a value, unless it is the
absence of one that is reported. -/
structure Failure.Located (failure : Failure) (slot : Slot) (steps : List Segment) : Prop where
  path_eq : failure.path.segments = slot.path.segments ++ steps
  /-- Every step but the last one finds a value. -/
  leads : (slot.container.follow? (slot.key :: steps).dropLast).isSome
  absent : failure.kind = .requiredMissing → Absent (slot.container.follow? (slot.key :: steps))
  present : failure.kind ≠ .requiredMissing →
    ∃ value, slot.container.follow? (slot.key :: steps) = some value ∧ value.isNull = false

namespace Failure.Located

variable {failure : Failure} {slot : Slot} {value : Value} {steps : List Segment}

theorem of_absent (h : slot.present? = none) (hpath : failure.path = slot.path)
    (hkind : failure.kind = .requiredMissing) : failure.Located slot [] where
  path_eq := by rw [hpath, List.append_nil]
  leads := rfl
  absent _ := by
    rw [Value.follow?_cons, show (fun value : Value => value.follow? []) = some from rfl,
      Option.bind_fun_some]
    exact Slot.present?_eq_none_iff.mp h
  present hne := absurd hkind hne

theorem of_present (h : slot.present? = some value) (hpath : failure.path = slot.path)
    (hkind : failure.kind ≠ .requiredMissing) : failure.Located slot [] where
  path_eq := by rw [hpath, List.append_nil]
  leads := rfl
  absent heq := absurd heq hkind
  present _ := by
    obtain ⟨hvalue, hnull⟩ := Slot.present?_eq_some_iff.mp h
    have hget : slot.container.get? slot.key = some value := hvalue
    exact ⟨value, by rw [Value.follow?_cons, hget, Option.bind_some, Value.follow?], hnull⟩

/-- What is located behind a child is located behind the slot, one step further. -/
theorem of_child {key : Segment} (h : slot.present? = some value)
    (hlocated : failure.Located (slot.child value key) steps) :
    failure.Located slot (key :: steps) := by
  obtain ⟨hvalue, -⟩ := Slot.present?_eq_some_iff.mp h
  have hget : slot.container.get? slot.key = some value := hvalue
  have hfollow (path : List Segment) :
      slot.container.follow? (slot.key :: path) = value.follow? path := by
    rw [Value.follow?_cons, hget, Option.bind_some]
  refine ⟨?_, ?_, ?_, ?_⟩
  · have hpath := hlocated.path_eq
    rwa [Slot.path_child, Path.segments_push, List.append_assoc] at hpath
  · rw [List.dropLast_cons_cons, hfollow]
    exact hlocated.leads
  · rw [hfollow]
    exact hlocated.absent
  · rw [hfollow]
    exact hlocated.present

end Failure.Located

/-- A test reports the value in its slot, and never that there is none. -/
theorem Test.located_of_failureOf {t : Test} {slot : Slot} {label : String} {value : Value}
    {failure : Failure} (h : slot.present? = some value)
    (hfail : t.failureOf slot label value = some failure) : failure.Located slot [] := by
  rcases t.failureOf_cases value with
    hcase | ⟨_, _, _, _, hcase⟩ | ⟨_, _, _, _, hcase⟩ | ⟨_, hcase⟩ <;> rw [hcase] at hfail
  · cases hfail
  all_goals
    cases hfail
    exact .of_present h rfl nofun

namespace Validator.Built

variable {v : Validator} {slot : Slot} {label : String} {value : Value} {failure : Failure}

/-- **Failures of built validators are located**, by induction over the factories.  Arrays and
shapes hand up the failures of their children with the step to the child in front, and lists hand
up those of their members as they are. -/
theorem exists_located (h : v.Built) (slot : Slot) (hfail : v.failure? slot label = some failure) :
    ∃ steps, failure.Located slot steps := by
  induction h generalizing slot with
  | test ht =>
    rw [failure?_ofTest, Test.failure?_of_isStandard ht, Option.bind_eq_some_iff] at hfail
    obtain ⟨value, hvalue, hfail⟩ := hfail
    exact ⟨[], Test.located_of_failureOf hvalue hfail⟩
  | arrayOf _ ih =>
    obtain ⟨value, hvalue, rfl | ⟨position, hposition⟩⟩ := eq_notArray_or_of_failure?_arrayOf hfail
    · exact ⟨[], .of_present hvalue rfl nofun⟩
    · obtain ⟨steps, hlocated⟩ := ih _ hposition
      exact ⟨_, hlocated.of_child hvalue⟩
  | shape _ ih =>
    obtain ⟨value, hvalue, rfl | ⟨field, hmem, hfield⟩⟩ := eq_notObject_or_of_failure?_shape hfail
    · exact ⟨[], .of_present hvalue rfl nofun⟩
    · obtain ⟨steps, hlocated⟩ := ih field hmem _ hfield
      exact ⟨_, hlocated.of_child hvalue⟩
  | combine _ ih =>
    rw [failure?_combine] at hfail
    obtain ⟨member, hmem, hmember⟩ := List.exists_of_findSome?_eq_some hfail
    exact ih member hmem slot hmember
  | required _ ih =>
    cases hp : slot.present? with
    | some value =>
      rw [failure?_required_of_present _ hp] at hfail
      exact ih slot hfail
    | none =>
      rw [failure?_required_of_absent _ hp] at hfail
      cases hfail
      exact ⟨[], .of_absent hp rfl rfl⟩

end Validator.Built

/-! ## Absent values -/

namespace Validator

/-- Whether an absent value fails: it is required, or one of the members of a combined list, of two
at least, rejects it. -/
inductive RejectsAbsence : Validator → Prop
  | required {v : Validator} : v.isRequired = true → RejectsAbsence v
  | member {checks : List Validator} {v : Validator} :
    2 ≤ checks.length → v ∈ checks → RejectsAbsence v → RejectsAbsence (combine checks)

variable {v : Validator} {slot : Slot} {label : String} {failure : Failure}

theorem rejectsAbsence_iff :
    v.RejectsAbsence ↔ v.isRequired = true ∨
      ∃ checks member, v = combine checks ∧ 2 ≤ checks.length ∧ member ∈ checks ∧
        member.RejectsAbsence := by
  constructor
  · intro h
    cases h with
    | required hrequired => exact .inl hrequired
    | member hlength hmem hmember => exact .inr ⟨_, _, rfl, hlength, hmem, hmember⟩
  · rintro (hrequired | ⟨checks, member, rfl, hlength, hmem, hmember⟩)
    · exact .required hrequired
    · exact .member hlength hmem hmember

/-- What is no list and not required does not reject absence, and that is right if it passes. -/
theorem exists_failure_iff_of_passes (hne : ∀ checks required, v ≠ all checks required)
    (hflag : v.isRequired = false) (hpass : v.failure? slot label = none) :
    (∃ failure, v.failure? slot label = some failure) ↔ v.RejectsAbsence := by
  refine iff_of_false ?_ ?_
  · rintro ⟨failure, hfail⟩
    rw [hpass] at hfail
    cases hfail
  · rw [rejectsAbsence_iff]
    rintro (hrequired | ⟨checks, member, rfl, hlength, -⟩)
    · rw [hflag] at hrequired
      cases hrequired
    · exact hne _ _ (combine_of_length_ne_one (by omega))

/-- A combined list rejects an absent value if one of its members does. -/
theorem rejectsAbsence_combine_iff (checks : List Validator) :
    (combine checks).RejectsAbsence ↔ ∃ member ∈ checks, member.RejectsAbsence := by
  by_cases hlength : checks.length = 1
  · obtain ⟨only, rfl⟩ := List.length_eq_one_iff.mp hlength
    simp [combine]
  · constructor
    · rw [combine_of_length_ne_one hlength, rejectsAbsence_iff]
      rintro (hrequired | ⟨others, member, heq, htwo, hmem, hmember⟩)
      · cases hrequired
      · rw [combine_of_length_ne_one (by omega)] at heq
        cases heq
        exact ⟨member, hmem, hmember⟩
    · rintro ⟨member, hmem, hmember⟩
      have hpos : 0 < checks.length := List.length_pos_of_mem hmem
      exact .member (by omega) hmem hmember

namespace Built

/-- All that a built validator has to say of an absent value is that it is missing. -/
theorem eq_missing_of_absent (h : v.Built) (hp : slot.present? = none)
    (hfail : v.failure? slot label = some failure) :
    ∃ namesPath, failure = missing slot label namesPath := by
  induction h with
  | test ht =>
    rw [failure?_ofTest_of_absent ht hp] at hfail
    cases hfail
  | arrayOf _ _ =>
    rw [failure?_arrayOf_of_absent _ hp] at hfail
    cases hfail
  | shape _ _ =>
    rw [failure?_shape_of_absent _ hp] at hfail
    cases hfail
  | combine _ ih =>
    rw [failure?_combine] at hfail
    obtain ⟨member, hmem, hmember⟩ := List.exists_of_findSome?_eq_some hfail
    exact ih member hmem hmember
  | required _ _ =>
    rw [failure?_required_of_absent _ hp] at hfail
    exact ⟨_, (Option.some_inj.mp hfail).symm⟩

/-- **A built validator fails an absent value exactly if it rejects absence**, by induction over the
factories. -/
theorem exists_failure_iff_of_absent (h : v.Built) (hp : slot.present? = none) :
    (∃ failure, v.failure? slot label = some failure) ↔ v.RejectsAbsence := by
  induction h with
  | test ht =>
    exact exists_failure_iff_of_passes (by rintro checks required ⟨⟩) rfl
      (failure?_ofTest_of_absent ht hp)
  | arrayOf _ _ =>
    exact exists_failure_iff_of_passes (by rintro checks required ⟨⟩) rfl
      (failure?_arrayOf_of_absent _ hp)
  | shape _ _ =>
    exact exists_failure_iff_of_passes (by rintro checks required ⟨⟩) rfl
      (failure?_shape_of_absent _ hp)
  | @combine checks _ ih =>
    rw [rejectsAbsence_combine_iff, failure?_combine, ← Option.isSome_iff_exists,
      List.findSome?_isSome_iff]
    refine exists_congr fun member => and_congr_right fun hmem => ?_
    rw [Option.isSome_iff_exists]
    exact ih member hmem
  | required _ _ =>
    rw [failure?_required_of_absent _ hp]
    exact iff_of_true ⟨_, rfl⟩ (.required (isRequired_required _))

end Built

/-! ## Children of absent values -/

mutual

/-- The validator with other children: all its arrays have one element, and all its shapes have the
same fields. -/
def withChildren : Validator → Validator → List (String × Validator) → Validator
  | test t required, _, _ => test t required
  | arrayOf _ required, element, _ => arrayOf element required
  | shape _ required, _, fields => shape fields required
  | all checks required, element, fields => all (checksWithChildren checks element fields) required

/-- The members of a list with other children. -/
def checksWithChildren :
    List Validator → Validator → List (String × Validator) → List Validator
  | [], _, _ => []
  | v :: rest, element, fields =>
    v.withChildren element fields :: checksWithChildren rest element fields

end

mutual

/-- **An absent value is not looked into**: what is reported of it is the same whatever the children
of arrays and shapes are. -/
theorem failure?_withChildren_of_absent (hp : slot.present? = none) (v element : Validator)
    (fields : List (String × Validator)) :
    (v.withChildren element fields).failure? slot label = v.failure? slot label := by
  cases v with
  | test t required => rw [withChildren]
  | arrayOf _ required | shape _ required =>
    simp only [withChildren, failure?, hp, Option.bind_none]
  | all checks required =>
    rw [withChildren, failure?, failure?,
      checksFailure?_withChildren_of_absent hp checks element fields]

theorem checksFailure?_withChildren_of_absent (hp : slot.present? = none)
    (checks : List Validator) (element : Validator) (fields : List (String × Validator)) :
    checksFailure? (checksWithChildren checks element fields) slot label =
      checksFailure? checks slot label := by
  cases checks with
  | nil => rfl
  | cons v rest =>
    rw [checksWithChildren, checksFailure?, checksFailure?,
      failure?_withChildren_of_absent hp v element fields,
      checksFailure?_withChildren_of_absent hp rest element fields]

end

/-! ## The contract -/

/-- **Built validators locate their failures, and only what is required rejects an absent value.**
A failure lies on the path of the slot or behind it; the path can be followed from the container of
the slot, and comes to a value, or to none if that is what is reported.  An absent value fails
exactly if it is required, or if a member of a combined list rejects it; then the slot itself is
reported as missing.  No element and no field is looked at for it. -/
theorem Built.locates_and_decides_absence (h : v.Built) (slot : Slot) (label : String) :
    (∀ failure, v.failure? slot label = some failure →
      ∃ steps, failure.path.segments = slot.path.segments ++ steps ∧
        (slot.container.follow? (slot.key :: steps).dropLast).isSome ∧
        (failure.kind = .requiredMissing →
          Absent (slot.container.follow? (slot.key :: steps))) ∧
        (failure.kind ≠ .requiredMissing →
          ∃ value, slot.container.follow? (slot.key :: steps) = some value ∧
            value.isNull = false)) ∧
    (Absent slot.value? →
      ((∃ failure, v.failure? slot label = some failure) ↔ v.RejectsAbsence) ∧
      (∀ failure, v.failure? slot label = some failure →
        failure.kind = .requiredMissing ∧ failure.path = slot.path) ∧
      ∀ element fields,
        (v.withChildren element fields).failure? slot label = v.failure? slot label) := by
  constructor
  · intro failure hfail
    obtain ⟨steps, hlocated⟩ := h.exists_located slot hfail
    exact ⟨steps, hlocated.path_eq, hlocated.leads, hlocated.absent, hlocated.present⟩
  · intro habsent
    have hp : slot.present? = none := Slot.present?_eq_none_iff.mpr habsent
    refine ⟨h.exists_failure_iff_of_absent hp, fun failure hfail => ?_, fun element fields =>
      failure?_withChildren_of_absent hp v element fields⟩
    obtain ⟨namesPath, rfl⟩ := h.eq_missing_of_absent hp hfail
    exact ⟨rfl, rfl⟩

end Validator

namespace Sample

/-- A list of numbered cells, put together by hand.  The list is combined with a check that requires
an array, and is not required itself. -/
def numbered : Validator :=
  .combine [
    .arrayOf (.shape [("id", (Validator.ofTest (.primitive .number)).required)] false) false,
    (Validator.ofTest (.primitive .array)).required]

theorem built_numbered : numbered.Built := by
  have hid : (Validator.ofTest (.primitive .number)).required.Built := .required (.test trivial)
  have hcell : (Validator.shape [("id", (Validator.ofTest (.primitive .number)).required)]
      false).Built := .shape (List.forall_mem_singleton.mpr hid)
  have harray : (Validator.ofTest (.primitive .array)).required.Built := .required (.test trivial)
  exact .combine (List.forall_mem_cons.mpr ⟨.arrayOf hcell, List.forall_mem_singleton.mpr harray⟩)

/-- The second cell has no number, and the one beside the list has a text for it. -/
def cells : Value :=
  .object [("cells", .array [.object [("id", .number 1)], .object []]),
    ("others", .array [.object [("id", .string "a")]])]

/-- What is wrong with the second cell. -/
def unnumbered : Failure where
  path := ⟨[.field "cells", .index 1, .field "id"]⟩
  kind := .requiredMissing
  code := "required"
  message := "The prop `cells[1].id` is marked as required in `Form`, but its value is `undefined`."
  got := some "undefined"
  expected := some "value"

/-- What is wrong with the cell beside the list. -/
def lettered : Failure where
  path := ⟨[.field "others", .index 0, .field "id"]⟩
  kind := .typeMismatch
  code := "invalid_type"
  message := "Invalid prop `others[0].id` of type `string` supplied to `Form`, expected `number`."
  got := some "string"
  expected := some "number"

end Sample

/-- The path of the missing number can be followed to its cell, the path of the text to the text;
and without the whole list, the member that is required says so. -/
theorem Validator.Built.locates_and_decides_absence_of_numbered :
    Sample.numbered.Built ∧
    (Sample.numbered.failure? (.field Sample.cells "cells") "Form" = some Sample.unnumbered ∧
      ∃ steps, Sample.unnumbered.path.segments = [.field "cells"] ++ steps ∧
        (Sample.cells.follow? (.field "cells" :: steps).dropLast).isSome ∧
        Absent (Sample.cells.follow? (.field "cells" :: steps))) ∧
    (Sample.numbered.failure? (.field Sample.cells "others") "Form" = some Sample.lettered ∧
      ∃ steps value, Sample.lettered.path.segments = [.field "others"] ++ steps ∧
        Sample.cells.follow? (.field "others" :: steps) = some value ∧ value.isNull = false) ∧
    Absent (Slot.field Sample.cells "spare").value? ∧
    Sample.numbered.RejectsAbsence ∧
    ∃ failure, Sample.numbered.failure? (.field Sample.cells "spare") "Form" = some failure ∧
      failure.kind = .requiredMissing ∧ failure.path = ⟨[.field "spare"]⟩ ∧
      (Sample.numbered.withChildren (.all [] true) []).failure? (.field Sample.cells "spare")
        "Form" = some failure := by
  have hmissing : Sample.numbered.failure? (.field Sample.cells "cells") "Form" =
      some Sample.unnumbered := by decide
  have hletter : Sample.numbered.failure? (.field Sample.cells "others") "Form" =
      some Sample.lettered := by decide
  have habsent : Absent (Slot.field Sample.cells "spare").value? := .inl rfl
  have hrejects : Sample.numbered.RejectsAbsence :=
    .member (by decide) (List.mem_cons_of_mem _ List.mem_cons_self) (.required rfl)
  obtain ⟨hcells, -⟩ :=
    locates_and_decides_absence Sample.built_numbered (.field Sample.cells "cells") "Form"
  obtain ⟨hothers, -⟩ :=
    locates_and_decides_absence Sample.built_numbered (.field Sample.cells "others") "Form"
  obtain ⟨-, hspare⟩ :=
    locates_and_decides_absence Sample.built_numbered (.field Sample.cells "spare") "Form"
  obtain ⟨steps, hpath, hleads, hend, -⟩ := hcells _ hmissing
  obtain ⟨others, hothersPath, -, -, hvalue⟩ := hothers _ hletter
  obtain ⟨value, hfollow, hnull⟩ := hvalue (by decide)
  obtain ⟨hiff, hreport, hchildren⟩ := hspare habsent
  obtain ⟨failure, hfail⟩ := hiff.mpr hrejects
  obtain ⟨hkind, hplace⟩ := hreport failure hfail
  exact ⟨Sample.built_numbered, ⟨hmissing, steps, hpath, hleads, hend rfl⟩,
    ⟨hletter, others, value, hothersPath, hfollow, hnull⟩, habsent, hrejects, failure, hfail, hkind,
    hplace, (hchildren _ _).trans hfail⟩

end DocSchema
