import DocSchema.Proofs.Leaf

/-!
# Combining validators

A list of validators is combined to one that reports the first failure among them.  Combining is
associative, with the empty list as its unit: a list may be cut into groups that are combined by
themselves first, in any way, and the groups together report what the list reports.  This is about
all validators, whether they are required or not and whatever their checks are.

## Where grouping shows

A list with a single member is not wrapped.  The member keeps its own flag and its own way of
naming a missing value, while a list of any other length names the bare key.  So grouping cannot be
told from the reports of a combined validator, but it can be told from its required form, and only
there: on an absent value, by the name in the message, if one of the lists has a single member and
the other one does not.

* `Validator.failure?_required_of_present`, `Validator.failure?_required_of_absent`: what the
  required form of a validator reports.
* `Validator.failure?_combine`: the first failure among the members.
* `Validator.failure?_combine_map_combine`: groups report what the whole list reports.
* `Validator.failure?_combine_regrouped`: both of this, and what holds of the required forms.
-/

namespace DocSchema

namespace Validator

variable {slot : Slot} {label : String} {value : Value}

/-! ## Required forms -/

@[simp] theorem isRequired_required (v : Validator) : v.required.isRequired = true := by
  cases v <;> rfl

/-- The flag does not matter to a present value. -/
theorem failure?_required_of_present (v : Validator) (h : slot.present? = some value) :
    v.required.failure? slot label = v.failure? slot label := by
  cases v <;> simp only [required, withRequired, failure?, demand_of_present h]

/-- An absent value is reported as missing, whatever the check makes of it. -/
theorem failure?_required_of_absent (v : Validator) (h : slot.present? = none) :
    v.required.failure? slot label = some (missing slot label v.namesPath) := by
  have hdemand (namesPath : Bool) (outcome : Option Failure) :
      demand true namesPath slot label outcome = some (missing slot label namesPath) := by
    simp [demand, h]
  cases v <;> simp only [required, withRequired, failure?, hdemand, namesPath]

/-! ## The first failure -/

/-- A list is wrapped unless it has a single member. -/
theorem combine_of_length_ne_one {checks : List Validator} (h : checks.length ≠ 1) :
    combine checks = all checks false := by
  rcases checks with _ | ⟨v, _ | ⟨w, rest⟩⟩
  · rfl
  · exact absurd rfl h
  · rfl

/-- **A combined validator reports the first failure among its members.**  A single member reports
what it reports by itself. -/
theorem failure?_combine (checks : List Validator) :
    (combine checks).failure? slot label = checks.findSome? fun v => v.failure? slot label := by
  by_cases hlength : checks.length = 1
  · obtain ⟨only, rfl⟩ := List.length_eq_one_iff.mp hlength
    rw [combine, List.findSome?_singleton]
  · rw [combine_of_length_ne_one hlength, failure?, checksFailure?_eq_findSome?]
    rfl

/-! ## Grouping -/

/-- **Groups report what the whole list reports**, by induction over the groups. -/
theorem failure?_combine_map_combine (groups : List (List Validator)) :
    (combine (groups.map combine)).failure? slot label =
      (combine groups.flatten).failure? slot label := by
  rw [failure?_combine, failure?_combine]
  induction groups with
  | nil => rfl
  | cons group rest ih =>
    rw [List.map_cons, List.findSome?_cons, List.flatten_cons, List.findSome?_append,
      failure?_combine, ih]
    cases group.findSome? fun v => v.failure? slot label <;> rfl

/-- A missing value has two names, its path and its bare key, and only the message depends on which
of them is used. -/
theorem exists_missing_eq (slot : Slot) (label : String) (namesPath : Bool) :
    ∃ shown, (shown = slot.name ∨ shown = slot.path.render) ∧
      missing slot label namesPath =
        { path := slot.path
          kind := .requiredMissing
          code := "required"
          message := "The prop `" ++ shown ++ "` is marked as required in `" ++ label ++
            "`, but its value is `" ++ slot.absentLabel ++ "`."
          got := some slot.absentLabel
          expected := some "value" } := by
  cases namesPath with
  | true => exact ⟨slot.path.render, .inr rfl, rfl⟩
  | false => exact ⟨slot.name, .inl rfl, rfl⟩

/-- **Combining is an ordered monoid that stops at the first failure.**  A combined validator
reports a failure if a member reports it and all members before it pass, and nothing if all members
pass.  Groups that are combined first report what the whole list reports.  The required forms agree
on a present value; on an absent one both report it as missing, with nothing else between the two
reports than which name the message uses; and they agree on all values if neither list has exactly
one member. -/
theorem failure?_combine_regrouped (groups : List (List Validator)) (slot : Slot)
    (label : String) :
    (∀ checks failure, (combine checks).failure? slot label = some failure ↔
      ∃ before v after, checks = before ++ v :: after ∧ v.failure? slot label = some failure ∧
        ∀ earlier ∈ before, earlier.failure? slot label = none) ∧
    (∀ checks, (combine checks).failure? slot label = none ↔
      ∀ v ∈ checks, v.failure? slot label = none) ∧
    (combine (groups.map combine)).failure? slot label =
      (combine groups.flatten).failure? slot label ∧
    (∀ value, slot.present? = some value →
      (combine (groups.map combine)).required.failure? slot label =
        (combine groups.flatten).required.failure? slot label) ∧
    (slot.present? = none →
      ∃ grouped flat shown other,
        (combine (groups.map combine)).required.failure? slot label = some grouped ∧
        (combine groups.flatten).required.failure? slot label = some flat ∧
        grouped.kind = .requiredMissing ∧ grouped.path = slot.path ∧
        flat = { grouped with message := flat.message } ∧
        (shown = slot.name ∨ shown = slot.path.render) ∧
        (other = slot.name ∨ other = slot.path.render) ∧
        grouped.message = "The prop `" ++ shown ++ "` is marked as required in `" ++ label ++
          "`, but its value is `" ++ slot.absentLabel ++ "`." ∧
        flat.message = "The prop `" ++ other ++ "` is marked as required in `" ++ label ++
          "`, but its value is `" ++ slot.absentLabel ++ "`.") ∧
    (groups.length ≠ 1 → groups.flatten.length ≠ 1 →
      (combine (groups.map combine)).required.failure? slot label =
        (combine groups.flatten).required.failure? slot label) := by
  refine ⟨?_, ?_, failure?_combine_map_combine groups, ?_, ?_, ?_⟩
  · intro checks failure
    rw [failure?_combine, List.findSome?_eq_some_iff]
  · intro checks
    rw [failure?_combine, List.findSome?_eq_none_iff]
  · intro value hvalue
    rw [failure?_required_of_present _ hvalue, failure?_required_of_present _ hvalue,
      failure?_combine_map_combine]
  · intro habsent
    obtain ⟨shown, hshown, hgrouped⟩ :=
      exists_missing_eq slot label (combine (groups.map combine)).namesPath
    obtain ⟨other, hother, hflat⟩ := exists_missing_eq slot label (combine groups.flatten).namesPath
    refine ⟨_, _, shown, other, failure?_required_of_absent _ habsent,
      failure?_required_of_absent _ habsent, rfl, rfl, rfl, hshown, hother, ?_, ?_⟩
    · rw [hgrouped]
    · rw [hflat]
  · intro hgroups hflat
    have hlength : (groups.map combine).length ≠ 1 := by rwa [List.length_map]
    cases hp : slot.present? with
    | some value =>
      rw [failure?_required_of_present _ hp, failure?_required_of_present _ hp,
        failure?_combine_map_combine]
    | none =>
      -- both lists are wrapped, and what is wrapped names the bare key
      rw [failure?_required_of_absent _ hp, failure?_required_of_absent _ hp,
        combine_of_length_ne_one hlength, combine_of_length_ne_one hflat]
      rfl

end Validator

namespace Sample

/-- A type test in a group of its own, and an empty group: two members in all, and one test. -/
def loneGroups : List (List Validator) :=
  [[.ofTest (.primitive .string)], []]

/-- The same with a constraint beside the type test. -/
def pairGroups : List (List Validator) :=
  [[.ofTest (.primitive .string), .ofTest (.minLength 3)], []]

/-- The name of an owner. -/
def named : Slot :=
  ⟨.object [("name", .string "Al")], .field "name", .ofField "owner"⟩

/-- The first name of the same owner, which is not there. -/
def nameless : Slot :=
  { named with key := .field "first" }

end Sample

/-- A lone test says that `owner.first` is missing, and a combined one that `first` is; with a
constraint beside the test there is no difference. -/
theorem Validator.failure?_combine_regrouped_of_lone_test :
    (Sample.named.present? = some (.string "Al") ∧
      (combine (Sample.loneGroups.map combine)).required.failure? Sample.named "Form" =
        (combine Sample.loneGroups.flatten).required.failure? Sample.named "Form") ∧
    (Sample.nameless.present? = none ∧
      ∃ grouped flat,
        (combine (Sample.loneGroups.map combine)).required.failure? Sample.nameless "Form" =
          some grouped ∧
        (combine Sample.loneGroups.flatten).required.failure? Sample.nameless "Form" = some flat ∧
        grouped.kind = .requiredMissing ∧ flat = { grouped with message := flat.message } ∧
        grouped.message ≠ flat.message) ∧
    (Sample.pairGroups.length ≠ 1 ∧ Sample.pairGroups.flatten.length ≠ 1 ∧
      (combine (Sample.pairGroups.map combine)).required.failure? Sample.nameless "Form" =
        (combine Sample.pairGroups.flatten).required.failure? Sample.nameless "Form") := by
  have hnamed : Sample.named.present? = some (.string "Al") := by rfl
  have hnameless : Sample.nameless.present? = none := by rfl
  have hgroups : Sample.pairGroups.length ≠ 1 := by decide
  have hflat : Sample.pairGroups.flatten.length ≠ 1 := by decide
  obtain ⟨-, -, -, hpresent, -, -⟩ :=
    failure?_combine_regrouped Sample.loneGroups Sample.named "Form"
  obtain ⟨-, -, -, -, habsent, -⟩ :=
    failure?_combine_regrouped Sample.loneGroups Sample.nameless "Form"
  obtain ⟨-, -, -, -, -, hequal⟩ :=
    failure?_combine_regrouped Sample.pairGroups Sample.nameless "Form"
  obtain ⟨grouped, flat, -, -, hleft, hright, hkind, -, hsame, -⟩ := habsent hnameless
  refine ⟨⟨hnamed, hpresent _ hnamed⟩, ⟨hnameless, grouped, flat, hleft, hright, hkind, hsame, ?_⟩,
    hgroups, hflat, hequal hgroups hflat⟩
  cases hleft
  cases hright
  decide

end DocSchema
