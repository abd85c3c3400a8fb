import DocSchema.Proofs.Factories

/-!
# Verdicts do not depend on their place

A validator is told where its slot lies and under which label the document is checked, and both go
into every failure.  They go nowhere else: whether there is a failure, which one it is, and how far
behind the slot it lies depends on the container and on the key alone.  The same validator can so be
used for all elements of an array, and in any description.

## Two runs as one

To compare two runs of a validator, one would have to follow both of them through arrays, shapes and
lists.  It is simpler to say once what a run finds, before anything is said of the place, and to get
the failure of each run from that by filling in the path of the container and the label.  Runs that
fill in a finding stay of this form under all that validators are made of, so the induction is about
a single run.

* `Finding`, `Finding.report`: what is found, and the failure it makes in a place.
* `Placeless`: runs that fill in a finding.
* `Validator.Built.placeless`: the runs of a built validator.
* `Expansion.built_validator`: compiled validators are built.
* `Compiler.failure?_compileNode_in_places`: what two runs of a compiled validator have in common.
-/

namespace DocSchema

/-! ## Findings -/

/-- What a validator finds under a key, without the path of the container and without the label. -/
structure Finding where
  /-- The steps from the slot to the fault. -/
  steps : List Segment
  kind : FailureKind
  code : String
  got : Option String
  expected : Option String
  /-- The message up to the label, for each path of the container. -/
  before : Path → String
  /-- The message behind the label. -/
  after : Path → String

namespace Finding

/-- The failure that a finding makes in a place and under a label. -/
def report (finding : Finding) (key : Segment) (parent : Path) (label : String) : Failure where
  path := ⟨parent.segments ++ key :: finding.steps⟩
  kind := finding.kind
  code := finding.code
  message := finding.before parent ++ label ++ finding.after parent
  got := finding.got
  expected := finding.expected

/-- What is found under a step from the value of a slot, seen from the slot. -/
def behind (finding : Finding) (key step : Segment) : Finding where
  steps := step :: finding.steps
  kind := finding.kind
  code := finding.code
  got := finding.got
  expected := finding.expected
  before := fun parent => finding.before (parent.push key)
  after := fun parent => finding.after (parent.push key)

theorem report_behind (finding : Finding) (key step : Segment) (parent : Path) (label : String) :
    (finding.behind key step).report key parent label =
      finding.report step (parent.push key) label := by
  have hpath : parent.segments ++ key :: step :: finding.steps =
      (parent.segments ++ [key]) ++ step :: finding.steps := by
    rw [List.append_assoc, List.singleton_append]
  simp only [report, behind, Path.segments_push, hpath]

end Finding

/-! ## Runs that fill in a finding -/

/-- Whether the runs under a key find the same for all paths of the container and all labels. -/
def Placeless (key : Segment) (run : Path → String → Option Failure) : Prop :=
  ∃ finding? : Option Finding, ∀ parent label,
    run parent label = finding?.map fun finding => finding.report key parent label

namespace Placeless

variable {key : Segment} {run : Path → String → Option Failure}

theorem of_eq_none (h : ∀ parent label, run parent label = none) : Placeless key run :=
  ⟨none, h⟩

theorem of_eq_report {failure : Path → String → Failure} (finding : Finding)
    (h : ∀ parent label, failure parent label = finding.report key parent label) :
    Placeless key fun parent label => some (failure parent label) :=
  ⟨some finding, fun parent label => congrArg some (h parent label)⟩

/-- The first of several runs that fails fills in its finding. -/
theorem findSome? {α : Type} {members : List α} {runs : α → Path → String → Option Failure}
    (h : ∀ a ∈ members, Placeless key (runs a)) :
    Placeless key fun parent label => members.findSome? fun a => runs a parent label := by
  induction members with
  | nil => exact of_eq_none fun _ _ => rfl
  | cons a rest ih =>
    obtain ⟨first?, hfirst⟩ := h a List.mem_cons_self
    obtain ⟨others?, hothers⟩ := ih fun b hb => h b (List.mem_cons_of_mem a hb)
    refine ⟨first?.or others?, fun parent label => ?_⟩
    show (a :: rest).findSome? (fun a => runs a parent label) = _
    rw [List.findSome?_cons, hfirst]
    cases first? with
    | some first => rfl
    | none => exact hothers parent label

/-- Runs under a step from the value of a slot are runs under the key of the slot. -/
theorem of_child {step : Segment} {child : Path → String → Option Failure}
    (h : Placeless step child)
    (hrun : ∀ parent label, run parent label = child (parent.push key) label) :
    Placeless key run := by
  obtain ⟨finding?, hfinding⟩ := h
  refine ⟨finding?.map fun finding => finding.behind key step, fun parent label => ?_⟩
  rw [hrun, hfinding, Option.map_map]
  simp only [Function.comp_def, Finding.report_behind]

end Placeless

/-! ## Failures of a slot -/

section

variable (container : Value) (key : Segment)

theorem Test.placeless_wrongType (shown got expectation expected : String) :
    Placeless key fun parent label =>
      some (wrongType ⟨container, key, parent⟩ label shown got expectation expected) := by
  let finding : Finding :=
    { steps := []
      kind := .typeMismatch
      code := "invalid_type"
      got := some got
      expected := some expected
      before := fun parent =>
        s!"Invalid prop `{(parent.push key).render}` of type `{shown}` supplied to `"
      after := fun _ => s!"`, expected {expectation}." }
  refine .of_eq_report finding fun parent label => ?_
  rw [wrongType, Finding.report]
  simp only [finding, String.append_assoc]
  rfl

theorem Test.placeless_violation (code detail expected got : String) :
    Placeless key fun parent label =>
      some (violation ⟨container, key, parent⟩ label code detail expected got) := by
  let finding : Finding :=
    { steps := []
      kind := .constraintViolation
      code := code
      got := some got
      expected := some expected
      before := fun _ => s!"Invalid prop `{key.render}` supplied to `"
      after := fun _ => s!"`. {detail}" }
  refine .of_eq_report finding fun parent label => ?_
  rw [violation, Finding.report]
  simp only [finding, String.append_assoc]
  rfl

theorem Test.placeless_notAllowed (value : Value) (allowed : List String) :
    Placeless key fun parent label =>
      some (notAllowed ⟨container, key, parent⟩ label value allowed) := by
  let texts := (Json.array (allowed.map Json.string)).render
  let finding : Finding :=
    { steps := []
      kind := .constraintViolation
      code := "enum"
      got := some value.display
      expected := some ("one of " ++ texts)
      before := fun parent =>
        s!"Invalid prop `{(parent.push key).render}` of value `{value.display}` supplied to `"
      after := fun _ => s!"`, expected one of {texts}." }
  refine .of_eq_report finding fun parent label => ?_
  rw [notAllowed, Finding.report]
  simp only [finding, texts, String.append_assoc]
  rfl

theorem Validator.placeless_missing (namesPath : Bool) :
    Placeless key fun parent label => some (missing ⟨container, key, parent⟩ label namesPath) := by
  let absent := (Slot.mk container key .root).absentLabel
  let finding : Finding :=
    { steps := []
      kind := .requiredMissing
      code := "required"
      got := some absent
      expected := some "value"
      before := fun parent =>
        let shown := if namesPath then (parent.push key).render else key.render
        s!"The prop `{shown}` is marked as required in `"
      after := fun _ => s!"`, but its value is `{absent}`." }
  refine .of_eq_report finding fun parent label => ?_
  rw [missing, Finding.report]
  simp only [finding, String.append_assoc]
  rfl

/-- A test of a value fills in a finding. -/
theorem Test.placeless_failureOf (t : Test) (value : Value) :
    Placeless key fun parent label => t.failureOf ⟨container, key, parent⟩ label value := by
  rcases t.failureOf_cases value with
    hpass | ⟨shown, got, expectation, expected, hfail⟩ | ⟨code, detail, expected, got, hfail⟩ |
      ⟨allowed, hfail⟩
  · exact .of_eq_none fun _ _ => hpass _ _
  · simp only [hfail]
    exact placeless_wrongType container key shown got expectation expected
  · simp only [hfail]
    exact placeless_violation container key code detail expected got
  · simp only [hfail]
    exact placeless_notAllowed container key value allowed

/-! ## Runs of validators -/

/-- What is in a slot does not depend on where the slot lies. -/
theorem Slot.present?_eq (parent other : Path) :
    (Slot.mk container key parent).present? = (Slot.mk container key other).present? := rfl

namespace Validator

/-- The elements and fields of a value are looked at under the path of the slot. -/
theorem placeless_child {v : Validator} {value : Value} {step : Segment}
    (h : Placeless step fun parent label => v.failure? ⟨value, step, parent⟩ label) :
    Placeless key fun parent label =>
      v.failure? ((Slot.mk container key parent).child value step) label :=
  h.of_child fun _ _ => rfl

/-- **What a built validator reports is a finding, filled in**, by induction over the factories. -/
theorem Built.placeless {v : Validator} (h : v.Built) (container : Value) (key : Segment) :
    Placeless key fun parent label => v.failure? ⟨container, key, parent⟩ label := by
  induction h generalizing container key with
  | @test t ht =>
    simp only [failure?_ofTest, Test.failure?_of_isStandard ht,
      Slot.present?_eq container key _ .root]
    cases (Slot.mk container key .root).present? with
    | none => exact .of_eq_none fun _ _ => rfl
    | some value => exact t.placeless_failureOf container key value
  | @arrayOf element _ ih =>
    simp only [failure?_arrayOf, Slot.present?_eq container key _ .root]
    cases (Slot.mk container key .root).present? with
    | none => exact .of_eq_none fun _ _ => rfl
    | some value =>
      simp only [Option.bind_some]
      cases value.array? with
      | none => exact Test.placeless_wrongType container key _ _ _ _
      | some items =>
        exact .findSome? fun position _ =>
          placeless_child container key (ih value (.index position))
  | @shape fields _ ih =>
    simp only [failure?_shape, Slot.present?_eq container key _ .root]
    cases (Slot.mk container key .root).present? with
    | none => exact .of_eq_none fun _ _ => rfl
    | some value =>
      simp only [Option.bind_some]
      by_cases hobject : value.primitiveName = "object"
      · simp only [if_pos hobject]
        exact .findSome? fun field hfield =>
          placeless_child container key (ih field hfield value (.field field.1))
      · simp only [if_neg hobject]
        exact Test.placeless_wrongType container key _ _ _ _
  | @combine checks _ ih =>
    simp only [failure?_combine]
    exact .findSome? fun member hmember => ih member hmember container key
  | @required v _ ih =>
    cases hp : (Slot.mk container key .root).present? with
    | none =>
      have hrun (parent : Path) (label : String) :
          v.required.failure? ⟨container, key, parent⟩ label =
            some (missing ⟨container, key, parent⟩ label v.namesPath) :=
        failure?_required_of_absent v hp
      simp only [hrun]
      exact placeless_missing container key v.namesPath
    | some value =>
      have hrun (parent : Path) (label : String) :
          v.required.failure? ⟨container, key, parent⟩ label =
            v.failure? ⟨container, key, parent⟩ label :=
        failure?_required_of_present v hp
      simp only [hrun]
      exact ih container key

end Validator

end

/-! ## Compiled validators -/

/-- The flag of a built validator that is not required can be set. -/
theorem Validator.Built.withRequired {v : Validator} (h : v.Built) (hflag : v.isRequired = false)
    (required : Bool) : (v.withRequired required).Built := by
  cases required with
  | true => exact h.required
  | false =>
    have hsame : v.withRequired false = v := by
      cases v <;> cases hflag <;> rfl
    rwa [hsame]

theorem Leaf.built_validator (kind : Leaf) : kind.validator.Built := by
  refine .combine fun v hv => ?_
  obtain ⟨t, ht, rfl⟩ := List.mem_map.mp hv
  cases t with
  | custom check => exact absurd rfl (ne_custom_of_mem_checks ht check)
  | _ => exact .test trivial

theorem Leaf.isRequired_validator (kind : Leaf) : kind.validator.isRequired = false := by
  rw [validator]
  rcases kind.checks with _ | ⟨t, _ | ⟨u, rest⟩⟩ <;> rfl

/-- **Compiled validators are built**, by induction over the expansion. -/
theorem Expansion.built_validator (e : Expansion) : e.validator.Built := by
  induction e with
  | leaf kind required =>
    rw [validator]
    exact kind.built_validator.withRequired kind.isRequired_validator required
  | flat reason required =>
    rw [validator_flat, validator]
    exact reason.leaf.built_validator.withRequired reason.leaf.isRequired_validator required
  | arrayOf element required ih =>
    rw [validator]
    exact (Validator.Built.arrayOf ih).withRequired rfl required
  | object fields name required ih =>
    rw [validator, fieldValidators_eq_map]
    refine (Validator.Built.shape ?_).withRequired rfl required
    exact List.forall_mem_map.mpr ih

/-- **A verdict depends neither on the place nor on the label.**  In any two places and under any
two labels, a compiled validator either passes what is under a key or reports the same: failures of
the same kind and code, with the same found and expected texts, and with the same steps behind the
path of the slot.  In one place, the message is the same up to the label that stands in it. -/
theorem Compiler.failure?_compileNode_in_places (compiler : Compiler) (node : Node)
    (container : Value) (key : Segment) :
    (∀ parent other label twin,
      ((compiler.compileNode node).failure? ⟨container, key, parent⟩ label = none ∧
        (compiler.compileNode node).failure? ⟨container, key, other⟩ twin = none) ∨
      ∃ failure copy steps,
        (compiler.compileNode node).failure? ⟨container, key, parent⟩ label = some failure ∧
        (compiler.compileNode node).failure? ⟨container, key, other⟩ twin = some copy ∧
        failure.kind = copy.kind ∧ failure.code = copy.code ∧ failure.got = copy.got ∧
        failure.expected = copy.expected ∧
        failure.path.segments = parent.segments ++ key :: steps ∧
        copy.path.segments = other.segments ++ key :: steps) ∧
    ∀ parent, ∃ before after, ∀ label failure,
      (compiler.compileNode node).failure? ⟨container, key, parent⟩ label = some failure →
        failure.message = before ++ label ++ after := by
  have hbuilt : (compiler.compileNode node).Built := (compiler.expand node).built_validator
  obtain ⟨finding?, hrun⟩ := hbuilt.placeless container key
  constructor
  · intro parent other label twin
    have hleft := hrun parent label
    have hright := hrun other twin
    cases finding? with
    | none => exact .inl ⟨hleft, hright⟩
    | some finding =>
      exact .inr ⟨_, _, finding.steps, hleft, hright, rfl, rfl, rfl, rfl, rfl, rfl⟩
  · intro parent
    cases finding? with
    | none =>
      refine ⟨"", "", fun label failure hfail => ?_⟩
      cases hfail.symm.trans (hrun parent label)
    | some finding =>
      refine ⟨finding.before parent, finding.after parent, fun label failure hfail => ?_⟩
      have hreport : some failure = some (finding.report key parent label) :=
        hfail.symm.trans (hrun parent label)
      rw [Option.some_inj.mp hreport, Finding.report]

/-- The spare cells of the sample, looked at as a part of a larger document and under another
label. -/
theorem Compiler.failure?_compileNode_of_spare_in_places :
    (compileNode ⟨Sample.table, 3⟩ (.arrayOf (.reference (some "Cell") false) false)).failure?
        ⟨Sample.misnamed, .field "spare", .root⟩ "List" = some Sample.mismatch ∧
      (∃ copy, (compileNode ⟨Sample.table, 3⟩
          (.arrayOf (.reference (some "Cell") false) false)).failure?
            ⟨Sample.misnamed, .field "spare", .ofField "store"⟩ "Form" = some copy ∧
        copy.kind = Sample.mismatch.kind ∧ copy.code = Sample.mismatch.code ∧
        copy.got = Sample.mismatch.got ∧ copy.expected = Sample.mismatch.expected ∧
        copy.path.segments = .field "store" :: Sample.mismatch.path.segments) ∧
      ∃ before after, Sample.mismatch.message = before ++ "List" ++ after ∧
        ∀ label failure, (compileNode ⟨Sample.table, 3⟩
            (.arrayOf (.reference (some "Cell") false) false)).failure?
              ⟨Sample.misnamed, .field "spare", .root⟩ label = some failure →
          failure.message = before ++ label ++ after := by
  have hfail : (compileNode ⟨Sample.table, 3⟩
      (.arrayOf (.reference (some "Cell") false) false)).failure?
        ⟨Sample.misnamed, .field "spare", .root⟩ "List" = some Sample.mismatch := by decide
  obtain ⟨hplaces, hlabels⟩ := failure?_compileNode_in_places ⟨Sample.table, 3⟩
    (.arrayOf (.reference (some "Cell") false) false) Sample.misnamed (.field "spare")
  obtain ⟨before, after, hmessage⟩ := hlabels .root
  refine ⟨hfail, ?_, before, after, hmessage _ _ hfail, hmessage⟩
  rcases hplaces .root (.ofField "store") "List" "Form" with
    ⟨hpass, -⟩ | ⟨failure, copy, steps, hleft, hright, hkind, hcode, hgot, hexpected, hpath, hother⟩
  · rw [hfail] at hpass
    cases hpass
  · rw [hfail] at hleft
    cases hleft
    refine ⟨copy, hright, hkind.symm, hcode.symm, hgot.symm, hexpected.symm, ?_⟩
    rw [hother, hpath]
    rfl

end DocSchema
