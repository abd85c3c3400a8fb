import DocSchema.Compile.Compiler
import DocSchema.Proofs.Leaf

/-!
# Checking an expansion

An expansion is the tree that is really checked, and its validator is read off it.  Here the
validator of each part is described by the parts below it, and from that follows which values the
whole tree admits.  Nothing about references or the depth limit is left at this point: a container
that was flattened is checked like the leaf `Flattening.leaf` stands for.

* `Expansion.induct`: induction over an expansion, with a hypothesis for each field of an object.
* `Expansion.failure?_of_absent` and the lemmas `failure?_…_of_present`: what the validator of each
  part reports.
* `Expansion.Admits`: which entries an expansion admits.
* `Expansion.failure?_eq_none_iff`: its validator passes exactly on those.
* `CompiledSchema.failures_compile`: what a compiled schema reports of a document.
-/

namespace DocSchema

/-! ## One level of an expansion -/

namespace Expansion

variable {table : ReferenceTable} {names : List String}

theorem of_reference_of_resolved {name : String} {description : Description} {room : Nat}
    {required : Bool} (hd : table.get? name = some description) (hname : name ∉ names) :
    of table (room + 1) names (.reference (some name) required) =
      object (ofFields table room (name :: names) description) (some name) required := by
  simp only [of, hd, if_neg hname]
  rfl

theorem of_object_succ {fields : Description} {room : Nat} {required : Bool} :
    of table (room + 1) names (.object fields required) =
      object (ofFields table room names fields) none required := by
  rw [of]
  rfl

theorem forall_mem_ofFields_iff {room : Nat} {fields : Description}
    {P : String × Expansion → Prop} :
    (∀ entry ∈ ofFields table room names fields, P entry) ↔
      ∀ field ∈ fields, P (field.1, of table room names field.2) := by
  rw [ofFields, List.forall_mem_map]

/-- Expanding a declaration keeps its flag. -/
@[simp] theorem isRequired_of (table : ReferenceTable) (room : Nat) (names : List String)
    (node : Node) : (of table room names node).isRequired = node.isRequired := by
  cases node with
  | leaf kind required => rw [of]; rfl
  | reference reference required =>
    rcases reference with _ | name
    · rw [of]; rfl
    · cases hd : table.get? name with
      | none => simp only [of, hd]; rfl
      | some description =>
        by_cases hname : name ∈ names
        · simp only [of, hd, if_pos hname]; rfl
        · cases room <;> simp only [of, hd, if_neg hname] <;> rfl
  | arrayOf element required | object fields required => cases room <;> rw [of] <;> rfl

end Expansion

/-! ## Flat containers -/

/-- The leaf that is left of a flat container. -/
def Flattening.leaf : Flattening → Leaf
  | tooDeep .array => .anyArray
  | _ => .map

namespace Expansion

/-- A flat container is checked like a leaf. -/
theorem validator_flat (reason : Flattening) (required : Bool) :
    (flat reason required).validator = (leaf reason.leaf required).validator := by
  rcases reason with (_ | _ | _) | _ | _ | _ <;> rfl

/-! ## Induction -/

/-- Induction over an expansion. -/
@[elab_as_elim, induction_eliminator]
theorem induct {motive : Expansion → Prop}
    (leaf : ∀ kind required, motive (.leaf kind required))
    (arrayOf : ∀ element required, motive element → motive (.arrayOf element required))
    (object : ∀ fields name required, (∀ entry ∈ fields, motive entry.2) →
      motive (.object fields name required))
    (flat : ∀ reason required, motive (.flat reason required)) : ∀ e, motive e
  | .leaf kind required => leaf kind required
  | .arrayOf element required => arrayOf element required (induct leaf arrayOf object flat element)
  | .object fields name required =>
    object fields name required fun entry _ => induct leaf arrayOf object flat entry.2
  | .flat reason required => flat reason required
termination_by e => sizeOf e
decreasing_by
  · simp only [Expansion.arrayOf.sizeOf_spec]
    omega
  · have hentry : sizeOf entry < sizeOf fields := List.sizeOf_lt_of_mem ‹_›
    have hpair : sizeOf entry = 1 + sizeOf entry.1 + sizeOf entry.2 := rfl
    simp only [Expansion.object.sizeOf_spec]
    omega

/-! ## What the validator of each part reports -/

variable {slot : Slot} {label : String} {value : Value}

/-- Whether a missing value is named by its full path. -/
def namesPath : Expansion → Bool
  | leaf kind _ => kind.namesPath
  | flat reason _ => reason.leaf.namesPath
  | arrayOf _ _ | object _ _ _ => true

theorem failure?_leaf (kind : Leaf) (required : Bool) :
    (leaf kind required).validator.failure? slot label =
      Validator.demand required kind.namesPath slot label
        (kind.checks.findSome? fun t => t.failure? slot label) := by
  rw [validator, Leaf.failure?_validator]

/-- Absence is a matter of the flag alone. -/
theorem failure?_of_absent (e : Expansion) (h : slot.present? = none) :
    e.validator.failure? slot label =
      if e.isRequired then some (Validator.missing slot label e.namesPath) else none := by
  cases e with
  | leaf kind required =>
    rw [failure?_leaf, kind.findSome?_checks_of_absent h, Validator.demand_of_absent h]
    rfl
  | flat reason required =>
    rw [validator_flat, failure?_leaf, reason.leaf.findSome?_checks_of_absent h,
      Validator.demand_of_absent h]
    rfl
  | arrayOf element required | object fields name required =>
    simp only [validator, Validator.failure?, h, Option.bind_none, Validator.demand_of_absent h]
    rfl

theorem failure?_leaf_of_present (kind : Leaf) (required : Bool) (h : slot.present? = some value) :
    (leaf kind required).validator.failure? slot label =
      kind.checks.findSome? fun t => t.failureOf slot label value := by
  rw [failure?_leaf, kind.findSome?_checks_of_present h, Validator.demand_of_present h]

theorem failure?_flat_of_present (reason : Flattening) (required : Bool)
    (h : slot.present? = some value) :
    (flat reason required).validator.failure? slot label =
      reason.leaf.checks.findSome? fun t => t.failureOf slot label value := by
  rw [validator_flat, failure?_leaf_of_present reason.leaf required h]

/-- The elements of an array are checked in order. -/
theorem failure?_arrayOf_of_array (element : Expansion) (required : Bool) {items : List Value}
    (h : slot.present? = some (.array items)) :
    (arrayOf element required).validator.failure? slot label =
      (List.range items.length).findSome? fun position =>
        element.validator.failure? (slot.child (.array items) (.index position)) label := by
  rw [validator, Validator.failure?, Validator.demand_of_present h, h]
  rfl

theorem failure?_arrayOf_of_not_array (element : Expansion) (required : Bool)
    (h : slot.present? = some value) (hv : ∀ items, value ≠ .array items) :
    (arrayOf element required).validator.failure? slot label =
      some (Validator.notArray slot label value) := by
  rw [validator, Validator.failure?, Validator.demand_of_present h, h]
  cases value with
  | array items => exact absurd rfl (hv items)
  | _ => rfl

theorem fieldValidators_eq_map (fields : List (String × Expansion)) :
    fieldValidators fields = fields.map fun entry => (entry.1, entry.2.validator) := by
  induction fields with
  | nil => rfl
  | cons entry rest ih => rw [fieldValidators, ih, List.map_cons]

theorem fieldsFailure?_fieldValidators (fields : List (String × Expansion)) :
    Validator.fieldsFailure? (fieldValidators fields) slot value label =
      fields.findSome? fun entry =>
        entry.2.validator.failure? (slot.child value (.field entry.1)) label := by
  rw [Validator.fieldsFailure?_eq_findSome?, fieldValidators_eq_map, List.findSome?_map]
  rfl

/-- The fields of an object are checked in order; a date has none of them. -/
theorem failure?_object_of_isObject (fields : List (String × Expansion)) (name : Option String)
    (required : Bool) (h : slot.present? = some value) (hv : value.IsObject) :
    (object fields name required).validator.failure? slot label =
      fields.findSome? fun entry =>
        entry.2.validator.failure? (slot.child value (.field entry.1)) label := by
  rw [validator, Validator.failure?, Validator.demand_of_present h, h, Option.bind_some,
    if_pos (Value.isObject_iff.mp hv), fieldsFailure?_fieldValidators]

theorem failure?_object_of_not_isObject (fields : List (String × Expansion)) (name : Option String)
    (required : Bool) (h : slot.present? = some value) (hv : ¬ value.IsObject) :
    (object fields name required).validator.failure? slot label =
      some (Validator.notObject slot label value) := by
  rw [validator, Validator.failure?, Validator.demand_of_present h, h, Option.bind_some,
    if_neg fun hname => hv (Value.isObject_iff.mpr hname)]

/-! ## What an expansion admits -/

/-- Which entries an expansion admits.  An absent one is admitted unless it is required; a present
one has to be of the right kind, together with everything below it. -/
inductive Admits : Expansion → Option Value → Prop
  | absent {e : Expansion} {entry : Option Value} :
    Absent entry → e.isRequired = false → Admits e entry
  | leaf {kind : Leaf} {required : Bool} {value : Value} :
    value.isNull = false → kind.Admits value → Admits (.leaf kind required) (some value)
  | flat {reason : Flattening} {required : Bool} {value : Value} :
    value.isNull = false → reason.leaf.Admits value → Admits (.flat reason required) (some value)
  | array {element : Expansion} {required : Bool} {items : List Value} :
    (∀ item ∈ items, Admits element (some item)) →
      Admits (.arrayOf element required) (some (.array items))
  | object {fields : List (String × Expansion)} {name : Option String} {required : Bool}
    {value : Value} :
    value.IsObject → (∀ entry ∈ fields, Admits entry.2 (value.get? (.field entry.1))) →
      Admits (.object fields name required) (some value)

theorem admits_iff_of_absent {e : Expansion} {entry : Option Value} (h : Absent entry) :
    e.Admits entry ↔ e.isRequired = false := by
  refine ⟨fun ha => ?_, Admits.absent h⟩
  cases ha with
  | absent _ hr => exact hr
  | leaf hn _ | flat hn _ => exact absurd h (not_absent_of_isNull_eq_false hn)
  | array _ => exact absurd h (not_absent_of_isNull_eq_false rfl)
  | object hv _ => exact absurd h (not_absent_of_isNull_eq_false hv.isNull_eq_false)

theorem admits_leaf_iff {kind : Leaf} {required : Bool} (hn : value.isNull = false) :
    (leaf kind required).Admits (some value) ↔ kind.Admits value := by
  refine ⟨fun h => ?_, Admits.leaf hn⟩
  cases h with
  | absent ha _ => exact absurd ha (not_absent_of_isNull_eq_false hn)
  | leaf _ hk => exact hk

theorem admits_flat_iff {reason : Flattening} {required : Bool} (hn : value.isNull = false) :
    (flat reason required).Admits (some value) ↔ reason.leaf.Admits value := by
  refine ⟨fun h => ?_, Admits.flat hn⟩
  cases h with
  | absent ha _ => exact absurd ha (not_absent_of_isNull_eq_false hn)
  | flat _ hk => exact hk

theorem admits_arrayOf_iff {element : Expansion} {required : Bool} (hn : value.isNull = false) :
    (arrayOf element required).Admits (some value) ↔
      ∃ items, value = .array items ∧ ∀ item ∈ items, element.Admits (some item) := by
  constructor
  · intro h
    cases h with
    | absent ha _ => exact absurd ha (not_absent_of_isNull_eq_false hn)
    | array hitems => exact ⟨_, rfl, hitems⟩
  · rintro ⟨items, rfl, hitems⟩
    exact Admits.array hitems

theorem admits_object_iff {fields : List (String × Expansion)} {name : Option String}
    {required : Bool} (hn : value.isNull = false) :
    (object fields name required).Admits (some value) ↔
      value.IsObject ∧ ∀ entry ∈ fields, entry.2.Admits (value.get? (.field entry.1)) := by
  refine ⟨fun h => ?_, fun h => Admits.object h.1 h.2⟩
  cases h with
  | absent ha _ => exact absurd ha (not_absent_of_isNull_eq_false hn)
  | object hv hfields => exact ⟨hv, hfields⟩

/-- Absent entries being settled by the flag, only present ones have to be compared. -/
theorem failure?_eq_none_iff_of_present {e : Expansion}
    (h : ∀ value, slot.present? = some value → value.isNull = false →
      (e.validator.failure? slot label = none ↔ e.Admits (some value))) :
    e.validator.failure? slot label = none ↔ e.Admits slot.value? := by
  cases hp : slot.present? with
  | none =>
    rw [failure?_of_absent e hp, admits_iff_of_absent (Slot.present?_eq_none_iff.mp hp)]
    cases e.isRequired <;> simp
  | some value =>
    obtain ⟨hv, hn⟩ := Slot.present?_eq_some_iff.mp hp
    rw [hv]
    exact h value hp hn

/-- **A validator passes exactly on what its expansion admits.** -/
theorem failure?_eq_none_iff (e : Expansion) (slot : Slot) (label : String) :
    e.validator.failure? slot label = none ↔ e.Admits slot.value? := by
  induction e generalizing slot with
  | leaf kind required =>
    refine failure?_eq_none_iff_of_present fun value hp hn => ?_
    rw [failure?_leaf_of_present kind required hp, kind.findSome?_checks_eq_none_iff,
      admits_leaf_iff hn]
  | flat reason required =>
    refine failure?_eq_none_iff_of_present fun value hp hn => ?_
    rw [failure?_flat_of_present reason required hp, reason.leaf.findSome?_checks_eq_none_iff,
      admits_flat_iff hn]
  | arrayOf element required ih =>
    refine failure?_eq_none_iff_of_present fun value hp hn => ?_
    rw [admits_arrayOf_iff hn]
    by_cases hv : ∃ items, value = .array items
    · obtain ⟨items, rfl⟩ := hv
      rw [failure?_arrayOf_of_array element required hp, List.findSome?_eq_none_iff]
      constructor
      · intro h
        refine ⟨items, rfl, fun item hitem => ?_⟩
        obtain ⟨position, hlt, rfl⟩ := List.getElem_of_mem hitem
        have hslot := (ih _).mp (h position (List.mem_range.mpr hlt))
        rwa [Slot.value?_child, Value.get?_array_of_lt hlt] at hslot
      · rintro ⟨items', heq, h⟩ position hposition
        cases heq
        have hlt := List.mem_range.mp hposition
        refine (ih _).mpr ?_
        rw [Slot.value?_child, Value.get?_array_of_lt hlt]
        exact h _ (List.getElem_mem hlt)
    · have hnot : ∀ items, value ≠ .array items := fun items h => hv ⟨items, h⟩
      rw [failure?_arrayOf_of_not_array element required hp hnot]
      constructor
      · intro h
        cases h
      · rintro ⟨items, h, -⟩
        exact absurd h (hnot items)
  | object fields name required ih =>
    refine failure?_eq_none_iff_of_present fun value hp hn => ?_
    rw [admits_object_iff hn]
    by_cases hv : value.IsObject
    · rw [failure?_object_of_isObject fields name required hp hv, List.findSome?_eq_none_iff,
        and_iff_right hv]
      exact forall₂_congr fun entry hentry => ih entry hentry _
    · rw [failure?_object_of_not_isObject fields name required hp hv]
      constructor
      · intro h
        cases h
      · intro h
        exact absurd h.1 hv

end Expansion

/-! ## Compiled schemas -/

theorem Compiler.fields_compile (compiler : Compiler) (description : Description) :
    (compiler.compile description).fields =
      description.map fun entry => (entry.1, compiler.compileNode entry.2) := by
  rw [compile, Expansion.fieldValidators_eq_map, expandFields, Expansion.ofFields, List.map_map]
  rfl

/-- A compiled schema reports of a document what the validators of its fields report, in order. -/
theorem CompiledSchema.failures_compile (compiler : Compiler) (description : Description)
    (document : Value) (label : String) :
    (compiler.compile description).failures document label =
      description.filterMap fun entry =>
        (compiler.expand entry.2).validator.failure? (.field document entry.1) label := by
  rw [failures, Compiler.fields_compile, List.filterMap_map]
  rfl

theorem Verdict.ofFailures_eq_accepted_iff {failures : List Failure} :
    ofFailures failures = accepted ↔ failures = [] := by
  cases failures <;> simp [ofFailures, Report.ofList?]

/-- A document is accepted if each field's expansion admits what the document has under its name. -/
theorem CompiledSchema.validate_compile_eq_accepted_iff (compiler : Compiler)
    (description : Description) (document : Value) (label : String) :
    (compiler.compile description).validate document label = .accepted ↔
      ∀ entry ∈ description, (compiler.expand entry.2).Admits (document.get? (.field entry.1)) := by
  rw [validate, Verdict.ofFailures_eq_accepted_iff, failures_compile, List.filterMap_eq_nil_iff]
  exact forall₂_congr fun entry _ => Expansion.failure?_eq_none_iff _ _ _

end DocSchema
