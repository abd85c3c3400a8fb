import DocSchema.Proofs.Conformance
import DocSchema.Proofs.Fault

/-!
# Failures lead to the first fault

A failure is found deep inside a document and handed up through arrays, objects and references.  Its
path is followed here twice at once, down the document and down the expansion of the field: what is
reached in the expansion has a fault at what is reached in the document, the failure says which one,
and all that was looked at before has none.

* `Value.follow?`: the value that a path leads to.
* `Expansion.Leads`: a path to a part of an expansion, past siblings that are all admitted.
* `Expansion.diagnoses_of_failure?`: what a validator reports lies at the end of such a path.
* `Compiler.leads_and_explains_of_mem_failures`: the same for all that a compiled schema reports.
-/

namespace DocSchema

/-! ## Following paths -/

/-- The value that a list of steps leads to. -/
def Value.follow? : Value → List Segment → Option Value
  | value, [] => some value
  | value, step :: rest => (value.get? step).bind fun child => child.follow? rest

@[simp] theorem Value.follow?_cons (value : Value) (step : Segment) (rest : List Segment) :
    value.follow? (step :: rest) = (value.get? step).bind (·.follow? rest) := by
  rw [follow?]

namespace Expansion

/-- Whether a path leads from an expansion and an entry to a part and what is found there, in the
order in which a validator looks: elements and fields before those on the path are all admitted. -/
inductive Leads : Expansion → Option Value → List Segment → Expansion → Option Value → Prop
  | here {part : Expansion} {entry : Option Value} : Leads part entry [] part entry
  | item {element part : Expansion} {required : Bool} {items : List Value} {position : Nat}
    {rest : List Segment} {entry : Option Value} :
    position < items.length →
      (∀ earlier < position, element.Admits items[earlier]?) →
      Leads element items[position]? rest part entry →
      Leads (.arrayOf element required) (some (.array items)) (.index position :: rest) part entry
  | field {before after : List (String × Expansion)} {field : String} {e part : Expansion}
    {name : Option String} {required : Bool} {value : Value} {rest : List Segment}
    {entry : Option Value} :
    value.IsObject →
      (∀ sibling ∈ before, sibling.2.Admits (value.get? (.field sibling.1))) →
      Leads e (value.get? (.field field)) rest part entry →
      Leads (.object (before ++ (field, e) :: after) name required) (some value)
        (.field field :: rest) part entry

variable {slot : Slot} {label : String} {failure : Failure}

/-- A path that leads somewhere can be followed in the document, at least to its last step. -/
theorem Leads.follow? {e part : Expansion} {entry found : Option Value} {rest : List Segment}
    (h : e.Leads entry rest part found) (container : Value) (step : Segment)
    (hstep : container.get? step = entry) :
    container.follow? (step :: rest) = found ∧
      (container.follow? (step :: rest).dropLast).isSome := by
  induction h generalizing container step with
  | here =>
    rw [Value.follow?_cons, hstep]
    exact ⟨Option.bind_fun_some _, rfl⟩
  | @item _ _ _ items position _ _ _ _ _ ih =>
    rw [Value.follow?_cons, hstep, List.dropLast_cons_cons, Value.follow?_cons, hstep]
    exact ih (.array items) (.index position) rfl
  | @field _ _ field _ _ _ _ value _ _ _ _ _ ih =>
    rw [Value.follow?_cons, hstep, List.dropLast_cons_cons, Value.follow?_cons, hstep]
    exact ih value (.field field) rfl

/-! ## What validators report -/

/-- Whether a failure lies at the end of a path that leads on from a slot, and explains what is
wrong there. -/
def Diagnoses (e : Expansion) (slot : Slot) (failure : Failure) : Prop :=
  ∃ rest part entry, failure.path.segments = slot.path.segments ++ rest ∧
    e.Leads slot.value? rest part entry ∧ failure.Explains part entry

theorem Diagnoses.of_explains {e : Expansion} (hpath : failure.path = slot.path)
    (h : failure.Explains e slot.value?) : e.Diagnoses slot failure :=
  ⟨[], e, slot.value?, by rw [hpath, List.append_nil], .here, h⟩

theorem diagnoses_of_absent {e : Expansion} (hp : slot.present? = none)
    (h : e.validator.failure? slot label = some failure) : e.Diagnoses slot failure := by
  rw [failure?_of_absent e hp] at h
  split at h
  · next hr =>
    cases h
    have hreports := Validator.missing_reports slot label e.namesPath
    exact .of_explains hreports.path_eq
      (.of_missing (Slot.present?_eq_none_iff.mp hp) hr hreports)
  · cases h

/-- The checks of a leaf diagnose any part that stands for the leaf. -/
theorem diagnoses_of_checks {e : Expansion} {kind : Leaf} {value : Value}
    (hp : slot.present? = some value) (htype : e.WrongType value ↔ kind.WrongType value)
    (hbreaks : ∀ c, e.Breaks c value ↔ kind.Breaks c value)
    (hreported : e.reportedType value = value.typeName)
    (h : (kind.checks.findSome? fun t => t.failureOf slot label value) = some failure) :
    e.Diagnoses slot failure := by
  rcases Leaf.reports_of_findSome?_checks h with ⟨hw, hreports⟩ | ⟨c, ⟨hc, hfirst⟩, hreports⟩
  · rw [← hreported] at hreports
    exact .of_explains hreports.path_eq (.of_mismatch hp (htype.mpr hw) hreports)
  · have hearlier : ∀ earlier, earlier.rank < c.rank → ¬ e.Breaks earlier value :=
      fun earlier hlt hb => hfirst earlier hlt ((hbreaks earlier).mp hb)
    exact .of_explains hreports.path_eq (.of_violation hp ⟨(hbreaks c).mpr hc, hearlier⟩ hreports)

theorem findSome?_range_eq_some {α : Type} {n : Nat} {f : Nat → Option α} {a : α}
    (h : (List.range n).findSome? f = some a) :
    ∃ i < n, f i = some a ∧ ∀ j < i, f j = none := by
  induction n with
  | zero => cases h
  | succ n ih =>
    rw [List.range_succ, List.findSome?_append, Option.or_eq_some_iff] at h
    rcases h with h | ⟨hnone, h⟩
    · obtain ⟨i, hlt, hi⟩ := ih h
      exact ⟨i, Nat.lt_succ_of_lt hlt, hi⟩
    · rw [List.findSome?_singleton] at h
      refine ⟨n, Nat.lt_succ_self n, h, fun j hj => ?_⟩
      exact List.findSome?_eq_none_iff.mp hnone j (List.mem_range.mpr hj)

/-- **A validator reports the first fault.**  By induction over the expansion: a container hands up
the failure of its first child that has one, and the children before it are admitted. -/
theorem diagnoses_of_failure? (e : Expansion) (slot : Slot)
    (h : e.validator.failure? slot label = some failure) : e.Diagnoses slot failure := by
  induction e generalizing slot with
  | leaf kind required =>
    cases hp : slot.present? with
    | none => exact diagnoses_of_absent hp h
    | some value =>
      rw [failure?_leaf_of_present kind required hp] at h
      exact diagnoses_of_checks hp Iff.rfl (fun _ => Iff.rfl) rfl h
  | flat reason required =>
    cases hp : slot.present? with
    | none => exact diagnoses_of_absent hp h
    | some value =>
      rw [failure?_flat_of_present reason required hp] at h
      exact diagnoses_of_checks hp Iff.rfl (fun _ => Iff.rfl) rfl h
  | arrayOf element required ih =>
    cases hp : slot.present? with
    | none => exact diagnoses_of_absent hp h
    | some value =>
      by_cases hv : ∃ items, value = .array items
      · obtain ⟨items, rfl⟩ := hv
        rw [failure?_arrayOf_of_array element required hp] at h
        obtain ⟨position, hlt, hfail, hearlier⟩ := findSome?_range_eq_some h
        obtain ⟨rest, part, entry, hpath, hleads, hexplains⟩ := ih _ hfail
        rw [Slot.path_child, Path.segments_push, List.append_assoc] at hpath
        refine ⟨.index position :: rest, part, entry, hpath, ?_, hexplains⟩
        rw [(Slot.present?_eq_some_iff.mp hp).1]
        exact .item hlt (fun earlier he => (failure?_eq_none_iff element _ label).mp
          (hearlier earlier he)) hleads
      · have hnot : ∀ items, value ≠ .array items := fun items h => hv ⟨items, h⟩
        rw [failure?_arrayOf_of_not_array element required hp hnot] at h
        cases h
        have hreports := Validator.notArray_reports slot label value
        exact .of_explains hreports.path_eq (.of_mismatch hp hnot hreports)
  | object fields name required ih =>
    cases hp : slot.present? with
    | none => exact diagnoses_of_absent hp h
    | some value =>
      by_cases hv : value.IsObject
      · rw [failure?_object_of_isObject fields name required hp hv] at h
        obtain ⟨before, ⟨field, e⟩, after, rfl, hfail, hbefore⟩ := List.findSome?_eq_some_iff.mp h
        obtain ⟨rest, part, entry, hpath, hleads, hexplains⟩ :=
          ih (field, e) (by simp) _ hfail
        rw [Slot.path_child, Path.segments_push, List.append_assoc] at hpath
        refine ⟨.field field :: rest, part, entry, hpath, ?_, hexplains⟩
        rw [(Slot.present?_eq_some_iff.mp hp).1]
        exact .field hv (fun sibling hs => (failure?_eq_none_iff sibling.2 _ label).mp
          (hbefore sibling hs)) hleads
      · rw [failure?_object_of_not_isObject fields name required hp hv] at h
        cases h
        have hreports := Validator.notObject_reports slot label value
        rw [Value.primitiveName_of_not_isObject hv] at hreports
        exact .of_explains hreports.path_eq (.of_mismatch hp hv hreports)

end Expansion

/-! ## Failures of documents -/

namespace Sample

/-- A list with two cells beside it; the second one has a truth value for its name. -/
def misnamed : Value :=
  .object [("head", .object [("name", .string "a")]),
    ("spare", .array [.object [("name", .string "b")], .object [("name", .bool true)]])]

/-- What is wrong with that name. -/
def mismatch : Failure where
  path := ⟨[.field "spare", .index 1, .field "name"]⟩
  kind := .typeMismatch
  code := "invalid_type"
  message := "Invalid prop `spare[1].name` of type `boolean` supplied to `List`, expected `string`."
  got := some "boolean"
  expected := some "string"

end Sample

/-- **Every failure leads to the first fault of its field and says truly what it is.**  Its path
starts at the field and can be followed in the document up to the last step; the part of the
expanded declaration that is reached has a fault at what is found there, the failure explains it,
and everything that comes earlier inside the field is admitted. -/
theorem Compiler.leads_and_explains_of_mem_failures (compiler : Compiler)
    (description : Description) (document : Value) (label : String) (failure : Failure)
    (h : failure ∈ ((compiler.compile description).validate document label).failures) :
    ∃ name node rest part entry, (name, node) ∈ description ∧
      (compiler.compileNode node).failure? (.field document name) label = some failure ∧
      failure.path.segments = .field name :: rest ∧
      (document.follow? failure.path.segments.dropLast).isSome ∧
      document.follow? failure.path.segments = entry ∧
      (compiler.expand node).Leads (document.get? (.field name)) rest part entry ∧
      failure.Explains part entry := by
  rw [CompiledSchema.validate, Verdict.failures_ofFailures, CompiledSchema.failures_compile,
    List.mem_filterMap] at h
  obtain ⟨⟨name, node⟩, hmem, hfail⟩ := h
  obtain ⟨rest, part, entry, hpath, hleads, hexplains⟩ :=
    Expansion.diagnoses_of_failure? _ _ hfail
  obtain ⟨hfound, hsome⟩ := hleads.follow? document (.field name) rfl
  have hsegments : failure.path.segments = .field name :: rest := hpath
  rw [← hsegments] at hfound hsome
  exact ⟨name, node, rest, part, entry, hmem, hfail, hsegments, hsome, hfound, hleads, hexplains⟩

/-- The name of the second spare cell is reported, and it is what the path leads to. -/
theorem Compiler.leads_and_explains_of_misnamed_cell :
    ∃ name node rest part entry, (name, node) ∈ Sample.description ∧
      (compileNode ⟨Sample.table, 3⟩ node).failure? (.field Sample.misnamed name) "List" =
        some Sample.mismatch ∧
      Sample.mismatch.path.segments = .field name :: rest ∧
      (Sample.misnamed.follow? Sample.mismatch.path.segments.dropLast).isSome ∧
      Sample.misnamed.follow? Sample.mismatch.path.segments = entry ∧
      (expand ⟨Sample.table, 3⟩ node).Leads (Sample.misnamed.get? (.field name)) rest part entry ∧
      Sample.mismatch.Explains part entry :=
  leads_and_explains_of_mem_failures ⟨Sample.table, 3⟩ Sample.description Sample.misnamed "List"
    Sample.mismatch (by decide)

end DocSchema
