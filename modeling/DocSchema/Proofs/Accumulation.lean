import DocSchema.Proofs.Diagnosis
import Mathlib.Data.List.Nodup

/-!
# Fields are validated one by one

What a schema reports of a document is what its fields report, each of them by itself, one after the
other in the order of the declarations.  No field stops another one from being looked at, and no
failure is lost when the failures are joined to a report.

## Joining

Reports are joined in a row, without being sorted or compared, and an acceptance adds nothing.  So
verdicts are known by their failures, and joining two of them is appending their failures.  With
that, a description can be split anywhere: the verdict on the whole is the verdict on the first
fields together with the verdict on the others.

* `Report.ofList?_eq_join?`: a report is the join of the reports of single failures.
* `Verdict.ofFailures_append`: joined verdicts are the verdict on all failures.
* `CompiledSchema.validate_append`: a description can be split anywhere.
* `Compiler.validate_eq_foldr_and`: a verdict is the join of the verdicts on single fields.
* `Compiler.failures_field_by_field`: the failures of a document, field by field.
-/

namespace DocSchema

/-! ## Joining reports and verdicts -/

namespace Report

/-- The reports of a list joined in order, unless the list is empty. -/
def join? : List Report → Option Report
  | [] => none
  | first :: rest => some (rest.foldl (· ++ ·) first)

theorem toList_foldl_append (reports : List Report) (first : Report) :
    (reports.foldl (· ++ ·) first).toList = first.toList ++ reports.flatMap toList := by
  induction reports generalizing first with
  | nil => rw [List.foldl_nil, List.flatMap_nil, List.append_nil]
  | cons report rest ih =>
    rw [List.foldl_cons, ih, toList_append, List.flatMap_cons, List.append_assoc]

/-- **A report of failures is the join of the reports of each of them.** -/
theorem ofList?_eq_join? (failures : List Failure) :
    ofList? failures = join? (failures.map single) := by
  cases failures with
  | nil => rfl
  | cons first rest =>
    have hrest : (rest.map single).flatMap toList = rest := by
      rw [List.flatMap_map]
      exact List.flatMap_singleton' rest
    refine congrArg some (toList_inj.mp ?_)
    rw [toList_foldl_append, hrest]
    rfl

end Report

namespace Verdict

/-- A verdict is known by its failures. -/
theorem failures_inj {a b : Verdict} : a.failures = b.failures ↔ a = b := by
  refine ⟨fun h => ?_, congrArg failures⟩
  cases a <;> cases b
  · rfl
  · cases h
  · cases h
  · exact congrArg rejected (Report.toList_inj.mp h)

/-- Joined verdicts are the verdict on all failures. -/
theorem ofFailures_append (before after : List Failure) :
    ofFailures (before ++ after) = (ofFailures before).and (ofFailures after) := by
  rw [← failures_inj, failures_and, failures_ofFailures, failures_ofFailures, failures_ofFailures]

end Verdict

/-! ## One field after the other -/

variable {compiler : Compiler} {description : Description} {document : Value} {label : String}

/-- What a schema reports is what the validators of its declarations report, each compiled and
applied by itself. -/
theorem CompiledSchema.failures_compile_eq_flatMap :
    (compiler.compile description).failures document label =
      description.flatMap fun field =>
        ((compiler.compileNode field.2).failure? (.field document field.1) label).toList := by
  rw [failures_compile, List.filterMap_eq_flatMap_toList]
  rfl

/-- **A description can be split anywhere.**  The verdict on all fields joins the verdict on the
first ones with the verdict on the others. -/
theorem CompiledSchema.validate_append (before after : Description) :
    (compiler.compile (before ++ after)).validate document label =
      ((compiler.compile before).validate document label).and
        ((compiler.compile after).validate document label) := by
  rw [validate, validate, validate, failures_compile, failures_compile, failures_compile,
    List.filterMap_append, Verdict.ofFailures_append]

/-- The verdict on a document joins the verdicts of single validators, by induction over the
description. -/
theorem Compiler.validate_eq_foldr_and :
    (compiler.compile description).validate document label =
      (description.map fun field => Verdict.ofFailures
        ((compiler.compileNode field.2).failure? (.field document field.1) label).toList).foldr
          Verdict.and .accepted := by
  induction description with
  | nil => rfl
  | cons field rest ih =>
    have hfield : (compiler.compile [field]).validate document label = Verdict.ofFailures
        ((compiler.compileNode field.2).failure? (.field document field.1) label).toList := by
      rw [CompiledSchema.validate, CompiledSchema.failures_compile_eq_flatMap,
        List.flatMap_singleton]
    rw [← List.singleton_append, CompiledSchema.validate_append, ih, hfield]
    rfl

/-! ## First steps -/

/-- A failure of a field lies below that field. -/
theorem Validator.head?_segments_of_failure? {node : Node} {name : String} {failure : Failure}
    (h : (compiler.compileNode node).failure? (.field document name) label = some failure) :
    failure.path.segments.head? = some (.field name) := by
  obtain ⟨rest, -, -, hpath, -, -⟩ := Expansion.diagnoses_of_failure? _ _ h
  rw [hpath]
  rfl

/-- The first steps of the paths of failures are the names of declared fields, in order. -/
theorem CompiledSchema.head?_segments_sublist (compiler : Compiler) (description : Description)
    (document : Value) (label : String) :
    (((compiler.compile description).failures document label).map
      (·.path.segments.head?)).Sublist (description.names.map fun name => some (.field name)) := by
  rw [failures_compile, Assoc.names, List.map_map]
  exact map_filterMap_sublist fun field _ failure hfailure =>
    Validator.head?_segments_of_failure? hfailure

/-- **Fields are validated one by one, and no failure is lost.**  The failures of a document are
those of its fields, each field being validated by itself with the validator of its declaration, in
the order of the declarations.  So there is at most one for each field, the first steps of their
paths are different names in the order of the declarations, and however the fields are split into
first ones and others, the verdict joins the verdicts on both. -/
theorem Compiler.failures_field_by_field (compiler : Compiler) (description : Description)
    (hnames : description.names.Nodup) (document : Value) (label : String) :
    ((compiler.compile description).validate document label).failures =
        description.flatMap (fun field =>
          ((compiler.compileNode field.2).failure? (.field document field.1) label).toList) ∧
      ((compiler.compile description).validate document label).failures.length ≤
        description.length ∧
      (((compiler.compile description).validate document label).failures.map
        (·.path.segments.head?)).Sublist (description.names.map fun name => some (.field name)) ∧
      (((compiler.compile description).validate document label).failures.map
        (·.path.segments.head?)).Nodup ∧
      ∀ before after, description = before ++ after →
        (compiler.compile description).validate document label =
          ((compiler.compile before).validate document label).and
            ((compiler.compile after).validate document label) := by
  have hsublist := CompiledSchema.head?_segments_sublist compiler description document label
  have hdistinct : (description.names.map fun name => some (Segment.field name)).Nodup := by
    refine List.Nodup.map (fun name other h => ?_) hnames
    cases h
    rfl
  rw [CompiledSchema.validate, Verdict.failures_ofFailures]
  refine ⟨CompiledSchema.failures_compile_eq_flatMap, ?_, hsublist, hdistinct.sublist hsublist, ?_⟩
  · have hlength := hsublist.length_le
    rw [List.length_map, List.length_map, Assoc.names, List.length_map] at hlength
    exact hlength
  · rintro before after rfl
    exact CompiledSchema.validate_append before after

/-- The one failure of the list with a misnamed cell is that of its spare cells, and its verdict
joins those on the head and on the rest. -/
theorem Compiler.failures_of_misnamed_field_by_field :
    Sample.description.names.Nodup ∧
      ((compile ⟨Sample.table, 3⟩ Sample.description).validate Sample.misnamed "List").failures =
        Sample.description.flatMap (fun field =>
          ((compileNode ⟨Sample.table, 3⟩ field.2).failure? (.field Sample.misnamed field.1)
            "List").toList) ∧
      (compile ⟨Sample.table, 3⟩ Sample.description).validate Sample.misnamed "List" =
        ((compile ⟨Sample.table, 3⟩ (Sample.description.take 1)).validate Sample.misnamed
          "List").and
          ((compile ⟨Sample.table, 3⟩ (Sample.description.drop 1)).validate Sample.misnamed
            "List") := by
  have hnames : Sample.description.names.Nodup := by
    decide
  obtain ⟨hfailures, -, -, -, hsplit⟩ :=
    failures_field_by_field ⟨Sample.table, 3⟩ Sample.description hnames Sample.misnamed "List"
  exact ⟨hnames, hfailures, hsplit _ _ (List.take_append_drop 1 Sample.description).symm⟩

end DocSchema
