import DocSchema.Compile.Compiler
import DocSchema.Proofs.Doubles

/-!
# From values to JSON and back

Every value can be written as a JSON tree, and every JSON tree is read as a value.  Three things are
lost on the way.  A date becomes its text, and is a string from then on; a NaN and the infinities
have no spelling and become null; and the negative zero, which is written as the integer zero, comes
back without its sign.  Everything else comes back as it was: each finite double bit for bit, each
string, and arrays and objects with what they hold in the same order.

## Why writing once is enough

A value in which none of the three occurs is plain.  What comes back is plain, and a plain value
comes back as it is, so that nothing more is lost by writing a value a second time.  In particular a
schema cannot tell a plain document from the JSON tree that it is written as.

* `Value.jsonForm`: what comes back of a value.
* `Value.ofJson_jsonOfNumber`: doubles, be they written as integers or not.
* `Value.ofJson_toJson`: whole values.
* `Value.IsPlain`, `Value.jsonForm_eq_self_iff`: the values that come back as they were.
* `Value.round_trip_through_json`: all of this, and the verdicts of schemas on plain documents.
-/

namespace DocSchema

namespace Value

/-! ## What comes back -/

mutual

/-- The value with every date as its text, null for every double that is not finite, and zero for
every negative zero, at any depth. -/
def jsonForm : Value → Value
  | null => null
  | bool b => bool b
  | number x => if x.isFinite then number (if x = -0 then 0 else x) else null
  | string s => string s
  | date t => string t.rfc3339
  | array items => array (jsonFormItems items)
  | object entries => object (jsonFormEntries entries)

/-- The items of an array, each as it comes back. -/
def jsonFormItems : List Value → List Value
  | [] => []
  | item :: rest => jsonForm item :: jsonFormItems rest

/-- The entries of an object under the same keys, each as it comes back. -/
def jsonFormEntries : List (String × Value) → List (String × Value)
  | [] => []
  | (key, item) :: rest => (key, jsonForm item) :: jsonFormEntries rest

end

theorem jsonFormItems_eq_map (items : List Value) : jsonFormItems items = items.map jsonForm := by
  induction items with
  | nil => rfl
  | cons item rest ih => rw [jsonFormItems, ih, List.map_cons]

theorem jsonFormEntries_eq_map (entries : List (String × Value)) :
    jsonFormEntries entries = entries.map fun entry => (entry.1, entry.2.jsonForm) := by
  induction entries with
  | nil => rfl
  | cons entry rest ih => rw [jsonFormEntries, ih, List.map_cons]

/-- The negative zero is written as an integer. -/
theorem jsonOfNumber_neg_zero : jsonOfNumber (-0) = .number (.integer 0) := by
  have hdecode : Number.decode (-0) = some ⟨true, 0, Number.minExponent⟩ := rfl
  have habs : (⟨true, 0, Number.minExponent⟩ : Number.Dyadic).natAbs? = some 0 := by
    rw [Number.Dyadic.natAbs?_eq_some_iff, Nat.zero_mul, Nat.zero_mul]
  have hint := Number.Dyadic.toInt?_eq_some_iff.mpr ⟨0, habs, rfl⟩
  simp only [jsonOfNumber, hdecode, hint]
  rfl

/-- Integers and other doubles are written differently, and come back alike. -/
theorem ofJson_jsonOfNumber (x : Float) : ofJson (jsonOfNumber x) = (number x).jsonForm := by
  by_cases hzero : x = -0
  · rw [hzero, jsonOfNumber_neg_zero]
    rfl
  rw [jsonForm, if_neg hzero]
  cases hd : Number.decode x with
  | none =>
    rw [jsonOfNumber, hd, Number.decode_eq_none_iff.mp hd]
    rfl
  | some d =>
    have hfinite : x.isFinite = true := by
      rw [← Bool.not_eq_false, ← Number.decode_eq_none_iff, hd]
      exact Option.some_ne_none d
    rw [if_pos hfinite]
    cases hn : d.toInt? with
    | none =>
      simp only [jsonOfNumber, hd, hn]
      rfl
    | some n =>
      have hread := Number.ofInt_of_toInt? hd hn
      rw [if_neg hzero] at hread
      simp only [jsonOfNumber, hd, hn]
      -- either spelling is read as the same double, so the limit between them does not matter
      split
      · exact congrArg number hread
      · rfl

mutual

/-- **What is written as JSON comes back in its JSON form.** -/
theorem ofJson_toJson : ∀ value : Value, ofJson value.toJson = value.jsonForm
  | null | bool _ | string _ | date _ => rfl
  | number x => ofJson_jsonOfNumber x
  | array items => congrArg array (ofJsonItems_toJsonItems items)
  | object entries => congrArg object (ofJsonEntries_toJsonEntries entries)

theorem ofJsonItems_toJsonItems :
    ∀ items : List Value, ofJsonItems (toJsonItems items) = jsonFormItems items
  | [] => rfl
  | item :: rest => congrArg₂ List.cons (ofJson_toJson item) (ofJsonItems_toJsonItems rest)

theorem ofJsonEntries_toJsonEntries :
    ∀ entries : List (String × Value),
      ofJsonEntries (toJsonEntries entries) = jsonFormEntries entries
  | [] => rfl
  | (key, item) :: rest =>
    congrArg₂ List.cons (congrArg (Prod.mk key) (ofJson_toJson item))
      (ofJsonEntries_toJsonEntries rest)

end

/-! ## Plain values -/

/-- Whether a value has no dates, no doubles that are not finite and no negative zeros, at any
depth. -/
inductive IsPlain : Value → Prop
  | null : IsPlain null
  | bool (b : Bool) : IsPlain (bool b)
  | number {x : Float} : x.isFinite = true → x ≠ -0 → IsPlain (number x)
  | string (s : String) : IsPlain (string s)
  | array {items : List Value} : (∀ item ∈ items, IsPlain item) → IsPlain (array items)
  | object {entries : List (String × Value)} :
    (∀ entry ∈ entries, IsPlain entry.2) → IsPlain (object entries)

theorem isPlain_jsonForm_number (x : Float) : (number x).jsonForm.IsPlain := by
  rw [jsonForm]
  by_cases hfinite : x.isFinite = true
  · rw [if_pos hfinite]
    by_cases hzero : x = -0
    · rw [if_pos hzero]
      exact .number rfl (by decide)
    · rw [if_neg hzero]
      exact .number hfinite hzero
  · rw [if_neg hfinite]
    exact .null

mutual

/-- What comes back is plain. -/
theorem isPlain_jsonForm : ∀ value : Value, value.jsonForm.IsPlain
  | null => .null
  | bool b => .bool b
  | number x => isPlain_jsonForm_number x
  | string s => .string s
  | date t => .string t.rfc3339
  | array items => .array (isPlain_of_mem_jsonFormItems items)
  | object entries => .object (isPlain_of_mem_jsonFormEntries entries)

theorem isPlain_of_mem_jsonFormItems :
    ∀ items : List Value, ∀ item ∈ jsonFormItems items, item.IsPlain
  | [] => fun _ h => nomatch h
  | first :: rest => List.forall_mem_cons.mpr
      ⟨isPlain_jsonForm first, isPlain_of_mem_jsonFormItems rest⟩

theorem isPlain_of_mem_jsonFormEntries :
    ∀ entries : List (String × Value), ∀ entry ∈ jsonFormEntries entries, entry.2.IsPlain
  | [] => fun _ h => nomatch h
  | (_, first) :: rest => List.forall_mem_cons.mpr
      ⟨isPlain_jsonForm first, isPlain_of_mem_jsonFormEntries rest⟩

end

theorem IsPlain.jsonForm_eq {value : Value} (h : value.IsPlain) : value.jsonForm = value := by
  induction h with
  | null | bool | string => rfl
  | number hfinite hzero => rw [jsonForm, if_pos hfinite, if_neg hzero]
  | array _ ih =>
    rw [jsonForm, jsonFormItems_eq_map, List.map_congr_left ih, List.map_id']
  | object _ ih =>
    have hentry := fun entry hentry => congrArg (Prod.mk (Prod.fst entry)) (ih entry hentry)
    rw [jsonForm, jsonFormEntries_eq_map, List.map_congr_left hentry, List.map_id']

/-- The plain values are those that come back as they were. -/
theorem jsonForm_eq_self_iff {value : Value} : value.jsonForm = value ↔ value.IsPlain := by
  refine ⟨fun h => ?_, IsPlain.jsonForm_eq⟩
  rw [← h]
  exact isPlain_jsonForm value

/-! ## The round trip -/

/-- **Through JSON and back nothing is lost but dates, doubles that are not finite and the sign of
zero.**  A value comes back in its JSON form, at any depth, and then stays as it is.  The plain
values are those that come back as they were, and the verdict of a schema on the JSON tree of a
document is the one on what comes back, so on the document itself if that is plain. -/
theorem round_trip_through_json (value : Value) :
    ofJson value.toJson = value.jsonForm ∧
    ofJson (ofJson value.toJson).toJson = ofJson value.toJson ∧
    (ofJson value.toJson = value ↔ value.IsPlain) ∧
    ∀ (schema : CompiledSchema) (label : String),
      schema.validateJson value.toJson label = schema.validate value.jsonForm label ∧
      (value.IsPlain →
        schema.validateJson value.toJson label = schema.validate value label) := by
  have hback := ofJson_toJson value
  have hverdict : ∀ (schema : CompiledSchema) (label : String),
      schema.validateJson value.toJson label = schema.validate value.jsonForm label := by
    intro schema label
    rw [CompiledSchema.validateJson, hback]
  refine ⟨hback, ?_, ?_, fun schema label => ⟨hverdict schema label, fun hplain => ?_⟩⟩
  · rw [hback, ofJson_toJson, (isPlain_jsonForm value).jsonForm_eq]
  · rw [hback, jsonForm_eq_self_iff]
  · rw [hverdict, hplain.jsonForm_eq]

/-- What comes back of the values that are not plain. -/
example (t : Calendar.Instant) :
    (array [date t, number (0 / 0), number (-1 / 0), number (-0), number 1]).jsonForm =
      array [string t.rfc3339, null, null, number 0, number 1] := rfl

end Value

namespace Sample

/-- A document with numbers on both sides of `2 ^ 63`, from where on they are not written as
integers. -/
def readings : Value :=
  .object [("near", .number 3), ("far", .number (Float.ofBits 0x43E0000000000000)),
    ("notes", .array [.string "calibrated", .null, .bool true])]

end Sample

namespace Value

/-- The sample comes back as it was, and a schema cannot tell it from its JSON tree. -/
theorem round_trip_of_readings :
    Sample.readings.IsPlain ∧ ofJson Sample.readings.toJson = Sample.readings ∧
      ∀ (schema : CompiledSchema) (label : String),
        schema.validateJson Sample.readings.toJson label =
          schema.validate Sample.readings label := by
  have hnotes : (array [string "calibrated", null, bool true]).IsPlain := by
    refine .array fun item hitem => ?_
    simp only [List.mem_cons, List.not_mem_nil, or_false] at hitem
    rcases hitem with rfl | rfl | rfl
    · exact .string _
    · exact .null
    · exact .bool true
  have hplain : Sample.readings.IsPlain := by
    refine .object fun entry hentry => ?_
    simp only [List.mem_cons, List.not_mem_nil, or_false] at hentry
    rcases hentry with rfl | rfl | rfl
    · exact .number rfl (by decide)
    · exact .number rfl (by decide)
    · exact hnotes
  obtain ⟨-, -, hself, hverdict⟩ := round_trip_through_json Sample.readings
  exact ⟨hplain, hself.mpr hplain, fun schema label => (hverdict schema label).2 hplain⟩

end Value

end DocSchema
