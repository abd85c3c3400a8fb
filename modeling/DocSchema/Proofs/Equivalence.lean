import DocSchema.Proofs.Fault
import DocSchema.Proofs.Indistinguishability
import DocSchema.Proofs.Ordering
import Mathlib.Data.List.Forall2

/-!
# Equivalent documents

Some documents differ in ways that no schema should care about: the order in which an object lists
its keys, a key that holds null instead of being left out, and the sign of a zero.  Documents that
differ in nothing else, at any depth, are equivalent, and here it is shown that they get equivalent
verdicts.

## What still shows

The verdicts are not the same to the letter, since a failure may spell the value that it found.
Whether a required key is missing or holds null is told apart, the two zeros are written
differently, and so are objects with their keys in another order.  A failure spells a value only
where a value is compared with a list of texts or with a limit, so failures of all other codes are
the same.

## Looking up is the only way in

Once the relation is set up, nothing more is said of lists of entries.  A validator reaches into a
value by one step of a path at a time, and what equivalent values have under the same step is
equivalent again or absent in both.  The induction over an expansion only needs this.

* `Value.Equivalent`, `Value.SameEntry`: equal but for the three differences.
* `Value.equivalence`: this is an equivalence relation.
* `Value.Equivalent.sameEntry`: the same step taken in equivalent values.
* `Failure.Alike`: equal but for the spelling of the value.
* `Test.rel_failureOf`, `Expansion.rel_failure?`: alike failures are reported of equivalent entries.
* `Compiler.alike_verdicts_of_equivalent`: equivalent documents get equivalent verdicts.
-/

namespace DocSchema

/-! ## Equivalent values -/

namespace Value

/-- Whether two doubles are the same up to the sign of a zero. -/
def SameNumber (x y : Float) : Prop :=
  x = y ∨ (x = 0 ∨ x = -0) ∧ (y = 0 ∨ y = -0)

mutual

/-- Whether two values are the same at any depth, up to the order of the keys of objects, to keys
that hold null, and to the signs of zeros. -/
inductive Equivalent : Value → Value → Prop
  | null : Equivalent .null .null
  | bool (b : Bool) : Equivalent (.bool b) (.bool b)
  | number {x y : Float} : SameNumber x y → Equivalent (.number x) (.number y)
  | string (s : String) : Equivalent (.string s) (.string s)
  | date (t : Calendar.Instant) : Equivalent (.date t) (.date t)
  /-- Arrays are equally long, and their items are equivalent in order. -/
  | array {items others : List Value} :
    List.Forall₂ Equivalent items others → Equivalent (.array items) (.array others)
  | object {entries others : List (String × Value)} :
    (∀ name, SameEntry (Assoc.get? entries name) (Assoc.get? others name)) →
      Equivalent (.object entries) (.object others)

/-- Whether two entries are both absent, be it that there is none or that it is null, or are
equivalent values. -/
inductive SameEntry : Option Value → Option Value → Prop
  | absent {entry twin : Option Value} : Absent entry → Absent twin → SameEntry entry twin
  | present {value other : Value} : Equivalent value other → SameEntry (some value) (some other)

end

/-! ## An equivalence relation -/

theorem SameNumber.symm {x y : Float} (h : SameNumber x y) : SameNumber y x := by
  rcases h with rfl | ⟨hx, hy⟩
  · exact .inl rfl
  · exact .inr ⟨hy, hx⟩

theorem SameNumber.trans {x y z : Float} (hxy : SameNumber x y) (hyz : SameNumber y z) :
    SameNumber x z := by
  rcases hxy with rfl | ⟨hx, hy⟩
  · exact hyz
  · rcases hyz with rfl | ⟨-, hz⟩
    · exact .inr ⟨hx, hy⟩
    · exact .inr ⟨hx, hz⟩

/-- Induction over a value, with a hypothesis for each item of an array and for each value that can
be looked up in an object. -/
@[elab_as_elim]
theorem induct {motive : Value → Prop} (null : motive .null) (bool : ∀ b, motive (.bool b))
    (number : ∀ x, motive (.number x)) (string : ∀ s, motive (.string s))
    (date : ∀ t, motive (.date t))
    (array : ∀ items, (∀ item ∈ items, motive item) → motive (.array items))
    (object : ∀ entries, (∀ name value, Assoc.get? entries name = some value → motive value) →
      motive (.object entries)) : ∀ value, motive value
  | .null => null
  | .bool b => bool b
  | .number x => number x
  | .string s => string s
  | .date t => date t
  | .array items =>
    array items fun item _ => induct null bool number string date array object item
  | .object entries =>
    object entries fun _ value _ => induct null bool number string date array object value
termination_by value => sizeOf value
decreasing_by
  · have hitem : sizeOf item < sizeOf items := List.sizeOf_lt_of_mem ‹_›
    simp only [Value.array.sizeOf_spec]
    omega
  · rename_i name hvalue
    have hentry : sizeOf (name, value) < sizeOf entries :=
      List.sizeOf_lt_of_mem (Assoc.mem_of_get?_eq_some hvalue)
    have hpair : sizeOf (name, value) = 1 + sizeOf name + sizeOf value := rfl
    simp only [Value.object.sizeOf_spec]
    omega

variable {value other third : Value} {entry twin : Option Value}

/-- Two entries that are looked up can be turned around if the values can. -/
theorem SameEntry.symm_of (h : SameEntry entry twin)
    (hsymm : ∀ value other, entry = some value → value.Equivalent other →
      other.Equivalent value) : SameEntry twin entry := by
  cases h with
  | absent hentry htwin => exact .absent htwin hentry
  | present h => exact .present (hsymm _ _ rfl h)

/-- What is equivalent to null is null. -/
theorem Equivalent.eq_null_iff (h : value.Equivalent other) : value = .null ↔ other = .null := by
  cases h <;> simp

theorem SameEntry.absent_iff (h : SameEntry entry twin) : Absent entry ↔ Absent twin := by
  cases h with
  | absent hentry htwin => exact iff_of_true hentry htwin
  | present h => simp [Absent, h.eq_null_iff]

/-- Two pairs of entries can be joined if the values can. -/
theorem SameEntry.trans_of {last : Option Value} (h : SameEntry entry twin)
    (h' : SameEntry twin last)
    (htrans : ∀ value other third, entry = some value → value.Equivalent other →
      other.Equivalent third → value.Equivalent third) : SameEntry entry last := by
  by_cases habsent : Absent entry
  · exact .absent habsent (h'.absent_iff.mp (h.absent_iff.mp habsent))
  · cases h with
    | absent hentry _ => exact absurd hentry habsent
    | present h =>
      cases h' with
      | absent htwin _ => exact absurd ((SameEntry.present h).absent_iff.mpr htwin) habsent
      | present h' => exact .present (htrans _ _ _ rfl h h')

theorem Equivalent.refl (value : Value) : value.Equivalent value := by
  induction value using induct with
  | null => exact .null
  | bool b => exact .bool b
  | number x => exact .number (.inl rfl)
  | string s => exact .string s
  | date t => exact .date t
  | array items ih => exact .array (List.forall₂_same.mpr ih)
  | object entries ih =>
    refine .object fun name => ?_
    cases hvalue : Assoc.get? entries name with
    | none => exact .absent (.inl rfl) (.inl rfl)
    | some value => exact .present (ih name value hvalue)

theorem Equivalent.symm (h : value.Equivalent other) : other.Equivalent value := by
  induction value using induct generalizing other with
  | array items ih =>
    cases h with
    | array hitems =>
      have hboth := (List.forall₂_and_left _ _).mpr ⟨ih, hitems⟩
      exact .array (hboth.imp fun item other h => h.1 h.2).flip
  | object entries ih =>
    cases h with
    | object hentries =>
      exact .object fun name =>
        (hentries name).symm_of fun value other hvalue h => ih name value hvalue h
  | number x =>
    cases h with
    | number hx => exact .number hx.symm
  | _ =>
    cases h
    exact refl _

theorem Equivalent.trans (h : value.Equivalent other) (h' : other.Equivalent third) :
    value.Equivalent third := by
  induction value using induct generalizing other third with
  | array items ih =>
    cases h with
    | @array _ others hitems =>
      cases h' with
      | @array _ thirds hothers =>
        have hlength : items.length = others.length := hitems.length_eq
        have hlength' : others.length = thirds.length := hothers.length_eq
        refine .array (List.forall₂_of_length_eq_of_get (hlength.trans hlength') ?_)
        intro i hi hi'
        have hmiddle : i < others.length := hlength ▸ hi
        exact ih _ (List.get_mem _ _) (hitems.get hi hmiddle) (hothers.get hmiddle hi')
  | object entries ih =>
    cases h with
    | object hentries =>
      cases h' with
      | object hothers =>
        exact .object fun name =>
          (hentries name).trans_of (hothers name) fun value _ _ hvalue h h' =>
            ih name value hvalue h h'
  | number x =>
    cases h with
    | number hx =>
      cases h' with
      | number hy => exact .number (hx.trans hy)
  | _ =>
    cases h
    exact h'

/-- Being equivalent is an equivalence relation. -/
theorem equivalence : Equivalence Equivalent :=
  ⟨Equivalent.refl, Equivalent.symm, Equivalent.trans⟩

/-! ## The three differences -/

theorem SameEntry.refl (entry : Option Value) : SameEntry entry entry := by
  cases entry with
  | none => exact .absent (.inl rfl) (.inl rfl)
  | some value => exact .present (.refl value)

/-- The order of distinct keys does not matter. -/
theorem Equivalent.of_perm {entries others : List (String × Value)} (h : entries.Perm others)
    (hnames : (Assoc.names entries).Nodup) :
    (Value.object entries).Equivalent (.object others) := by
  refine .object fun name => ?_
  rw [Assoc.get?_eq_of_perm h hnames]
  exact .refl _

/-- A new key that holds null does not matter. -/
theorem Equivalent.cons_null {entries : List (String × Value)} {name : String}
    (hname : name ∉ Assoc.names entries) :
    (Value.object ((name, .null) :: entries)).Equivalent (.object entries) := by
  refine .object fun key => ?_
  rw [Assoc.get?_cons]
  by_cases hkey : name = key
  · rw [if_pos hkey, Assoc.get?_eq_none_iff.mpr (hkey ▸ hname)]
    exact .absent (.inr rfl) (.inl rfl)
  · rw [if_neg hkey]
    exact .refl _

/-- The sign of a zero does not matter. -/
theorem Equivalent.zero : (Value.number 0).Equivalent (.number (-0)) :=
  .number (.inr ⟨.inl rfl, .inr rfl⟩)

/-! ## What equivalent values share -/

/-- Limits do not tell the two zeros apart. -/
theorem SameNumber.rank?_eq {x y : Float} (h : SameNumber x y) :
    Number.rank? x = Number.rank? y := by
  have hzero : ∀ z : Float, z = 0 ∨ z = -0 → Number.rank? z = some ⟨0, 0, 0⟩ := by
    rintro z (rfl | rfl)
    · exact Number.rank?_zero
    · exact Number.rank?_neg_zero
  rcases h with rfl | ⟨hx, hy⟩
  · rfl
  · rw [hzero x hx, hzero y hy]

section

variable (h : value.Equivalent other)

include h

theorem Equivalent.typeName_eq : value.typeName = other.typeName := by
  cases h <;> rfl

theorem Equivalent.isNull_eq : value.isNull = other.isNull := by
  cases h <;> rfl

theorem Equivalent.string?_eq : value.string? = other.string? := by
  cases h <;> rfl

theorem Equivalent.isAbove_eq (limit : Limit) : limit.isAbove value = limit.isAbove other := by
  cases h with
  | number hx =>
    cases limit with
    | number x => exact decide_eq_decide.mpr (Number.lt_iff_of_rank_eq_left hx.rank?_eq)
    | date t => rfl
  | _ => cases limit <;> rfl

theorem Equivalent.isBelow_eq (limit : Limit) : limit.isBelow value = limit.isBelow other := by
  cases h with
  | number hx =>
    cases limit with
    | number x => exact decide_eq_decide.mpr (Number.lt_iff_of_rank_eq_right hx.rank?_eq)
    | date t => rfl
  | _ => cases limit <;> rfl

/-- **Equivalent values have equivalent entries** under the same step of a path. -/
theorem Equivalent.sameEntry (key : Segment) : SameEntry (value.get? key) (other.get? key) := by
  cases h with
  | @array items others hitems =>
    cases key with
    | field name => exact .refl _
    | index i =>
      have hlength : items.length = others.length := hitems.length_eq
      show SameEntry items[i]? others[i]?
      rcases Nat.lt_or_ge i items.length with hlt | hge
      · have hlt' : i < others.length := hlength ▸ hlt
        rw [List.getElem?_eq_getElem hlt, List.getElem?_eq_getElem hlt']
        exact .present (hitems.get hlt hlt')
      · rw [List.getElem?_eq_none hge, List.getElem?_eq_none (hlength ▸ hge)]
        exact .refl _
  | object hentries =>
    cases key with
    | field name => exact hentries name
    | index i => exact .refl _
  | _ => exact .refl _

end

/-- An entry is absent in both, or present in both. -/
theorem SameEntry.absent_or_present (h : SameEntry entry twin) :
    Absent entry ∧ Absent twin ∨
      ∃ value other, entry = some value ∧ twin = some other ∧ value.isNull = false ∧
        other.isNull = false ∧ value.Equivalent other := by
  by_cases habsent : Absent entry
  · exact .inl ⟨habsent, h.absent_iff.mp habsent⟩
  · cases h with
    | absent hentry _ => exact absurd hentry habsent
    | @present value other h =>
      obtain hnull | ⟨_, heq, hnull⟩ := DocSchema.absent_or_present (some value)
      · exact absurd hnull habsent
      · cases heq
        exact .inr ⟨value, other, rfl, rfl, hnull, h.isNull_eq ▸ hnull, h⟩

end Value

/-! ## Alike failures -/

namespace Failure

/-- How the message and the found value of two failures may differ. -/
inductive SpelledLike (failure twin : Failure) : Prop
  | same : failure.message = twin.message → failure.got = twin.got → SpelledLike failure twin
  /-- What is absent is called by one of two words. -/
  | absent (before word other after : String) :
    failure.kind = .requiredMissing → word ∈ ["null", "undefined"] →
      other ∈ ["null", "undefined"] → failure.got = some word → twin.got = some other →
      failure.message = before ++ word ++ after → twin.message = before ++ other ++ after →
      SpelledLike failure twin
  /-- A value is only spelled where it is compared with texts or with limits. -/
  | value : failure.code ∈ ["enum", "min", "max"] → SpelledLike failure twin

/-- Whether two failures are the same but for the spelling of the value that was found. -/
structure Alike (failure twin : Failure) : Prop where
  path_eq : failure.path = twin.path
  kind_eq : failure.kind = twin.kind
  code_eq : failure.code = twin.code
  expected_eq : failure.expected = twin.expected
  spelling : failure.SpelledLike twin

theorem Alike.refl (failure : Failure) : failure.Alike failure :=
  ⟨rfl, rfl, rfl, rfl, .same rfl rfl⟩

/-- Equal outcomes are alike. -/
theorem rel_alike_of_eq {outcome twin : Option Failure} (h : outcome = twin) :
    Option.Rel Alike outcome twin := by
  subst h
  cases outcome with
  | none => exact .none
  | some failure => exact .some (.refl failure)

end Failure

/-- The first results are related if the results of each member are. -/
theorem rel_findSome? {α β : Type} {R : β → β → Prop} {members : List α} {f g : α → Option β}
    (h : ∀ a ∈ members, Option.Rel R (f a) (g a)) :
    Option.Rel R (members.findSome? f) (members.findSome? g) := by
  induction members with
  | nil => exact .none
  | cons a rest ih =>
    rw [List.findSome?_cons, List.findSome?_cons]
    have hfirst := h a List.mem_cons_self
    cases hf : f a <;> cases hg : g a <;> rw [hf, hg] at hfirst
    · exact ih fun b hb => h b (List.mem_cons_of_mem a hb)
    · cases hfirst
    · cases hfirst
    · exact hfirst

/-! ## Alike outcomes -/

variable {container beside value other : Value} {key : Segment} {parent : Path} {label : String}

/-- Two reports about the same place that spell the value are alike. -/
theorem Failure.Reports.alike {failure twin : Failure} {kind : FailureKind}
    {code got got' : String} (h : failure.Reports ⟨container, key, parent⟩ kind code got)
    (h' : twin.Reports ⟨beside, key, parent⟩ kind code got')
    (hexpected : failure.expected = twin.expected) (hcode : code ∈ ["enum", "min", "max"]) :
    failure.Alike twin where
  path_eq := h.path_eq.trans h'.path_eq.symm
  kind_eq := h.kind_eq.trans h'.kind_eq.symm
  code_eq := h.code_eq.trans h'.code_eq.symm
  expected_eq := hexpected
  spelling := .value (h.code_eq ▸ hcode)

namespace Test

theorem expected_notAllowed (slot : Slot) (label : String) (value : Value)
    (allowed : List String) :
    (notAllowed slot label value allowed).expected =
      some ("one of " ++ (Json.array (allowed.map Json.string)).render) := rfl

theorem alike_notAllowed (allowed : List String) :
    (notAllowed ⟨container, key, parent⟩ label value allowed).Alike
      (notAllowed ⟨beside, key, parent⟩ label other allowed) := by
  have hexpected : (notAllowed ⟨container, key, parent⟩ label value allowed).expected =
      (notAllowed ⟨beside, key, parent⟩ label other allowed).expected := by
    rw [expected_notAllowed, expected_notAllowed]
  exact (notAllowed_reports ..).alike (notAllowed_reports ..) hexpected (by decide)

theorem alike_violation {code : String} (hcode : code ∈ ["enum", "min", "max"])
    (detail expected got got' : String) :
    (violation ⟨container, key, parent⟩ label code detail expected got).Alike
      (violation ⟨beside, key, parent⟩ label code detail expected got') :=
  (violation_reports ..).alike (violation_reports ..) rfl hcode

/-- **A test reports alike failures of equivalent values.**  Only the tests that show the value
itself can tell two of them apart. -/
theorem rel_failureOf (t : Test) (h : value.Equivalent other) :
    Option.Rel Failure.Alike (t.failureOf ⟨container, key, parent⟩ label value)
      (t.failureOf ⟨beside, key, parent⟩ label other) := by
  cases t with
  | anything | custom check => exact .none
  | primitive type => exact Failure.rel_alike_of_eq (failureOf_primitive_eq h.typeName_eq)
  | date => exact Failure.rel_alike_of_eq (failureOf_date_eq h.typeName_eq)
  | pattern p | minLength n | maxLength n =>
    refine Failure.rel_alike_of_eq ?_
    rw [failureOf, failureOf, h.string?_eq]
    rfl
  | oneOf allowed =>
    rw [failureOf, failureOf, h.string?_eq]
    split
    · exact .none
    · exact .some (alike_notAllowed allowed)
  | min limit =>
    rw [failureOf, failureOf, h.isAbove_eq]
    split
    · exact .some (alike_violation (by decide) _ _ _ _)
    · exact .none
  | max limit =>
    rw [failureOf, failureOf, h.isBelow_eq]
    split
    · exact .some (alike_violation (by decide) _ _ _ _)
    · exact .none

end Test

theorem Slot.absentLabel_mem (slot : Slot) : slot.absentLabel ∈ ["null", "undefined"] := by
  unfold absentLabel
  split <;> decide

/-- Of a missing value it is said in one of two words that it is missing. -/
theorem Validator.alike_missing (namesPath : Bool) :
    (missing ⟨container, key, parent⟩ label namesPath).Alike
      (missing ⟨beside, key, parent⟩ label namesPath) := by
  have hword := (Slot.mk container key parent).absentLabel_mem
  have hother := (Slot.mk beside key parent).absentLabel_mem
  exact ⟨rfl, rfl, rfl, rfl, .absent _ _ _ _ rfl hword hother rfl rfl rfl rfl⟩

namespace Expansion

/-- Of absent entries the failures are alike in any case, so only present ones have to be
compared. -/
theorem rel_failure?_of_present {e : Expansion}
    (h : Value.SameEntry (container.get? key) (beside.get? key))
    (hpresent : ∀ value other, (Slot.mk container key parent).present? = some value →
      (Slot.mk beside key parent).present? = some other → value.Equivalent other →
      Option.Rel Failure.Alike (e.validator.failure? ⟨container, key, parent⟩ label)
        (e.validator.failure? ⟨beside, key, parent⟩ label)) :
    Option.Rel Failure.Alike (e.validator.failure? ⟨container, key, parent⟩ label)
      (e.validator.failure? ⟨beside, key, parent⟩ label) := by
  rcases h.absent_or_present with ⟨habsent, habsent'⟩ | ⟨value, other, hv, hv', hn, hn', h⟩
  · have hp : (Slot.mk container key parent).present? = none :=
      Slot.present?_eq_none_iff.mpr habsent
    have hp' : (Slot.mk beside key parent).present? = none :=
      Slot.present?_eq_none_iff.mpr habsent'
    rw [failure?_of_absent e hp, failure?_of_absent e hp']
    cases e.isRequired with
    | false => exact .none
    | true => exact .some (Validator.alike_missing e.namesPath)
  · have hp : (Slot.mk container key parent).present? = some value :=
      Slot.present?_eq_some_iff.mpr ⟨hv, hn⟩
    have hp' : (Slot.mk beside key parent).present? = some other :=
      Slot.present?_eq_some_iff.mpr ⟨hv', hn'⟩
    exact hpresent value other hp hp' h

section

variable {required : Bool} (hp : (Slot.mk container key parent).present? = some value)
  (hp' : (Slot.mk beside key parent).present? = some other) (h : value.Equivalent other)

include hp hp' h

theorem rel_failure?_leaf (kind : Leaf) :
    Option.Rel Failure.Alike
      ((leaf kind required).validator.failure? ⟨container, key, parent⟩ label)
      ((leaf kind required).validator.failure? ⟨beside, key, parent⟩ label) := by
  rw [failure?_leaf_of_present kind required hp, failure?_leaf_of_present kind required hp']
  exact rel_findSome? fun t _ => t.rel_failureOf h

/-- Equivalent arrays have alike failures if their items have, position by position. -/
theorem rel_failure?_arrayOf (element : Expansion)
    (helement : ∀ position path,
      Option.Rel Failure.Alike
        (element.validator.failure? ⟨value, .index position, path⟩ label)
        (element.validator.failure? ⟨other, .index position, path⟩ label)) :
    Option.Rel Failure.Alike
      ((arrayOf element required).validator.failure? ⟨container, key, parent⟩ label)
      ((arrayOf element required).validator.failure? ⟨beside, key, parent⟩ label) := by
  have htype := h.typeName_eq
  by_cases harray : value.typeName = "array"
  · obtain ⟨items, rfl⟩ := Value.typeName_eq_array_iff.mp harray
    obtain ⟨others, rfl⟩ := Value.typeName_eq_array_iff.mp (htype ▸ harray)
    have hlength : items.length = others.length := by
      cases h with
      | array hitems => exact hitems.length_eq
    rw [failure?_arrayOf_of_array element required hp,
      failure?_arrayOf_of_array element required hp', hlength]
    exact rel_findSome? fun position _ => helement position _
  · refine Failure.rel_alike_of_eq (failure?_arrayOf_eq hp hp' htype fun items others hv _ => ?_)
    exact absurd (Value.typeName_eq_array_iff.mpr ⟨items, hv⟩) harray

/-- Equivalent objects have alike failures if their fields have. -/
theorem rel_failure?_object (fields : List (String × Expansion)) (name : Option String)
    (hfields : ∀ entry ∈ fields, ∀ path,
      Option.Rel Failure.Alike
        (entry.2.validator.failure? ⟨value, .field entry.1, path⟩ label)
        (entry.2.validator.failure? ⟨other, .field entry.1, path⟩ label)) :
    Option.Rel Failure.Alike
      ((object fields name required).validator.failure? ⟨container, key, parent⟩ label)
      ((object fields name required).validator.failure? ⟨beside, key, parent⟩ label) := by
  obtain ⟨hprimitive, -, -⟩ := Value.names_eq_of_typeName_eq h.typeName_eq
  by_cases hobject : value.IsObject
  · have hobject' : other.IsObject :=
      Value.isObject_iff.mpr (hprimitive ▸ Value.isObject_iff.mp hobject)
    rw [failure?_object_of_isObject fields name required hp hobject,
      failure?_object_of_isObject fields name required hp' hobject']
    exact rel_findSome? fun entry hentry => hfields entry hentry _
  · refine Failure.rel_alike_of_eq (failure?_object_eq hp hp' h.typeName_eq fun htype => ?_)
    have hprimitive' : value.primitiveName = value.typeName :=
      Value.primitiveName_of_not_isObject hobject
    exact absurd (Value.isObject_iff.mpr (hprimitive'.trans htype)) hobject

end

/-- **A validator reports alike failures of equivalent entries.**  The induction is over the
expansion: children are looked up under the same steps in both values, and what is found there is
equivalent again. -/
theorem rel_failure? (e : Expansion)
    (h : Value.SameEntry (container.get? key) (beside.get? key)) :
    Option.Rel Failure.Alike (e.validator.failure? ⟨container, key, parent⟩ label)
      (e.validator.failure? ⟨beside, key, parent⟩ label) := by
  induction e generalizing container beside key parent with
  | leaf kind required =>
    exact rel_failure?_of_present h fun value other hp hp' hsame =>
      rel_failure?_leaf hp hp' hsame kind
  | flat reason required =>
    rw [validator_flat]
    exact rel_failure?_of_present h fun value other hp hp' hsame =>
      rel_failure?_leaf hp hp' hsame reason.leaf
  | arrayOf element required ih =>
    refine rel_failure?_of_present h fun value other hp hp' hsame => ?_
    exact rel_failure?_arrayOf hp hp' hsame element fun position path =>
      ih (hsame.sameEntry (.index position))
  | object fields name required ih =>
    refine rel_failure?_of_present h fun value other hp hp' hsame => ?_
    exact rel_failure?_object hp hp' hsame fields name fun entry hentry path =>
      ih entry hentry (hsame.sameEntry (.field entry.1))

end Expansion

/-! ## Equivalent verdicts -/

theorem Verdict.eq_accepted_iff {verdict : Verdict} :
    verdict = .accepted ↔ verdict.failures = [] := by
  cases verdict <;> simp [failures, Report.toList]

/-- **Equivalent documents get equivalent verdicts.**  Either both are accepted, or both are
rejected for equally many failures, which agree pair by pair in everything but the spelling of the
value that was found. -/
theorem Compiler.alike_verdicts_of_equivalent (compiler : Compiler) (description : Description)
    (document twin : Value) (label : String) (h : document.Equivalent twin) :
    ((compiler.compile description).validate document label = .accepted ↔
      (compiler.compile description).validate twin label = .accepted) ∧
    List.Forall₂ Failure.Alike
      ((compiler.compile description).validate document label).failures
      ((compiler.compile description).validate twin label).failures := by
  have halike : List.Forall₂ Failure.Alike
      ((compiler.compile description).validate document label).failures
      ((compiler.compile description).validate twin label).failures := by
    rw [CompiledSchema.validate, CompiledSchema.validate, Verdict.failures_ofFailures,
      Verdict.failures_ofFailures, CompiledSchema.failures_compile,
      CompiledSchema.failures_compile]
    refine List.rel_filterMap (R := Eq) ?_ (List.forall₂_eq_eq_eq ▸ rfl)
    rintro field _ rfl
    exact Expansion.rel_failure? _ (h.sameEntry (.field field.1))
  refine ⟨?_, halike⟩
  rw [Verdict.eq_accepted_iff, Verdict.eq_accepted_iff, ← List.length_eq_zero_iff,
    ← List.length_eq_zero_iff, halike.length_eq]

namespace Sample

/-- A list whose cell has null for its name, and a zero for its owner. -/
def nullNamed : Value :=
  .object [("head", .object [("name", .null)]), ("owner", .number 0)]

/-- The same with the keys in another order, the null left out, and the other zero. -/
def unnamed : Value :=
  .object [("owner", .number (-0)), ("head", .object [])]

theorem equivalent_nullNamed_unnamed : nullNamed.Equivalent unnamed := by
  have hcell : (Value.object [("name", .null)]).Equivalent (.object []) :=
    .cons_null List.not_mem_nil
  refine .object fun name => ?_
  rw [Assoc.get?_cons, Assoc.get?_cons, Assoc.get?_cons, Assoc.get?_cons]
  by_cases hhead : "head" = name
  · subst hhead
    exact .present hcell
  · by_cases howner : "owner" = name
    · subst howner
      exact .present .zero
    · rw [if_neg hhead, if_neg howner, if_neg howner, if_neg hhead]
      exact .refl _

end Sample

/-- Both lists are rejected for the name and for the owner, though the name is null in one of them
and missing in the other. -/
theorem Compiler.alike_verdicts_of_nullNamed_unnamed :
    Sample.nullNamed.Equivalent Sample.unnamed ∧
    ((compile ⟨Sample.table, 3⟩ Sample.description).validate Sample.nullNamed "List" = .accepted ↔
      (compile ⟨Sample.table, 3⟩ Sample.description).validate Sample.unnamed "List" = .accepted) ∧
    List.Forall₂ Failure.Alike
      ((compile ⟨Sample.table, 3⟩ Sample.description).validate Sample.nullNamed "List").failures
      ((compile ⟨Sample.table, 3⟩ Sample.description).validate Sample.unnamed "List").failures :=
  ⟨Sample.equivalent_nullNamed_unnamed,
    alike_verdicts_of_equivalent ⟨Sample.table, 3⟩ Sample.description _ _ "List"
      Sample.equivalent_nullNamed_unnamed⟩

end DocSchema
