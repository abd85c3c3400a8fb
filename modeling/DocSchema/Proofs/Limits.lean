import DocSchema.Proofs.Diagnosis
import DocSchema.Proofs.Ordering

/-!
# Values within their limits

A limit for numbers or for dates is checked by its negation: a value fails if it is *below* the
lower limit or *above* the upper one.  Dates are ordered totally, so what is not below a limit is at
least as late, and an accepted date does lie within its limits, as an accepted text does, whose
length is compared with the limits as they stand.

## The exception

A NaN is neither below nor above anything.  It passes every check of limits without lying within
them, and a limit that is a NaN lets every number pass.  This is the only exception: with doubles,
passing means keeping every limit that is no NaN, unless the double itself is one.  A NaN also
passes limits that contradict each other, which nothing else does.

* `Expansion.Governs`: the parts of an expansion that present values of a document are held to.
* `Bounds.Encloses`, `Bounds.EnclosesUpToNaN`: lying within limits, and the same for doubles.
* `Bounds.Contradictory`: limits that exclude each other.
* `Leaf.Within`: what follows for a present value that a leaf admits.
* `Compiler.within_of_accepted`: every value of an accepted document lies within its limits, a NaN
  excepted.
* `Compiler.nan_accepted_outside_limits`: the exception.
-/

namespace DocSchema

open Calendar (Instant)

/-! ## Governed values -/

namespace Expansion

/-- Whether a path leads from an expansion and a value to a part and a present value that is held to
it. -/
inductive Governs : Expansion → Value → List Segment → Expansion → Value → Prop
  | here {part : Expansion} {value : Value} :
    value.isNull = false → Governs part value [] part value
  | item {element part : Expansion} {required : Bool} {items : List Value} {position : Nat}
    {item value : Value} {rest : List Segment} :
    items[position]? = some item → Governs element item rest part value →
      Governs (.arrayOf element required) (.array items) (.index position :: rest) part value
  | field {fields : List (String × Expansion)} {field : String} {e part : Expansion}
    {name : Option String} {required : Bool} {container child value : Value}
    {rest : List Segment} :
    (field, e) ∈ fields → container.get? (.field field) = some child →
      Governs e child rest part value →
      Governs (.object fields name required) container (.field field :: rest) part value

variable {e part : Expansion} {root value : Value} {rest : List Segment}

theorem Governs.isNull_eq_false (h : e.Governs root rest part value) : value.isNull = false := by
  induction h with
  | here hn => exact hn
  | item _ _ ih | field _ _ _ ih => exact ih

/-- What is governed is what the path leads to. -/
theorem Governs.follow? (h : e.Governs root rest part value) : root.follow? rest = some value := by
  induction h with
  | here _ => rfl
  | @item _ _ _ items position _ _ _ hitem _ ih =>
    have hget : (Value.array items).get? (.index position) = some _ := hitem
    rw [Value.follow?_cons, hget]
    exact ih
  | field _ hchild _ ih =>
    rw [Value.follow?_cons, hchild]
    exact ih

/-- **Admitting is handed down** to every governed value, by induction on the path. -/
theorem Governs.admits (h : e.Governs root rest part value) (hadmits : e.Admits (some root)) :
    part.Admits (some value) := by
  induction h with
  | here _ => exact hadmits
  | item hitem _ ih =>
    obtain ⟨items, heq, hitems⟩ := (admits_arrayOf_iff rfl).mp hadmits
    cases heq
    exact ih (hitems _ (List.mem_of_getElem? hitem))
  | @field fields field _ _ _ _ container _ _ _ hmem hchild _ ih =>
    have hn : container.isNull = false := by
      cases container with
      | null => cases hchild
      | _ => rfl
    obtain ⟨-, hfields⟩ := (admits_object_iff hn).mp hadmits
    have hfield := hfields _ hmem
    rw [hchild] at hfield
    exact ih hfield

end Expansion

/-! ## Limits -/

namespace Bounds

variable {α : Type}

/-- Whether something lies within the limits, which belong to the range themselves. -/
def Encloses [LE α] (bounds : Bounds α) (x : α) : Prop :=
  (∀ low ∈ bounds.min, low ≤ x) ∧ ∀ high ∈ bounds.max, x ≤ high

/-- Whether the upper limit lies below the lower one. -/
def Contradictory [LT α] (bounds : Bounds α) : Prop :=
  ∃ low ∈ bounds.min, ∃ high ∈ bounds.max, high < low

/-- Whether a double lies within the limits as far as it can be compared with them: each limit is
kept if neither the limit nor the double is a NaN, and only then. -/
def EnclosesUpToNaN (bounds : Bounds Float) (x : Float) : Prop :=
  (∀ low ∈ bounds.min, low ≤ x ↔ x.isNaN = false ∧ low.isNaN = false) ∧
    ∀ high ∈ bounds.max, x ≤ high ↔ high.isNaN = false ∧ x.isNaN = false

/-- Limits that enclose something do not contradict each other, in any order. -/
theorem Encloses.not_contradictory [LE α] [LT α] {bounds : Bounds α} {x : α}
    (h : bounds.Encloses x) (htrans : ∀ a b c : α, a ≤ b → b < c → a < c)
    (hirrefl : ∀ a : α, ¬ a < a) : ¬ bounds.Contradictory := by
  rintro ⟨low, hlow, high, hhigh, hlt⟩
  have hbelow : x < low := htrans x high low (h.2 high hhigh) hlt
  exact hirrefl low (htrans low x low (h.1 low hlow) hbelow)

theorem encloses_of_admits_instant {bounds : Bounds Instant} {t : Instant} (h : bounds.Admits t) :
    bounds.Encloses t :=
  ⟨fun low hlow => Instant.le_of_not_lt (h.1 low hlow),
    fun high hhigh => Instant.le_of_not_lt (h.2 high hhigh)⟩

/-- **With doubles, passing the checks means lying within the limits, unless a NaN is involved.** -/
theorem enclosesUpToNaN_of_admits {bounds : Bounds Float} {x : Float} (h : bounds.Admits x) :
    bounds.EnclosesUpToNaN x :=
  ⟨fun low hlow => Number.le_iff_of_not_lt (h.1 low hlow),
    fun high hhigh => Number.le_iff_of_not_lt (h.2 high hhigh)⟩

/-- Only a NaN passes limits that contradict each other. -/
theorem EnclosesUpToNaN.isNaN_of_contradictory {bounds : Bounds Float} {x : Float}
    (h : bounds.EnclosesUpToNaN x) (hcontradictory : bounds.Contradictory) : x.isNaN = true := by
  obtain ⟨low, hlow, high, hhigh, hlt⟩ := hcontradictory
  obtain ⟨hhigh', hlow'⟩ := Number.isNaN_eq_false_of_lt hlt
  by_contra hnot
  have hx : x.isNaN = false := eq_false_of_ne_true hnot
  have hmin : low ≤ x := (h.1 low hlow).mpr ⟨hx, hlow'⟩
  have hmax : x ≤ high := (h.2 high hhigh).mpr ⟨hhigh', hx⟩
  have hbelow : x < low := Number.lt_of_le_of_lt hmax hlt
  exact Number.lt_irrefl low (Number.lt_of_le_of_lt hmin hbelow)

end Bounds

/-! ## Leaves -/

/-- The limits for the number of characters. -/
def StringRule.lengths (rule : StringRule) : Bounds Nat :=
  ⟨rule.minLength.map UInt64.toNat, rule.maxLength.map UInt64.toNat⟩

/-- That a present value lies within the limits of a leaf, and that these do not contradict each
other; for numbers, as far as no NaN is involved.  A list of allowed texts replaces the limits of
lengths. -/
def Leaf.Within : Leaf → Value → Prop
  | string rule, value =>
    rule.allowed = none →
      ∃ text, value = .string text ∧ rule.lengths.Encloses text.length ∧
        ¬ rule.lengths.Contradictory
  | number bounds, value | decimal bounds, value =>
    ∃ x, value = .number x ∧ bounds.EnclosesUpToNaN x ∧ (bounds.Contradictory → x.isNaN = true)
  | date bounds, value => ∃ t, value = .date t ∧ bounds.Encloses t ∧ ¬ bounds.Contradictory
  | boolean, _ | map, _ | anyArray, _ | unknown, _ => True

/-- Without a list of allowed texts, a text has to match the pattern and to have the right
length. -/
theorem StringRule.admits_iff_of_allowed_none {rule : StringRule} {text : String}
    (h : rule.allowed = .none) :
    rule.Admits text ↔
      (∀ p ∈ rule.pattern, p.isMatch text = true) ∧ rule.lengths.Encloses text.length := by
  simp [Admits, h, lengths, Bounds.Encloses]

theorem Leaf.within_of_admits {kind : Leaf} {value : Value} (h : kind.Admits value) :
    kind.Within value := by
  cases kind with
  | string rule =>
    obtain ⟨text, rfl, hrule⟩ := h
    intro hallowed
    obtain ⟨-, hencloses⟩ := (StringRule.admits_iff_of_allowed_none hallowed).mp hrule
    exact ⟨text, rfl, hencloses,
      hencloses.not_contradictory (fun _ _ _ => Nat.lt_of_le_of_lt) Nat.lt_irrefl⟩
  | number bounds | decimal bounds =>
    obtain ⟨x, rfl, hbounds⟩ := h
    have hencloses := Bounds.enclosesUpToNaN_of_admits hbounds
    exact ⟨x, rfl, hencloses, hencloses.isNaN_of_contradictory⟩
  | date bounds =>
    obtain ⟨t, rfl, hbounds⟩ := h
    have hencloses := Bounds.encloses_of_admits_instant hbounds
    exact ⟨t, rfl, hencloses,
      hencloses.not_contradictory (fun _ _ _ => Instant.lt_of_le_of_lt) Instant.lt_irrefl⟩
  | boolean | map | anyArray | unknown => trivial

namespace Compiler

/-- **Every value of an accepted document lies within its limits, a NaN excepted.**  Wherever a leaf
of an expansion governs a present value, at any depth and through arrays, objects and references,
the value has the length or lies in the range that the leaf declares, both limits included; and if
the limits contradict each other, there is no such value.  For numbers both hold as far as no NaN is
involved, and no further. -/
theorem within_of_accepted (compiler : Compiler) (description : Description) (document : Value)
    (label name : String) (node : Node) (hmem : (name, node) ∈ description) {root value : Value}
    {rest : List Segment} {kind : Leaf} {required : Bool}
    (haccepted : (compiler.compile description).validate document label = .accepted)
    (hroot : document.get? (.field name) = some root)
    (hgoverns : (compiler.expand node).Governs root rest (.leaf kind required) value) :
    document.follow? (.field name :: rest) = some value ∧ kind.Within value := by
  rw [CompiledSchema.validate_compile_eq_accepted_iff] at haccepted
  have hadmits := haccepted (name, node) hmem
  rw [hroot] at hadmits
  have hleaf : (Expansion.leaf kind required).Admits (some value) := hgoverns.admits hadmits
  refine ⟨?_, Leaf.within_of_admits ((Expansion.admits_leaf_iff hgoverns.isNull_eq_false).mp hleaf)⟩
  rw [Value.follow?_cons, hroot]
  exact hgoverns.follow?

end Compiler

namespace Sample

/-- A measure that is not negative. -/
def size : Node :=
  .leaf (.number ⟨some 0, none⟩) false

/-- A box with its size. -/
def box : Description :=
  [("size", size)]

/-- A box whose size is given by a double. -/
def sized (x : Float) : Value :=
  .object [("size", .number x)]

end Sample

namespace Compiler

/-- A box without extent is accepted, and its size is not below zero. -/
theorem within_of_sized_zero :
    (("size", Sample.size) ∈ Sample.box ∧
      (compile default Sample.box).validate (Sample.sized 0) "Box" = .accepted ∧
      (Sample.sized 0).get? (.field "size") = some (.number 0) ∧
      (expand default Sample.size).Governs (.number 0) [] (.leaf (.number ⟨some 0, none⟩) false)
        (.number 0)) ∧
    (Sample.sized 0).follow? [.field "size"] = some (.number 0) ∧
      (Leaf.number ⟨some 0, none⟩).Within (.number 0) := by
  have hmem : ("size", Sample.size) ∈ Sample.box := List.mem_cons_self
  have haccepted : (compile default Sample.box).validate (Sample.sized 0) "Box" = .accepted := by
    decide
  have hgoverns : (expand default Sample.size).Governs (.number 0) []
      (.leaf (.number ⟨some 0, none⟩) false) (.number 0) := .here rfl
  exact ⟨⟨hmem, haccepted, rfl, hgoverns⟩,
    within_of_accepted default Sample.box (Sample.sized 0) "Box" "size" Sample.size hmem haccepted
      rfl hgoverns⟩

/-- **A NaN escapes the limits.**  A box whose size is a NaN is accepted, though the size does not
lie within the limits. -/
theorem nan_accepted_outside_limits :
    (compile default Sample.box).validate (Sample.sized (0 / 0)) "Box" = .accepted ∧
      (expand default Sample.size).Governs (.number (0 / 0)) []
        (.leaf (.number ⟨some 0, none⟩) false) (.number (0 / 0)) ∧
      ¬ (⟨some 0, none⟩ : Bounds Float).Encloses (0 / 0) := by
  refine ⟨by decide, .here rfl, ?_⟩
  rintro ⟨hmin, -⟩
  have hle : (0 : Float) ≤ 0 / 0 := hmin 0 rfl
  have hnot : ¬ (0 : Float) ≤ 0 / 0 := by decide
  exact hnot hle

end Compiler

end DocSchema
