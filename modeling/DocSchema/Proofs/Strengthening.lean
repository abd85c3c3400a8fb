import DocSchema.Proofs.Conformance
import DocSchema.Proofs.Limits

/-!
# Stronger schemas

One declaration is stronger than another if it asks for more in a way that can be seen by comparing
the two: more values are required, limits are tighter, a list of texts is shorter, more fields are
declared, a container that was only checked for its type is looked into.  A document that is
accepted by the stronger schema is then accepted by the weaker one.

The relation is by syntax and crosses the kinds of declarations.  Nothing in it speaks of depths or
of the names being expanded: a stronger declaration stands in the place of the weaker one, so both
are flat at the same depth, and references are only compared with references of the same name, whose
descriptions are the same.

* `Bounds.Strengthens`, `StringRule.Strengthens`, `Leaf.Strengthens`: stronger constraints.
* `Node.Strengthens`, `Description.Strengthens`: stronger declarations.
* `Leaf.Admits.of_strengthens`: a weaker leaf admits what a stronger one admits.
* `Compiler.Conforms.of_strengthens`: the same for declarations.
* `Compiler.accepted_of_accepted_of_strengthens`: the same for the acceptance of documents.
-/

namespace DocSchema

open Calendar (Instant)

/-! ## Stronger constraints -/

/-- Whether limits are at least as tight as others, where these have a limit. -/
def Bounds.Strengthens {α : Type} [LE α] (stricter bounds : Bounds α) : Prop :=
  (∀ low ∈ bounds.min, ∃ low' ∈ stricter.min, low ≤ low') ∧
    ∀ high ∈ bounds.max, ∃ high' ∈ stricter.max, high' ≤ high

/-- Whether a rule for texts is at least as strict as another one.  Since a list of allowed texts
replaces all other constraints, lists are compared with lists, and the texts of a list are held to
the constraints of a rule without one. -/
def StringRule.Strengthens (stricter rule : StringRule) : Prop :=
  match stricter.allowed, rule.allowed with
  | .none, .none =>
    (∀ p ∈ rule.pattern, p ∈ stricter.pattern) ∧ stricter.lengths.Strengthens rule.lengths
  | some listed, some allowed => listed ⊆ allowed
  | some listed, .none => ∀ text ∈ listed, rule.Admits text
  | .none, some _ => False

/-- Whether a leaf is at least as strict as another one.  Decimals are numbers. -/
def Leaf.Strengthens (stricter : Leaf) : Leaf → Prop
  | string rule => ∃ strict, stricter = .string strict ∧ strict.Strengthens rule
  | number bounds | decimal bounds =>
    ∃ strict, (stricter = .number strict ∨ stricter = .decimal strict) ∧ strict.Strengthens bounds
  | date bounds => ∃ strict, stricter = .date strict ∧ strict.Strengthens bounds
  | boolean => stricter = .boolean
  | map => stricter = .map
  | anyArray => stricter = .anyArray
  | unknown => True

/-- Whether a declaration is at least as strict as another one. -/
inductive Node.Strengthens : Node → Node → Prop
  | unknown {stricter : Node} {required : Bool} :
    (required = true → stricter.isRequired = true) →
      Strengthens stricter (.leaf .unknown required)
  | leaf {stricter kind : Leaf} {flag required : Bool} :
    (required = true → flag = true) → stricter.Strengthens kind →
      Strengthens (.leaf stricter flag) (.leaf kind required)
  | reference {name : Option String} {flag required : Bool} :
    (required = true → flag = true) →
      Strengthens (.reference name flag) (.reference name required)
  /-- Whatever is asked of the fields of an object, it is an object. -/
  | objectOfMap {fields : Description} {flag required : Bool} :
    (required = true → flag = true) → Strengthens (.object fields flag) (.leaf .map required)
  | referenceOfMap {name : Option String} {flag required : Bool} :
    (required = true → flag = true) → Strengthens (.reference name flag) (.leaf .map required)
  | arrayOfAny {element : Node} {flag required : Bool} :
    (required = true → flag = true) →
      Strengthens (.arrayOf element flag) (.leaf .anyArray required)
  | arrayOf {stricter element : Node} {flag required : Bool} :
    (required = true → flag = true) → Strengthens stricter element →
      Strengthens (.arrayOf stricter flag) (.arrayOf element required)
  /-- Every field has a partner of the same name, in any order, that is at least as strict. -/
  | object {stricter fields : Description} {flag required : Bool} (partner : String × Node → Node) :
    (required = true → flag = true) → (∀ field ∈ fields, (field.1, partner field) ∈ stricter) →
      (∀ field ∈ fields, Strengthens (partner field) field.2) →
      Strengthens (.object stricter flag) (.object fields required)

/-- Whether a description declares at least the fields of another one, each at least as strictly. -/
def Description.Strengthens (stricter description : Description) : Prop :=
  ∀ name node, (name, node) ∈ description →
    ∃ other, (name, other) ∈ stricter ∧ other.Strengthens node

/-- Objects are compared as descriptions are. -/
theorem Description.Strengthens.object {stricter fields : Description} {flag required : Bool}
    (hflag : required = true → flag = true) (h : stricter.Strengthens fields) :
    Node.Strengthens (.object stricter flag) (.object fields required) := by
  have hpartner : ∀ field : String × Node, ∃ other, field ∈ fields →
      (field.1, other) ∈ stricter ∧ other.Strengthens field.2 := by
    intro field
    by_cases hmem : field ∈ fields
    · obtain ⟨other, hother⟩ := h field.1 field.2 hmem
      exact ⟨other, fun _ => hother⟩
    · exact ⟨field.2, fun hfield => absurd hfield hmem⟩
  choose partner hpartner using hpartner
  exact .object partner hflag (fun field hfield => (hpartner field hfield).1)
    fun field hfield => (hpartner field hfield).2

/-! ## Leaves -/

namespace Bounds

variable {α : Type} [LE α] {stricter bounds : Bounds α} {x : α}

theorem Admits.of_strengthens [LT α] (h : stricter.Strengthens bounds)
    (hlower : ∀ a b c : α, a < b → b ≤ c → a < c) (hupper : ∀ a b c : α, a ≤ b → b < c → a < c)
    (hadmits : stricter.Admits x) : bounds.Admits x := by
  obtain ⟨hmin, hmax⟩ := h
  constructor
  · intro low hlow hbelow
    obtain ⟨low', hlow', hle⟩ := hmin low hlow
    exact hadmits.1 low' hlow' (hlower x low low' hbelow hle)
  · intro high hhigh habove
    obtain ⟨high', hhigh', hle⟩ := hmax high hhigh
    exact hadmits.2 high' hhigh' (hupper high' high x hle habove)

theorem Encloses.of_strengthens (h : stricter.Strengthens bounds)
    (htrans : ∀ a b c : α, a ≤ b → b ≤ c → a ≤ c) (hencloses : stricter.Encloses x) :
    bounds.Encloses x := by
  obtain ⟨hmin, hmax⟩ := h
  constructor
  · intro low hlow
    obtain ⟨low', hlow', hle⟩ := hmin low hlow
    exact htrans low low' x hle (hencloses.1 low' hlow')
  · intro high hhigh
    obtain ⟨high', hhigh', hle⟩ := hmax high hhigh
    exact htrans x high' high (hencloses.2 high' hhigh') hle

end Bounds

theorem StringRule.Admits.of_strengthens {stricter rule : StringRule} {text : String}
    (h : stricter.Strengthens rule) (hadmits : stricter.Admits text) : rule.Admits text := by
  unfold StringRule.Strengthens at h
  split at h
  · next hlisted hallowed =>
    obtain ⟨hpattern, hlengths⟩ := h
    obtain ⟨hmatch, hlength⟩ := (admits_iff_of_allowed_none hlisted).mp hadmits
    refine (admits_iff_of_allowed_none hallowed).mpr ⟨?_, ?_⟩
    · intro p hp
      exact hmatch p (hpattern p hp)
    · exact hlength.of_strengthens hlengths fun _ _ _ => Nat.le_trans
  · next hlisted hallowed =>
    simp only [StringRule.Admits, hlisted, hallowed] at hadmits ⊢
    exact h hadmits
  · next hlisted _ =>
    simp only [StringRule.Admits, hlisted] at hadmits
    exact h text hadmits
  · exact h.elim

/-- **A weaker leaf admits what a stronger one admits.** -/
theorem Leaf.Admits.of_strengthens {stricter kind : Leaf} {value : Value}
    (h : stricter.Strengthens kind) (hadmits : stricter.Admits value) : kind.Admits value := by
  cases kind with
  | string rule =>
    obtain ⟨strict, rfl, hstrict⟩ := h
    obtain ⟨text, rfl, htext⟩ := hadmits
    exact ⟨text, rfl, htext.of_strengthens hstrict⟩
  | number bounds | decimal bounds =>
    obtain ⟨strict, hkind, hstrict⟩ := h
    have hnumber : ∃ x, value = .number x ∧ strict.Admits x := by
      rcases hkind with rfl | rfl <;> exact hadmits
    obtain ⟨x, rfl, hx⟩ := hnumber
    exact ⟨x, rfl, hx.of_strengthens hstrict (fun _ _ _ => Number.lt_of_lt_of_le)
      fun _ _ _ => Number.lt_of_le_of_lt⟩
  | date bounds =>
    obtain ⟨strict, rfl, hstrict⟩ := h
    obtain ⟨t, rfl, ht⟩ := hadmits
    exact ⟨t, rfl, ht.of_strengthens hstrict (fun _ _ _ => Instant.lt_of_lt_of_le)
      fun _ _ _ => Instant.lt_of_le_of_lt⟩
  | boolean | map | anyArray =>
    cases h
    exact hadmits
  | unknown => trivial

/-! ## Declarations -/

theorem Node.Strengthens.isRequired {stricter node : Node} (h : stricter.Strengthens node)
    (hrequired : node.isRequired = true) : stricter.isRequired = true := by
  cases h with
  | unknown hflag | leaf hflag _ | reference hflag | objectOfMap hflag | referenceOfMap hflag
  | arrayOfAny hflag | arrayOf hflag _ | object _ hflag _ _ => exact hflag hrequired

namespace Compiler

variable {compiler : Compiler} {depth : Nat} {names : List String} {required : Bool} {value : Value}

theorem isObject_of_conforms_object {fields : Description} (hn : value.isNull = false)
    (h : compiler.Conforms depth names (.object fields required) (some value)) :
    value.IsObject := by
  cases h with
  | absent ha _ => exact absurd ha (not_absent_of_isNull_eq_false hn)
  | flatObject _ hv | object _ hv _ => exact hv

theorem isObject_of_conforms_reference {reference : Option String} (hn : value.isNull = false)
    (h : compiler.Conforms depth names (.reference reference required) (some value)) :
    value.IsObject := by
  cases h with
  | absent ha _ => exact absurd ha (not_absent_of_isNull_eq_false hn)
  | opaqueReference _ hv | reference _ _ _ hv _ => exact hv

theorem isArray_of_conforms_arrayOf {element : Node} (hn : value.isNull = false)
    (h : compiler.Conforms depth names (.arrayOf element required) (some value)) :
    ∃ items, value = .array items := by
  cases h with
  | absent ha _ => exact absurd ha (not_absent_of_isNull_eq_false hn)
  | @flatArray _ _ _ _ items _ | @array _ _ _ _ items _ _ => exact ⟨items, rfl⟩

/-- Of present values it does not matter to a reference whether they are required. -/
theorem conforms_reference_of_flag {reference : Option String} {flag : Bool}
    (hn : value.isNull = false)
    (h : compiler.Conforms depth names (.reference reference flag) (some value)) :
    compiler.Conforms depth names (.reference reference required) (some value) := by
  cases h with
  | absent ha _ => exact absurd ha (not_absent_of_isNull_eq_false hn)
  | opaqueReference ho hv => exact .opaqueReference ho hv
  | reference hd hname hlt hv hfields => exact .reference hd hname hlt hv hfields

/-- What is absent conforms to the weaker declaration if it conforms to the stronger one, so only
present values have to be compared. -/
theorem Conforms.of_present {stricter node : Node} {entry : Option Value}
    (hstrengthens : stricter.Strengthens node)
    (hpresent : ∀ value, value.isNull = false →
      compiler.Conforms depth names stricter (some value) →
        compiler.Conforms depth names node (some value))
    (h : compiler.Conforms depth names stricter entry) :
    compiler.Conforms depth names node entry := by
  rcases absent_or_present entry with ha | ⟨value, rfl, hn⟩
  · have hoptional : stricter.isRequired = false := (conforms_iff_of_absent ha).mp h
    refine (conforms_iff_of_absent ha).mpr (eq_false_of_ne_true fun hrequired => ?_)
    have hstricter : stricter.isRequired = true := hstrengthens.isRequired hrequired
    rw [hoptional] at hstricter
    cases hstricter
  · exact hpresent value hn h

/-- **What conforms to a stronger declaration conforms to a weaker one**, at any depth and inside
the expansions of any names.  The induction is on the comparison of the two. -/
theorem Conforms.of_strengthens {stricter node : Node} (hstrengthens : stricter.Strengthens node)
    {entry : Option Value} (h : compiler.Conforms depth names stricter entry) :
    compiler.Conforms depth names node entry := by
  induction hstrengthens generalizing depth entry with
  | unknown hflag => exact h.of_present (.unknown hflag) fun value hn _ => .leaf hn trivial
  | leaf hflag hkind =>
    refine h.of_present (.leaf hflag hkind) fun value hn hvalue => ?_
    rw [conforms_leaf_iff hn] at hvalue ⊢
    exact hvalue.of_strengthens hkind
  | reference hflag =>
    exact h.of_present (.reference hflag) fun value hn hvalue =>
      conforms_reference_of_flag hn hvalue
  | objectOfMap hflag =>
    exact h.of_present (.objectOfMap hflag) fun value hn hvalue =>
      .leaf hn (isObject_of_conforms_object hn hvalue)
  | referenceOfMap hflag =>
    exact h.of_present (.referenceOfMap hflag) fun value hn hvalue =>
      .leaf hn (isObject_of_conforms_reference hn hvalue)
  | arrayOfAny hflag =>
    exact h.of_present (.arrayOfAny hflag) fun value hn hvalue =>
      .leaf hn (isArray_of_conforms_arrayOf hn hvalue)
  | arrayOf hflag helement ih =>
    refine h.of_present (.arrayOf hflag helement) fun value hn hvalue => ?_
    rcases Nat.lt_or_ge depth compiler.maxDepth with hlt | hle
    · obtain ⟨items, rfl, hitems⟩ := (conforms_arrayOf_iff_of_lt hn hlt).mp hvalue
      exact .array hlt fun item hitem => ih (hitems item hitem)
    · rw [conforms_arrayOf_iff_of_le hn hle] at hvalue ⊢
      exact hvalue
  | object partner hflag hmem hfields ih =>
    refine h.of_present (.object partner hflag hmem hfields) fun value hn hvalue => ?_
    rcases Nat.lt_or_ge depth compiler.maxDepth with hlt | hle
    · obtain ⟨hobject, hstricter⟩ := (conforms_object_iff_of_lt hn hlt).mp hvalue
      exact .object hlt hobject fun field hfield =>
        ih field hfield (hstricter (field.1, partner field) (hmem field hfield))
    · rw [conforms_object_iff_of_le hn hle] at hvalue ⊢
      exact hvalue

/-- **Strengthening a schema admits no new documents.**  With the same reference table, the same
limit and the same label, every document that is accepted by the stronger description is accepted
by the weaker one. -/
theorem accepted_of_accepted_of_strengthens (compiler : Compiler)
    {stricter description : Description} (hstrengthens : stricter.Strengthens description)
    (document : Value) (label : String)
    (h : (compiler.compile stricter).validate document label = .accepted) :
    (compiler.compile description).validate document label = .accepted := by
  rw [CompiledSchema.validate_compile_eq_accepted_iff] at h ⊢
  rintro ⟨name, node⟩ hmem
  obtain ⟨other, hother, hstricter⟩ := hstrengthens name node hmem
  have hconforms : compiler.Conforms 0 [] other (document.get? (.field name)) :=
    (admits_expand_iff_conforms compiler other _).mp (h (name, other) hother)
  exact (admits_expand_iff_conforms compiler node _).mpr (hconforms.of_strengthens hstricter)

end Compiler

namespace Sample

/-- What a list has, without a look into it. -/
def outline : Description :=
  [("owner", .leaf .unknown false), ("head", .leaf .map true), ("spare", .leaf .anyArray false)]

theorem description_strengthens_outline : description.Strengthens outline := by
  intro name node hmem
  have hthree : (name = "owner" ∧ node = .leaf .unknown false) ∨
      (name = "head" ∧ node = .leaf .map true) ∨
      (name = "spare" ∧ node = .leaf .anyArray false) := by
    simpa [outline] using hmem
  rcases hthree with ⟨rfl, rfl⟩ | ⟨rfl, rfl⟩ | ⟨rfl, rfl⟩
  · exact ⟨.reference (some "Owner") false, by simp [description], .unknown id⟩
  · exact ⟨.reference (some "Cell") true, by simp [description], .referenceOfMap id⟩
  · exact ⟨.arrayOf (.reference (some "Cell") false) false, by simp [description],
      .arrayOfAny id⟩

end Sample

/-- The sample is accepted inside another object with all that is declared of it, and so it is with
its outline. -/
theorem Compiler.accepted_sample_by_outline :
    (Description.Strengthens [("list", .object Sample.description true)]
        [("list", .object Sample.outline false)] ∧
      (compile ⟨Sample.table, 3⟩ [("list", .object Sample.description true)]).validate
        (.object [("list", Sample.document)]) "Shelf" = .accepted) ∧
    (compile ⟨Sample.table, 3⟩ [("list", .object Sample.outline false)]).validate
      (.object [("list", Sample.document)]) "Shelf" = .accepted := by
  have hstrengthens : Description.Strengthens [("list", .object Sample.description true)]
      [("list", .object Sample.outline false)] := by
    intro name node hmem
    obtain ⟨rfl, rfl⟩ : name = "list" ∧ node = .object Sample.outline false := by
      simpa using hmem
    exact ⟨.object Sample.description true, List.mem_cons_self,
      Sample.description_strengthens_outline.object fun _ => rfl⟩
  have haccepted : (compile ⟨Sample.table, 3⟩ [("list", .object Sample.description true)]).validate
      (.object [("list", Sample.document)]) "Shelf" = .accepted := by
    decide
  exact ⟨⟨hstrengthens, haccepted⟩,
    accepted_of_accepted_of_strengthens ⟨Sample.table, 3⟩ hstrengthens _ "Shelf" haccepted⟩

end DocSchema
