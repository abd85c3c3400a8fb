import DocSchema.Schema.Reader
import Mathlib.Data.List.Forall2

/-!
# Declarations in a schema document

A schema document is read declaration by declaration.  What a JSON tree declares is decided by its
form alone, before any other tree is looked at: it is a type name, with options or without, or it
hands over to the trees inside it, or it declares nothing.  The lemmas here say what reading makes
of each form, and proofs about reading go by the forms.

## What is not a declaration

Much of a document is never read.  Of an array only the first item declares something, and beside a
`type` nothing but options does.  The places that reading comes to are therefore not the places of
the tree, and they get a definition of their own.

* `Json.declarationInduct`: induction by the form of a declaration.
* `Schema.readNode_of_named`, `Schema.readNode_of_wrapped`, `Schema.readNode_of_fields`: what
  reading makes of an object.
* `Schema.result_readNode_arrayOf_eq_ok_iff` and the lemmas behind it: when a declaration with
  others inside is read, and as what.
* `Schema.result_readFields_eq_ok_iff`: the same for fields.
* `Site`, `Site.inner`, `Site.walk`: the declarations that reading comes to, depth first.
-/

namespace DocSchema

/-! ## Induction -/

/-- An entry of an object is smaller than the object. -/
theorem Json.sizeOf_entry_lt {entries : List (String × Json)} {entry : String × Json}
    (h : entry ∈ entries) : sizeOf entry.2 < sizeOf (Json.object entries) := by
  have hentry : sizeOf entry < sizeOf entries := List.sizeOf_lt_of_mem h
  have hpair : sizeOf entry = 1 + sizeOf entry.1 + sizeOf entry.2 := rfl
  rw [Json.object.sizeOf_spec]
  omega

/-- Induction by the form of a declaration: a type name, an array with or without a first item, an
object with a type name, an object with another declaration under `type`, an object with fields, or
none of these. -/
@[elab_as_elim]
theorem Json.declarationInduct {motive : Json → Prop}
    (name : ∀ name, motive (.string name))
    (anyArray : motive (.array []))
    (arrayOf : ∀ first rest, motive first → motive (.array (first :: rest)))
    (named : ∀ entries name, Assoc.get? entries "type" = some (.string name) →
      motive (.object entries))
    (wrapped : ∀ entries declared, Assoc.get? entries "type" = some declared →
      declared.string? = none → motive declared → motive (.object entries))
    (fields : ∀ entries, Assoc.get? entries "type" = none →
      (∀ entry ∈ entries, motive entry.2) → motive (.object entries))
    (null : motive .null) (bool : ∀ b, motive (.bool b)) (number : ∀ n, motive (.number n)) :
    ∀ json, motive json
  | .string s => name s
  | .array [] => anyArray
  | .array (first :: rest) =>
    arrayOf first rest
      (declarationInduct name anyArray arrayOf named wrapped fields null bool number first)
  | .object entries => by
    cases h : Assoc.get? entries "type" with
    | none =>
      exact fields entries h fun entry _ =>
        declarationInduct name anyArray arrayOf named wrapped fields null bool number entry.2
    | some declared =>
      cases hd : declared.string? with
      | some s =>
        cases declared <;> cases hd
        exact named entries s h
      | none =>
        exact wrapped entries declared h hd
          (declarationInduct name anyArray arrayOf named wrapped fields null bool number declared)
  | .null => null
  | .bool b => bool b
  | .number n => number n
termination_by json => sizeOf json
decreasing_by
  · simp only [Json.array.sizeOf_spec, List.cons.sizeOf_spec]
    omega
  · exact Json.sizeOf_entry_lt ‹_›
  · exact Json.sizeOf_entry_lt (Assoc.mem_of_get?_eq_some h)

/-- Entries under the same names, one after the other. -/
theorem Assoc.names_eq_of_forall₂ {α β : Type} {entries : List (String × α)}
    {others : List (String × β)}
    (h : List.Forall₂ (fun entry other => other.1 = entry.1) entries others) :
    names others = names entries := by
  induction h with
  | nil => rfl
  | cons hname _ ih => exact congrArg₂ List.cons hname ih

namespace Schema

variable {dialect : Pattern.Dialect} {entries : List (String × Json)} {path : Path}

/-! ## Reading a type name -/

/-- A limit of a date, if the option is a text that names one. -/
def dateOption? (options : Options) (name : String) : Option Calendar.Instant :=
  (stringOption? options name).bind Calendar.Rfc3339.parse?

theorem result_dateBound (options : Options) (name : String) (path : Path) :
    (dateBound options name path).result = .ok (dateOption? options name) := by
  rw [dateBound, dateOption?]
  cases stringOption? options name with
  | none => rfl
  | some text => cases ht : Calendar.Rfc3339.parse? text <;> simp [ht, Except.bind]

theorem result_dateBounds (options : Options) (path : Path) :
    (dateBounds options path).result =
      .ok ⟨dateOption? options "min", dateOption? options "max"⟩ := by
  rw [dateBounds, Reading.result_bind, result_dateBound, Except.bind, Reading.result_bind_pure,
    result_dateBound]
  rfl

/-- A date is read in any case: a limit that is no date is no limit. -/
theorem result_typeNode_date (options : Options) (path : Path) :
    (typeNode dialect .date options path).result =
      .ok (.leaf (.date ⟨dateOption? options "min", dateOption? options "max"⟩)
        (requiredOption options)) := by
  rw [typeNode, Reading.result_bind_pure, result_dateBounds]
  rfl

/-- A text is read if its pattern is one. -/
theorem result_typeNode_string (options : Options) (path : Path) :
    (typeNode dialect .string options path).result =
      (patternOption dialect options path).result.map fun pattern =>
        .leaf (.string ⟨pattern, lengthOption? options "minlength",
          lengthOption? options "maxlength", enumOption? options⟩) (requiredOption options) := by
  rw [typeNode, Reading.result_bind_pure, stringRule, Reading.result_bind_pure]
  cases (patternOption dialect options path).result <;> rfl

/-- A name that is not known accepts every value. -/
theorem result_namedNode_of_ofName?_eq_none {name : String} (h : TypeName.ofName? name = none)
    (options : Options) (path : Path) :
    (namedNode dialect name options path).result =
      .ok (.leaf .unknown (requiredOption options)) := by
  rw [namedNode, h]
  rfl

theorem namedNode_of_ofName?_eq_some {name : String} {type : TypeName}
    (h : TypeName.ofName? name = some type) (options : Options) (path : Path) :
    namedNode dialect name options path = typeNode dialect type options path := by
  rw [namedNode, h]

/-- A type declares a leaf or a reference. -/
theorem leaf_or_reference_of_typeNode {type : TypeName} {options : Options} {node : Node}
    (h : (typeNode dialect type options path).result = .ok node) :
    (∃ kind required, node = .leaf kind required) ∨
      ∃ name required, node = .reference name required := by
  cases type with
  | string | date =>
    rw [typeNode, Reading.result_bind_eq_ok_iff] at h
    obtain ⟨constraints, -, hnode⟩ := h
    cases hnode
    exact Or.inl ⟨_, _, rfl⟩
  | objectId =>
    cases h
    exact Or.inr ⟨_, _, rfl⟩
  | number | decimal | boolean | map | mixed =>
    cases h
    exact Or.inl ⟨_, _, rfl⟩

theorem leaf_or_reference_of_namedNode {name : String} {options : Options} {node : Node}
    (h : (namedNode dialect name options path).result = .ok node) :
    (∃ kind required, node = .leaf kind required) ∨
      ∃ name required, node = .reference name required := by
  cases hname : TypeName.ofName? name with
  | none =>
    rw [result_namedNode_of_ofName?_eq_none hname] at h
    cases h
    exact Or.inl ⟨_, _, rfl⟩
  | some type =>
    rw [namedNode_of_ofName?_eq_some hname] at h
    exact leaf_or_reference_of_typeNode h

/-! ## Reading an object -/

theorem readTypeEntry_eq {declared : Json} (h : Assoc.get? entries "type" = some declared) :
    readTypeEntry dialect entries path = readNode dialect declared path := by
  induction entries with
  | nil => cases h
  | cons entry rest ih =>
    obtain ⟨key, json⟩ := entry
    rw [Assoc.get?_cons] at h
    rw [readTypeEntry]
    by_cases hkey : key = "type"
    · rw [if_pos hkey, Option.some_inj] at h
      rw [if_pos hkey, h]
    · rw [if_neg hkey] at h
      rw [if_neg hkey, ih h]

/-- With a type name, an object declares that type with its options. -/
theorem readNode_of_named {name : String}
    (h : Assoc.get? entries "type" = some (.string name)) :
    readNode dialect (.object entries) path = namedNode dialect name entries path := by
  rw [readNode, h]

/-- With another declaration under `type`, an object declares the same, but for its own flag. -/
theorem readNode_of_wrapped {declared : Json} (h : Assoc.get? entries "type" = some declared)
    (hd : declared.string? = none) :
    readNode dialect (.object entries) path = (do
      return (← readNode dialect declared path).withRequired (requiredOption entries)) := by
  rw [readNode, h, readTypeEntry_eq h]
  cases declared with
  | string s => cases hd
  | _ => rfl

/-- Without a `type`, an object declares fields. -/
theorem readNode_of_fields (h : Assoc.get? entries "type" = none) :
    readNode dialect (.object entries) path = (do
      return .object (← readFields dialect entries path) false) := by
  rw [readNode, h]

/-! ## What a declaration is read as -/

section

variable {first declared : Json} {rest : List Json} {node : Node}

/-- An array is read if its first item is. -/
theorem result_readNode_arrayOf_eq_ok_iff :
    (readNode dialect (.array (first :: rest)) path).result = .ok node ↔
      ∃ element, (readNode dialect first (path.index 0)).result = .ok element ∧
        .arrayOf element false = node := by
  rw [readNode, Reading.result_bind_eq_ok_iff]
  simp only [Reading.result_pure, Except.ok.injEq]

/-- A wrapper is read if what it stands for is, and sets the flag. -/
theorem result_readNode_eq_ok_iff_of_wrapped (h : Assoc.get? entries "type" = some declared)
    (hd : declared.string? = none) :
    (readNode dialect (.object entries) path).result = .ok node ↔
      ∃ inner, (readNode dialect declared path).result = .ok inner ∧
        inner.withRequired (requiredOption entries) = node := by
  rw [readNode_of_wrapped h hd, Reading.result_bind_eq_ok_iff]
  simp only [Reading.result_pure, Except.ok.injEq]

/-- An object without a `type` is read if all its fields are. -/
theorem result_readNode_eq_ok_iff_of_fields (h : Assoc.get? entries "type" = none) :
    (readNode dialect (.object entries) path).result = .ok node ↔
      ∃ fields, (readFields dialect entries path).result = .ok fields ∧
        .object fields false = node := by
  rw [readNode_of_fields h, Reading.result_bind_eq_ok_iff]
  simp only [Reading.result_pure, Except.ok.injEq]

end

/-- Fields are read one by one: the names stay, and every declaration is read by itself. -/
theorem result_readFields_eq_ok_iff {entries : List (String × Json)} {fields : Description}
    {path : Path} :
    (readFields dialect entries path).result = .ok fields ↔
      List.Forall₂ (fun entry field => field.1 = entry.1 ∧
        (readNode dialect entry.2 (path.field entry.1)).result = .ok field.2) entries fields := by
  induction entries generalizing fields with
  | nil => simp [readFields, eq_comm]
  | cons entry rest ih =>
    obtain ⟨name, json⟩ := entry
    rw [readFields, Reading.result_bind_eq_ok_iff]
    constructor
    · rintro ⟨node, hnode, h⟩
      obtain ⟨others, hothers, hfields⟩ := Reading.result_bind_eq_ok_iff.mp h
      cases hfields
      exact .cons ⟨rfl, hnode⟩ (ih.mp hothers)
    · intro h
      obtain ⟨⟨_, node⟩, others, ⟨rfl, hnode⟩, hothers, rfl⟩ := List.forall₂_cons_left_iff.mp h
      exact ⟨node, hnode, Reading.result_bind_eq_ok_iff.mpr ⟨others, ih.mpr hothers, rfl⟩⟩

/-! ## Reading a document -/

theorem object_or_not (json : Json) :
    (∃ entries, json = .object entries) ∨ json.object? = none := by
  cases json with
  | object entries => exact Or.inl ⟨entries, rfl⟩
  | _ => exact Or.inr rfl

/-- Only an object is read as a description. -/
theorem result_readDescriptionAt_of_not_object {json : Json} (h : json.object? = none) :
    (readDescriptionAt dialect json path).result = .error (.notAnObject path json.typeName) := by
  cases json with
  | object entries => cases h
  | _ => rfl

end Schema

/-! ## The declarations that reading comes to -/

/-- A declaration in a schema document, and the path to it. -/
structure Site where
  json : Json
  path : Path

namespace Site

/-- The declarations of fields. -/
def fields (entries : List (String × Json)) (path : Path) : List Site :=
  entries.map fun entry => ⟨entry.2, path.field entry.1⟩

theorem fields_cons (name : String) (json : Json) (rest : List (String × Json)) (path : Path) :
    fields ((name, json) :: rest) path = ⟨json, path.field name⟩ :: fields rest path := rfl

/-- The declarations directly inside a declaration, in order: the first item of an array, what an
object has under `type`, or the fields of an object without `type`.  There is none inside a type
name. -/
def inner (site : Site) : List Site :=
  match site.json with
  | .array (first :: _) => [⟨first, site.path.index 0⟩]
  | .object entries => match Assoc.get? entries "type" with
    | some (.string _) => []
    | some declared => [⟨declared, site.path⟩]
    | none => fields entries site.path
  | _ => []

theorem inner_of_arrayOf (first : Json) (rest : List Json) (path : Path) :
    inner ⟨.array (first :: rest), path⟩ = [⟨first, path.index 0⟩] := rfl

theorem inner_of_named {entries : List (String × Json)} {path : Path} {name : String}
    (h : Assoc.get? entries "type" = some (.string name)) :
    inner ⟨.object entries, path⟩ = [] := by
  simp only [inner, h]

theorem inner_of_wrapped {entries : List (String × Json)} {path : Path} {declared : Json}
    (h : Assoc.get? entries "type" = some declared) (hd : declared.string? = none) :
    inner ⟨.object entries, path⟩ = [⟨declared, path⟩] := by
  cases declared with
  | string s => cases hd
  | _ => simp only [inner, h]

theorem inner_of_fields {entries : List (String × Json)} {path : Path}
    (h : Assoc.get? entries "type" = none) :
    inner ⟨.object entries, path⟩ = fields entries path := by
  simp only [inner, h]

/-- What is inside a declaration is smaller. -/
theorem sizeOf_lt_of_mem_inner {site next : Site} (h : next ∈ site.inner) :
    sizeOf next.json < sizeOf site.json := by
  obtain ⟨json, path⟩ := site
  unfold inner at h
  split at h
  · rename_i first rest heq
    obtain rfl : json = .array (first :: rest) := heq
    obtain rfl := List.mem_singleton.mp h
    simp only [Json.array.sizeOf_spec, List.cons.sizeOf_spec]
    omega
  · rename_i entries heq
    obtain rfl : json = .object entries := heq
    split at h
    · cases h
    · rename_i declared _ hdeclared
      obtain rfl := List.mem_singleton.mp h
      exact Json.sizeOf_entry_lt (Assoc.mem_of_get?_eq_some hdeclared)
    · obtain ⟨entry, hentry, rfl⟩ := List.mem_map.mp h
      exact Json.sizeOf_entry_lt hentry
  · cases h

/-- A declaration and all that reading comes to from there, depth first and in document order. -/
def walk (site : Site) : List Site :=
  site :: site.inner.attach.flatMap fun next => walk next.1
termination_by sizeOf site.json
decreasing_by exact sizeOf_lt_of_mem_inner next.2

theorem walk_eq (site : Site) : site.walk = site :: site.inner.flatMap walk := by
  rw [walk, ← List.flatMap_map Subtype.val walk, List.attach_map_subtype_val]

/-- All declarations that reading comes to in a description that lies under a path. -/
def document (entries : List (String × Json)) (path : Path) : List Site :=
  (fields entries path).flatMap walk

end Site

end DocSchema
