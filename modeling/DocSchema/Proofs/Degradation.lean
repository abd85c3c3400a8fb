import DocSchema.Proofs.Origins

/-!
# Reading never gives up a declaration in silence

A declaration that cannot be understood is read as one that accepts every value, and so is the type
name `mixed`.  The two look the same in the description.  They differ in that only the first is
reported, so the reports and the parts that accept everything, without those that were declared to,
have to match one to one and in order.

There are two reports: a type name that is not known, and a declaration of a JSON type that declares
nothing.  Both come with the path of the declaration.  That of a wrapped declaration is the path of
its wrapper.

## Two ways to say it

What the reports match can be looked up in the document or in the description.  In the document they
are the declarations on the walk that are not recognized (`Schema.degradations_readNode`).  In the
description they are the parts that accept everything (`Schema.Makes.isUnknown_and_not_isMixed`),
and there the document is only asked for those that were meant to.

* `Event.isDegradation`: the reports.
* `Json.isRecognized`, `Json.isMixed`, `Json.complaint`: what can be understood, what accepts
  everything by its name, and what is reported otherwise.
* `Schema.degradations_eq_complaints`: the reports and what they match.
-/

namespace DocSchema

/-! ## Reports -/

/-- Whether an event says that a declaration could not be understood. -/
def Event.isDegradation (event : Event) : Bool :=
  ["unknown type name, accepting any value", "unrecognized declaration"].contains event.message

namespace Reading

variable {α β : Type}

/-- The reports of declarations that could not be understood. -/
def degradations (r : Reading α) : List Event :=
  r.events.filter Event.isDegradation

theorem degradations_bind_of_ok {r : Reading α} {a : α} (h : r.result = .ok a)
    (f : α → Reading β) : (r >>= f).degradations = r.degradations ++ (f a).degradations := by
  rw [bind_of_ok h, degradations, List.filter_append]
  rfl

theorem degradations_bind_pure (r : Reading α) (f : α → β) :
    (r >>= fun a => Pure.pure (f a)).degradations = r.degradations := by
  rw [bind_pure_eq]
  rfl

/-- Two readings without reports have none together, whether or not the first one stops. -/
theorem degradations_bind_eq_nil {r : Reading α} {f : α → Reading β} (hr : r.degradations = [])
    (hf : ∀ a, (f a).degradations = []) : (r >>= f).degradations = [] := by
  cases h : r.result with
  | error e =>
    rw [bind_of_error h]
    exact hr
  | ok a => rw [degradations_bind_of_ok h, hr, hf, List.append_nil]

end Reading

/-! ## What can be understood -/

namespace Schema

/-- The type names, in small letters. -/
def TypeName.spellings : List String :=
  ["string", "number", "decimal", "decimal128", "date", "boolean", "map", "objectid", "mixed"]

theorem TypeName.isSome_ofName? (name : String) :
    (ofName? name).isSome = spellings.contains (name.map Char.toLower) := by
  rw [ofName?]
  split <;> simp_all [spellings]

theorem TypeName.ofName?_eq_mixed_iff {name : String} :
    ofName? name = some mixed ↔ name.map Char.toLower = "mixed" := by
  rw [ofName?]
  split <;> simp_all

end Schema

namespace Json

/-- The type name of a declaration: the declaration itself, or what an object has under `type`. -/
def declaredName? : Json → Option String
  | string name => some name
  | object entries => (Assoc.get? entries "type").bind string?
  | _ => none

/-- Whether a declaration says something: it has a type name that is known, or it has none and is an
array or an object. -/
def isRecognized (json : Json) : Bool :=
  match json.declaredName? with
  | some name => Schema.TypeName.spellings.contains (name.map Char.toLower)
  | none => json.array?.isSome || json.object?.isSome

/-- Whether a declaration is meant to accept every value. -/
def isMixed (json : Json) : Bool :=
  json.declaredName?.any fun name => name.map Char.toLower == "mixed"

/-- The report of a declaration that is not recognized. -/
def complaint (json : Json) (path : Path) : Event :=
  match json.declaredName? with
  | some name => .unknownType path name
  | none => .unrecognized path json.typeName

end Json

/-- The reports of the declarations that are not recognized, in order. -/
def Site.complaints (sites : List Site) : List Event :=
  (sites.filter fun site => !site.json.isRecognized).map fun site => site.json.complaint site.path

theorem Site.complaints_append (sites others : List Site) :
    complaints (sites ++ others) = complaints sites ++ complaints others := by
  rw [complaints, List.filter_append, List.map_append]
  rfl

theorem Site.complaints_cons_of_isRecognized {site : Site} (h : site.json.isRecognized = true)
    (sites : List Site) : complaints (site :: sites) = complaints sites := by
  rw [complaints, List.filter_cons_of_neg (by simp [h])]
  rfl

theorem Site.complaints_eq_nil_iff {sites : List Site} :
    complaints sites = [] ↔ ∀ site ∈ sites, site.json.isRecognized = true := by
  simp [complaints, List.filter_eq_nil_iff]

/-! ## What is reported -/

namespace Schema

variable {dialect : Pattern.Dialect} {entries : List (String × Json)} {path : Path}

theorem degradations_dateBound (options : Options) (name : String) (path : Path) :
    (dateBound options name path).degradations = [] := by
  rw [dateBound]
  cases stringOption? options name with
  | none => rfl
  | some text => cases h : Calendar.Rfc3339.parse? text <;> simp only [h] <;> rfl

theorem degradations_patternOption (options : Options) (path : Path) :
    (patternOption dialect options path).degradations = [] := by
  rw [patternOption]
  cases stringOption? options "match" with
  | none => rfl
  | some source => cases h : Pattern.ofSource source dialect <;> simp only [h] <;> rfl

/-- A type that is known is read without a report, whatever its options are. -/
theorem degradations_typeNode (type : TypeName) (options : Options) (path : Path) :
    (typeNode dialect type options path).degradations = [] := by
  cases type with
  | string =>
    rw [typeNode, Reading.degradations_bind_pure, stringRule, Reading.degradations_bind_pure]
    exact degradations_patternOption options path
  | date =>
    rw [typeNode, Reading.degradations_bind_pure, dateBounds]
    exact Reading.degradations_bind_eq_nil (degradations_dateBound options "min" path) fun min =>
      (Reading.degradations_bind_pure _ _).trans (degradations_dateBound options "max" path)
  | number | decimal | boolean | map | objectId | mixed => rfl

/-- Of a type name only one that is not known is reported. -/
theorem degradations_namedNode (name : String) (options : Options) (path : Path) :
    (namedNode dialect name options path).degradations =
      if TypeName.spellings.contains (name.map Char.toLower) then []
      else [.unknownType path name] := by
  rw [← TypeName.isSome_ofName?, namedNode]
  cases TypeName.ofName? name with
  | none => rfl
  | some type => exact degradations_typeNode type options path

/-- A type name reports what its declaration has to complain about. -/
theorem degradations_namedNode_eq {json : Json} {name : String}
    (h : json.declaredName? = some name) (options : Options) (path : Path) :
    (namedNode dialect name options path).degradations = Site.complaints [⟨json, path⟩] := by
  have hrecognized : json.isRecognized =
      TypeName.spellings.contains (name.map Char.toLower) := by rw [Json.isRecognized, h]
  have hcomplaint : json.complaint path = .unknownType path name := by rw [Json.complaint, h]
  rw [degradations_namedNode, Site.complaints, List.filter_singleton, hrecognized]
  cases TypeName.spellings.contains (name.map Char.toLower) with
  | false => exact congrArg (fun event => [event]) hcomplaint.symm
  | true => rfl

theorem declaredName?_of_named {name : String}
    (h : Assoc.get? entries "type" = some (.string name)) :
    (Json.object entries).declaredName? = some name := by
  rw [Json.declaredName?, h]
  rfl

/-- An object with no type name is recognized for what it is. -/
theorem isRecognized_of_declaredName?_eq_none (h : (Json.object entries).declaredName? = none) :
    (Json.object entries).isRecognized = true := by
  rw [Json.isRecognized, h]
  rfl

theorem declaredName?_of_wrapped {declared : Json} (h : Assoc.get? entries "type" = some declared)
    (hd : declared.string? = none) : (Json.object entries).declaredName? = none := by
  rw [Json.declaredName?, h]
  exact hd

theorem declaredName?_of_fields (h : Assoc.get? entries "type" = none) :
    (Json.object entries).declaredName? = none := by
  rw [Json.declaredName?, h]
  rfl

/-- Fields are reported one after the other if their declarations are. -/
theorem degradations_readFields {fields : Description}
    (hall : ∀ entry ∈ entries, ∀ {path node}, (readNode dialect entry.2 path).result = .ok node →
      (readNode dialect entry.2 path).degradations =
        Site.complaints (Site.walk ⟨entry.2, path⟩))
    (h : (readFields dialect entries path).result = .ok fields) :
    (readFields dialect entries path).degradations =
      Site.complaints (Site.document entries path) := by
  induction result_readFields_eq_ok_iff.mp h with
  | nil => rfl
  | @cons entry field rest others hfirst hothers ih =>
    obtain ⟨name, json⟩ := entry
    obtain ⟨hentry, hrest⟩ := List.forall_mem_cons.mp hall
    rw [readFields, Reading.degradations_bind_of_ok hfirst.2, Reading.degradations_bind_pure,
      hentry hfirst.2, ih hrest (result_readFields_eq_ok_iff.mpr hothers), Site.document,
      Site.document, Site.fields_cons, List.flatMap_cons, Site.complaints_append]

/-- **Reading reports what is not recognized on its walk**, by induction over the form of a
declaration. -/
theorem degradations_readNode {json : Json} {node : Node}
    (h : (readNode dialect json path).result = .ok node) :
    (readNode dialect json path).degradations = Site.complaints (Site.walk ⟨json, path⟩) := by
  induction json using Json.declarationInduct generalizing path node with
  | name name =>
    rw [Site.walk_eq, readNode]
    exact degradations_namedNode_eq rfl [] path
  | arrayOf first rest ih =>
    obtain ⟨element, helement, -⟩ := result_readNode_arrayOf_eq_ok_iff.mp h
    rw [Site.walk_eq, Site.complaints_cons_of_isRecognized rfl, Site.inner_of_arrayOf,
      List.flatMap_singleton, readNode, Reading.degradations_bind_pure, ih helement]
  | named entries name hname =>
    rw [Site.walk_eq, Site.inner_of_named hname, readNode_of_named hname]
    exact degradations_namedNode_eq (declaredName?_of_named hname) entries path
  | wrapped entries declared hdeclared hd ih =>
    obtain ⟨inner, hinner, -⟩ := (result_readNode_eq_ok_iff_of_wrapped hdeclared hd).mp h
    have hrecognized :=
      isRecognized_of_declaredName?_eq_none (declaredName?_of_wrapped hdeclared hd)
    rw [Site.walk_eq, Site.complaints_cons_of_isRecognized hrecognized,
      Site.inner_of_wrapped hdeclared hd, List.flatMap_singleton,
      readNode_of_wrapped hdeclared hd, Reading.degradations_bind_pure, ih hinner]
  | fields entries hentries ih =>
    obtain ⟨fields, hfields, -⟩ := (result_readNode_eq_ok_iff_of_fields hentries).mp h
    have hrecognized := isRecognized_of_declaredName?_eq_none (declaredName?_of_fields hentries)
    rw [Site.walk_eq, Site.complaints_cons_of_isRecognized hrecognized,
      Site.inner_of_fields hentries, readNode_of_fields hentries, Reading.degradations_bind_pure]
    exact degradations_readFields ih hfields
  | anyArray | null | bool b | number n =>
    rw [Site.walk_eq]
    rfl

/-! ## What accepts everything -/

end Schema

/-- Whether a declaration accepts every value. -/
def Node.isUnknown : Node → Bool
  | leaf .unknown _ => true
  | _ => false

theorem Node.isUnknown_withRequired (node : Node) (required : Bool) :
    (node.withRequired required).isUnknown = node.isUnknown := by
  cases node with
  | leaf kind flag => cases kind <;> rfl
  | reference | arrayOf | object => rfl

namespace Schema

variable {dialect : Pattern.Dialect} {path : Path}

/-- Of the types only `mixed` accepts everything. -/
theorem isUnknown_of_typeNode {type : TypeName} {options : Options} {node : Node}
    (h : (typeNode dialect type options path).result = .ok node) :
    node.isUnknown = decide (type = .mixed) := by
  cases type with
  | string | date =>
    rw [typeNode, Reading.result_bind_eq_ok_iff] at h
    obtain ⟨constraints, -, hnode⟩ := h
    cases hnode
    rfl
  | number | decimal | boolean | map | objectId | mixed =>
    cases h
    rfl

/-- What a type name declares accepts everything if it is meant to or if the name is not known. -/
theorem isUnknown_of_namedNode {json : Json} {name : String} {options : Options} {node : Node}
    (hname : json.declaredName? = some name)
    (h : (namedNode dialect name options path).result = .ok node) :
    (node.isUnknown && !json.isMixed) = !json.isRecognized := by
  have hmixed : json.isMixed = decide (TypeName.ofName? name = some .mixed) := by
    rw [Json.isMixed, hname, decide_eq_decide.mpr TypeName.ofName?_eq_mixed_iff]
    rfl
  have hrecognized : json.isRecognized = (TypeName.ofName? name).isSome := by
    rw [Json.isRecognized, hname, TypeName.isSome_ofName?]
  rw [hmixed, hrecognized]
  cases hof : TypeName.ofName? name with
  | none =>
    rw [result_namedNode_of_ofName?_eq_none hof] at h
    cases h
    rfl
  | some type =>
    rw [namedNode_of_ofName?_eq_some hof] at h
    rw [isUnknown_of_typeNode h]
    cases type <;> rfl

/-- What a declaration other than a wrapper declares accepts everything if it is meant to or if the
declaration is not recognized. -/
theorem isUnknown_and_not_isMixed {json : Json} {node : Node}
    (hcore : Site.wrapped? ⟨json, path⟩ = none)
    (h : (readNode dialect json path).result = .ok node) :
    (node.isUnknown && !json.isMixed) = !json.isRecognized := by
  induction json using Json.declarationInduct with
  | name name =>
    rw [readNode] at h
    exact isUnknown_of_namedNode rfl h
  | named entries name hname =>
    rw [readNode_of_named hname] at h
    exact isUnknown_of_namedNode (declaredName?_of_named hname) h
  | arrayOf first rest =>
    obtain ⟨element, -, rfl⟩ := result_readNode_arrayOf_eq_ok_iff.mp h
    rfl
  | wrapped entries declared hdeclared hd =>
    rw [Site.wrapped?_of_wrapped hdeclared hd] at hcore
    cases hcore
  | fields entries hentries =>
    obtain ⟨fields, -, rfl⟩ := (result_readNode_eq_ok_iff_of_fields hentries).mp h
    rw [isRecognized_of_declaredName?_eq_none (declaredName?_of_fields hentries)]
    rfl
  | anyArray | null | bool b | number n =>
    cases h
    rfl

/-- The part that a declaration makes accepts everything if it is meant to or if the core of the
declaration is not recognized. -/
theorem Makes.isUnknown_and_not_isMixed {site : Site} {place : Place}
    (h : Makes dialect site place) :
    (place.node.isUnknown && !site.core.json.isMixed) = !site.core.json.isRecognized := by
  obtain ⟨required, hread⟩ := h.read_core
  rw [← place.node.isUnknown_withRequired required]
  exact Schema.isUnknown_and_not_isMixed site.wrapped?_core hread

/-! ## Reports and parts -/

/-- Of two lists that match, the same positions are kept. -/
theorem filter_map_zip_of_forall₂ {α β γ : Type} {R : α → β → Prop} {p : α × β → Bool}
    {q : α → Bool} {f : α × β → γ} {g : α → γ} {as : List α} {bs : List β}
    (h : List.Forall₂ R as bs) (hp : ∀ a b, R a b → p (a, b) = q a)
    (hf : ∀ a b, R a b → f (a, b) = g a) :
    ((as.zip bs).filter p).map f = (as.filter q).map g := by
  induction h with
  | nil => rfl
  | cons hab _ ih =>
    rw [List.zip_cons_cons, List.filter_cons, List.filter_cons, hp _ _ hab]
    split
    · rw [List.map_cons, List.map_cons, hf _ _ hab, ih]
    · exact ih

/-- A wrapper is recognized, whatever is in it. -/
theorem isRecognized_of_isWrapper {site : Site} (h : site.isWrapper = true) :
    site.json.isRecognized = true := by
  obtain ⟨next, hnext⟩ := Option.isSome_iff_exists.mp h
  obtain ⟨entries, hjson, hdeclared, hd, -⟩ := Site.wrapped?_eq_some_iff.mp hnext
  rw [hjson]
  exact isRecognized_of_declaredName?_eq_none (declaredName?_of_wrapped hdeclared hd)

/-- Complaints are about cores. -/
theorem complaints_document (entries : List (String × Json)) :
    Site.complaints (Site.document entries path) =
      ((Site.declared entries path).filter fun site => !site.core.json.isRecognized).map
        fun site => site.core.json.complaint site.path := by
  have hfilter : (Site.document entries path).filter (fun site => !site.json.isRecognized) =
      ((Site.document entries path).filter fun site => !site.isWrapper).filter
        fun site => !site.json.isRecognized := by
    rw [List.filter_filter]
    refine List.filter_congr fun site _ => ?_
    cases hwrapper : site.isWrapper with
    | false => simp
    | true => simp [isRecognized_of_isWrapper hwrapper]
  rw [Site.complaints, hfilter, ← Site.map_core_declared, List.filter_map, List.map_map]
  refine List.map_congr_left fun site _ => ?_
  rw [Function.comp_apply, Site.path_core]

/-- **No declaration is given up in silence.**  In a document that can be read, each declaration
makes a part of the description, in order and under the same path.  Of the parts that accept every
value, those that are not declared as `mixed` are reported, each once and in order, with its path
and with the type name or JSON type that could not be understood.  So a document without reports
only has declarations that are recognized. -/
theorem degradations_eq_complaints {json : Json} {description : Description}
    (h : (readDescription json dialect).result = .ok description) :
    ∃ entries, json = .object entries ∧
      List.Forall₂ (Makes dialect) (Site.declared entries .root) description.places ∧
      (readDescription json dialect).events.filter Event.isDegradation =
        ((((Site.declared entries .root).zip description.places).filter fun origin =>
          origin.2.node.isUnknown && !origin.1.core.json.isMixed).map fun origin =>
            origin.1.core.json.complaint origin.2.path) ∧
      ((readDescription json dialect).events.filter Event.isDegradation = [] ↔
        ∀ site ∈ Site.document entries .root, site.json.isRecognized = true) := by
  rcases object_or_not json with ⟨entries, rfl⟩ | hnot
  · have hmakes := forall₂_makes_places h
    have hreports : (readDescription (.object entries) dialect).events.filter Event.isDegradation =
        Site.complaints (Site.document entries .root) :=
      degradations_readFields (fun _ _ _ _ => degradations_readNode) h
    refine ⟨entries, rfl, hmakes, ?_, by rw [hreports, Site.complaints_eq_nil_iff]⟩
    rw [hreports, complaints_document]
    refine (filter_map_zip_of_forall₂ hmakes ?_ ?_).symm
    · exact fun site place hplace => hplace.isUnknown_and_not_isMixed
    · exact fun site place hplace => by rw [hplace.path_eq]
  · rw [readDescription, result_readDescriptionAt_of_not_object hnot] at h
    cases h

end Schema

namespace Sample

/-- A document with two misspelt types, something that is no type, and a field that may hold
anything. -/
def slips : List (String × Json) :=
  [("codes", .object [("type", .array [.string "Strnig", .string "Map"])]),
    ("since", .object [("type", .null)]),
    ("extra", .string "MIXED"),
    ("owner", .object
      [("born", .object [("type", .object [("type", .string "Dat")]), ("required", .bool true)])])]

end Sample

/-- In the sample four parts accept everything, and three of them are reported. -/
theorem Schema.degradations_slips :
    (readDescription (.object Sample.slips)).result = .ok
        [("codes", .arrayOf (.leaf .unknown false) false), ("since", .leaf .unknown false),
          ("extra", .leaf .unknown false),
          ("owner", .object [("born", .leaf .unknown true)] false)] ∧
      (readDescription (.object Sample.slips)).events.filter Event.isDegradation =
        [.unknownType ⟨[.field "codes", .index 0]⟩ "Strnig",
          .unrecognized ⟨[.field "since"]⟩ "null",
          .unknownType ⟨[.field "owner", .field "born"]⟩ "Dat"] ∧
      ¬ ∀ site ∈ Site.document Sample.slips .root, site.json.isRecognized = true := by
  have hread : (readDescription (.object Sample.slips)).result = .ok
      [("codes", .arrayOf (.leaf .unknown false) false), ("since", .leaf .unknown false),
        ("extra", .leaf .unknown false),
        ("owner", .object [("born", .leaf .unknown true)] false)] := by
    with_unfolding_all rfl
  obtain ⟨entries, hjson, -, hreports, hnone⟩ := degradations_eq_complaints hread
  cases hjson
  have hthree : (readDescription (.object Sample.slips)).events.filter Event.isDegradation =
      [.unknownType ⟨[.field "codes", .index 0]⟩ "Strnig",
        .unrecognized ⟨[.field "since"]⟩ "null",
        .unknownType ⟨[.field "owner", .field "born"]⟩ "Dat"] := by
    rw [hreports]
    decide +kernel
  refine ⟨hread, hthree, fun hall => ?_⟩
  rw [hnone.mpr hall] at hthree
  cases hthree

end DocSchema
