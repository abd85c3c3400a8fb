import DocSchema.Proofs.Declarable

/-!
# Where the parts of a description come from

Every part of a description is read from one declaration of the document, and every declaration that
reading comes to gives one part.  The parts come in the order of their declarations, and lie under
the same paths.

## Wrappers

Declarations under a `type` make no part of their own.  An object with another declaration under its
`type` stands for that declaration, so the two of them make one part, which has the flag of the
outer one and for the rest is what the inner one says.  There may be any number of such wrappers
around the declaration that decides, which is called the core here.

* `Place`, `Node.places`, `Description.places`: the parts of a description and the paths to them.
* `Site.wrapped?`, `Site.core`: what a wrapper stands for, and the declaration behind all wrappers.
* `Site.declarations`, `Site.declared`: the declarations of which each makes a part.
* `Site.map_core_declared`: their cores are all declarations that reading comes to, without the
  wrappers.
* `Schema.forall₂_makes`: each declaration makes the part that stands at the same position.
-/

namespace DocSchema

/-! ## Parts with their paths -/

/-- A declaration in a description, and the path to it. -/
structure Place where
  node : Node
  path : Path

namespace Node

mutual

/-- A declaration and all declarations inside it, depth first and in order. -/
def places : Node → Path → List Place
  | leaf kind required, path => [⟨leaf kind required, path⟩]
  | reference name required, path => [⟨reference name required, path⟩]
  | arrayOf element required, path =>
    ⟨arrayOf element required, path⟩ :: element.places (path.index 0)
  | object fields required, path => ⟨object fields required, path⟩ :: fieldPlaces fields path

/-- The declarations of fields and all declarations inside them. -/
def fieldPlaces : List (String × Node) → Path → List Place
  | [], _ => []
  | (name, node) :: rest, path => node.places (path.field name) ++ fieldPlaces rest path

end

/-- All declarations inside a declaration. -/
def innerPlaces : Node → Path → List Place
  | arrayOf element _, path => element.places (path.index 0)
  | object fields _, path => fieldPlaces fields path
  | leaf _ _, _ | reference _ _, _ => []

theorem places_eq_cons (node : Node) (path : Path) :
    node.places path = ⟨node, path⟩ :: node.innerPlaces path := by
  cases node <;> rw [places] <;> rfl

/-- The flag of a declaration does not matter inside it. -/
theorem innerPlaces_withRequired (node : Node) (required : Bool) (path : Path) :
    (node.withRequired required).innerPlaces path = node.innerPlaces path := by
  cases node <;> rfl

end Node

/-- All declarations of a description, depth first and in order. -/
def Description.places (description : Description) : List Place :=
  Node.fieldPlaces description .root

/-! ## Wrappers -/

namespace Site

/-- What a declaration stands for: another declaration under its `type`. -/
def wrapped? (site : Site) : Option Site :=
  match site.json.get? "type" with
  | some (.string _) | none => none
  | some declared => some ⟨declared, site.path⟩

/-- Whether a declaration only stands for another one. -/
def isWrapper (site : Site) : Bool :=
  site.wrapped?.isSome

variable {site next : Site} {entries : List (String × Json)} {path : Path}

theorem wrapped?_of_named {name : String} (h : Assoc.get? entries "type" = some (.string name)) :
    wrapped? ⟨.object entries, path⟩ = none := by
  have hget : (Json.object entries).get? "type" = some (.string name) := h
  simp only [wrapped?, hget]

theorem wrapped?_of_wrapped {declared : Json} (h : Assoc.get? entries "type" = some declared)
    (hd : declared.string? = none) :
    wrapped? ⟨.object entries, path⟩ = some ⟨declared, path⟩ := by
  have hget : (Json.object entries).get? "type" = some declared := h
  cases declared with
  | string s => cases hd
  | _ => simp only [wrapped?, hget]

theorem wrapped?_of_fields (h : Assoc.get? entries "type" = none) :
    wrapped? ⟨.object entries, path⟩ = none := by
  have hget : (Json.object entries).get? "type" = none := h
  simp only [wrapped?, hget]

/-- A wrapper is an object with another declaration under `type`. -/
theorem wrapped?_eq_some_iff :
    site.wrapped? = some next ↔ ∃ entries, site.json = .object entries ∧
      Assoc.get? entries "type" = some next.json ∧ next.json.string? = none ∧
      next.path = site.path := by
  obtain ⟨json, path⟩ := site
  constructor
  · intro h
    induction json using Json.declarationInduct with
    | named entries name hname => rw [wrapped?_of_named hname] at h; cases h
    | fields entries hfields => rw [wrapped?_of_fields hfields] at h; cases h
    | wrapped entries declared hdeclared hd =>
      rw [wrapped?_of_wrapped hdeclared hd] at h
      cases h
      exact ⟨entries, rfl, hdeclared, hd, rfl⟩
    | name | anyArray | arrayOf | null | bool | number => cases h
  · rintro ⟨entries, rfl, hdeclared, hd, hpath⟩
    obtain ⟨declared, inner⟩ := next
    obtain rfl : inner = path := hpath
    exact wrapped?_of_wrapped hdeclared hd

/-- Of a wrapper reading only comes to what it stands for. -/
theorem inner_of_wrapped? (h : site.wrapped? = some next) : site.inner = [next] := by
  obtain ⟨entries, hjson, hdeclared, hd, hpath⟩ := wrapped?_eq_some_iff.mp h
  obtain ⟨json, path⟩ := site
  obtain ⟨declared, inner⟩ := next
  obtain rfl : json = .object entries := hjson
  obtain rfl : inner = path := hpath
  exact inner_of_wrapped hdeclared hd

theorem sizeOf_lt_of_wrapped? (h : site.wrapped? = some next) :
    sizeOf next.json < sizeOf site.json := by
  refine sizeOf_lt_of_mem_inner ?_
  rw [inner_of_wrapped? h]
  exact List.mem_singleton_self next

/-- The declaration that decides what is read: behind all wrappers. -/
def core (site : Site) : Site :=
  match _h : site.wrapped? with
  | some next => core next
  | none => site
termination_by sizeOf site.json
decreasing_by exact sizeOf_lt_of_wrapped? _h

theorem core_of_wrapped? (h : site.wrapped? = some next) : site.core = next.core := by
  rw [core]
  split <;> simp_all

theorem core_of_wrapped?_eq_none (h : site.wrapped? = none) : site.core = site := by
  rw [core]
  split <;> simp_all

/-- The core is no wrapper. -/
theorem wrapped?_core (site : Site) : site.core.wrapped? = none := by
  induction site using core.induct with
  | case1 site next h ih => rwa [core_of_wrapped? h]
  | case2 site h => rwa [core_of_wrapped?_eq_none h]

theorem path_core (site : Site) : site.core.path = site.path := by
  induction site using core.induct with
  | case1 site next h ih =>
    obtain ⟨-, -, -, -, hpath⟩ := wrapped?_eq_some_iff.mp h
    rw [core_of_wrapped? h, ih, hpath]
  | case2 site h => rw [core_of_wrapped?_eq_none h]

theorem sizeOf_core_le (site : Site) : sizeOf site.core.json ≤ sizeOf site.json := by
  induction site using core.induct with
  | case1 site next h ih =>
    rw [core_of_wrapped? h]
    exact Nat.le_trans ih (Nat.le_of_lt (sizeOf_lt_of_wrapped? h))
  | case2 site h => exact Nat.le_of_eq (by rw [core_of_wrapped?_eq_none h])

/-! ## Declarations that make a part -/

/-- A declaration and all that make parts inside what it declares, depth first and in document
order.  Of the wrapped declarations there is none. -/
def declarations (site : Site) : List Site :=
  site :: site.core.inner.attach.flatMap fun next => declarations next.1
termination_by sizeOf site.json
decreasing_by exact Nat.lt_of_lt_of_le (sizeOf_lt_of_mem_inner next.2) (sizeOf_core_le site)

theorem declarations_eq (site : Site) :
    site.declarations = site :: site.core.inner.flatMap declarations := by
  rw [declarations, ← List.flatMap_map Subtype.val declarations, List.attach_map_subtype_val]

/-- All declarations that make a part of a description that lies under a path. -/
def declared (entries : List (String × Json)) (path : Path) : List Site :=
  (fields entries path).flatMap declarations

/-- **The cores are what reading comes to, but for the wrappers.**  Reading walks through the
wrappers one after the other, and the declarations take them all at once. -/
theorem map_core_declarations (site : Site) :
    site.declarations.map core = site.walk.filter fun site => !site.isWrapper := by
  induction site using walk.induct with
  | case1 site ih =>
    rw [declarations_eq, walk_eq]
    cases h : site.wrapped? with
    | some next =>
      have hnext : next ∈ site.inner := by simp [inner_of_wrapped? h]
      have hwrapper : site.isWrapper = true := by rw [isWrapper, h]; rfl
      rw [List.filter_cons_of_neg (by simp [hwrapper]), core_of_wrapped? h, List.map_cons,
        core_of_wrapped? h, inner_of_wrapped? h, List.flatMap_singleton, ← ih ⟨next, hnext⟩,
        declarations_eq next, List.map_cons]
    | none =>
      have hwrapper : site.isWrapper = false := by rw [isWrapper, h]; rfl
      have hinner : (site.inner.flatMap declarations).map core =
          (site.inner.flatMap walk).filter fun site => !site.isWrapper := by
        rw [List.map_flatMap, List.filter_flatMap]
        exact List.flatMap_congr fun next hnext => ih ⟨next, hnext⟩
      rw [List.filter_cons_of_pos (by simp [hwrapper]), List.map_cons,
        core_of_wrapped?_eq_none h, hinner]

theorem map_core_declared (entries : List (String × Json)) (path : Path) :
    (declared entries path).map core =
      (document entries path).filter fun site => !site.isWrapper := by
  rw [declared, document, List.map_flatMap, List.filter_flatMap]
  exact List.flatMap_congr fun site _ => map_core_declarations site

end Site

/-! ## What a declaration makes -/

namespace Schema

variable {dialect : Pattern.Dialect}

/-- Whether a place of a description is where and what a declaration of the document says. -/
structure Makes (dialect : Pattern.Dialect) (site : Site) (place : Place) : Prop where
  path_eq : place.path = site.path
  read : (readNode dialect site.json site.path).result = .ok place.node

/-- But for the flag the core says what is made. -/
theorem Makes.read_core {site : Site} {place : Place} (h : Makes dialect site place) :
    ∃ required, (readNode dialect site.core.json site.core.path).result =
      .ok (place.node.withRequired required) := by
  obtain ⟨-, hread⟩ := h
  generalize place.node = node at hread ⊢
  induction site using Site.core.induct generalizing node with
  | case1 site next hnext ih =>
    obtain ⟨entries, hjson, hdeclared, hd, hpath⟩ := Site.wrapped?_eq_some_iff.mp hnext
    rw [hjson, result_readNode_eq_ok_iff_of_wrapped hdeclared hd] at hread
    obtain ⟨inner, hinner, rfl⟩ := hread
    rw [← hpath] at hinner
    obtain ⟨required, hcore⟩ := ih inner hinner
    rw [Site.core_of_wrapped? hnext, hcore]
    exact ⟨required, by cases inner <;> rfl⟩
  | case2 site hnone =>
    rw [Site.core_of_wrapped?_eq_none hnone, hread]
    exact ⟨node.isRequired, by cases node <;> rfl⟩

variable {entries : List (String × Json)} {path : Path}

/-- Nothing is inside what a type name declares. -/
theorem innerPlaces_of_namedNode {name : String} {options : Options} {node : Node}
    (h : (namedNode dialect name options path).result = .ok node) (base : Path) :
    node.innerPlaces base = [] := by
  rcases leaf_or_reference_of_namedNode h with ⟨kind, required, rfl⟩ | ⟨ref, required, rfl⟩ <;> rfl

/-- Fields make the parts that stand at their positions if their declarations do. -/
theorem forall₂_makes_fields {fields : Description}
    (hall : ∀ entry ∈ entries, ∀ {path node}, (readNode dialect entry.2 path).result = .ok node →
      List.Forall₂ (Makes dialect) (Site.declarations ⟨entry.2, path⟩) (node.places path))
    (h : (readFields dialect entries path).result = .ok fields) :
    List.Forall₂ (Makes dialect) (Site.declared entries path) (Node.fieldPlaces fields path) := by
  induction result_readFields_eq_ok_iff.mp h with
  | nil => exact .nil
  | @cons entry field rest others hfirst hothers ih =>
    obtain ⟨name, node⟩ := field
    obtain ⟨rfl, hnode⟩ := hfirst
    obtain ⟨hentry, hrest⟩ := List.forall_mem_cons.mp hall
    exact List.rel_append (hentry hnode) (ih hrest (result_readFields_eq_ok_iff.mpr hothers))

/-- A declaration makes the part it is read as, so what counts is inside. -/
theorem forall₂_makes_iff {json : Json} {node : Node}
    (h : (readNode dialect json path).result = .ok node) :
    List.Forall₂ (Makes dialect) (Site.declarations ⟨json, path⟩) (node.places path) ↔
      List.Forall₂ (Makes dialect) ((Site.core ⟨json, path⟩).inner.flatMap Site.declarations)
        (node.innerPlaces path) := by
  rw [Site.declarations_eq, Node.places_eq_cons, List.forall₂_cons]
  exact and_iff_right ⟨rfl, h⟩

/-- **Each declaration makes the part at the same position**, by induction over the form of a
declaration. -/
theorem forall₂_makes {json : Json} {node : Node}
    (h : (readNode dialect json path).result = .ok node) :
    List.Forall₂ (Makes dialect) (Site.declarations ⟨json, path⟩) (node.places path) := by
  induction json using Json.declarationInduct generalizing path node with
  | name name =>
    rw [forall₂_makes_iff h, Site.core_of_wrapped?_eq_none rfl]
    rw [readNode] at h
    rw [innerPlaces_of_namedNode h]
    exact .nil
  | arrayOf first rest ih =>
    rw [forall₂_makes_iff h, Site.core_of_wrapped?_eq_none rfl]
    obtain ⟨element, helement, rfl⟩ := result_readNode_arrayOf_eq_ok_iff.mp h
    rw [Site.inner_of_arrayOf, List.flatMap_singleton]
    exact ih helement
  | named entries name hname =>
    rw [forall₂_makes_iff h, Site.core_of_wrapped?_eq_none (Site.wrapped?_of_named hname),
      Site.inner_of_named hname]
    rw [readNode_of_named hname] at h
    rw [innerPlaces_of_namedNode h]
    exact .nil
  | wrapped entries declared hdeclared hd ih =>
    -- a wrapper has the core of what it stands for, so only the part itself is another one
    rw [forall₂_makes_iff h, Site.core_of_wrapped? (Site.wrapped?_of_wrapped hdeclared hd)]
    obtain ⟨inner, hinner, rfl⟩ := (result_readNode_eq_ok_iff_of_wrapped hdeclared hd).mp h
    rw [Node.innerPlaces_withRequired]
    exact (forall₂_makes_iff hinner).mp (ih hinner)
  | fields entries hentries ih =>
    rw [forall₂_makes_iff h, Site.core_of_wrapped?_eq_none (Site.wrapped?_of_fields hentries),
      Site.inner_of_fields hentries]
    obtain ⟨fields, hfields, rfl⟩ := (result_readNode_eq_ok_iff_of_fields hentries).mp h
    exact forall₂_makes_fields ih hfields
  | anyArray | null | bool b | number n =>
    rw [forall₂_makes_iff h, Site.core_of_wrapped?_eq_none rfl]
    cases h
    exact .nil

/-- Each declaration of a document makes the part of the description at the same position. -/
theorem forall₂_makes_places {description : Description}
    (h : (readDescription (.object entries) dialect).result = .ok description) :
    List.Forall₂ (Makes dialect) (Site.declared entries .root) description.places :=
  forall₂_makes_fields (fun _ _ _ _ => forall₂_makes) h

end Schema

end DocSchema
