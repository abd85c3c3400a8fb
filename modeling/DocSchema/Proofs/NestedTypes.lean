import DocSchema.Proofs.Origins

/-!
# Objects under `type`

An object under the `type` of a declaration is there to say that the value is an object with these
fields, and options can stand beside it that have no place among the fields.  It is read as a
declaration of its own, though, and a declaration with a `type` does not declare fields.  So the
fields are there, all of them and each with its own flag, if and only if none of them is called
`type`.

With such a field the inner object is another wrapper or has a type name.  Its other fields are lost
with their flags, and so is its own flag, for the outer one takes the place of it.

## Declarations inside wrappers

The statement is about all declarations that reading comes to.  Those that make no part of their
own are inside a wrapper: the object under their `type` is the core of the wrapper around them, and
the flag is that of the outermost wrapper.

* `Place.HasFields`: a part that is an object with the declared fields and no others.
* `Site.mem_document_of_mem_inner`: reading comes to what is inside a declaration it comes to.
* `Schema.exists_place_hasFields_iff`: when an object under `type` gives its fields.
-/

namespace DocSchema

/-- Whether a place holds an object whose fields are exactly those of some entries, in order, each
read as a declaration of its own. -/
def Place.HasFields (dialect : Pattern.Dialect) (entries : List (String × Json)) (place : Place) :
    Prop :=
  ∃ fields required, place.node = .object fields required ∧
    List.Forall₂ (fun entry field => field.1 = entry.1 ∧
      (Schema.readNode dialect entry.2 (place.path.field entry.1)).result = .ok field.2)
      entries fields

/-! ## Walks go on -/

namespace Site

theorem self_mem_walk (site : Site) : site ∈ site.walk := by
  rw [walk_eq]
  exact List.mem_cons_self

theorem mem_walk_iff {site other : Site} :
    other ∈ site.walk ↔ other = site ∨ ∃ next ∈ site.inner, other ∈ next.walk := by
  rw [walk_eq, List.mem_cons, List.mem_flatMap]

theorem mem_walk_trans {site middle other : Site} (hother : other ∈ middle.walk)
    (hmiddle : middle ∈ site.walk) : other ∈ site.walk := by
  induction site using walk.induct with
  | case1 site ih =>
    rcases mem_walk_iff.mp hmiddle with rfl | ⟨next, hnext, hwalk⟩
    · exact hother
    · exact mem_walk_iff.mpr (Or.inr ⟨next, hnext, ih ⟨next, hnext⟩ hwalk⟩)

theorem mem_document_of_mem_inner {entries : List (String × Json)} {path : Path}
    {site next : Site} (hsite : site ∈ document entries path) (hnext : next ∈ site.inner) :
    next ∈ document entries path := by
  obtain ⟨field, hfield, hwalk⟩ := List.mem_flatMap.mp hsite
  have hstep : next ∈ site.walk := mem_walk_iff.mpr (Or.inr ⟨next, hnext, next.self_mem_walk⟩)
  exact List.mem_flatMap.mpr ⟨field, hfield, mem_walk_trans hstep hwalk⟩

theorem self_mem_declarations (site : Site) : site ∈ site.declarations := by
  rw [declarations_eq]
  exact List.mem_cons_self

/-- Every declaration that reading comes to is the core of one that makes a part, unless it is a
wrapper. -/
theorem exists_declared_of_mem_document {entries : List (String × Json)} {path : Path}
    {site : Site} (hsite : site ∈ document entries path) (hcore : site.wrapped? = none) :
    ∃ outer ∈ declared entries path, outer.core = site := by
  have hnot : site.isWrapper = false := by rw [isWrapper, hcore]; rfl
  rw [← List.mem_map, map_core_declared, List.mem_filter]
  exact ⟨hsite, by rw [hnot]; rfl⟩

end Site

namespace Schema

variable {dialect : Pattern.Dialect} {entries options fields : List (String × Json)}

/-! ## Parts and declarations -/

theorem exists_mem_of_forall₂ {α β : Type} {R : α → β → Prop} {as : List α} {bs : List β}
    (h : List.Forall₂ R as bs) {a : α} (ha : a ∈ as) : ∃ b ∈ bs, R a b := by
  induction h with
  | nil => cases ha
  | @cons first other rest others hfirst _ ih =>
    rcases List.mem_cons.mp ha with rfl | hrest
    · exact ⟨other, List.mem_cons_self, hfirst⟩
    · obtain ⟨b, hb, hab⟩ := ih hrest
      exact ⟨b, List.mem_cons_of_mem _ hb, hab⟩

/-- No part of a description has a field called `type`. -/
theorem typeless_of_mem_places {description : Description}
    (h : (readDescription (.object entries) dialect).result = .ok description) {place : Place}
    (hplace : place ∈ description.places) : place.node.Typeless := by
  obtain ⟨site, -, hmakes⟩ := exists_mem_of_forall₂ (forall₂_makes_places h).flip hplace
  exact (allParts_of_readNode hmakes.read place.node .whole).1

/-- The fields of a part have the names that they have in the document. -/
theorem get?_eq_none_of_hasFields {place : Place} (hfields : place.HasFields dialect fields)
    (htypeless : place.node.Typeless) : Assoc.get? fields "type" = none := by
  obtain ⟨nodes, required, hnode, hread⟩ := hfields
  have hnames : Assoc.names nodes = Assoc.names fields :=
    Assoc.names_eq_of_forall₂ (hread.imp fun _ _ hfield => hfield.1)
  rw [hnode, Node.Typeless, hnames] at htypeless
  exact Assoc.get?_eq_none_iff.mpr htypeless

/-- The part that a declaration makes has the fields of its core. -/
theorem Makes.hasFields {site : Site} {place : Place} {path : Path} (h : Makes dialect site place)
    (hcore : site.core = ⟨.object fields, path⟩) (hfields : Assoc.get? fields "type" = none) :
    place.path = path ∧ place.HasFields dialect fields := by
  have hpath : place.path = path := by rw [h.path_eq, ← site.path_core, hcore]
  obtain ⟨flag, hread⟩ := h.read_core
  rw [hcore, result_readNode_eq_ok_iff_of_fields hfields] at hread
  obtain ⟨nodes, hnodes, hnode⟩ := hread
  refine ⟨hpath, nodes, place.node.isRequired, ?_, ?_⟩
  · cases hplace : place.node <;> rw [hplace] at hnode <;> cases hnode
    rfl
  · rw [hpath]
    exact result_readFields_eq_ok_iff.mp hnodes

theorem requiredOption_iff :
    requiredOption options = true ↔ Assoc.get? options "required" = some (.bool true) := by
  rw [requiredOption, beq_iff_eq, Option.bind_eq_some_iff]
  constructor
  · rintro ⟨json, hjson, hbool⟩
    cases json <;> cases hbool
    exact hjson
  · exact fun h => ⟨_, h, rfl⟩

/-- A wrapper sets the flag of the part it makes. -/
theorem Makes.isRequired_iff {site next : Site} {place : Place} (h : Makes dialect site place)
    (hjson : site.json = .object options) (hwrapped : site.wrapped? = some next) :
    place.node.isRequired = true ↔ Assoc.get? options "required" = some (.bool true) := by
  obtain ⟨entries, hentries, hdeclared, hd, -⟩ := Site.wrapped?_eq_some_iff.mp hwrapped
  obtain rfl : options = entries := Json.object.inj (hjson.symm.trans hentries)
  have hread := h.read
  rw [hjson, result_readNode_eq_ok_iff_of_wrapped hdeclared hd] at hread
  obtain ⟨inner, -, hplace⟩ := hread
  rw [← hplace, ← requiredOption_iff]
  cases inner <;> rfl

/-- **When an object under `type` gives its fields.**  Of a document that can be read, take any
declaration with an object under its `type`.  The description has an object in its place, with
exactly the fields of the inner object, in order and each read as its own declaration, if and only
if none of them is called `type`.  It is then required exactly if the outer declaration says so,
unless that declaration is itself wrapped. -/
theorem exists_place_hasFields_iff {description : Description}
    (h : (readDescription (.object entries) dialect).result = .ok description) {site : Site}
    (hsite : site ∈ Site.document entries .root) (hjson : site.json = .object options)
    (htype : Assoc.get? options "type" = some (.object fields)) :
    (∃ place ∈ description.places, place.path = site.path ∧ place.HasFields dialect fields ∧
        (site ∈ Site.declared entries .root →
          (place.node.isRequired = true ↔
            Assoc.get? options "required" = some (.bool true)))) ↔
      Assoc.get? fields "type" = none := by
  constructor
  · rintro ⟨place, hplace, -, hfields, -⟩
    exact get?_eq_none_of_hasFields hfields (typeless_of_mem_places h hplace)
  · intro hfields
    have hwrapped : site.wrapped? = some ⟨.object fields, site.path⟩ :=
      Site.wrapped?_eq_some_iff.mpr ⟨options, hjson, htype, rfl, rfl⟩
    have hcore : Site.wrapped? ⟨.object fields, site.path⟩ = none := Site.wrapped?_of_fields hfields
    -- the declaration that makes the part is this one, or else a wrapper around it
    obtain ⟨outer, houter, houtercore, hself⟩ : ∃ outer ∈ Site.declared entries .root,
        outer.core = ⟨.object fields, site.path⟩ ∧
          (site ∈ Site.declared entries .root → outer = site) := by
      by_cases hdeclared : site ∈ Site.declared entries .root
      · refine ⟨site, hdeclared, ?_, fun _ => rfl⟩
        rw [Site.core_of_wrapped? hwrapped, Site.core_of_wrapped?_eq_none hcore]
      · have hinner : ⟨.object fields, site.path⟩ ∈ site.inner := by
          rw [Site.inner_of_wrapped? hwrapped]
          exact List.mem_singleton_self _
        obtain ⟨outer, houter, houtercore⟩ := Site.exists_declared_of_mem_document
          (Site.mem_document_of_mem_inner hsite hinner) hcore
        exact ⟨outer, houter, houtercore, fun h => absurd h hdeclared⟩
    obtain ⟨place, hplace, hmakes⟩ := exists_mem_of_forall₂ (forall₂_makes_places h) houter
    obtain ⟨hpath, hhas⟩ := hmakes.hasFields houtercore hfields
    refine ⟨place, hplace, hpath, hhas, fun hdeclared => ?_⟩
    obtain rfl := hself hdeclared
    exact hmakes.isRequired_iff hjson hwrapped

end Schema

namespace Sample

/-- The fields of an asset.  One of them has any name. -/
def assetFields (name : String) : List (String × Json) :=
  [(name, .string "String"),
    ("ticker", .object [("type", .string "Map"), ("required", .bool true)])]

/-- A required asset, declared by the object of its fields. -/
def asset (name : String) : Json :=
  .object [("type", .object (assetFields name)), ("required", .bool true)]

end Sample

/-- With a field of another name the asset is an object with both fields, and required. -/
theorem Schema.exists_place_hasFields_of_asset :
    Assoc.get? (Sample.assetFields "symbol") "type" = none ∧
      ∃ description, (readDescription (.object [("asset", Sample.asset "symbol")])).result =
          .ok description ∧
        ∃ place ∈ description.places, place.path = ⟨[.field "asset"]⟩ ∧
          place.HasFields Pattern.standard (Sample.assetFields "symbol") ∧
          place.node.isRequired = true := by
  have hfields : Assoc.get? (Sample.assetFields "symbol") "type" = none := by decide
  have hread : (readDescription (.object [("asset", Sample.asset "symbol")])).result =
      .ok [("asset", .object [("symbol", .leaf (.string .none) false),
        ("ticker", .leaf .map true)] true)] := by
    with_unfolding_all rfl
  have hsite : (⟨Sample.asset "symbol", ⟨[.field "asset"]⟩⟩ : Site) ∈
      Site.document [("asset", Sample.asset "symbol")] .root :=
    List.mem_flatMap.mpr ⟨_, List.mem_cons_self, Site.self_mem_walk _⟩
  have hdeclared : (⟨Sample.asset "symbol", ⟨[.field "asset"]⟩⟩ : Site) ∈
      Site.declared [("asset", Sample.asset "symbol")] .root :=
    List.mem_flatMap.mpr ⟨_, List.mem_cons_self, Site.self_mem_declarations _⟩
  obtain ⟨place, hplace, hpath, hhas, hrequired⟩ :=
    (exists_place_hasFields_iff hread hsite rfl rfl).mpr hfields
  exact ⟨hfields, _, hread, place, hplace, hpath, hhas, (hrequired hdeclared).mpr rfl⟩

/-- With a field called `type` the asset is a text, and no part of the description has its
fields. -/
theorem Schema.not_hasFields_of_asset_with_type :
    (readDescription (.object [("asset", Sample.asset "type")])).result =
        .ok [("asset", .leaf (.string .none) true)] ∧
      ∀ place ∈ Description.places [("asset", .leaf (.string .none) true)],
        ¬ place.HasFields Pattern.standard (Sample.assetFields "type") := by
  refine ⟨by with_unfolding_all rfl, fun place hplace => ?_⟩
  obtain rfl := List.mem_singleton.mp hplace
  rintro ⟨fields, required, hnode, -⟩
  cases hnode

end DocSchema
