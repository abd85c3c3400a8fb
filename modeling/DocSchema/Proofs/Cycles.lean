import DocSchema.Proofs.DepthLimit
import DocSchema.Proofs.Parts

/-!
# Cycles between descriptions

Descriptions refer to one another by name, so they form a graph.  The compiler never looks at this
graph: at a reference it only asks whether the name is among those being expanded.  That is enough
to find the cycles, and nothing else.

## Why it is enough

The names being expanded at a visit lie on one way through the graph that leads on to every name the
declaration mentions.  So a name that comes back among them is on a cycle: names that siblings share
never meet there, for each is expanded on its own.  Conversely, the compiler follows every mention
until a name comes back or the depth limit stops it.  If neither happened on the way around a cycle,
its first name would come back at the end of it.

* `ReferenceTable.Mentions`, `ReferenceTable.ReachableFrom`, `ReferenceTable.OnCycle`: the graph.
* `Compiler.Traced`: the names being expanded lead to the names mentioned.
* `Compiler.exists_visit_of_transGen`: the compiler follows every way through the graph.
* `Compiler.circular_iff_onCycle`: there is a warning of a cycle exactly if one can be reached.
-/

namespace DocSchema

open Relation (ReflTransGen TransGen)

/-! ## The graph of names -/

namespace ReferenceTable

/-- Whether a name is registered and its description refers to another one, at any nesting. -/
def Mentions (table : ReferenceTable) (name other : String) : Prop :=
  ∃ description, table.get? name = some description ∧ other ∈ Node.fieldReferences description

/-- Whether a name can be reached from a description, through the names that it refers to and the
descriptions of these. -/
def ReachableFrom (table : ReferenceTable) (description : Description) (name : String) : Prop :=
  ∃ first ∈ Node.fieldReferences description, ReflTransGen table.Mentions first name

/-- Whether a name can be reached from itself. -/
def OnCycle (table : ReferenceTable) (name : String) : Prop :=
  TransGen table.Mentions name name

theorem ReachableFrom.tail {table : ReferenceTable} {description : Description}
    {name other : String} (h : table.ReachableFrom description name)
    (hmentions : table.Mentions name other) : table.ReachableFrom description other := by
  obtain ⟨first, hfirst, hreach⟩ := h
  exact ⟨first, hfirst, hreach.tail hmentions⟩

end ReferenceTable

namespace Compiler

variable {compiler : Compiler} {description : Description} {origin caller callee visit : Visit}
  {name other : String} {required : Bool}

/-! ## Names that come back are on a cycle -/

/-- How the names at a visit are connected. -/
structure Traced (compiler : Compiler) (description : Description) (visit : Visit) : Prop where
  /-- What the declaration refers to can be reached from the description. -/
  reachable : ∀ name ∈ visit.node.references, compiler.table.ReachableFrom description name
  /-- Each name being expanded leads to what the declaration refers to. -/
  leads : ∀ outer ∈ visit.expanding, ∀ name ∈ visit.node.references,
    TransGen compiler.table.Mentions outer name

theorem Traced.of_mem_starts (horigin : origin ∈ Visit.starts description) :
    compiler.Traced description origin := by
  obtain ⟨field, hfield, rfl⟩ := List.mem_map.mp horigin
  refine ⟨fun name hname => ⟨name, ?_, .refl⟩, fun outer houter => ?_⟩
  · exact Node.mem_fieldReferences_iff.mpr ⟨field, hfield, hname⟩
  · cases houter

theorem Traced.step (h : compiler.Traced description caller)
    (hcall : compiler.Calls caller callee) : compiler.Traced description callee := by
  cases hcall with
  | @element element required hnode _ =>
    have hsub : ∀ name ∈ element.references, name ∈ caller.node.references := by
      intro name hname
      rw [hnode, Node.references]
      exact hname
    exact ⟨fun name hname => h.reachable name (hsub name hname),
      fun outer houter name hname => h.leads outer houter name (hsub name hname)⟩
  | @field fields required field hnode _ hfield =>
    have hsub : ∀ name ∈ field.2.references, name ∈ caller.node.references := by
      intro name hname
      rw [hnode, Node.references]
      exact Node.mem_fieldReferences_iff.mpr ⟨field, hfield, hname⟩
    exact ⟨fun name hname => h.reachable name (hsub name hname),
      fun outer houter name hname => h.leads outer houter name (hsub name hname)⟩
  | @described name description' required field hnode hd hname _ hfield =>
    have hself : name ∈ caller.node.references := by
      rw [hnode, Node.references]
      exact List.mem_singleton.mpr rfl
    have hmentions : ∀ other ∈ field.2.references, compiler.table.Mentions name other :=
      fun other hother =>
        ⟨description', hd, Node.mem_fieldReferences_iff.mpr ⟨field, hfield, hother⟩⟩
    refine ⟨fun other hother => (h.reachable name hself).tail (hmentions other hother), ?_⟩
    intro outer houter other hother
    -- the innermost name mentions the next one itself, and all others lead to the innermost one
    rcases List.mem_cons.mp houter with rfl | houter
    · exact .single (hmentions other hother)
    · exact (h.leads outer houter name hself).tail (hmentions other hother)

theorem Reaches.traced (horigin : origin ∈ Visit.starts description)
    (h : compiler.Reaches origin visit) : compiler.Traced description visit := by
  induction h with
  | refl => exact .of_mem_starts horigin
  | tail _ hcall ih => exact ih.step hcall

/-- A reference to a name that is being expanded is a reference on a cycle. -/
theorem Traced.onCycle (h : compiler.Traced description visit)
    (hnode : visit.node = .reference (some name) required) (hname : name ∈ visit.expanding) :
    compiler.table.ReachableFrom description name ∧ compiler.table.OnCycle name := by
  have hself : name ∈ visit.node.references := by
    rw [hnode, Node.references]
    exact List.mem_singleton.mpr rfl
  exact ⟨h.reachable name hself, h.leads name hname name hself⟩

/-- A name that the log warns of is registered, can be reached, and is on a cycle. -/
theorem onCycle_of_circular {path : Path} (h : .circular path name ∈ compiler.log description) :
    compiler.table.contains name = true ∧ compiler.table.ReachableFrom description name ∧
      compiler.table.OnCycle name := by
  obtain ⟨origin, horigin, visit, hvisit, hevent⟩ := mem_log_iff.mp h
  obtain ⟨hlayer, -⟩ := Visit.circular_mem_events_iff.mp hevent
  have houtcome := visit.outcome compiler
  rw [hlayer] at houtcome
  cases houtcome with
  | circular hnode hd hname =>
    exact ⟨ReferenceTable.contains_iff.mpr ⟨_, hd⟩, (hvisit.traced horigin).onCycle hnode hname⟩

/-! ## The compiler follows every way -/

section

variable (hdeep : ∀ visit, compiler.Reaches origin visit →
  ∀ container, visit.layer compiler ≠ .flat (.tooDeep container))

include hdeep

/-- The compiler comes to every reference in a declaration, while the same names are being
expanded. -/
theorem exists_visit_of_mem_references (hvisit : compiler.Reaches origin visit)
    (hname : name ∈ visit.node.references) :
    ∃ next required, compiler.Reaches origin next ∧
      next.node = .reference (some name) required ∧ next.expanding = visit.expanding := by
  induction visit using (calls_wellFounded compiler).induction with
  | h visit ih =>
    cases hnode : visit.node with
    | leaf kind required =>
      rw [hnode, Node.references] at hname
      cases hname
    | reference reference required =>
      rw [hnode, Node.references, Option.mem_toList] at hname
      rw [hname] at hnode
      exact ⟨visit, required, hvisit, hnode, rfl⟩
    | arrayOf element required =>
      have hlt := Visit.lt_maxDepth_of_ne_tooDeep (Visit.layer_of_arrayOf hnode)
        (hdeep visit hvisit .array)
      have hcall : compiler.Calls visit _ := .element hnode hlt
      rw [hnode, Node.references] at hname
      exact (ih _ hcall (hvisit.tail hcall) hname :)
    | object fields required =>
      have hlt := Visit.lt_maxDepth_of_ne_tooDeep (Visit.layer_of_object hnode)
        (hdeep visit hvisit .object)
      rw [hnode, Node.references] at hname
      obtain ⟨field, hfield, hname⟩ := Node.mem_fieldReferences_iff.mp hname
      have hcall : compiler.Calls visit _ := .field hnode hlt hfield
      exact (ih _ hcall (hvisit.tail hcall) hname :)

/-- From a reference that is expanded the compiler comes to every name that its description
mentions, while one more name is being expanded. -/
theorem exists_visit_of_mentions (hvisit : compiler.Reaches origin visit)
    (hnode : visit.node = .reference (some name) required) (hnew : name ∉ visit.expanding)
    (hmentions : compiler.table.Mentions name other) :
    ∃ next required, compiler.Reaches origin next ∧
      next.node = .reference (some other) required ∧
      next.expanding = name :: visit.expanding := by
  obtain ⟨description, hd, hother⟩ := hmentions
  obtain ⟨field, hfield, hother⟩ := Node.mem_fieldReferences_iff.mp hother
  have hlt := Visit.lt_maxDepth_of_ne_tooDeep (Visit.layer_of_described hnode hd hnew)
    (hdeep visit hvisit (.reference name))
  have hcall : compiler.Calls visit _ := .described hnode hd hnew hlt hfield
  exact exists_visit_of_mem_references hdeep (hvisit.tail hcall) hother

variable (hflat : ∀ visit, compiler.Reaches origin visit →
  ∀ name, visit.layer compiler ≠ .flat (.circular name))

include hflat

/-- As long as no name comes back, the compiler follows every way through the graph, and where it
comes to, the names on the way are being expanded. -/
theorem exists_visit_of_transGen (hvisit : compiler.Reaches origin visit)
    (hnode : visit.node = .reference (some name) required)
    (h : TransGen compiler.table.Mentions name other) :
    ∃ next required, compiler.Reaches origin next ∧
      next.node = .reference (some other) required ∧ name ∈ next.expanding := by
  have hnew : ∀ {next : Visit} {middle far : String} {required : Bool},
      compiler.Reaches origin next → next.node = .reference (some middle) required →
        compiler.table.Mentions middle far → middle ∉ next.expanding := by
    rintro next middle far required hnext hmiddle ⟨description, hd, -⟩ hmem
    exact hflat next hnext middle (Visit.layer_of_circular hmiddle hd hmem)
  induction h with
  | single hmentions =>
    obtain ⟨next, required, hnext, hother, hexpanding⟩ :=
      exists_visit_of_mentions hdeep hvisit hnode (hnew hvisit hnode hmentions) hmentions
    refine ⟨next, required, hnext, hother, ?_⟩
    rw [hexpanding]
    exact List.mem_cons_self
  | @tail middle far _ hmentions ih =>
    obtain ⟨before, required, hbefore, hmiddle, hmem⟩ := ih
    obtain ⟨next, required, hnext, hother, hexpanding⟩ :=
      exists_visit_of_mentions hdeep hbefore hmiddle (hnew hbefore hmiddle hmentions) hmentions
    refine ⟨next, required, hnext, hother, ?_⟩
    rw [hexpanding]
    exact List.mem_cons_of_mem _ hmem

end

/-! ## Warnings of cycles -/

/-- A cycle that can be reached makes for a warning. -/
theorem exists_circular_of_onCycle
    (h : ∀ event ∈ compiler.log description, event.isTooDeep = false)
    (hreachable : compiler.table.ReachableFrom description name)
    (hcycle : compiler.table.OnCycle name) :
    ∃ path other, .circular path other ∈ compiler.log description := by
  by_contra hnone
  obtain ⟨first, hfirst, hreach⟩ := hreachable
  obtain ⟨field, hfield, hfirst⟩ := Node.mem_fieldReferences_iff.mp hfirst
  have horigin : Visit.start field.2 (Path.root.field field.1) ∈ Visit.starts description :=
    List.mem_map_of_mem hfield
  generalize hstart : Visit.start field.2 (Path.root.field field.1) = origin at horigin
  have hdeep : ∀ visit, compiler.Reaches origin visit →
      ∀ container, visit.layer compiler ≠ .flat (.tooDeep container) :=
    fun visit hvisit => layer_ne_tooDeep h horigin hvisit
  have hflat : ∀ visit, compiler.Reaches origin visit →
      ∀ other, visit.layer compiler ≠ .flat (.circular other) := by
    intro visit hvisit other hlayer
    have hevent : .circular visit.path other ∈ visit.events compiler :=
      Visit.circular_mem_events_iff.mpr ⟨hlayer, rfl⟩
    exact hnone ⟨visit.path, other, mem_log_iff.mpr ⟨origin, horigin, visit, hvisit, hevent⟩⟩
  -- the compiler comes to the first name, from there to the one on the cycle, and then around it
  have hmem : first ∈ origin.node.references := by
    rw [← hstart]
    exact hfirst
  obtain ⟨atFirst, _, hatFirst, hfirstNode, -⟩ :=
    exists_visit_of_mem_references hdeep .refl hmem
  have hatName : ∃ visit required, compiler.Reaches origin visit ∧
      visit.node = .reference (some name) required := by
    rcases Relation.reflTransGen_iff_eq_or_transGen.mp hreach with rfl | htrans
    · exact ⟨atFirst, _, hatFirst, hfirstNode⟩
    · obtain ⟨visit, required, hvisit, hnode, -⟩ :=
        exists_visit_of_transGen hdeep hflat hatFirst hfirstNode htrans
      exact ⟨visit, required, hvisit, hnode⟩
  obtain ⟨visit, _, hvisit, hnode⟩ := hatName
  obtain ⟨back, _, hback, hbackNode, hname⟩ :=
    exists_visit_of_transGen hdeep hflat hvisit hnode hcycle
  obtain ⟨_, ⟨_, hd, -⟩, -⟩ := TransGen.head'_iff.mp hcycle
  exact hflat back hback name (Visit.layer_of_circular hbackNode hd hname)

/-- A reference to a registered name is expanded, unless the name is being expanded already or the
depth limit cuts it off. -/
theorem exists_expansion_eq_object
    (hdeep : ∀ container, visit.layer compiler ≠ .flat (.tooDeep container))
    (hnode : visit.node = .reference (some name) required) (hname : name ∉ visit.expanding)
    (hcontains : compiler.table.contains name = true) :
    ∃ fields, visit.expansion compiler = .object fields (some name) required := by
  obtain ⟨description, hd⟩ := ReferenceTable.contains_iff.mp hcontains
  have hlayer := Visit.layer_of_described hnode hd hname
  have hlt := Visit.lt_maxDepth_of_ne_tooDeep hlayer (hdeep (.reference name))
  rw [Visit.expansion_eq, hlayer, Visit.enter_of_lt hlt, hnode]
  exact ⟨_, rfl⟩

/-- **There is a warning of a cycle exactly if one can be reached.**  Where the depth limit cuts
nothing off, the log warns of a circular reference if and only if a registered name that can be
reached from the description can be reached from itself, and every name it warns of is such a name.
If there is no cycle, every reference to a registered name that the compiler comes to is expanded,
however many ways lead to the name. -/
theorem circular_iff_onCycle (compiler : Compiler) (description : Description)
    (h : ∀ event ∈ compiler.log description, event.isTooDeep = false) :
    ((∃ path name, .circular path name ∈ compiler.log description) ↔
      ∃ name, compiler.table.contains name = true ∧
        compiler.table.ReachableFrom description name ∧ compiler.table.OnCycle name) ∧
    (∀ path name, .circular path name ∈ compiler.log description →
      compiler.table.OnCycle name) ∧
    ((∀ name, ¬ compiler.table.OnCycle name) →
      ∀ origin ∈ Visit.starts description, ∀ visit, compiler.Reaches origin visit →
        ∀ name required, visit.node = .reference (some name) required →
          compiler.table.contains name = true →
          ∃ fields, visit.expansion compiler = .object fields (some name) required) := by
  refine ⟨⟨?_, ?_⟩, ?_, ?_⟩
  · rintro ⟨path, name, hevent⟩
    exact ⟨name, onCycle_of_circular hevent⟩
  · rintro ⟨name, -, hreachable, hcycle⟩
    exact exists_circular_of_onCycle h hreachable hcycle
  · intro path name hevent
    obtain ⟨-, -, hcycle⟩ := onCycle_of_circular hevent
    exact hcycle
  · intro hacyclic origin horigin visit hvisit name required hnode hcontains
    have hname : name ∉ visit.expanding := fun hname =>
      hacyclic name ((hvisit.traced horigin).onCycle hnode hname).2
    exact exists_expansion_eq_object (layer_ne_tooDeep h horigin hvisit) hnode hname hcontains

end Compiler

namespace Sample

/-- Descriptions without a cycle: a customer has an address. -/
def diamond : ReferenceTable :=
  ⟨[("Address", [("street", .leaf (.string .none) true)]),
    ("Customer", [("home", .reference (some "Address") true)])]⟩

/-- An order mentions an address beside its customer, and so in two ways. -/
def order : Description :=
  [("customer", .reference (some "Customer") true),
    ("billing", .reference (some "Address") false)]

theorem mentions_diamond {name other : String} (h : diamond.Mentions name other) :
    name = "Customer" ∧ other = "Address" := by
  obtain ⟨description, hd, hother⟩ := h
  rw [ReferenceTable.get?, diamond, Assoc.get?_cons, Assoc.get?_cons, Assoc.get?_nil] at hd
  split at hd
  · cases hd
    cases hother
  · split at hd
    · cases hd
      exact ⟨Eq.symm ‹_›, List.mem_singleton.mp hother⟩
    · cases hd

theorem not_onCycle_diamond (name : String) : ¬ diamond.OnCycle name := by
  intro h
  obtain ⟨next, hfirst, hrest⟩ := TransGen.head'_iff.mp h
  obtain ⟨rfl, rfl⟩ := mentions_diamond hfirst
  rcases Relation.ReflTransGen.cases_head hrest with heq | ⟨_, hnext, -⟩
  · exact absurd heq (by decide)
  · exact absurd (mentions_diamond hnext).1 (by decide)

end Sample

namespace Compiler

/-- The cell of the sample is on a cycle, and the log warns of it; in an order both ways to the
address are expanded. -/
theorem circular_iff_onCycle_of_samples :
    ((∀ event ∈ log ⟨Sample.table, 2⟩ Sample.description, event.isTooDeep = false) ∧
      .circular ((Path.root.field "head").field "next") "Cell" ∈
        log ⟨Sample.table, 2⟩ Sample.description ∧ Sample.table.OnCycle "Cell") ∧
    ((∀ event ∈ log ⟨Sample.diamond, 2⟩ Sample.order, event.isTooDeep = false) ∧
      ∃ fields, Visit.expansion ⟨Sample.diamond, 2⟩
        ⟨.reference (some "Address") true, 1, ["Customer"],
          (Path.root.field "customer").field "home"⟩ = .object fields (some "Address") true) := by
  have hlist : ∀ event ∈ log ⟨Sample.table, 2⟩ Sample.description,
      event.isTooDeep = false := by decide
  have hwarning : .circular ((Path.root.field "head").field "next") "Cell" ∈
      log ⟨Sample.table, 2⟩ Sample.description := by decide
  have horder : ∀ event ∈ log ⟨Sample.diamond, 2⟩ Sample.order,
      event.isTooDeep = false := by decide
  have hcustomer : Visit.start (.reference (some "Customer") true) (Path.root.field "customer") ∈
      Visit.starts Sample.order := List.mem_cons_self
  have hfield : ("home", Node.reference (some "Address") true) ∈
      [("home", Node.reference (some "Address") true)] := List.mem_singleton.mpr rfl
  have hhome : Calls ⟨Sample.diamond, 2⟩
      (.start (.reference (some "Customer") true) (Path.root.field "customer"))
      ⟨.reference (some "Address") true, 1, ["Customer"],
        (Path.root.field "customer").field "home"⟩ :=
    .described rfl rfl List.not_mem_nil (by decide) hfield
  obtain ⟨-, hcycle, -⟩ := circular_iff_onCycle ⟨Sample.table, 2⟩ Sample.description hlist
  obtain ⟨-, -, hexpanded⟩ := circular_iff_onCycle ⟨Sample.diamond, 2⟩ Sample.order horder
  exact ⟨⟨hlist, hwarning, hcycle _ _ hwarning⟩, horder,
    hexpanded Sample.not_onCycle_diamond _ hcustomer _ (.single hhome) _ _ rfl rfl⟩

end Compiler

end DocSchema
