import DocSchema.Proofs.ByteOrder
import DocSchema.Proofs.Cycles

/-!
# Unresolved names

A table lists the names that its descriptions refer to and that it does not have.  The compiler
never looks at that list.  It comes to an unresolved name when it follows a reference, and reports
it there.  That both find the same names is not a matter of course: the list is made from one
description after the other, while the compiler goes from description to description and gives up at
names that come back and at the depth limit.

## Why they agree

Any name that the compiler comes to is mentioned on the way to it.  The last mention is in the
compiled description itself or in a registered one, and in the second case the name is listed.
Conversely, a listed name is mentioned by a registered description.  From a reference to that one
the compiler comes to the mention, unless the depth limit stops it: the only name being expanded
there is the registered one, and that is not the unresolved one.

* `ReferenceTable.mem_unresolved_iff`, `ReferenceTable.pairwise_unresolved`: what the list holds,
  and in which order.
* `Compiler.unresolved_of_mem_log`: the compiler only reports names that are listed or are in the
  compiled description itself.
* `Compiler.exists_unresolved_of_mentions`: it reports every name that is listed.
* `Compiler.unresolved_agrees_with_log`: the list agrees with the compiler.
-/

namespace DocSchema

/-- The text of the events of unresolved names, which no other event has. -/
theorem Event.message_eq_unresolved_iff (event : Event) :
    event.message = "unresolved reference, checking object only" ↔
      ∃ path name, event = .unresolved path name := by
  rcases event with _ | _ | _ | _ | _ | _ | _ | ⟨_, _ | _ | _, _⟩ <;> simp [message]

/-! ## Tables have distinct names -/

namespace ReferenceTable

variable {table : ReferenceTable} {name other : String}

theorem nodup_names_insert (h : table.names.Nodup) (name : String) (description : Description) :
    (table.insert name description).names.Nodup :=
  Assoc.nodup_names_put h name description

theorem nodup_names_register (h : table.names.Nodup) {description : Description}
    {larger : ReferenceTable} (hregister : table.register name description = .ok larger) :
    larger.names.Nodup := by
  rw [register] at hregister
  split at hregister
  · cases hregister
  · cases hregister
    exact nodup_names_insert h name description

theorem nodup_names_ofList (entries : List (String × Description)) : (ofList entries).names.Nodup :=
  Assoc.nodup_names_ofList entries

/-! ## The list -/

theorem mem_insertSorted_iff {names : List String} :
    other ∈ insertSorted name names ↔ other = name ∨ other ∈ names := by
  induction names with
  | nil => simp [insertSorted]
  | cons first rest ih =>
    rw [insertSorted]
    split
    · rw [List.mem_cons]
    split
    · rename_i heq
      rw [List.mem_cons, heq]
      tauto
    · rw [List.mem_cons, ih, List.mem_cons]
      tauto

/-- Adding a name keeps a list increasing. -/
theorem pairwise_insertSorted {names : List String} (h : names.Pairwise (· < ·)) :
    (insertSorted name names).Pairwise (· < ·) := by
  induction names with
  | nil => exact List.pairwise_singleton _ name
  | cons first rest ih =>
    obtain ⟨hfirst, hrest⟩ := List.pairwise_cons.mp h
    rw [insertSorted]
    split
    · rename_i hlt
      refine List.pairwise_cons.mpr ⟨fun later hlater => ?_, h⟩
      rcases List.mem_cons.mp hlater with rfl | hlater
      · exact hlt
      · exact String.lt_trans hlt (hfirst later hlater)
    split
    · exact h
    · rename_i hnot hne
      have hlt : first < name := Std.lt_of_le_of_ne (String.not_lt.mp hnot) (Ne.symm hne)
      refine List.pairwise_cons.mpr ⟨fun later hlater => ?_, ih hrest⟩
      rcases mem_insertSorted_iff.mp hlater with rfl | hlater
      · exact hlt
      · exact hfirst later hlater

/-- The list is strictly increasing, in the order of bytes. -/
theorem pairwise_unresolved (table : ReferenceTable) :
    table.unresolved.Pairwise fun name other => Text.bytes name < Text.bytes other := by
  have hsorted : table.unresolved.Pairwise (· < ·) := by
    rw [unresolved]
    induction table.references.filter fun name => !table.contains name with
    | nil => exact List.Pairwise.nil
    | cons name rest ih => exact pairwise_insertSorted ih
  exact hsorted.imp Text.bytes_lt_of_lt

theorem mem_foldr_insertSorted_iff {names : List String} :
    name ∈ names.foldr insertSorted [] ↔ name ∈ names := by
  induction names with
  | nil => rfl
  | cons first rest ih => rw [List.foldr_cons, mem_insertSorted_iff, ih, List.mem_cons]

/-- Every mention of a name that is not registered makes it listed. -/
theorem mem_unresolved_of_mentions (h : table.Mentions name other)
    (hother : table.contains other = false) : other ∈ table.unresolved := by
  obtain ⟨description, hd, hmem⟩ := h
  have hentry : (name, description) ∈ table.entries := Assoc.mem_of_get?_eq_some hd
  rw [unresolved, mem_foldr_insertSorted_iff, List.mem_filter, references, List.mem_flatMap]
  exact ⟨⟨_, hentry, hmem⟩, by rw [hother]; rfl⟩

/-- The list holds the names that are mentioned and not registered. -/
theorem mem_unresolved_iff (hnames : table.names.Nodup) :
    other ∈ table.unresolved ↔
      (∃ name, table.Mentions name other) ∧ table.contains other = false := by
  constructor
  · intro h
    rw [unresolved, mem_foldr_insertSorted_iff, List.mem_filter, references, List.mem_flatMap] at h
    obtain ⟨⟨⟨name, description⟩, hentry, hmem⟩, hother⟩ := h
    refine ⟨⟨name, description, (Assoc.get?_eq_some_iff_mem hnames).mpr hentry, hmem⟩, ?_⟩
    simpa using hother
  · rintro ⟨⟨name, hmentions⟩, hother⟩
    exact mem_unresolved_of_mentions hmentions hother

end ReferenceTable

/-! ## What is reported is listed -/

/-- The last mention on the way to a name is in the description itself or in a registered one. -/
theorem ReferenceTable.ReachableFrom.refersTo_or_mentions {table : ReferenceTable}
    {description : Description} {name : String} (h : table.ReachableFrom description name) :
    description.RefersTo name ∨ ∃ before, table.Mentions before name := by
  obtain ⟨first, hfirst, hreach⟩ := h
  cases hreach with
  | refl => exact .inl (Description.mem_fieldReferences_iff.mp hfirst)
  | tail _ hmentions => exact .inr ⟨_, hmentions⟩

namespace Compiler

variable {compiler : Compiler} {description : Description} {visit : Visit} {name : String}

/-- A visit to an unresolved name is a visit to a reference that can be reached. -/
theorem Traced.unresolved (h : compiler.Traced description visit)
    (hlayer : visit.layer compiler = .flat (.unresolved name)) :
    compiler.table.contains name = false ∧ compiler.table.ReachableFrom description name := by
  have houtcome := visit.outcome compiler
  rw [hlayer] at houtcome
  cases houtcome with
  | unresolved hnode hd =>
    have hself : name ∈ visit.node.references := by
      rw [hnode, Node.references]
      exact List.mem_singleton.mpr rfl
    exact ⟨ReferenceTable.contains_eq_false_iff.mpr hd, h.reachable name hself⟩

/-- What the compiler finds unresolved is listed, unless the compiled description refers to it
itself. -/
theorem Traced.refersTo_or_mem_unresolved (h : compiler.Traced description visit)
    (hlayer : visit.layer compiler = .flat (.unresolved name)) :
    compiler.table.contains name = false ∧
      (description.RefersTo name ∨ name ∈ compiler.table.unresolved) := by
  obtain ⟨hcontains, hreachable⟩ := h.unresolved hlayer
  refine ⟨hcontains, ?_⟩
  rcases hreachable.refersTo_or_mentions with hrefers | ⟨before, hmentions⟩
  · exact .inl hrefers
  · exact .inr (ReferenceTable.mem_unresolved_of_mentions hmentions hcontains)

theorem unresolved_of_mem_log {path : Path}
    (h : .unresolved path name ∈ compiler.log description) :
    compiler.table.contains name = false ∧
      (description.RefersTo name ∨ name ∈ compiler.table.unresolved) := by
  obtain ⟨origin, horigin, visit, hvisit, hevent⟩ := mem_log_iff.mp h
  obtain ⟨hlayer, -⟩ := Visit.unresolved_mem_events_iff.mp hevent
  exact (hvisit.traced horigin).refersTo_or_mem_unresolved hlayer

/-! ## What is listed is reported -/

/-- From a reference to a registered name the compiler comes to all that its description mentions,
and reports what is not registered. -/
theorem exists_unresolved_of_mentions {table : ReferenceTable} {registered field : String}
    {maxDepth : Nat} {required : Bool} (hmentions : table.Mentions registered name)
    (hname : table.contains name = false)
    (hdeep : ∀ event ∈ log ⟨table, maxDepth⟩ [(field, .reference (some registered) required)],
      event.isTooDeep = false) :
    ∃ path, .unresolved path name ∈
      log ⟨table, maxDepth⟩ [(field, .reference (some registered) required)] := by
  have horigin : Visit.start (.reference (some registered) required) (Path.root.field field) ∈
      Visit.starts [(field, .reference (some registered) required)] := List.mem_singleton.mpr rfl
  have hlayer : ∀ visit, Reaches ⟨table, maxDepth⟩ _ visit →
      ∀ container, visit.layer ⟨table, maxDepth⟩ ≠ .flat (.tooDeep container) :=
    fun visit hvisit container => layer_ne_tooDeep hdeep horigin hvisit container
  -- no name is being expanded at the origin, so that its reference is followed
  obtain ⟨next, flag, hnext, hnode, -⟩ :=
    exists_visit_of_mentions hlayer .refl rfl List.not_mem_nil hmentions
  have hevent : .unresolved next.path name ∈ next.events ⟨table, maxDepth⟩ :=
    Visit.unresolved_mem_events_iff.mpr
      ⟨Visit.layer_of_unresolved hnode (ReferenceTable.contains_eq_false_iff.mp hname), rfl⟩
  exact ⟨next.path, mem_log_iff.mpr ⟨_, horigin, next, hnext, hevent⟩⟩

/-- **The list of unresolved names agrees with the compiler.**  It is strictly increasing and holds
the names that registered descriptions refer to and that are not registered.  The compiler reports
no others but those that the compiled description refers to itself, and of each listed name there is
a registered one from which it comes there.  If nothing is listed and a description only refers to
registered names, no part of it is left unchecked for want of a name. -/
theorem unresolved_agrees_with_log (table : ReferenceTable) (hnames : table.names.Nodup) :
    table.unresolved.Pairwise (fun name other => Text.bytes name < Text.bytes other) ∧
    (∀ name, name ∈ table.unresolved ↔
      (∃ registered description, table.get? registered = some description ∧
        description.RefersTo name) ∧ table.contains name = false) ∧
    (∀ description maxDepth path name, .unresolved path name ∈ log ⟨table, maxDepth⟩ description →
      table.contains name = false ∧
        (description.RefersTo name ∨ name ∈ table.unresolved)) ∧
    (∀ name ∈ table.unresolved, ∃ registered, table.contains registered = true ∧
      ∀ maxDepth field required,
        (∀ event ∈ log ⟨table, maxDepth⟩ [(field, .reference (some registered) required)],
          event.isTooDeep = false) →
        ∃ path, .unresolved path name ∈
          log ⟨table, maxDepth⟩ [(field, .reference (some registered) required)]) ∧
    (table.unresolved = [] → ∀ description : Description,
      (∀ name, description.RefersTo name → table.contains name = true) →
      ∀ maxDepth, (∀ path name, .unresolved path name ∉ log ⟨table, maxDepth⟩ description) ∧
        ∀ visit ∈ visits ⟨table, maxDepth⟩ description,
          ∀ name, visit.layer ⟨table, maxDepth⟩ ≠ .flat (.unresolved name)) := by
  have hmem : ∀ name, name ∈ table.unresolved ↔
      (∃ registered description, table.get? registered = some description ∧
        description.RefersTo name) ∧ table.contains name = false := by
    intro name
    simp only [ReferenceTable.mem_unresolved_iff hnames, ReferenceTable.Mentions,
      Description.mem_fieldReferences_iff]
  refine ⟨table.pairwise_unresolved, hmem, fun description maxDepth path name =>
    unresolved_of_mem_log, ?_, ?_⟩
  · intro name hlisted
    obtain ⟨⟨registered, hmentions⟩, hname⟩ :=
      (ReferenceTable.mem_unresolved_iff hnames).mp hlisted
    have hregistered : table.contains registered = true :=
      ReferenceTable.contains_iff.mpr (hmentions.imp fun _ h => h.1)
    exact ⟨registered, hregistered, fun maxDepth field required =>
      exists_unresolved_of_mentions hmentions hname⟩
  · intro hempty description hrefers maxDepth
    have hnone : ∀ name, ¬ (table.contains name = false ∧
        (description.RefersTo name ∨ name ∈ table.unresolved)) := by
      rintro name ⟨hname, hmentioned | hlisted⟩
      · rw [hrefers name hmentioned] at hname
        cases hname
      · rw [hempty] at hlisted
        cases hlisted
    refine ⟨fun path name hevent => hnone name (unresolved_of_mem_log hevent), ?_⟩
    intro visit hvisit name hlayer
    obtain ⟨origin, horigin, hreaches⟩ := List.mem_flatMap.mp hvisit
    have htraced := (mem_visitsFrom_iff.mp hreaches).traced horigin
    exact hnone name (htraced.refersTo_or_mem_unresolved hlayer)

end Compiler

namespace Sample

/-- A table that lacks two names, one of which is only referred to inside an array. -/
def dangling : ReferenceTable :=
  .ofList
    [("Customer", [("order", .reference (some "Order") true)]),
      ("Order", [("team", .reference (some "Team") true),
        ("lines", .arrayOf (.object [("item", .reference (some "Item") false)] false) true)])]

end Sample

namespace Compiler

/-- Both names that the sample lacks are listed, and the compiler comes to either. -/
theorem unresolved_of_dangling_agrees_with_log :
    Sample.dangling.names.Nodup ∧ Sample.dangling.unresolved = ["Item", "Team"] ∧
      Text.bytes "Item" < Text.bytes "Team" ∧
      ∀ name ∈ ["Item", "Team"], ∃ registered, Sample.dangling.contains registered = true ∧
        ∀ maxDepth field required,
          (∀ event ∈
            log ⟨Sample.dangling, maxDepth⟩ [(field, .reference (some registered) required)],
            event.isTooDeep = false) →
          ∃ path, .unresolved path name ∈
            log ⟨Sample.dangling, maxDepth⟩ [(field, .reference (some registered) required)] := by
  have hnames : Sample.dangling.names.Nodup := ReferenceTable.nodup_names_ofList _
  have hlist : Sample.dangling.unresolved = ["Item", "Team"] := by decide
  obtain ⟨hsorted, -, -, hreported, -⟩ := unresolved_agrees_with_log Sample.dangling hnames
  rw [hlist] at hsorted hreported
  exact ⟨hnames, hlist, (List.pairwise_cons.mp hsorted).1 "Team" (List.mem_singleton.mpr rfl),
    hreported⟩

end Compiler

end DocSchema
