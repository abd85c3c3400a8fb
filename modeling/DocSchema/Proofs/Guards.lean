import DocSchema.Proofs.Walk

/-!
# The guards of a walk

The compiler has two guards: it does not expand a name inside its own expansion, and it does not
enter more containers than the limit allows.  What they keep is said along a walk together with the
containers it has entered, since the depth of a visit and the names being expanded there are nothing
but their number and the names of the references among them.

* `Compiler.Guarded`: what the guards keep.
* `Compiler.Guarded.step`: every step of a walk keeps it.
* `Compiler.walk_keeps_guards`: compiling ends, and keeps its guards wherever it comes to.
-/

namespace DocSchema

/-! ## Routes -/

/-- The container that a declaration opens, if it is one. -/
def Node.container? : Node → Option Container
  | leaf _ _ | reference none _ => none
  | reference (some name) _ => some (.reference name)
  | arrayOf _ _ => some .array
  | object _ _ => some .object

/-- The name that a container is described under. -/
def Container.name? : Container → Option String
  | reference name => some name
  | array | object => none

/-- Whether a walk that starts at one visit comes to another one, and which containers it has
entered by then, the innermost one first. -/
inductive Compiler.Walk (compiler : Compiler) (origin : Visit) : List Container → Visit → Prop
  | start : Walk compiler origin [] origin
  | step {route : List Container} {caller callee : Visit} :
    Walk compiler origin route caller → compiler.Calls caller callee →
      Walk compiler origin (caller.node.container?.toList ++ route) callee

/-! ## What a walk keeps -/

namespace Compiler

/-- What holds of a visit that a walk comes to through some containers. -/
structure Guarded (compiler : Compiler) (route : List Container) (visit : Visit) : Prop where
  /-- The depth is the number of containers entered on the way. -/
  depth_eq : visit.depth = route.length
  /-- The names being expanded are those of the references entered on the way. -/
  expanding_eq : visit.expanding = route.filterMap Container.name?
  /-- No name is being expanded twice. -/
  nodup : visit.expanding.Nodup
  /-- All names being expanded are registered. -/
  registered : ∀ name ∈ visit.expanding, compiler.table.contains name = true
  /-- The limit is not exceeded. -/
  depth_le : visit.depth ≤ compiler.maxDepth

namespace Guarded

variable {compiler : Compiler} {route : List Container} {caller callee visit : Visit}

theorem start (compiler : Compiler) (node : Node) (path : Path) :
    compiler.Guarded [] (Visit.start node path) where
  depth_eq := rfl
  expanding_eq := rfl
  nodup := List.nodup_nil
  registered := by
    intro name hname
    cases hname
  depth_le := Nat.zero_le _

/-- Every step of a walk keeps to the limit and to the names of the table. -/
theorem step (h : compiler.Guarded route caller) (hcall : compiler.Calls caller callee) :
    compiler.Guarded (caller.node.container?.toList ++ route) callee := by
  cases hcall with
  | element hnode hlt =>
    rw [hnode]
    exact ⟨congrArg (· + 1) h.depth_eq, h.expanding_eq, h.nodup, h.registered, hlt⟩
  | field hnode hlt hfield =>
    rw [hnode]
    exact ⟨congrArg (· + 1) h.depth_eq, h.expanding_eq, h.nodup, h.registered, hlt⟩
  | @described name description required field hnode hd hname hlt hfield =>
    rw [hnode]
    have hregistered : compiler.table.contains name = true :=
      ReferenceTable.contains_iff.mpr ⟨description, hd⟩
    exact ⟨congrArg (· + 1) h.depth_eq, congrArg (name :: ·) h.expanding_eq,
      List.nodup_cons.mpr ⟨hname, h.nodup⟩,
      List.forall_mem_cons.mpr ⟨hregistered, h.registered⟩, hlt⟩

/-- There are no more names being expanded than containers around a declaration. -/
theorem length_expanding_le_depth (h : compiler.Guarded route visit) :
    visit.expanding.length ≤ visit.depth := by
  rw [h.expanding_eq, h.depth_eq]
  exact List.length_filterMap_le _ _

/-- There are no more names being expanded than names in the table. -/
theorem length_expanding_le_size (h : compiler.Guarded route visit) :
    visit.expanding.length ≤ compiler.table.size := by
  have hsub : visit.expanding ⊆ compiler.table.names := by
    intro name hname
    obtain ⟨description, hd⟩ := ReferenceTable.contains_iff.mp (h.registered name hname)
    exact Assoc.mem_names_of_get?_eq_some hd
  have hlength : compiler.table.names.length = compiler.table.size := List.length_map _
  rw [← hlength]
  exact (h.nodup.subperm hsub).length_le

end Guarded

/-- Wherever a walk comes to from the top level, it has kept its guards. -/
theorem Walk.guarded {compiler : Compiler} {node : Node} {path : Path} {route : List Container}
    {visit : Visit} (h : compiler.Walk (.start node path) route visit) :
    compiler.Guarded route visit := by
  induction h with
  | start => exact .start compiler node path
  | step _ hcall ih => exact ih.step hcall

/-- **Compiling ends, and keeps its guards on the way.**  An expansion is made of those of the
visits that the compiler goes on to, and it cannot go on for ever.  Wherever it comes to, the names
being expanded are distinct and registered, so that there are at most as many as in the table; there
are at most as many as containers around; the depth is the number of these containers; and it does
not exceed the limit, so that one more is still a machine word if the limit is one. -/
theorem walk_keeps_guards (compiler : Compiler) (hlimit : compiler.maxDepth < USize.size)
    (description : Description) :
    (∀ visit : Visit, visit.expansion compiler =
      (visit.layer compiler).build visit.node.isRequired (Visit.expansion compiler)) ∧
    (∀ caller callee : Visit,
      callee ∈ (caller.layer compiler).below ↔ compiler.Calls caller callee) ∧
    (WellFounded fun callee caller => compiler.Calls caller callee) ∧
    ∀ origin ∈ Visit.starts description, ∀ route visit, compiler.Walk origin route visit →
      visit.expanding.Nodup ∧
      (∀ name ∈ visit.expanding, compiler.table.contains name = true) ∧
      visit.expanding.length ≤ compiler.table.size ∧
      visit.expanding.length ≤ visit.depth ∧
      visit.depth = route.length ∧
      visit.depth ≤ compiler.maxDepth ∧
      (visit.depth < compiler.maxDepth → visit.depth + 1 < USize.size) := by
  refine ⟨Visit.expansion_eq compiler, fun _ _ => mem_below_layer_iff,
    calls_wellFounded compiler, ?_⟩
  intro origin horigin route visit hwalk
  obtain ⟨field, -, rfl⟩ := List.mem_map.mp horigin
  have hguarded : compiler.Guarded route visit := hwalk.guarded
  have hnext : visit.depth < compiler.maxDepth → visit.depth + 1 < USize.size := by omega
  exact ⟨hguarded.nodup, hguarded.registered, hguarded.length_expanding_le_size,
    hguarded.length_expanding_le_depth, hguarded.depth_eq, hguarded.depth_le, hnext⟩

/-- In the sample the compiler comes to the second cell of the list inside the expansion of the
first one. -/
theorem walk_to_second_cell_keeps_guards :
    (Compiler.mk Sample.table 3).maxDepth < USize.size ∧
    (Visit.start (.reference (some "Cell") true) (Path.root.field "head") ∈
      Visit.starts Sample.description) ∧
    Walk ⟨Sample.table, 3⟩ (.start (.reference (some "Cell") true) (Path.root.field "head"))
      [.reference "Cell"]
      ⟨.reference (some "Cell") false, 1, ["Cell"], (Path.root.field "head").field "next"⟩ ∧
    ["Cell"].Nodup ∧ (∀ name ∈ ["Cell"], Sample.table.contains name = true) ∧
    ["Cell"].length ≤ Sample.table.size ∧ ["Cell"].length ≤ 1 ∧
    1 = [Container.reference "Cell"].length ∧ 1 ≤ 3 ∧ (1 < 3 → 1 + 1 < USize.size) := by
  have hlimit : (Compiler.mk Sample.table 3).maxDepth < USize.size :=
    Nat.lt_of_lt_of_le (by decide) USize.le_size
  have horigin : Visit.start (.reference (some "Cell") true) (Path.root.field "head") ∈
      Visit.starts Sample.description := List.mem_cons_self
  have hfield : ("next", Node.reference (some "Cell") false) ∈ Sample.cell :=
    List.mem_cons_of_mem _ List.mem_cons_self
  have hcall : Calls ⟨Sample.table, 3⟩
      (.start (.reference (some "Cell") true) (Path.root.field "head"))
      ⟨.reference (some "Cell") false, 1, ["Cell"], (Path.root.field "head").field "next"⟩ :=
    .described rfl rfl List.not_mem_nil (by decide) hfield
  have hwalk := Walk.step Walk.start hcall
  obtain ⟨-, -, -, hguards⟩ := walk_keeps_guards ⟨Sample.table, 3⟩ hlimit Sample.description
  exact ⟨hlimit, horigin, hwalk, hguards _ horigin _ _ hwalk⟩

end Compiler

end DocSchema
