import DocSchema.Proofs.Walk
import Mathlib.Algebra.BigOperators.Group.Finset.Basic

/-!
# How much depth a description needs

A limit on the depth cuts off containers, and the log warns of each of them.  Without a warning
nothing was cut off, and then a higher limit changes nothing: the walk is the same, with the same
log and the same validators.

## How high the limit has to be

A walk enters the containers of a declaration one inside the other, and enters the description of a
name at most once on its way.  So it cannot enter more containers than are nested in the description
that it starts from and in all registered descriptions together.  What a visit may still need is
therefore the height of its declaration and the heights of the names that are not being expanded;
this and its depth together never grow on a walk.

* `Event.isTooDeep`: the warnings of the depth limit.
* `Compiler.layer_of_higher`: a visit that is not cut off is the same for a higher limit.
* `Node.height`, `ReferenceTable.reserve`: how deep containers are nested.
* `Compiler.Calls.deepest_le`: how deep a walk can get does not grow on the way.
* `Compiler.log_and_verdicts_settled`: without a warning a higher limit changes nothing, and a limit
  as high as all heights together makes for no warning.
-/

namespace DocSchema

/-- Whether an event warns of a container that the depth limit cut off. -/
def Event.isTooDeep : Event → Bool
  | tooDeep _ _ _ => true
  | _ => false

/-- The texts of these warnings. -/
theorem Event.isTooDeep_iff_message (event : Event) :
    event.isTooDeep = true ↔
      event.message = "max depth exceeded, checking array only" ∨
        event.message = "max depth exceeded, checking object only" := by
  rcases event with _ | _ | _ | _ | _ | _ | _ | ⟨_, _ | _ | _, _⟩ <;> simp [isTooDeep, message]

/-! ## Higher limits -/

theorem Layer.events_eq_of_ne_tooDeep {α : Type} {layer : Layer α}
    (h : ∀ container, layer ≠ .flat (.tooDeep container)) (path : Path) (limit higher : Nat) :
    layer.events path higher = layer.events path limit := by
  rcases layer with _ | _ | _ | (container | _ | _ | _)
  case flat.tooDeep => exact absurd rfl (h container)
  all_goals rfl

namespace Compiler

variable {compiler other : Compiler} {table : ReferenceTable} {limit higher : Nat}
  {description : Description} {origin caller callee visit : Visit}

theorem expandFields_eq_map (compiler : Compiler) (description : Description) :
    compiler.expandFields description =
      description.map fun field =>
        (field.1, (Visit.start field.2 (Path.root.field field.1)).expansion compiler) := rfl

/-- A visit that is not cut off is the same for a higher limit. -/
theorem layer_of_higher (hle : limit ≤ higher)
    (h : ∀ container, visit.layer ⟨table, limit⟩ ≠ .flat (.tooDeep container)) :
    visit.layer ⟨table, higher⟩ = visit.layer ⟨table, limit⟩ := by
  have hlayer := visit.outcome ⟨table, limit⟩
  generalize visit.layer ⟨table, limit⟩ = layer at hlayer h ⊢
  cases hlayer with
  | leaf hnode | unnamed hnode => simp only [Visit.layer, hnode]
  | unresolved hnode hd => exact Visit.layer_of_unresolved hnode hd
  | circular hnode hd hname => exact Visit.layer_of_circular hnode hd hname
  | described hnode hd hname hlt =>
    have hlt' : visit.depth < higher := Nat.lt_of_lt_of_le hlt hle
    exact Eq.trans (Visit.layer_of_described hnode hd hname) (Visit.enter_of_lt hlt')
  | arrayOf hnode hlt =>
    have hlt' : visit.depth < higher := Nat.lt_of_lt_of_le hlt hle
    exact Eq.trans (Visit.layer_of_arrayOf hnode) (Visit.enter_of_lt hlt')
  | object hnode hlt =>
    have hlt' : visit.depth < higher := Nat.lt_of_lt_of_le hlt hle
    exact Eq.trans (Visit.layer_of_object hnode) (Visit.enter_of_lt hlt')
  | referenceTooDeep _ _ _ _ | arrayTooDeep _ _ | objectTooDeep _ _ => exact absurd rfl (h _)

/-- Compilers that make the same of every visit of a walk walk the same way. -/
theorem visitsFrom_congr
    (h : ∀ visit, compiler.Reaches origin visit → visit.layer other = visit.layer compiler) :
    other.visitsFrom origin = compiler.visitsFrom origin := by
  induction origin using (calls_wellFounded compiler).induction with
  | h origin ih =>
    have hlayer : origin.layer other = origin.layer compiler := h origin .refl
    rw [visitsFrom_eq, visitsFrom_eq, hlayer]
    refine congrArg (origin :: ·) (List.flatMap_congr fun next hnext => ?_)
    have hcall : compiler.Calls origin next := mem_below_layer_iff.mp hnext
    exact ih next hcall fun visit hvisit => h visit (.head hcall hvisit)

/-- Compilers that make the same of every visit of a walk make the same expansion. -/
theorem expansion_congr
    (h : ∀ visit, compiler.Reaches origin visit → visit.layer other = visit.layer compiler) :
    origin.expansion other = origin.expansion compiler := by
  induction origin using (calls_wellFounded compiler).induction with
  | h origin ih =>
    have hlayer : origin.layer other = origin.layer compiler := h origin .refl
    rw [Visit.expansion_eq, Visit.expansion_eq, hlayer]
    refine Layer.build_congr fun next hnext => ?_
    have hcall : compiler.Calls origin next := mem_below_layer_iff.mp hnext
    exact ih next hcall fun visit hvisit => h visit (.head hcall hvisit)

/-- Without a warning no visit of the walk is cut off. -/
theorem layer_ne_tooDeep (h : ∀ event ∈ compiler.log description, event.isTooDeep = false)
    (horigin : origin ∈ Visit.starts description) (hvisit : compiler.Reaches origin visit)
    (container : Container) : visit.layer compiler ≠ .flat (.tooDeep container) := by
  intro hlayer
  have hevent : .tooDeep visit.path container compiler.maxDepth ∈ visit.events compiler :=
    Visit.tooDeep_mem_events_iff.mpr ⟨hlayer, rfl, rfl⟩
  have hfalse := h _ (mem_log_iff.mpr ⟨origin, horigin, visit, hvisit, hevent⟩)
  cases hfalse

/-- Without a warning a higher limit changes neither the log nor the validators. -/
theorem log_and_compile_of_higher (hle : limit ≤ higher)
    (h : ∀ event ∈ log ⟨table, limit⟩ description, event.isTooDeep = false) :
    log ⟨table, higher⟩ description = log ⟨table, limit⟩ description ∧
      compile ⟨table, higher⟩ description = compile ⟨table, limit⟩ description := by
  have hsame : ∀ origin ∈ Visit.starts description, ∀ visit,
      Reaches ⟨table, limit⟩ origin visit →
        visit.layer ⟨table, higher⟩ = visit.layer ⟨table, limit⟩ :=
    fun origin horigin visit hvisit =>
      layer_of_higher hle (layer_ne_tooDeep h horigin hvisit)
  constructor
  · have hvisits : visits ⟨table, higher⟩ description = visits ⟨table, limit⟩ description :=
      List.flatMap_congr fun origin horigin => visitsFrom_congr (hsame origin horigin)
    rw [log_eq_flatMap_events, log_eq_flatMap_events, hvisits]
    refine List.flatMap_congr fun visit hvisit => ?_
    obtain ⟨origin, horigin, hmem⟩ := List.mem_flatMap.mp hvisit
    have hreaches := mem_visitsFrom_iff.mp hmem
    rw [Visit.events, Visit.events, hsame origin horigin visit hreaches]
    exact congrArg (_ :: ·)
      (Layer.events_eq_of_ne_tooDeep (layer_ne_tooDeep h horigin hreaches) visit.path limit higher)
  · have hexpand : expandFields ⟨table, higher⟩ description =
        expandFields ⟨table, limit⟩ description := by
      rw [expandFields_eq_map, expandFields_eq_map]
      refine List.map_congr_left fun field hfield => ?_
      have horigin : Visit.start field.2 (Path.root.field field.1) ∈ Visit.starts description :=
        List.mem_map_of_mem hfield
      exact congrArg (Prod.mk field.1) (expansion_congr (hsame _ horigin))
    rw [compile, compile, hexpand]

end Compiler

/-! ## Heights -/

namespace Node

mutual

/-- How many containers are nested in a declaration at most.  A reference is one of them, but not
what its description contains. -/
def height : Node → Nat
  | leaf _ _ => 0
  | reference _ _ => 1
  | arrayOf element _ => 1 + element.height
  | object fields _ => 1 + fieldsHeight fields

/-- How many containers are nested in the declarations of fields at most. -/
def fieldsHeight : List (String × Node) → Nat
  | [] => 0
  | (_, node) :: rest => max node.height (fieldsHeight rest)

end

theorem height_le_fieldsHeight {fields : List (String × Node)} {field : String × Node}
    (h : field ∈ fields) : field.2.height ≤ fieldsHeight fields := by
  induction fields with
  | nil => cases h
  | cons first rest ih =>
    obtain ⟨name, node⟩ := first
    rw [fieldsHeight]
    rcases List.mem_cons.mp h with rfl | hrest
    · exact Nat.le_max_left _ _
    · exact Nat.le_trans (ih hrest) (Nat.le_max_right _ _)

end Node

namespace ReferenceTable

/-- How many containers are nested in the description of a name. -/
def height (table : ReferenceTable) (name : String) : Nat :=
  (table.get? name).elim 0 Node.fieldsHeight

/-- The heights of the registered names that are not being expanded, together. -/
def reserve (table : ReferenceTable) (expanding : List String) : Nat :=
  ∑ name ∈ table.names.toFinset \ expanding.toFinset, table.height name

theorem reserve_nil (table : ReferenceTable) :
    table.reserve [] = ∑ name ∈ table.names.toFinset, table.height name := by
  rw [reserve, List.toFinset_nil, Finset.sdiff_empty]

/-- Expanding a name takes its height out of the reserve. -/
theorem reserve_eq_of_described {table : ReferenceTable} {expanding : List String} {name : String}
    {description : Description} (hd : table.get? name = some description)
    (hname : name ∉ expanding) :
    table.reserve expanding =
      Node.fieldsHeight description + table.reserve (name :: expanding) := by
  have hmem : name ∈ table.names.toFinset \ expanding.toFinset := by
    rw [Finset.mem_sdiff, List.mem_toFinset, List.mem_toFinset]
    exact ⟨Assoc.mem_names_of_get?_eq_some hd, hname⟩
  have hheight : table.height name = Node.fieldsHeight description := by
    rw [height, hd]
    rfl
  rw [reserve, reserve, List.toFinset_cons, Finset.sdiff_insert, ← hheight,
    Finset.add_sum_erase _ _ hmem]

end ReferenceTable

/-- How deep a walk can get from a visit on. -/
def Visit.deepest (table : ReferenceTable) (visit : Visit) : Nat :=
  visit.depth + visit.node.height + table.reserve visit.expanding

namespace Compiler

variable {compiler : Compiler} {description : Description} {origin caller callee visit : Visit}

/-- How deep a walk can get does not grow on the way. -/
theorem Calls.deepest_le (h : compiler.Calls caller callee) :
    callee.deepest compiler.table ≤ caller.deepest compiler.table := by
  cases h with
  | element hnode _ =>
    simp only [Visit.deepest, hnode, Node.height]
    omega
  | field hnode _ hfield =>
    have hheight := Node.height_le_fieldsHeight hfield
    simp only [Visit.deepest, hnode, Node.height]
    omega
  | described hnode hd hname _ hfield =>
    have hheight := Node.height_le_fieldsHeight hfield
    have hreserve := ReferenceTable.reserve_eq_of_described hd hname
    simp only [Visit.deepest, hnode, Node.height, hreserve]
    omega

theorem Reaches.deepest_le (h : compiler.Reaches origin visit) :
    visit.deepest compiler.table ≤ origin.deepest compiler.table := by
  induction h with
  | refl => exact Nat.le_refl _
  | tail _ hcall ih => exact Nat.le_trans hcall.deepest_le ih

/-- A container that is cut off lies at the limit and could have been entered. -/
theorem lt_deepest_of_tooDeep {container : Container}
    (h : visit.layer compiler = .flat (.tooDeep container)) :
    compiler.maxDepth < visit.deepest compiler.table := by
  have hlayer := visit.outcome compiler
  rw [h] at hlayer
  cases hlayer with
  | referenceTooDeep hnode _ _ hle | arrayTooDeep hnode hle | objectTooDeep hnode hle =>
    rw [Visit.deepest, hnode, Node.height]
    omega

/-- **A limit settles the log and the verdicts as soon as it makes for no warning.**  If the log has
no warning of the depth limit, all higher limits have the same log and the same verdicts on all
documents.  There is no such warning once the limit is as high as the description and all registered
descriptions together, whatever cycles there are. -/
theorem log_and_verdicts_settled (table : ReferenceTable) (limit : Nat)
    (description : Description) :
    ((∀ event ∈ log ⟨table, limit⟩ description, event.isTooDeep = false) →
      ∀ higher, limit ≤ higher →
        log ⟨table, higher⟩ description = log ⟨table, limit⟩ description ∧
        ∀ document label,
          (compile ⟨table, higher⟩ description).validate document label =
            (compile ⟨table, limit⟩ description).validate document label) ∧
    (Node.fieldsHeight description + ∑ name ∈ table.names.toFinset, table.height name ≤ limit →
      ∀ event ∈ log ⟨table, limit⟩ description, event.isTooDeep = false) := by
  constructor
  · intro h higher hle
    obtain ⟨hlog, hcompile⟩ := log_and_compile_of_higher hle h
    refine ⟨hlog, fun document label => ?_⟩
    rw [hcompile]
  · intro hlimit event hevent
    obtain ⟨origin, horigin, visit, hvisit, hmem⟩ := mem_log_iff.mp hevent
    obtain ⟨field, hfield, rfl⟩ := List.mem_map.mp horigin
    cases event with
    | tooDeep path container maxDepth =>
      -- a container that is cut off would be deeper than all heights together
      obtain ⟨hlayer, -, -⟩ := Visit.tooDeep_mem_events_iff.mp hmem
      have hlow : limit < visit.deepest table := lt_deepest_of_tooDeep hlayer
      have hhigh : visit.deepest table ≤
          0 + field.2.height + table.reserve [] := hvisit.deepest_le
      have hheight : field.2.height ≤ Node.fieldsHeight description :=
        Node.height_le_fieldsHeight hfield
      rw [ReferenceTable.reserve_nil] at hhigh
      omega
    | _ => rfl

/-- The sample needs a limit of two, and its heights say that three is enough. -/
theorem log_and_verdicts_of_sample_settled :
    ((∀ event ∈ log ⟨Sample.table, 2⟩ Sample.description, event.isTooDeep = false) ∧ 2 ≤ 4 ∧
      Node.fieldsHeight Sample.description +
        ∑ name ∈ Sample.table.names.toFinset, Sample.table.height name ≤ 3) ∧
    (log ⟨Sample.table, 4⟩ Sample.description = log ⟨Sample.table, 2⟩ Sample.description ∧
      ∀ document label,
        (compile ⟨Sample.table, 4⟩ Sample.description).validate document label =
          (compile ⟨Sample.table, 2⟩ Sample.description).validate document label) ∧
    ∀ event ∈ log ⟨Sample.table, 3⟩ Sample.description, event.isTooDeep = false := by
  have hwarnings : ∀ event ∈ log ⟨Sample.table, 2⟩ Sample.description,
      event.isTooDeep = false := by decide
  have hheights : Node.fieldsHeight Sample.description +
      ∑ name ∈ Sample.table.names.toFinset, Sample.table.height name ≤ 3 := by decide
  obtain ⟨hhigher, -⟩ := log_and_verdicts_settled Sample.table 2 Sample.description
  obtain ⟨-, henough⟩ := log_and_verdicts_settled Sample.table 3 Sample.description
  exact ⟨⟨hwarnings, by decide, hheights⟩, hhigher hwarnings 4 (by decide), henough hheights⟩

/-- With a limit of one, the cells of the array are cut off. -/
example : (log ⟨Sample.table, 1⟩ Sample.description).filter Event.isTooDeep =
    [.tooDeep (Path.root.field "spare") (.reference "Cell") 1] := by
  decide

end Compiler

end DocSchema
