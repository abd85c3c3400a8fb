import DocSchema.Proofs.Inlining
import Mathlib.Logic.Relation

/-!
# The walk of the compiler

Compiling a description is a walk over declarations.  The compiler comes to a declaration knowing
how many containers it has entered, which names it is expanding and on which path it is; there it
either stops, with a check of its own, or enters a container and goes on to the declarations in it.
An expansion is what such a walk leaves behind, and the log is what it says on the way.

The walk counts containers up from the root, while an expansion is made with the levels that are
left.  The two meet in `Visit.expansion`.

## Why the walk ends

It goes into descriptions that stand elsewhere in the table, so the declarations do not get smaller
on the way.  But the name of such a description is new among those being expanded: either there are
fewer registered names left, or there are as many and the declaration is smaller.  The depth limit
is not needed for that.

* `Visit`, `Visit.layer`: a place on the walk, and what the compiler makes of it by itself.
* `Visit.expansion_eq`: an expansion is made of the layers of a walk.
* `Compiler.Calls`, `Compiler.Reaches`: one step of a walk, and the places that it comes to.
* `Compiler.calls_wellFounded`: no walk goes on for ever.
* `Compiler.log_eq_flatMap_events`: the log is what the visits of a walk report, in order.
-/

namespace DocSchema

/-! ## Layers -/

/-- One level of an expansion, with something else in place of what lies below it. -/
inductive Layer (α : Type) where
  | leaf (kind : Leaf)
  | arrayOf (element : α)
  /-- An object, with the name of its description if it was a reference. -/
  | object (fields : List (String × α)) (name : Option String)
  | flat (reason : Flattening)

namespace Layer

variable {α : Type}

/-- What lies below, in order. -/
def below : Layer α → List α
  | leaf _ | flat _ => []
  | arrayOf element => [element]
  | object fields _ => fields.map Prod.snd

/-- The expansion with this level, when it is known what the parts below expand to. -/
def build (required : Bool) (expand : α → Expansion) : Layer α → Expansion
  | leaf kind => .leaf kind required
  | arrayOf element => .arrayOf (expand element) required
  | object fields name =>
    .object (fields.map fun field => (field.1, expand field.2)) name required
  | flat reason => .flat reason required

/-- What is reported of a level beside that it is compiled. -/
def events (path : Path) (maxDepth : Nat) : Layer α → List Event
  | leaf _ | arrayOf _ => []
  | object _ name => (name.map (Event.resolved path)).toList
  | flat reason => reason.events path maxDepth

/-- An expansion only depends on what the parts below expand to. -/
theorem build_congr {layer : Layer α} {required : Bool} {f g : α → Expansion}
    (h : ∀ a ∈ layer.below, f a = g a) : layer.build required f = layer.build required g := by
  cases layer with
  | leaf kind | flat reason => rfl
  | arrayOf element =>
    have helement : f element = g element := h element List.mem_cons_self
    rw [build, build, helement]
  | object fields name =>
    rw [build, build]
    refine congrArg (Expansion.object · name required) (List.map_congr_left fun field hfield => ?_)
    have hbelow : f field.2 = g field.2 := h field.2 (List.mem_map_of_mem hfield)
    exact congrArg (Prod.mk field.1) hbelow

end Layer

/-! ## Visits -/

/-- A declaration that the compiler comes to, and what it knows there. -/
structure Visit where
  node : Node
  /-- The number of containers around the declaration. -/
  depth : Nat
  /-- The names being expanded there, the innermost one first. -/
  expanding : List String
  /-- The path in the log. -/
  path : Path

namespace Visit

/-- The visit of a declaration at the top level, under a path. -/
def start (node : Node) (path : Path) : Visit :=
  ⟨node, 0, [], path⟩

/-- The visits of the fields of a description at the top level. -/
def starts (description : Description) : List Visit :=
  description.map fun (name, node) => start node (Path.root.field name)

/-- The visits of fields inside the container of a visit, while some names are being expanded. -/
def inside (visit : Visit) (expanding : List String) (fields : Description) :
    List (String × Visit) :=
  fields.map fun (name, node) =>
    (name, ⟨node, visit.depth + 1, expanding, visit.path.field name⟩)

/-- What the compiler makes of a container: it goes inside unless it has entered as many containers
as the limit allows. -/
def enter (visit : Visit) (compiler : Compiler) (container : Container) (inner : Layer Visit) :
    Layer Visit :=
  if visit.depth < compiler.maxDepth then inner else .flat (.tooDeep container)

/-- What the compiler makes of a visit by itself, and the visits that it goes on to. -/
def layer (compiler : Compiler) (visit : Visit) : Layer Visit :=
  match visit.node with
  | .leaf kind _ => .leaf kind
  | .reference none _ => .flat .unnamed
  | .reference (some name) _ =>
    match compiler.table.get? name with
    | none => .flat (.unresolved name)
    | some description =>
      if name ∈ visit.expanding then .flat (.circular name)
      else visit.enter compiler (.reference name)
        (.object (visit.inside (name :: visit.expanding) description) (some name))
  | .arrayOf element _ =>
    visit.enter compiler .array
      (.arrayOf ⟨element, visit.depth + 1, visit.expanding, visit.path⟩)
  | .object fields _ =>
    visit.enter compiler .object (.object (visit.inside visit.expanding fields) none)

/-- The expansion of the declaration of a visit. -/
def expansion (compiler : Compiler) (visit : Visit) : Expansion :=
  .of compiler.table (compiler.maxDepth - visit.depth) visit.expanding visit.node

/-- What is reported of a visit, without what is reported of those that it goes on to. -/
def events (compiler : Compiler) (visit : Visit) : List Event :=
  .compiling visit.path visit.node.isRequired
    :: (visit.layer compiler).events visit.path compiler.maxDepth

/-- All that is reported from a visit on. -/
def log (compiler : Compiler) (visit : Visit) : List Event :=
  (visit.expansion compiler).events compiler.maxDepth visit.path

/-! ## One level of a walk -/

variable {compiler : Compiler} {visit : Visit} {container : Container} {inner : Layer Visit}
  {name : String} {description fields : Description} {element : Node} {required : Bool}

theorem enter_of_lt (hlt : visit.depth < compiler.maxDepth) :
    visit.enter compiler container inner = inner := by
  rw [enter, if_pos hlt]

theorem enter_of_not_lt (hnot : ¬ visit.depth < compiler.maxDepth) :
    visit.enter compiler container inner = .flat (.tooDeep container) := by
  rw [enter, if_neg hnot]

theorem lt_maxDepth_of_ne_tooDeep
    (hlayer : visit.layer compiler = visit.enter compiler container inner)
    (h : visit.layer compiler ≠ .flat (.tooDeep container)) : visit.depth < compiler.maxDepth := by
  by_contra hnot
  exact h (hlayer.trans (enter_of_not_lt hnot))

theorem layer_of_unresolved (hnode : visit.node = .reference (some name) required)
    (hd : compiler.table.get? name = none) : visit.layer compiler = .flat (.unresolved name) := by
  simp only [layer, hnode, hd]

theorem layer_of_circular (hnode : visit.node = .reference (some name) required)
    (hd : compiler.table.get? name = some description) (hname : name ∈ visit.expanding) :
    visit.layer compiler = .flat (.circular name) := by
  simp only [layer, hnode, hd, if_pos hname]

theorem layer_of_described (hnode : visit.node = .reference (some name) required)
    (hd : compiler.table.get? name = some description) (hname : name ∉ visit.expanding) :
    visit.layer compiler = visit.enter compiler (.reference name)
      (.object (visit.inside (name :: visit.expanding) description) (some name)) := by
  simp only [layer, hnode, hd, if_neg hname]

theorem layer_of_arrayOf (hnode : visit.node = .arrayOf element required) :
    visit.layer compiler = visit.enter compiler .array
      (.arrayOf ⟨element, visit.depth + 1, visit.expanding, visit.path⟩) := by
  simp only [layer, hnode]

theorem layer_of_object (hnode : visit.node = .object fields required) :
    visit.layer compiler = visit.enter compiler .object
      (.object (visit.inside visit.expanding fields) none) := by
  simp only [layer, hnode]

/-- What the compiler makes of a visit, case by case, and on what condition. -/
inductive Outcome (compiler : Compiler) (visit : Visit) : Layer Visit → Prop
  | leaf {kind : Leaf} {required : Bool} :
    visit.node = .leaf kind required → Outcome compiler visit (.leaf kind)
  | unnamed {required : Bool} :
    visit.node = .reference none required → Outcome compiler visit (.flat .unnamed)
  | unresolved {name : String} {required : Bool} :
    visit.node = .reference (some name) required → compiler.table.get? name = none →
      Outcome compiler visit (.flat (.unresolved name))
  | circular {name : String} {description : Description} {required : Bool} :
    visit.node = .reference (some name) required →
      compiler.table.get? name = some description → name ∈ visit.expanding →
      Outcome compiler visit (.flat (.circular name))
  | described {name : String} {description : Description} {required : Bool} :
    visit.node = .reference (some name) required →
      compiler.table.get? name = some description → name ∉ visit.expanding →
      visit.depth < compiler.maxDepth →
      Outcome compiler visit
        (.object (visit.inside (name :: visit.expanding) description) (some name))
  | arrayOf {element : Node} {required : Bool} :
    visit.node = .arrayOf element required → visit.depth < compiler.maxDepth →
      Outcome compiler visit
        (.arrayOf ⟨element, visit.depth + 1, visit.expanding, visit.path⟩)
  | object {fields : Description} {required : Bool} :
    visit.node = .object fields required → visit.depth < compiler.maxDepth →
      Outcome compiler visit (.object (visit.inside visit.expanding fields) none)
  | referenceTooDeep {name : String} {description : Description} {required : Bool} :
    visit.node = .reference (some name) required →
      compiler.table.get? name = some description → name ∉ visit.expanding →
      compiler.maxDepth ≤ visit.depth →
      Outcome compiler visit (.flat (.tooDeep (.reference name)))
  | arrayTooDeep {element : Node} {required : Bool} :
    visit.node = .arrayOf element required → compiler.maxDepth ≤ visit.depth →
      Outcome compiler visit (.flat (.tooDeep .array))
  | objectTooDeep {fields : Description} {required : Bool} :
    visit.node = .object fields required → compiler.maxDepth ≤ visit.depth →
      Outcome compiler visit (.flat (.tooDeep .object))

/-- The fields inside a container expand with one level less. -/
theorem map_expansion_inside (visit : Visit) (expanding : List String) (fields : Description) :
    ((visit.inside expanding fields).map fun field => (field.1, field.2.expansion compiler)) =
      Expansion.ofFields compiler.table (compiler.maxDepth - (visit.depth + 1)) expanding
        fields := by
  rw [inside, List.map_map, Expansion.ofFields]
  rfl

theorem outcome (compiler : Compiler) (visit : Visit) :
    visit.Outcome compiler (visit.layer compiler) := by
  obtain ⟨node, depth, expanding, path⟩ := visit
  cases node with
  | leaf kind required => exact .leaf rfl
  | reference reference required =>
    rcases reference with _ | name
    · exact .unnamed rfl
    cases hd : compiler.table.get? name with
    | none =>
      rw [layer_of_unresolved rfl hd]
      exact .unresolved rfl hd
    | some description =>
      by_cases hname : name ∈ expanding
      · rw [layer_of_circular rfl hd hname]
        exact .circular rfl hd hname
      rw [layer_of_described rfl hd hname]
      by_cases hlt : depth < compiler.maxDepth
      · rw [enter_of_lt hlt]
        exact .described rfl hd hname hlt
      · rw [enter_of_not_lt hlt]
        exact .referenceTooDeep rfl hd hname (Nat.not_lt.mp hlt)
  | arrayOf element required =>
    rw [layer_of_arrayOf rfl]
    by_cases hlt : depth < compiler.maxDepth
    · rw [enter_of_lt hlt]
      exact .arrayOf rfl hlt
    · rw [enter_of_not_lt hlt]
      exact .arrayTooDeep rfl (Nat.not_lt.mp hlt)
  | object fields required =>
    rw [layer_of_object rfl]
    by_cases hlt : depth < compiler.maxDepth
    · rw [enter_of_lt hlt]
      exact .object rfl hlt
    · rw [enter_of_not_lt hlt]
      exact .objectTooDeep rfl (Nat.not_lt.mp hlt)

/-- **An expansion is made of the layers of a walk.**  At every visit the compiler decides what it
decides by itself, and uses the expansions of the visits that it goes on to, and nothing else. -/
theorem expansion_eq (compiler : Compiler) (visit : Visit) :
    visit.expansion compiler =
      (visit.layer compiler).build visit.node.isRequired (expansion compiler) := by
  have hlevel (hlt : visit.depth < compiler.maxDepth) :
      compiler.maxDepth - visit.depth = compiler.maxDepth - (visit.depth + 1) + 1 := by omega
  have hlayer := visit.outcome compiler
  generalize visit.layer compiler = layer at hlayer ⊢
  cases hlayer with
  | leaf hnode | unnamed hnode =>
    rw [expansion, hnode, Expansion.of]
    rfl
  | unresolved hnode hd =>
    simp only [expansion, hnode, Expansion.of, hd]
    rfl
  | circular hnode hd hname =>
    simp only [expansion, hnode, Expansion.of, hd, if_pos hname]
    rfl
  | described hnode hd hname hlt =>
    rw [Layer.build, map_expansion_inside, expansion, hnode, hlevel hlt,
      Expansion.of_reference_of_resolved hd hname]
    rfl
  | arrayOf hnode hlt =>
    rw [expansion, hnode, hlevel hlt, Expansion.of]
    rfl
  | object hnode hlt =>
    rw [Layer.build, map_expansion_inside, expansion, hnode, hlevel hlt, Expansion.of_object_succ]
    rfl
  | referenceTooDeep hnode hd hname hle =>
    simp only [expansion, hnode, Nat.sub_eq_zero_of_le hle, Expansion.of, hd, if_neg hname]
    rfl
  | arrayTooDeep hnode hle | objectTooDeep hnode hle =>
    rw [expansion, hnode, Nat.sub_eq_zero_of_le hle, Expansion.of]
    rfl

theorem fieldEvents_eq_flatMap (maxDepth : Nat) (path : Path)
    (fields : List (String × Expansion)) :
    Expansion.fieldEvents maxDepth path fields =
      fields.flatMap fun field => field.2.events maxDepth (path.field field.1) := by
  induction fields with
  | nil => rfl
  | cons field rest ih => rw [Expansion.fieldEvents, ih, List.flatMap_cons]

/-- The fields inside a container report under its path. -/
theorem fieldEvents_inside (visit : Visit) (expanding : List String) (fields : Description) :
    Expansion.fieldEvents compiler.maxDepth visit.path
        ((visit.inside expanding fields).map fun field =>
          (field.1, field.2.expansion compiler)) =
      ((visit.inside expanding fields).map Prod.snd).flatMap (log compiler) := by
  rw [fieldEvents_eq_flatMap, inside, List.map_map, List.flatMap_map, List.map_map,
    List.flatMap_map]
  rfl

/-- Every part of an expansion is reported before what lies below it. -/
theorem log_eq (compiler : Compiler) (visit : Visit) :
    visit.log compiler =
      visit.events compiler ++ (visit.layer compiler).below.flatMap (log compiler) := by
  have hlayer := visit.outcome compiler
  rw [log, expansion_eq, events]
  generalize visit.layer compiler = layer at hlayer ⊢
  cases hlayer with
  | leaf _ => rfl
  | unnamed _ | unresolved _ _ | circular _ _ _ | referenceTooDeep _ _ _ _ | arrayTooDeep _ _
  | objectTooDeep _ _ =>
    rw [Layer.build, Expansion.events, Layer.below, List.flatMap_nil, List.append_nil]
    rfl
  | arrayOf _ _ =>
    rw [Layer.build, Expansion.events, Layer.below, List.flatMap_singleton]
    rfl
  | described _ _ _ _ | object _ _ =>
    rw [Layer.build, Expansion.events, fieldEvents_inside]
    rfl

/-! ## What a visit reports -/

theorem tooDeep_mem_events_iff {path : Path} {limit : Nat} :
    .tooDeep path container limit ∈ visit.events compiler ↔
      visit.layer compiler = .flat (.tooDeep container) ∧ path = visit.path ∧
        limit = compiler.maxDepth := by
  rw [events]
  generalize visit.layer compiler = layer
  rcases layer with _ | _ | ⟨_, _ | _⟩ | reason
  case flat =>
    cases reason <;> simp [Layer.events, Flattening.events]
    tauto
  all_goals simp [Layer.events]

theorem circular_mem_events_iff {path : Path} :
    .circular path name ∈ visit.events compiler ↔
      visit.layer compiler = .flat (.circular name) ∧ path = visit.path := by
  rw [events]
  generalize visit.layer compiler = layer
  rcases layer with _ | _ | ⟨_, _ | _⟩ | reason
  case flat =>
    cases reason <;> simp [Layer.events, Flattening.events]
    tauto
  all_goals simp [Layer.events]

theorem unresolved_mem_events_iff {path : Path} :
    .unresolved path name ∈ visit.events compiler ↔
      visit.layer compiler = .flat (.unresolved name) ∧ path = visit.path := by
  rw [events]
  generalize visit.layer compiler = layer
  rcases layer with _ | _ | ⟨_, _ | _⟩ | reason
  case flat =>
    cases reason <;> simp [Layer.events, Flattening.events]
    tauto
  all_goals simp [Layer.events]

theorem mem_map_inside_iff {next : Visit} {expanding : List String} :
    next ∈ (visit.inside expanding fields).map Prod.snd ↔
      ∃ field ∈ fields,
        next = ⟨field.2, visit.depth + 1, expanding, visit.path.field field.1⟩ := by
  rw [inside, List.map_map, List.mem_map]
  exact exists_congr fun field => and_congr_right fun _ => eq_comm

end Visit

/-! ## Walks -/

namespace Compiler

/-- Whether the compiler goes on from one visit to another: from an array to its element, from an
object to a field, and from a reference to a field of its description. -/
inductive Calls (compiler : Compiler) (caller : Visit) : Visit → Prop
  | element {element : Node} {required : Bool} :
    caller.node = .arrayOf element required → caller.depth < compiler.maxDepth →
      Calls compiler caller ⟨element, caller.depth + 1, caller.expanding, caller.path⟩
  | field {fields : Description} {required : Bool} {field : String × Node} :
    caller.node = .object fields required → caller.depth < compiler.maxDepth → field ∈ fields →
      Calls compiler caller
        ⟨field.2, caller.depth + 1, caller.expanding, caller.path.field field.1⟩
  | described {name : String} {description : Description} {required : Bool}
    {field : String × Node} :
    caller.node = .reference (some name) required →
      compiler.table.get? name = some description → name ∉ caller.expanding →
      caller.depth < compiler.maxDepth → field ∈ description →
      Calls compiler caller
        ⟨field.2, caller.depth + 1, name :: caller.expanding, caller.path.field field.1⟩

variable {compiler : Compiler} {origin caller callee visit : Visit}

/-- The visits below a layer are those that the compiler goes on to. -/
theorem mem_below_layer_iff :
    callee ∈ (caller.layer compiler).below ↔ compiler.Calls caller callee := by
  constructor
  · intro h
    have hlayer := caller.outcome compiler
    generalize caller.layer compiler = layer at hlayer h
    cases hlayer with
    | leaf _ | unnamed _ | unresolved _ _ | circular _ _ _ | referenceTooDeep _ _ _ _
    | arrayTooDeep _ _ | objectTooDeep _ _ => cases h
    | arrayOf hnode hlt =>
      rw [List.mem_singleton.mp h]
      exact .element hnode hlt
    | object hnode hlt =>
      obtain ⟨field, hfield, rfl⟩ := Visit.mem_map_inside_iff.mp h
      exact .field hnode hlt hfield
    | described hnode hd hname hlt =>
      obtain ⟨field, hfield, rfl⟩ := Visit.mem_map_inside_iff.mp h
      exact .described hnode hd hname hlt hfield
  · intro h
    cases h with
    | element hnode hlt =>
      rw [Visit.layer_of_arrayOf hnode, Visit.enter_of_lt hlt]
      exact List.mem_singleton.mpr rfl
    | field hnode hlt hfield =>
      rw [Visit.layer_of_object hnode, Visit.enter_of_lt hlt]
      exact Visit.mem_map_inside_iff.mpr ⟨_, hfield, rfl⟩
    | described hnode hd hname hlt hfield =>
      rw [Visit.layer_of_described hnode hd hname, Visit.enter_of_lt hlt]
      exact Visit.mem_map_inside_iff.mpr ⟨_, hfield, rfl⟩

/-- Going on, the compiler has fewer registered names left to expand, or as many and a smaller
declaration. -/
theorem Calls.decreases (h : compiler.Calls caller callee) :
    Prod.Lex (· < ·) (· < ·)
      (compiler.table.unexpanded callee.expanding, sizeOf callee.node)
      (compiler.table.unexpanded caller.expanding, sizeOf caller.node) := by
  cases h with
  | @element element required hnode _ =>
    refine Prod.Lex.right _ ?_
    rw [hnode, Node.arrayOf.sizeOf_spec]
    show sizeOf element < _
    omega
  | @field fields required field hnode _ hfield =>
    refine Prod.Lex.right _ ?_
    have hmem : sizeOf field < sizeOf fields := List.sizeOf_lt_of_mem hfield
    have hpair : sizeOf field = 1 + sizeOf field.1 + sizeOf field.2 := rfl
    rw [hnode, Node.object.sizeOf_spec]
    show sizeOf field.2 < _
    omega
  | described _ hd hname _ _ =>
    exact Prod.Lex.left _ _ (ReferenceTable.unexpanded_cons_lt hd hname)

/-- **No walk goes on for ever**, whatever the table and the limit. -/
theorem calls_wellFounded (compiler : Compiler) :
    WellFounded fun callee caller => compiler.Calls caller callee :=
  Subrelation.wf Calls.decreases <|
    InvImage.wf
      (fun visit : Visit => (compiler.table.unexpanded visit.expanding, sizeOf visit.node))
      (Prod.lex Nat.lt_wfRel Nat.lt_wfRel).wf

/-- Whether a walk that starts at one visit comes to another one. -/
def Reaches (compiler : Compiler) : Visit → Visit → Prop :=
  Relation.ReflTransGen compiler.Calls

/-! ## All visits of a walk -/

/-- All visits from one on, in the order in which the compiler comes to them. -/
def visitsFrom (compiler : Compiler) (visit : Visit) : List Visit :=
  visit :: (visit.layer compiler).below.attach.flatMap fun next => visitsFrom compiler next.1
termination_by (compiler.table.unexpanded visit.expanding, sizeOf visit.node)
decreasing_by exact Calls.decreases (mem_below_layer_iff.mp next.2)

/-- All visits of the walk over a description. -/
def visits (compiler : Compiler) (description : Description) : List Visit :=
  (Visit.starts description).flatMap compiler.visitsFrom

theorem visitsFrom_eq (compiler : Compiler) (visit : Visit) :
    compiler.visitsFrom visit =
      visit :: (visit.layer compiler).below.flatMap compiler.visitsFrom := by
  rw [visitsFrom, ← List.flatMap_map Subtype.val compiler.visitsFrom,
    List.attach_map_subtype_val]

theorem mem_visitsFrom_self (compiler : Compiler) (visit : Visit) :
    visit ∈ compiler.visitsFrom visit := by
  rw [visitsFrom_eq]
  exact List.mem_cons_self

theorem mem_visitsFrom_of_calls (hcall : compiler.Calls origin caller)
    (h : visit ∈ compiler.visitsFrom caller) : visit ∈ compiler.visitsFrom origin := by
  rw [visitsFrom_eq]
  exact List.mem_cons_of_mem _
    (List.mem_flatMap.mpr ⟨caller, mem_below_layer_iff.mpr hcall, h⟩)

/-- The visits from one on are those that a walk comes to. -/
theorem mem_visitsFrom_iff :
    visit ∈ compiler.visitsFrom origin ↔ compiler.Reaches origin visit := by
  constructor
  · intro h
    induction origin using (calls_wellFounded compiler).induction with
    | h origin ih =>
      rw [visitsFrom_eq, List.mem_cons, List.mem_flatMap] at h
      rcases h with rfl | ⟨next, hnext, h⟩
      · exact .refl
      · have hcall := mem_below_layer_iff.mp hnext
        exact .head hcall (ih next hcall h)
  · intro h
    induction h using Relation.ReflTransGen.head_induction_on with
    | refl => exact mem_visitsFrom_self compiler visit
    | head hcall _ ih => exact mem_visitsFrom_of_calls hcall ih

/-- All that is reported from a visit on is reported of the visits from there on. -/
theorem log_eq_flatMap_visitsFrom (compiler : Compiler) (visit : Visit) :
    visit.log compiler = (compiler.visitsFrom visit).flatMap (Visit.events compiler) := by
  induction visit using (calls_wellFounded compiler).induction with
  | h visit ih =>
    have hbelow : (visit.layer compiler).below.flatMap (Visit.log compiler) =
        (visit.layer compiler).below.flatMap fun next =>
          (compiler.visitsFrom next).flatMap (Visit.events compiler) :=
      List.flatMap_congr fun next hnext => ih next (mem_below_layer_iff.mp hnext)
    rw [Visit.log_eq, visitsFrom_eq, List.flatMap_cons, List.flatMap_assoc, hbelow]

/-- **The log is what the visits of the walk report**, one after the other. -/
theorem log_eq_flatMap_events (compiler : Compiler) (description : Description) :
    compiler.log description =
      (compiler.visits description).flatMap (Visit.events compiler) := by
  have hstarts : compiler.log description =
      (Visit.starts description).flatMap (Visit.log compiler) := by
    rw [log, expandFields, Expansion.ofFields, Visit.fieldEvents_eq_flatMap, List.flatMap_map,
      Visit.starts, List.flatMap_map]
    rfl
  rw [hstarts, visits, List.flatMap_assoc]
  exact List.flatMap_congr fun visit _ => compiler.log_eq_flatMap_visitsFrom visit

theorem mem_log_iff {description : Description} {event : Event} :
    event ∈ compiler.log description ↔
      ∃ origin ∈ Visit.starts description, ∃ visit, compiler.Reaches origin visit ∧
        event ∈ visit.events compiler := by
  rw [log_eq_flatMap_events, visits, List.mem_flatMap]
  simp only [List.mem_flatMap, mem_visitsFrom_iff]
  constructor
  · rintro ⟨visit, ⟨origin, horigin, hreaches⟩, hevent⟩
    exact ⟨origin, horigin, visit, hreaches, hevent⟩
  · rintro ⟨origin, horigin, visit, hreaches, hevent⟩
    exact ⟨visit, ⟨origin, horigin, hreaches⟩, hevent⟩

end Compiler

end DocSchema
