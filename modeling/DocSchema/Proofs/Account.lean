import DocSchema.Proofs.DepthLimit

/-!
# The log is an account of what is compiled

The log of a compilation tells everything that becomes of a description.  There is a tree that it
tells of, and this tree is made without a compiler: all references of the description are resolved
first, as far as they do not lead back into themselves, and then all containers at the depth limit
are cut off.  The log goes through this tree from the root down, in the order of the declarations,
with one event for each part.  Right behind it there is one more for each reference that has a name
and for each container that is cut off, and there are no others.

## Two ways to the same tree

The compiler resolves and cuts in one go, counting the levels that are left.  Resolving alone can
go deeper than any limit, and it ends because there are only so many names to be expanded one inside
the other.  That cutting afterwards comes to the same tree is by induction over the levels that are
left: where there are none, both ways end at the same containers, and references that are not
expanded are never containers, whatever the limit.

* `Node.resolve`, `Expansion.cut`: the two halves of the way to the tree.
* `Expansion.of_eq_cut_resolve`: the compiler makes the same tree.
* `Expansion.bare_resolve`, `Expansion.bare_cut`: without its marks the tree is the description with
  its references inlined and its depth truncated.
* `Expansion.parts`, `Expansion.note?`: the parts of a tree in order, and what is said of each.
* `Compiler.log_eq_account`: the log, event by event.
-/

namespace DocSchema

/-! ## Resolving references -/

namespace Node

mutual

/-- The tree of a declaration with all its references resolved, inside the descriptions of some
names.  A registered name becomes an object with the fields of its description, unless that is where
it stands; what other references become is marked. -/
def resolve (table : ReferenceTable) (names : List String) : Node → Expansion
  | leaf kind required => .leaf kind required
  | reference none required => .flat .unnamed required
  | reference (some name) required =>
    match _hd : table.get? name with
    | none => .flat (.unresolved name) required
    | some description =>
      if _hname : name ∈ names then .flat (.circular name) required
      else .object (resolveFields table (name :: names) description) (some name) required
  | arrayOf element required => .arrayOf (element.resolve table names) required
  | object fields required => .object (resolveFields table names fields) none required
termination_by node => (table.unexpanded names, sizeOf node)
decreasing_by
  · exact Prod.Lex.left _ _ (ReferenceTable.unexpanded_cons_lt _hd _hname)
  · exact Prod.Lex.right _ (by simp only [arrayOf.sizeOf_spec]; omega)
  · exact Prod.Lex.right _ (by simp only [object.sizeOf_spec]; omega)

/-- The trees of fields with all references resolved. -/
def resolveFields (table : ReferenceTable) (names : List String) :
    List (String × Node) → List (String × Expansion)
  | [] => []
  | (name, node) :: rest => (name, node.resolve table names) :: resolveFields table names rest
termination_by fields => (table.unexpanded names, sizeOf fields)

end

variable {table : ReferenceTable} {names : List String} {name : String} {required : Bool}

theorem resolveFields_eq_map (fields : List (String × Node)) :
    resolveFields table names fields =
      fields.map fun field => (field.1, field.2.resolve table names) := by
  induction fields with
  | nil => rw [resolveFields]; rfl
  | cons field rest ih => rw [resolveFields, ih, List.map_cons]

theorem resolve_reference_of_unresolved (hd : table.get? name = none) :
    (reference (some name) required).resolve table names = .flat (.unresolved name) required := by
  rw [resolve]
  split
  · rfl
  · rename_i h
    rw [hd] at h
    cases h

theorem resolve_reference_of_circular {description : Description}
    (hd : table.get? name = some description) (hname : name ∈ names) :
    (reference (some name) required).resolve table names = .flat (.circular name) required := by
  rw [resolve]
  split
  · rename_i h
    rw [hd] at h
    cases h
  · rw [dif_pos hname]

theorem resolve_reference_of_described {description : Description}
    (hd : table.get? name = some description) (hname : name ∉ names) :
    (reference (some name) required).resolve table names =
      .object (resolveFields table (name :: names) description) (some name) required := by
  rw [resolve]
  split
  · rename_i h
    rw [hd] at h
    cases h
  · rename_i description' h
    rw [hd] at h
    cases h
    rw [dif_neg hname]

end Node

namespace Expansion

/-! ## Cutting at the limit -/

/-- What kind of container an object is, by the name of its description. -/
def objectContainer : Option String → Container
  | none => .object
  | some name => .reference name

mutual

/-- The tree without what lies at the limit or below it, when there are `depth` containers around
it.  Containers at the limit are marked. -/
def cut (limit depth : Nat) : Expansion → Expansion
  | leaf kind required => leaf kind required
  | flat reason required => flat reason required
  | arrayOf element required =>
    if limit ≤ depth then flat (.tooDeep .array) required
    else arrayOf (element.cut limit (depth + 1)) required
  | object fields name required =>
    if limit ≤ depth then flat (.tooDeep (objectContainer name)) required
    else object (cutFields limit (depth + 1) fields) name required

/-- The trees of fields without what lies at the limit or below it. -/
def cutFields (limit depth : Nat) : List (String × Expansion) → List (String × Expansion)
  | [] => []
  | (field, e) :: rest => (field, e.cut limit depth) :: cutFields limit depth rest

end

theorem cutFields_eq_map (limit depth : Nat) (fields : List (String × Expansion)) :
    cutFields limit depth fields = fields.map fun field => (field.1, field.2.cut limit depth) := by
  induction fields with
  | nil => rfl
  | cons field rest ih => rw [cutFields, ih, List.map_cons]

/-- **The compiler makes the tree that is resolved and then cut.**  The induction is on the levels
that are left. -/
theorem of_eq_cut_resolve (table : ReferenceTable) {room depth limit : Nat} (names : List String)
    (node : Node) (hroom : depth + room = limit) :
    of table room names node = (node.resolve table names).cut limit depth := by
  induction room generalizing depth names node with
  | zero =>
    have hle : limit ≤ depth := by omega
    cases node with
    | leaf kind required => rw [of, Node.resolve, cut]
    | reference reference required =>
      rcases reference with _ | name
      · rw [of, Node.resolve, cut]
      · rw [of]
        cases hd : table.get? name with
        | none => rw [Node.resolve_reference_of_unresolved hd, cut]
        | some description =>
          -- a cycle is found before the limit is looked at, so it is never marked as too deep
          by_cases hname : name ∈ names
          · rw [Node.resolve_reference_of_circular hd hname, cut]
            exact if_pos hname
          · rw [Node.resolve_reference_of_described hd hname, cut, if_pos hle]
            exact if_neg hname
    | arrayOf element required => rw [of, Node.resolve, cut, if_pos hle]
    | object fields required =>
      rw [of, Node.resolve, cut, if_pos hle]
      rfl
  | succ room ih =>
    have hlt : ¬ limit ≤ depth := by omega
    have hnext : depth + 1 + room = limit := by omega
    have hfields (names : List String) (fields : Description) :
        ofFields table room names fields =
          cutFields limit (depth + 1) (Node.resolveFields table names fields) := by
      rw [cutFields_eq_map, Node.resolveFields_eq_map, List.map_map, ofFields]
      exact List.map_congr_left fun field _ => congrArg (Prod.mk field.1) (ih names field.2 hnext)
    cases node with
    | leaf kind required => rw [of, Node.resolve, cut]
    | reference reference required =>
      rcases reference with _ | name
      · rw [of, Node.resolve, cut]
      · cases hd : table.get? name with
        | none =>
          rw [Node.resolve_reference_of_unresolved hd, cut]
          simp only [of, hd]
        | some description =>
          by_cases hname : name ∈ names
          · rw [Node.resolve_reference_of_circular hd hname, cut]
            simp only [of, hd, if_pos hname]
          · rw [of_reference_of_resolved hd hname, Node.resolve_reference_of_described hd hname,
              cut, if_neg hlt, hfields]
    | arrayOf element required => rw [of, Node.resolve, cut, if_neg hlt, ih names element hnext]
    | object fields required =>
      rw [of_object_succ, Node.resolve, cut, if_neg hlt, hfields]

/-! ## Without marks -/

mutual

/-- The declaration that a tree amounts to when it is not said what its parts were made from. -/
def bare : Expansion → Node
  | leaf kind required => .leaf kind required
  | flat reason required => .leaf reason.leaf required
  | arrayOf element required => .arrayOf element.bare required
  | object fields _ required => .object (bareFields fields) required

/-- The declarations that the trees of fields amount to. -/
def bareFields : List (String × Expansion) → List (String × Node)
  | [] => []
  | (field, e) :: rest => (field, e.bare) :: bareFields rest

end

theorem bareFields_eq_map (fields : List (String × Expansion)) :
    bareFields fields = fields.map fun field => (field.1, field.2.bare) := by
  induction fields with
  | nil => rfl
  | cons field rest ih => rw [bareFields, ih, List.map_cons]

/-- Resolving is inlining, with marks, by the same descent. -/
theorem bare_resolve (table : ReferenceTable) (names : List String) (node : Node) :
    (node.resolve table names).bare = node.inline table names := by
  have hfields (names : List String) (fields : List (String × Node))
      (ih : ∀ field ∈ fields, (field.2.resolve table names).bare = field.2.inline table names) :
      bareFields (Node.resolveFields table names fields) =
        Node.inlineFields table names fields := by
    rw [bareFields_eq_map, Node.resolveFields_eq_map, Node.inlineFields_eq_map, List.map_map]
    exact List.map_congr_left fun field hfield => congrArg (Prod.mk field.1) (ih field hfield)
  cases node with
  | leaf kind required => rw [Node.resolve, Node.inline, bare]
  | reference reference required =>
    rcases reference with _ | name
    · rw [Node.resolve, Node.inline, bare]
      rfl
    · cases hd : table.get? name with
      | none =>
        rw [Node.resolve_reference_of_unresolved hd, Node.inline_reference_of_unresolved (.inl hd),
          bare]
        rfl
      | some description =>
        by_cases hname : name ∈ names
        · rw [Node.resolve_reference_of_circular hd hname,
            Node.inline_reference_of_unresolved (.inr hname), bare]
          rfl
        · rw [Node.resolve_reference_of_described hd hname,
            Node.inline_reference_of_resolved hd hname, bare,
            hfields _ _ fun field _ => bare_resolve table (name :: names) field.2]
  | arrayOf element required =>
    rw [Node.resolve, Node.inline, bare, bare_resolve table names element]
  | object fields required =>
    rw [Node.resolve, Node.inline, bare,
      hfields _ _ fun field _ => bare_resolve table names field.2]
termination_by (table.unexpanded names, sizeOf node)
decreasing_by
  · exact Prod.Lex.left _ _ (ReferenceTable.unexpanded_cons_lt hd hname)
  · exact Prod.Lex.right _ (by simp only [Node.arrayOf.sizeOf_spec]; omega)
  · have hmem : sizeOf field < sizeOf fields := List.sizeOf_lt_of_mem ‹_›
    have hpair : sizeOf field = 1 + sizeOf field.1 + sizeOf field.2 := rfl
    exact Prod.Lex.right _ (by simp only [Node.object.sizeOf_spec]; omega)

/-- Cutting is truncating, with marks. -/
theorem bare_cut (limit depth : Nat) (e : Expansion) :
    (e.cut limit depth).bare = e.bare.truncate limit depth := by
  induction e generalizing depth with
  | leaf kind required | flat reason required => rw [cut, bare, Node.truncate]
  | arrayOf element required ih =>
    rw [cut, bare, Node.truncate]
    by_cases hle : limit ≤ depth
    · rw [if_pos hle, if_pos hle, bare]
      rfl
    · rw [if_neg hle, if_neg hle, bare, ih]
  | object fields name required ih =>
    rw [cut, bare, Node.truncate]
    by_cases hle : limit ≤ depth
    · rw [if_pos hle, if_pos hle, bare]
      cases name <;> rfl
    · have hfields : bareFields (cutFields limit (depth + 1) fields) =
          Node.truncateFields limit (depth + 1) (bareFields fields) := by
        rw [bareFields_eq_map, cutFields_eq_map, bareFields_eq_map, Node.truncateFields_eq_map,
          List.map_map, List.map_map]
        exact List.map_congr_left fun field hfield =>
          congrArg (Prod.mk field.1) (ih field hfield (depth + 1))
      rw [if_neg hle, if_neg hle, bare, hfields]

/-! ## The parts of a tree -/

mutual

/-- All parts of a tree that lies under a path, from the root down and in the order of the
declarations, each with the path made of the fields around it. -/
def parts (path : Path) : Expansion → List (Path × Expansion)
  | leaf kind required => [(path, leaf kind required)]
  | flat reason required => [(path, flat reason required)]
  | arrayOf element required => (path, arrayOf element required) :: element.parts path
  | object fields name required => (path, object fields name required) :: fieldParts path fields

/-- All parts of the trees of fields. -/
def fieldParts (path : Path) : List (String × Expansion) → List (Path × Expansion)
  | [] => []
  | (field, e) :: rest => e.parts (path.field field) ++ fieldParts path rest

end

/-- What is said of a part beside that it is compiled. -/
def note? (maxDepth : Nat) (path : Path) : Expansion → Option Event
  | leaf _ _ | arrayOf _ _ | object _ none _ | flat .unnamed _ => none
  | object _ (some name) _ => some (.resolved path name)
  | flat (.unresolved name) _ => some (.unresolved path name)
  | flat (.circular name) _ => some (.circular path name)
  | flat (.tooDeep container) _ => some (.tooDeep path container maxDepth)

/-- The events of a part: that it is compiled, and the note on it. -/
def account (maxDepth : Nat) (place : Path × Expansion) : List Event :=
  .compiling place.1 place.2.isRequired :: (place.2.note? maxDepth place.1).toList

/-- Whether a part is a container that is checked for its type only, because of the depth limit or
of a cycle. -/
def isCutOff : Expansion → Bool
  | flat (.tooDeep _) _ | flat (.circular _) _ => true
  | _ => false

theorem fieldParts_eq_flatMap (path : Path) (fields : List (String × Expansion)) :
    fieldParts path fields = fields.flatMap fun field => field.2.parts (path.field field.1) := by
  induction fields with
  | nil => rfl
  | cons field rest ih => rw [fieldParts, ih, List.flatMap_cons]

/-- **The events of a tree are those of its parts**, by induction over the tree. -/
theorem events_eq_flatMap_account (maxDepth : Nat) (path : Path) (e : Expansion) :
    e.events maxDepth path = (e.parts path).flatMap (account maxDepth) := by
  induction e generalizing path with
  | leaf kind required => rfl
  | flat reason required =>
    rw [events, parts, List.flatMap_singleton, account]
    cases reason <;> rfl
  | arrayOf element required ih =>
    rw [events, parts, List.flatMap_cons, ih]
    rfl
  | object fields name required ih =>
    have hfields : fieldEvents maxDepth path fields =
        (fieldParts path fields).flatMap (account maxDepth) := by
      rw [Visit.fieldEvents_eq_flatMap, fieldParts_eq_flatMap, List.flatMap_assoc]
      exact List.flatMap_congr fun field hfield => ih field hfield (path.field field.1)
    rw [events, parts, List.flatMap_cons, hfields]
    cases name <;> rfl

end Expansion

/-! ## Counting events -/

/-- Whether an event says that a part is compiled. -/
def Event.isCompiling : Event → Bool
  | compiling _ _ => true
  | _ => false

theorem countP_flatMap_eq_countP {α β : Type} {members : List α} {f : α → List β} {p : β → Bool}
    {q : α → Bool} (h : ∀ a ∈ members, (f a).countP p = if q a then 1 else 0) :
    (members.flatMap f).countP p = members.countP q := by
  induction members with
  | nil => rfl
  | cons a rest ih =>
    rw [List.flatMap_cons, List.countP_append, List.countP_cons, h a List.mem_cons_self,
      ih fun b hb => h b (List.mem_cons_of_mem a hb), Nat.add_comm]

namespace Expansion

/-- The account of a part says once that the part is compiled. -/
theorem filter_isCompiling_account (maxDepth : Nat) (place : Path × Expansion) :
    (account maxDepth place).filter Event.isCompiling =
      [.compiling place.1 place.2.isRequired] := by
  obtain ⟨path, e⟩ := place
  rcases e with _ | _ | ⟨_, _ | name, _⟩ | ⟨_ | _ | _ | _, _⟩ <;> rfl

/-- The account of a part has a warning exactly if the part is cut off. -/
theorem countP_warn_account (maxDepth : Nat) (place : Path × Expansion) :
    ((account maxDepth place).countP fun event => event.level = .warn) =
      if place.2.isCutOff then 1 else 0 := by
  obtain ⟨path, e⟩ := place
  rcases e with _ | _ | ⟨_, _ | name, _⟩ | ⟨_ | _ | _ | _, _⟩ <;> rfl

end Expansion

/-! ## The log of a description -/

namespace Compiler

/-- The trees of a description: its references resolved, then cut at the limit. -/
def trees (compiler : Compiler) (description : Description) : List (String × Expansion) :=
  description.map fun (field, node) =>
    (field, (node.resolve compiler.table []).cut compiler.maxDepth 0)

theorem expandFields_eq_trees (compiler : Compiler) (description : Description) :
    compiler.expandFields description = compiler.trees description := by
  refine List.map_congr_left fun field _ => congrArg (Prod.mk field.1) ?_
  exact Expansion.of_eq_cut_resolve compiler.table [] field.2 (Nat.zero_add _)

/-- Without marks, the trees are the description with its references inlined and its depth
truncated. -/
theorem bareFields_trees (compiler : Compiler) (description : Description) :
    Expansion.bareFields (compiler.trees description) =
      (description.inline compiler.table).truncate compiler.maxDepth := by
  rw [Description.truncate, Description.inline, Expansion.bareFields_eq_map,
    Node.truncateFields_eq_map, Node.inlineFields_eq_map, trees, List.map_map, List.map_map]
  refine List.map_congr_left fun field _ => congrArg (Prod.mk field.1) ?_
  exact (Expansion.bare_cut _ _ _).trans (congrArg _ (Expansion.bare_resolve _ _ _))

/-- **The log is an account of what is compiled.**  It tells of the description with its references
inlined and its depth truncated, part by part from the root down and in the order of the
declarations: that the part is compiled, with its path and its flag, and right behind it, if there
is one, the note on what became of it.  So there is one event of compiling for each part, and there
are as many warnings as there are parts that the depth limit or a cycle cut off. -/
theorem log_eq_account (compiler : Compiler) (description : Description) :
    Expansion.bareFields (compiler.trees description) =
      (description.inline compiler.table).truncate compiler.maxDepth ∧
    compiler.log description =
      ((Expansion.fieldParts .root (compiler.trees description)).flatMap fun (path, part) =>
        .compiling path part.isRequired :: (part.note? compiler.maxDepth path).toList) ∧
    (compiler.log description).filter Event.isCompiling =
      ((Expansion.fieldParts .root (compiler.trees description)).map fun (path, part) =>
        .compiling path part.isRequired) ∧
    ((compiler.log description).countP fun event => event.level = .warn) =
      (Expansion.fieldParts .root (compiler.trees description)).countP fun (_, part) =>
        part.isCutOff := by
  have hlog : compiler.log description =
      (Expansion.fieldParts .root (compiler.trees description)).flatMap
        (Expansion.account compiler.maxDepth) := by
    rw [log, expandFields_eq_trees, Visit.fieldEvents_eq_flatMap, Expansion.fieldParts_eq_flatMap,
      List.flatMap_assoc]
    exact List.flatMap_congr fun field _ => Expansion.events_eq_flatMap_account _ _ _
  refine ⟨bareFields_trees compiler description, hlog, ?_, ?_⟩
  · rw [hlog, List.filter_flatMap]
    simp only [Expansion.filter_isCompiling_account]
    exact List.map_eq_flatMap.symm
  · rw [hlog]
    exact countP_flatMap_eq_countP fun place _ => Expansion.countP_warn_account _ place

/-- With a limit of one, the list is cut off at its second cell by the cycle, and the array at its
elements by the limit. -/
example : log ⟨Sample.table, 1⟩ Sample.description =
    [.compiling ⟨[.field "head"]⟩ true, .resolved ⟨[.field "head"]⟩ "Cell",
      .compiling ⟨[.field "head", .field "name"]⟩ true,
      .compiling ⟨[.field "head", .field "next"]⟩ false,
      .circular ⟨[.field "head", .field "next"]⟩ "Cell",
      .compiling ⟨[.field "spare"]⟩ false, .compiling ⟨[.field "spare"]⟩ false,
      .tooDeep ⟨[.field "spare"]⟩ (.reference "Cell") 1,
      .compiling ⟨[.field "owner"]⟩ false, .unresolved ⟨[.field "owner"]⟩ "Owner"] := by
  decide

end Compiler

end DocSchema
