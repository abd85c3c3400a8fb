import DocSchema.Proofs.Accumulation
import DocSchema.Proofs.Parts
import DocSchema.Proofs.Walk

/-!
# Texts of paths

A path is shown as a text such as `list[0].key`.  Fields and positions stand one behind the other in
it, and what separates them depends on the place: a field has a point before it unless it is the
first step, a position has brackets around it everywhere.  The text can still be read back, if the
names of fields leave the separators alone.

## Reading a text back

The exception for the first step is repaired first: a text that does not start with a bracket gets
the point that it lacks.  This needs a first field with a name, for without one the root and the
field have the same text.  Then every step is a separator with characters behind it that are none,
up to the next separator or the end, so it can be split off; the separator says whether it is a
field or a position, and the characters say which one.

Paths of failures are made of the names of declared fields and of registered ones, wherever they are
found.  If none of these contains a separator, the failures of all documents can be told apart by
the texts of their paths.

* `Segment.IsClear`, `Path.IsClear`: steps and paths whose texts can be read.
* `Path.render_inj`: such paths are equal if their texts are.
* `Compiler.NamesClearly`: the descriptions whose failures have such paths.
* `Compiler.failures_told_apart`: failures are told apart by the texts of their paths.
-/

namespace DocSchema

/-! ## Splitting texts -/

/-- Whether a character separates steps. -/
def isSeparator (c : Char) : Bool :=
  c = '.' || c = '['

/-- What stands in front of the first separator is determined by the whole text. -/
theorem append_inj_of_separated {xs ys rest others : List Char}
    (hxs : ∀ c ∈ xs, isSeparator c = false) (hys : ∀ c ∈ ys, isSeparator c = false)
    (hrest : ∀ c ∈ rest.head?, isSeparator c = true)
    (hothers : ∀ c ∈ others.head?, isSeparator c = true) (h : xs ++ rest = ys ++ others) :
    xs = ys ∧ rest = others := by
  have hfront : ∀ front behind : List Char, (∀ c ∈ front, isSeparator c = false) →
      (∀ c ∈ behind.head?, isSeparator c = true) →
      (front ++ behind).takeWhile (fun c => !isSeparator c) = front := by
    intro front behind hclear hsep
    rw [List.takeWhile_append_of_pos fun c hc => by rw [hclear c hc]; rfl]
    cases behind with
    | nil => exact List.append_nil front
    | cons c cs =>
      have hc : isSeparator c = true := hsep c rfl
      rw [List.takeWhile_cons_of_neg (by simp [hc]), List.append_nil]
  have heq : xs = ys := by
    rw [← hfront xs rest hxs hrest, h, hfront ys others hys hothers]
  subst heq
  exact ⟨rfl, List.append_cancel_left h⟩

namespace Segment

/-- Whether a step has no separator in its name. -/
def IsClear : Segment → Prop
  | field name => '.' ∉ name.toList ∧ '[' ∉ name.toList
  | index _ => True

instance : DecidablePred IsClear
  | field name => inferInstanceAs (Decidable ('.' ∉ name.toList ∧ '[' ∉ name.toList))
  | index _ => inferInstanceAs (Decidable True)

/-- The separator in front of a step. -/
def lead : Segment → Char
  | field _ => '.'
  | index _ => '['

/-- The characters of a step behind its separator. -/
def body : Segment → List Char
  | field name => name.toList
  | index position => position.repr.toList ++ [']']

variable {s t : Segment}

theorem isSeparator_lead (s : Segment) : isSeparator s.lead = true := by
  cases s <;> rfl

theorem isSeparator_of_mem_body (h : s.IsClear) : ∀ c ∈ s.body, isSeparator c = false := by
  intro c hc
  cases s with
  | field name =>
    obtain ⟨hpoint, hbracket⟩ := h
    have hnpoint : c ≠ '.' := fun heq => hpoint (heq ▸ hc)
    have hnbracket : c ≠ '[' := fun heq => hbracket (heq ▸ hc)
    simp [isSeparator, hnpoint, hnbracket]
  | index position =>
    rw [body, Nat.toList_repr, List.mem_append] at hc
    rcases hc with hdigit | hclose
    · have hc : c.isDigit = true := Nat.isDigit_of_mem_toDigits (by decide) (by decide) hdigit
      have hnpoint : c ≠ '.' := by
        rintro rfl
        cases hc
      have hnbracket : c ≠ '[' := by
        rintro rfl
        cases hc
      simp [isSeparator, hnpoint, hnbracket]
    · rw [List.mem_singleton.mp hclose]
      rfl

/-- A step is known by its separator and the characters behind it. -/
theorem eq_of_lead_eq_of_body_eq (hlead : s.lead = t.lead) (hbody : s.body = t.body) : s = t := by
  cases s with
  | field name => cases t with
    | field other => rw [String.toList_inj.mp hbody]
    | index _ => cases hlead
  | index position => cases t with
    | field _ => cases hlead
    | index other =>
      have hdigits : Nat.toDigits 10 position = Nat.toDigits 10 other := by
        rw [← Nat.toList_repr, ← Nat.toList_repr]
        exact List.append_cancel_right hbody
      have hvalue : position = other := by
        rw [← Nat.ofDigitChars_ten_toDigits (n := position), hdigits,
          Nat.ofDigitChars_ten_toDigits]
      rw [hvalue]

end Segment

namespace Path

/-! ## Texts of steps -/

/-- The characters of steps that all have their separators. -/
def separated (segments : List Segment) : List Char :=
  segments.flatMap fun s => s.lead :: s.body

theorem separated_cons (s : Segment) (rest : List Segment) :
    separated (s :: rest) = s.lead :: (s.body ++ separated rest) := by
  rw [separated, List.flatMap_cons, List.cons_append, separated]

theorem isSeparator_head?_separated (segments : List Segment) :
    ∀ c ∈ (separated segments).head?, isSeparator c = true := by
  cases segments with
  | nil =>
    intro c hc
    cases hc
  | cons s rest =>
    intro c hc
    rw [separated_cons] at hc
    cases hc
    exact s.isSeparator_lead

/-- **Separated steps can be read back**, one after the other. -/
theorem separated_inj {p q : List Segment} (hp : ∀ s ∈ p, s.IsClear) (hq : ∀ s ∈ q, s.IsClear)
    (h : separated p = separated q) : p = q := by
  induction p generalizing q with
  | nil => cases q with
    | nil => rfl
    | cons t others =>
      rw [separated_cons] at h
      cases h
  | cons s rest ih => cases q with
    | nil =>
      rw [separated_cons] at h
      cases h
    | cons t others =>
      obtain ⟨hs, hrest⟩ := List.forall_mem_cons.mp hp
      obtain ⟨ht, hothers⟩ := List.forall_mem_cons.mp hq
      rw [separated_cons, separated_cons, List.cons.injEq] at h
      obtain ⟨hlead, hbehind⟩ := h
      obtain ⟨hbody, hnext⟩ := append_inj_of_separated (Segment.isSeparator_of_mem_body hs)
        (Segment.isSeparator_of_mem_body ht) (isSeparator_head?_separated rest)
        (isSeparator_head?_separated others) hbehind
      rw [Segment.eq_of_lead_eq_of_body_eq hlead hbody, ih hrest hothers hnext]

/-! ## Texts of paths -/

/-- Whether no step of a path has a separator in its name, and the first one is no field without a
name. -/
structure IsClear (path : Path) : Prop where
  steps : ∀ s ∈ path.segments, s.IsClear
  first : path.segments.head? ≠ some (.field "")

/-- The characters of a text with a point in front, unless the text starts with a bracket. -/
def completed : List Char → List Char
  | [] => []
  | c :: cs => if c = '[' then c :: cs else '.' :: c :: cs

theorem toList_renderNext (s : Segment) : (renderNext s).toList = s.lead :: s.body := by
  cases s <;> simp [renderNext, Segment.lead, Segment.body]

theorem toList_render_cons (first : Segment) (rest : List Segment) :
    (render ⟨first :: rest⟩).toList = (renderFirst first).toList ++ separated rest := by
  have hrest : (String.join (rest.map renderNext)).toList = separated rest := by
    rw [String.toList_join, List.flatMap_map, separated]
    exact List.flatMap_congr fun s _ => toList_renderNext s
  rw [render, String.toList_append, hrest]

/-- The text of a path has all separators but the point of a first field. -/
theorem completed_render {path : Path} (h : path.IsClear) :
    completed path.render.toList = separated path.segments := by
  obtain ⟨segments⟩ := path
  cases segments with
  | nil => rfl
  | cons first rest =>
    rw [toList_render_cons, separated_cons]
    cases first with
    | index position =>
      have hfirst : (renderFirst (.index position)).toList =
          '[' :: (Segment.index position).body := toList_renderNext (.index position)
      rw [hfirst, List.cons_append, completed, if_pos rfl]
      rfl
    | field name =>
      have hname : name.toList ≠ [] := fun hnil =>
        h.first (by rw [String.toList_eq_nil_iff.mp hnil]; rfl)
      obtain ⟨c, cs, hcs⟩ := List.exists_cons_of_ne_nil hname
      have hclear : (Segment.field name).IsClear := h.steps _ List.mem_cons_self
      have hc : c ≠ '[' := by
        rintro rfl
        exact hclear.2 (hcs ▸ List.mem_cons_self)
      show completed (name.toList ++ separated rest) = '.' :: (name.toList ++ separated rest)
      rw [hcs, List.cons_append, completed, if_neg hc]

/-- **The text of a clear path identifies it**, step by step. -/
theorem render_inj {p q : Path} (hp : p.IsClear) (hq : q.IsClear) :
    p.render = q.render ↔ p = q := by
  refine ⟨fun h => ?_, congrArg render⟩
  have hseparated : separated p.segments = separated q.segments := by
    rw [← completed_render hp, ← completed_render hq, h]
  exact segments_inj.mp (separated_inj hp.steps hq.steps hseparated)

end Path

/-- A point in a name reads like a separator. -/
example : Path.render ⟨[.field "a.b"]⟩ = Path.render ⟨[.field "a", .field "b"]⟩ := by
  decide

/-! ## Names of declared fields -/

/-- Whether the fields of an object have clear names. -/
def Node.NamesClearly : Node → Prop
  | .object fields _ => ∀ field ∈ fields, (Segment.field field.1).IsClear
  | _ => True

/-- Whether all fields of a description, at any nesting, have clear names. -/
structure Description.NamesClearly (description : Description) : Prop where
  fields : ∀ field ∈ description, (Segment.field field.1).IsClear
  parts : description.AllParts Node.NamesClearly

/-- Whether a description and all registered ones have clear names, and no field at the top level is
without a name. -/
structure Compiler.NamesClearly (compiler : Compiler) (description : Description) : Prop where
  registered : ∀ name registered, compiler.table.get? name = some registered →
    Description.NamesClearly registered
  described : Description.NamesClearly description
  top : "" ∉ description.names

namespace Expansion

variable {element part : Expansion} {required : Bool} {entry found : Option Value}
  {step : Segment} {rest : List Segment}

/-- A path into an array goes to an element. -/
theorem Leads.of_arrayOf (h : (arrayOf element required).Leads entry (step :: rest) part found) :
    ∃ position item, step = .index position ∧ element.Leads item rest part found := by
  cases h with
  | item _ _ hleads => exact ⟨_, _, rfl, hleads⟩

/-- A path into an object goes to a field. -/
theorem Leads.of_object {fields : List (String × Expansion)} {name : Option String}
    (h : (object fields name required).Leads entry (step :: rest) part found) :
    ∃ field ∈ fields, ∃ child, step = .field field.1 ∧ field.2.Leads child rest part found := by
  cases h with
  | @field before after field e _ _ _ _ _ _ _ _ hleads =>
    exact ⟨(field, e), List.mem_append_right before List.mem_cons_self, _, rfl, hleads⟩

end Expansion

namespace Compiler

variable {compiler : Compiler} {description : Description}

/-- A path into the fields that lie below a visit goes to a field and on below it. -/
theorem exists_inside_of_leads {visit : Visit} {expanding : List String} {fields : Description}
    {name : Option String} {required : Bool} {entry found : Option Value} {step : Segment}
    {rest : List Segment} {part : Expansion}
    (h : (Expansion.object ((visit.inside expanding fields).map fun field =>
      (field.1, field.2.expansion compiler)) name required).Leads entry (step :: rest) part found) :
    ∃ field ∈ fields, step = .field field.1 ∧ ∃ child,
      (Visit.expansion compiler ⟨field.2, visit.depth + 1, expanding,
        visit.path.field field.1⟩).Leads child rest part found := by
  obtain ⟨below, hbelow, child, hstep, hleads⟩ := h.of_object
  obtain ⟨next, hnext, rfl⟩ := List.mem_map.mp hbelow
  obtain ⟨field, hfield, rfl⟩ := List.mem_map.mp hnext
  exact ⟨field, hfield, hstep, child, hleads⟩

/-- **Paths are made of declared names.**  All steps below a declaration with clear names are clear,
by induction over the steps: each one is a position, or a field of an object or of a registered
description. -/
theorem isClear_of_leads
    (hregistered : ∀ name registered, compiler.table.get? name = some registered →
      Description.NamesClearly registered)
    (visit : Visit) (hnode : visit.node.AllParts Node.NamesClearly) {rest : List Segment}
    {entry found : Option Value} {part : Expansion}
    (h : (visit.expansion compiler).Leads entry rest part found) : ∀ s ∈ rest, s.IsClear := by
  induction rest generalizing visit entry with
  | nil =>
    intro s hs
    cases hs
  | cons step rest ih =>
    rw [Visit.expansion_eq] at h
    have hlayer := visit.outcome compiler
    generalize visit.layer compiler = layer at hlayer h
    cases hlayer with
    | leaf _ | unnamed _ | unresolved _ _ | circular _ _ _ | referenceTooDeep _ _ _ _
    | arrayTooDeep _ _ | objectTooDeep _ _ => cases h
    | arrayOf heq _ =>
      obtain ⟨position, item, rfl, hleads⟩ := Expansion.Leads.of_arrayOf h
      rw [heq, Node.allParts_arrayOf_iff] at hnode
      exact List.forall_mem_cons.mpr ⟨trivial, ih _ hnode.2 hleads⟩
    | object heq _ =>
      obtain ⟨field, hfield, rfl, child, hleads⟩ := exists_inside_of_leads h
      rw [heq, Node.allParts_object_iff] at hnode
      exact List.forall_mem_cons.mpr ⟨hnode.1 field hfield, ih _ (hnode.2 field hfield) hleads⟩
    | described _ hd _ _ =>
      obtain ⟨field, hfield, rfl, child, hleads⟩ := exists_inside_of_leads h
      obtain ⟨hfields, hparts⟩ := hregistered _ _ hd
      exact List.forall_mem_cons.mpr ⟨hfields field hfield,
        ih _ (Description.allParts_iff.mp hparts field hfield) hleads⟩

/-- Failures have clear paths if all names are clear. -/
theorem isClear_path_of_mem_failures (hclear : compiler.NamesClearly description)
    {document : Value} {label : String} {failure : Failure}
    (h : failure ∈ (compiler.compile description).failures document label) :
    failure.path.IsClear := by
  rw [CompiledSchema.failures_compile, List.mem_filterMap] at h
  obtain ⟨⟨name, node⟩, hfield, hfailure⟩ := h
  obtain ⟨rest, part, entry, hpath, hleads, -⟩ := Expansion.diagnoses_of_failure? _ _ hfailure
  have hsegments : failure.path.segments = .field name :: rest := hpath
  have hrest : ∀ s ∈ rest, s.IsClear :=
    isClear_of_leads hclear.registered (.start node .root)
      (Description.allParts_iff.mp hclear.described.parts _ hfield) hleads
  have hname : name ≠ "" := by
    rintro rfl
    exact hclear.top (List.mem_map_of_mem hfield)
  constructor
  · rw [hsegments]
    exact List.forall_mem_cons.mpr ⟨hclear.described.fields _ hfield, hrest⟩
  · rw [hsegments]
    intro hfirst
    cases hfirst
    exact hname rfl

/-- The failures of a document have different first steps, and so different paths. -/
theorem nodup_paths_of_failures (compiler : Compiler) (hnames : description.names.Nodup)
    (document : Value) (label : String) :
    (((compiler.compile description).failures document label).map (·.path)).Nodup := by
  have hdistinct : (description.names.map fun name => some (Segment.field name)).Nodup := by
    refine List.Nodup.map (fun name other h => ?_) hnames
    cases h
    rfl
  have hfirst := hdistinct.sublist
    (CompiledSchema.head?_segments_sublist compiler description document label)
  refine List.Nodup.of_map (fun path : Path => path.segments.head?) ?_
  rw [List.map_map]
  exact hfirst

/-- **Failures are told apart by the texts of their paths.**  Paths of clear steps that do not start
with a nameless field have the same text only if they are equal step by step.  So if all declared
and registered names are clear and no field at the top level is without a name, the failures of a
document have different texts, and failures of any two documents under any two such schemas have the
same text only at the same place. -/
theorem failures_told_apart :
    (∀ p q : Path, p.IsClear → q.IsClear → (p.render = q.render ↔ p = q)) ∧
    ∀ (compiler : Compiler) (description : Description), compiler.NamesClearly description →
      (description.names.Nodup → ∀ document label,
        (((compiler.compile description).validate document label).failures.map
          (·.path.render)).Nodup) ∧
      ∀ (other : Compiler) (others : Description), other.NamesClearly others →
        ∀ document otherDocument label otherLabel,
          ∀ failure ∈ ((compiler.compile description).validate document label).failures,
          ∀ next ∈ ((other.compile others).validate otherDocument otherLabel).failures,
            (failure.path.render = next.path.render ↔ failure.path = next.path) := by
  refine ⟨fun p q => Path.render_inj, fun compiler description hclear => ⟨?_, ?_⟩⟩
  · intro hnames document label
    rw [CompiledSchema.validate, Verdict.failures_ofFailures]
    have hpaths := nodup_paths_of_failures compiler hnames document label
    have hinj : ∀ path ∈ ((compiler.compile description).failures document label).map (·.path),
        ∀ later ∈ ((compiler.compile description).failures document label).map (·.path),
          path.render = later.render → path = later := by
      intro path hpath later hlater heq
      obtain ⟨failure, hfailure, rfl⟩ := List.mem_map.mp hpath
      obtain ⟨next, hnext, rfl⟩ := List.mem_map.mp hlater
      exact (Path.render_inj (isClear_path_of_mem_failures hclear hfailure)
        (isClear_path_of_mem_failures hclear hnext)).mp heq
    have htexts := List.Nodup.map_on hinj hpaths
    rwa [List.map_map] at htexts
  · intro other others hothers document otherDocument label otherLabel failure hfailure next hnext
    rw [CompiledSchema.validate, Verdict.failures_ofFailures] at hfailure hnext
    exact Path.render_inj (isClear_path_of_mem_failures hclear hfailure)
      (isClear_path_of_mem_failures hothers hnext)

/-- A list without a head and with a truth value for its spare cells has two failures, whose texts
differ from each other and from that of a misnamed cell. -/
theorem failures_of_headless_told_apart :
    (Sample.mismatch.path.IsClear ∧ Path.IsClear ⟨[.field "spare", .field "1", .field "name"]⟩ ∧
      NamesClearly ⟨Sample.table, 3⟩ Sample.description ∧ Sample.description.names.Nodup) ∧
      Sample.mismatch.path.render ≠ Path.render ⟨[.field "spare", .field "1", .field "name"]⟩ ∧
      (((compile ⟨Sample.table, 3⟩ Sample.description).validate
        (.object [("spare", .bool true)]) "List").failures.map (·.path.render)).Nodup ∧
      ∀ failure ∈ ((compile ⟨Sample.table, 3⟩ Sample.description).validate
          (.object [("spare", .bool true)]) "List").failures,
        ∀ next ∈ ((compile ⟨Sample.table, 3⟩ Sample.description).validate
          Sample.misnamed "List").failures,
          (failure.path.render = next.path.render ↔ failure.path = next.path) := by
  have hcell : Description.NamesClearly Sample.cell :=
    ⟨by decide, by simp [Description.allParts_iff, Sample.cell, Node.NamesClearly]⟩
  have hdescription : Description.NamesClearly Sample.description :=
    ⟨by decide, by simp [Description.allParts_iff, Sample.description, Node.NamesClearly]⟩
  have hclear : NamesClearly ⟨Sample.table, 3⟩ Sample.description := by
    refine ⟨fun name registered hd => ?_, hdescription, by decide⟩
    have hmem := Assoc.mem_of_get?_eq_some hd
    rw [Sample.table, List.mem_singleton] at hmem
    cases hmem
    exact hcell
  have hindex : Sample.mismatch.path.IsClear := ⟨by decide, by decide⟩
  have hfield : Path.IsClear ⟨[.field "spare", .field "1", .field "name"]⟩ :=
    ⟨by decide, by decide⟩
  have hnames : Sample.description.names.Nodup := by
    decide
  obtain ⟨hpaths, hruns⟩ := failures_told_apart
  obtain ⟨hrun, hother⟩ := hruns ⟨Sample.table, 3⟩ Sample.description hclear
  exact ⟨⟨hindex, hfield, hclear, hnames⟩, mt (hpaths _ _ hindex hfield).mp (by decide),
    hrun hnames _ _, hother _ _ hclear _ _ _ _⟩

end Compiler

end DocSchema
