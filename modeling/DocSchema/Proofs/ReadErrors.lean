import DocSchema.Proofs.Declarations

/-!
# Why reading fails

A document that is no object cannot be read.  Of any other document reading takes what it can, and
only a text with a `match` that is no pattern makes it stop: at the first such declaration, in the
order in which reading comes to them, with the path of that declaration.  What stands in a place
that is not read cannot make it stop.

Nothing is assumed of patterns.  The statements hold for any dialect, so that they say which texts
are tried and in which order, and not which texts are patterns.

* `Site.Malformed`: the declarations that reading stops at; `Site.RefusedFor` adds the reason.
* `Schema.error?_readNode`: one declaration stops reading by itself or through what is inside it.
* `Schema.error?_readNode_eq_findSome?`: a declaration stops reading through the first malformed one
  on the walk from there.
* `Schema.readDescription_error_iff`: when reading fails, and with which error.
-/

namespace DocSchema

/-! ## Readings that stop -/

namespace Reading

variable {α β : Type} {e : ReadError}

/-- Why reading stopped, if it did. -/
def error? (r : Reading α) : Option ReadError :=
  match r.result with
  | .error e => some e
  | .ok _ => none

theorem error?_eq_some_iff {r : Reading α} : r.error? = some e ↔ r.result = .error e := by
  rw [error?]
  cases r.result <;> simp

theorem error?_eq_none_iff {r : Reading α} : r.error? = none ↔ ∃ a, r.result = .ok a := by
  rw [error?]
  cases r.result <;> simp

/-- If what follows a reading stops in the same way whatever was read, it is only asked for when the
reading itself did not stop. -/
theorem error?_bind {r : Reading α} {f : α → Reading β} {rest : Option ReadError}
    (h : ∀ a, (f a).error? = rest) : (r >>= f).error? = r.error?.or rest := by
  rw [error?, result_bind, error?]
  cases hr : r.result with
  | error e => rfl
  | ok a => exact h a

theorem error?_bind_pure (r : Reading α) (f : α → β) :
    (r >>= fun a => Pure.pure (f a)).error? = r.error? := by
  have hpure : ∀ a, (Pure.pure (f a) : Reading β).error? = none := fun _ => rfl
  rw [error?_bind hpure, Option.or_none]

end Reading

/-- Why a dialect refuses a text, if it does. -/
def Pattern.Dialect.refusal? (dialect : Pattern.Dialect) (source : String) :
    Option Pattern.Refusal :=
  match dialect source with
  | .error reason => some reason
  | .ok _ => none

theorem Pattern.Dialect.refusal?_eq_some_iff {dialect : Pattern.Dialect} {source : String}
    {reason : Pattern.Refusal} :
    dialect.refusal? source = some reason ↔ dialect source = .error reason := by
  rw [refusal?]
  cases dialect source <;> simp

/-! ## Malformed declarations -/

namespace Site

/-- Whether a declaration is a text with a `match` that is refused for a reason. -/
def RefusedFor (dialect : Pattern.Dialect) (site : Site) (reason : Pattern.Refusal) : Prop :=
  ∃ entries name source, site.json = .object entries ∧
    Assoc.get? entries "type" = some (.string name) ∧ name.map Char.toLower = "string" ∧
    Assoc.get? entries "match" = some (.string source) ∧ dialect source = .error reason

/-- Whether a declaration is a text with a `match` that is no pattern. -/
def Malformed (dialect : Pattern.Dialect) (site : Site) : Prop :=
  ∃ reason, site.RefusedFor dialect reason

/-- Why reading stops at a declaration itself. -/
def error? (dialect : Pattern.Dialect) (site : Site) : Option ReadError :=
  match site.json with
  | .object entries => match Assoc.get? entries "type" with
    | some (.string name) =>
      if name.map Char.toLower = "string" then
        ((Schema.stringOption? entries "match").bind dialect.refusal?).map
          (.invalidPattern site.path)
      else none
    | _ => none
  | _ => none

variable {dialect : Pattern.Dialect} {site : Site} {e : ReadError}

theorem error?_eq_some_iff :
    site.error? dialect = some e ↔
      ∃ reason, site.RefusedFor dialect reason ∧ e = .invalidPattern site.path reason := by
  constructor
  · intro h
    rw [error?] at h
    split at h
    next entries hjson =>
      split at h
      next name htype =>
        split at h
        next hname =>
          obtain ⟨reason, hreason, rfl⟩ := Option.map_eq_some_iff.mp h
          obtain ⟨source, hmatch, hsource⟩ := Option.bind_eq_some_iff.mp hreason
          obtain ⟨json, hget, hstring⟩ := Option.bind_eq_some_iff.mp hmatch
          cases json <;> cases hstring
          exact ⟨reason, ⟨entries, name, source, hjson, htype, hname, hget,
            Pattern.Dialect.refusal?_eq_some_iff.mp hsource⟩, rfl⟩
        next => cases h
      next => cases h
    next => cases h
  · rintro ⟨reason, ⟨entries, name, source, hjson, htype, hname, hmatch, hsource⟩, rfl⟩
    have hoption : Schema.stringOption? entries "match" = some source := by
      rw [Schema.stringOption?, hmatch]
      rfl
    simp only [error?, hjson, htype, hname, hoption, if_true, Option.bind_some,
      Pattern.Dialect.refusal?_eq_some_iff.mpr hsource, Option.map_some]

theorem error?_eq_none_iff : site.error? dialect = none ↔ ¬ site.Malformed dialect := by
  rw [Option.eq_none_iff_forall_ne_some]
  constructor
  · rintro h ⟨reason, hreason⟩
    exact h _ (error?_eq_some_iff.mpr ⟨reason, hreason, rfl⟩)
  · intro h e he
    obtain ⟨reason, hreason, -⟩ := error?_eq_some_iff.mp he
    exact h ⟨reason, hreason⟩

/-- Whether a path leads to the first malformed declaration among some, which is refused for a
reason. -/
def FirstMalformed (dialect : Pattern.Dialect) (sites : List Site) (path : Path)
    (reason : Pattern.Refusal) : Prop :=
  ∃ before culprit after, sites = before ++ culprit :: after ∧
    (∀ earlier ∈ before, ¬ earlier.Malformed dialect) ∧ culprit.RefusedFor dialect reason ∧
    path = culprit.path

theorem findSome?_error?_eq_some_iff {sites : List Site} :
    sites.findSome? (error? dialect) = some e ↔
      ∃ path reason, FirstMalformed dialect sites path reason ∧
        e = .invalidPattern path reason := by
  simp only [List.findSome?_eq_some_iff, error?_eq_some_iff, error?_eq_none_iff]
  constructor
  · rintro ⟨before, culprit, after, hsites, ⟨reason, hculprit, rfl⟩, hbefore⟩
    exact ⟨culprit.path, reason, ⟨before, culprit, after, hsites, hbefore, hculprit, rfl⟩, rfl⟩
  · rintro ⟨path, reason, ⟨before, culprit, after, hsites, hbefore, hculprit, rfl⟩, rfl⟩
    exact ⟨before, culprit, after, hsites, ⟨reason, hculprit, rfl⟩, hbefore⟩

theorem findSome?_error?_eq_none_iff {sites : List Site} :
    sites.findSome? (error? dialect) = none ↔ ∀ site ∈ sites, ¬ site.Malformed dialect := by
  simp only [List.findSome?_eq_none_iff, error?_eq_none_iff]

/-- Only an object with a type name can be malformed. -/
theorem error?_of_not_named
    (h : ∀ entries name, site.json = .object entries →
      Assoc.get? entries "type" ≠ some (.string name)) : site.error? dialect = none := by
  rw [error?_eq_none_iff]
  rintro ⟨-, entries, name, source, hjson, htype, -⟩
  exact h entries name hjson htype

end Site

namespace Schema

variable {dialect : Pattern.Dialect} {entries : List (String × Json)} {path : Path}

/-! ## Type names with options -/

theorem ofName?_eq_string_iff {name : String} :
    TypeName.ofName? name = some .string ↔ name.map Char.toLower = "string" := by
  rw [TypeName.ofName?]
  split <;> simp_all

theorem error?_patternOption :
    (patternOption dialect entries path).error? =
      ((stringOption? entries "match").bind dialect.refusal?).map (.invalidPattern path) := by
  rw [patternOption]
  cases stringOption? entries "match" with
  | none => rfl
  | some source =>
    simp only [Option.bind_some, Pattern.Dialect.refusal?, Pattern.ofSource]
    cases dialect source <;> rfl

/-- Among the types only a text can stop reading, through its pattern. -/
theorem error?_typeNode (type : TypeName) :
    (typeNode dialect type entries path).error? =
      if type = .string then (patternOption dialect entries path).error? else none := by
  cases type with
  | string => exact (Reading.error?_bind_pure _ _).trans (Reading.error?_bind_pure _ _)
  | date => exact Reading.error?_eq_none_iff.mpr ⟨_, result_typeNode_date entries path⟩
  | number | decimal | boolean | map | objectId | mixed => rfl

theorem error?_namedNode {name : String} :
    (namedNode dialect name entries path).error? =
      if name.map Char.toLower = "string" then (patternOption dialect entries path).error?
      else none := by
  simp only [namedNode, ← ofName?_eq_string_iff]
  cases TypeName.ofName? name with
  | none => rfl
  | some type => simp only [error?_typeNode, Option.some_inj]

/-- A type name with options stops reading as the object that holds them does. -/
theorem error?_namedNode_eq {name : String}
    (h : Assoc.get? entries "type" = some (.string name)) :
    (namedNode dialect name entries path).error? = Site.error? dialect ⟨.object entries, path⟩ := by
  rw [error?_namedNode, error?_patternOption, Site.error?]
  simp only [h]

/-! ## One declaration -/

theorem error?_readFields (fields : List (String × Json)) :
    (readFields dialect fields path).error? =
      (Site.fields fields path).findSome? fun site =>
        (readNode dialect site.json site.path).error? := by
  induction fields with
  | nil => rfl
  | cons field rest ih =>
    obtain ⟨name, json⟩ := field
    rw [readFields, Reading.error?_bind fun node => Reading.error?_bind_pure _ _, ih,
      Site.fields_cons, List.findSome?_cons]
    cases (readNode dialect json (path.field name)).error? <;> rfl

/-- **A declaration stops reading by itself or through the first one inside it that does.** -/
theorem error?_readNode (site : Site) :
    (readNode dialect site.json site.path).error? =
      (site.error? dialect).or (site.inner.findSome? fun next =>
        (readNode dialect next.json next.path).error?) := by
  obtain ⟨json, path⟩ := site
  induction json using Json.declarationInduct generalizing path with
  | name name =>
    rw [Site.error?_of_not_named (by rintro _ _ ⟨⟩), readNode, error?_namedNode]
    exact ite_self none
  | arrayOf first rest =>
    rw [Site.error?_of_not_named (by rintro _ _ ⟨⟩), readNode, Reading.error?_bind_pure]
    exact List.findSome?_singleton.symm
  | named entries name h =>
    rw [Site.inner_of_named h, readNode_of_named h, error?_namedNode_eq h, List.findSome?_nil,
      Option.or_none]
  | wrapped entries declared h hd =>
    have hnot : Site.error? dialect ⟨.object entries, path⟩ = none := by
      refine Site.error?_of_not_named ?_
      rintro _ name ⟨⟩ hname
      rw [h] at hname
      cases hname
      cases hd
    rw [Site.inner_of_wrapped h hd, readNode_of_wrapped h hd, Reading.error?_bind_pure, hnot,
      Option.none_or, List.findSome?_singleton]
  | fields entries h =>
    have hnot : Site.error? dialect ⟨.object entries, path⟩ = none := by
      refine Site.error?_of_not_named ?_
      rintro _ name ⟨⟩ hname
      rw [h] at hname
      cases hname
    rw [Site.inner_of_fields h, readNode_of_fields h, Reading.error?_bind_pure, hnot,
      Option.none_or, error?_readFields]
  | anyArray | null | bool b | number n =>
    rw [Site.error?_of_not_named (by rintro _ _ ⟨⟩)]
    rfl

/-! ## The first malformed declaration -/

/-- What is found first in a concatenation is found in the first part where anything is. -/
theorem findSome?_flatMap {α β γ : Type} {members : List α} {parts : α → List β}
    {f : β → Option γ} {g : α → Option γ} (h : ∀ a ∈ members, (parts a).findSome? f = g a) :
    (members.flatMap parts).findSome? f = members.findSome? g := by
  induction members with
  | nil => rfl
  | cons a rest ih =>
    rw [List.flatMap_cons, List.findSome?_append, List.findSome?_cons, h a List.mem_cons_self,
      ih fun b hb => h b (List.mem_cons_of_mem a hb)]
    cases g a <;> rfl

/-- **A declaration stops reading at the first malformed one on the walk from there.** -/
theorem error?_readNode_eq_findSome? (site : Site) :
    (readNode dialect site.json site.path).error? = site.walk.findSome? (Site.error? dialect) := by
  have hinner : (site.inner.flatMap Site.walk).findSome? (Site.error? dialect) =
      site.inner.findSome? fun next => (readNode dialect next.json next.path).error? :=
    findSome?_flatMap fun next hnext => (error?_readNode_eq_findSome? next).symm
  rw [error?_readNode, Site.walk_eq, List.findSome?_cons, hinner]
  cases site.error? dialect <;> rfl
termination_by sizeOf site.json
decreasing_by exact Site.sizeOf_lt_of_mem_inner hnext

/-- The fields of a description stop reading at the first malformed declaration among them. -/
theorem error?_readFields_eq_findSome? (entries : List (String × Json)) (path : Path) :
    (readFields dialect entries path).error? =
      (Site.document entries path).findSome? (Site.error? dialect) := by
  rw [error?_readFields, Site.document]
  exact (findSome?_flatMap fun site _ => (error?_readNode_eq_findSome? site).symm).symm

/-! ## Descriptions -/

variable {json : Json} {place : Path} {got : String}

theorem ne_object_of_not_object (h : json.object? = none) (entries : List (String × Json)) :
    json ≠ .object entries := by
  rintro rfl
  cases h

/-- A description stops reading at the first malformed declaration in it. -/
theorem error?_readDescriptionAt_object (entries : List (String × Json)) (path : Path) :
    (readDescriptionAt dialect (.object entries) path).error? =
      (Site.document entries path).findSome? (Site.error? dialect) :=
  error?_readFields_eq_findSome? entries path

theorem readDescriptionAt_notAnObject_iff :
    (readDescriptionAt dialect json path).result = .error (.notAnObject place got) ↔
      json.object? = none ∧ place = path ∧ got = json.typeName := by
  rcases object_or_not json with ⟨entries, rfl⟩ | hnot
  · rw [← Reading.error?_eq_some_iff, error?_readDescriptionAt_object,
      Site.findSome?_error?_eq_some_iff]
    simp [Json.object?]
  · rw [result_readDescriptionAt_of_not_object hnot]
    simp [hnot, eq_comm]

theorem readDescriptionAt_invalidPattern_iff {reason : Pattern.Refusal} :
    (readDescriptionAt dialect json path).result = .error (.invalidPattern place reason) ↔
      ∃ entries, json = .object entries ∧
        Site.FirstMalformed dialect (Site.document entries path) place reason := by
  rcases object_or_not json with ⟨entries, rfl⟩ | hnot
  · rw [← Reading.error?_eq_some_iff, error?_readDescriptionAt_object,
      Site.findSome?_error?_eq_some_iff]
    simp
  · rw [result_readDescriptionAt_of_not_object hnot]
    simp [ne_object_of_not_object hnot]

theorem readDescriptionAt_ok_iff :
    (∃ description, (readDescriptionAt dialect json path).result = .ok description) ↔
      ∃ entries, json = .object entries ∧
        ∀ site ∈ Site.document entries path, ¬ site.Malformed dialect := by
  rcases object_or_not json with ⟨entries, rfl⟩ | hnot
  · rw [← Reading.error?_eq_none_iff, error?_readDescriptionAt_object,
      Site.findSome?_error?_eq_none_iff]
    simp
  · rw [result_readDescriptionAt_of_not_object hnot]
    simp [ne_object_of_not_object hnot]

/-! ## Reference tables -/

/-- The names of a table are read one after the other. -/
theorem error?_readNamed (entries : List (String × Json)) :
    (readNamed dialect entries).error? =
      entries.findSome? fun entry =>
        (readDescriptionAt dialect entry.2 (.ofField entry.1)).error? := by
  induction entries with
  | nil => rfl
  | cons entry rest ih =>
    obtain ⟨name, json⟩ := entry
    rw [readNamed, Reading.error?_bind fun description => Reading.error?_bind_pure _ _, ih,
      List.findSome?_cons]
    cases (readDescriptionAt dialect json (.ofField name)).error? <;> rfl

theorem error?_readReferences_object (entries : List (String × Json)) :
    (readReferences (.object entries) dialect).error? =
      entries.findSome? fun entry =>
        (readDescriptionAt dialect entry.2 (.ofField entry.1)).error? :=
  (Reading.error?_bind_pure _ _).trans (error?_readNamed entries)

theorem result_readReferences_of_not_object (h : json.object? = none) :
    (readReferences json dialect).result = .error (.notAnObject .root json.typeName) := by
  cases json with
  | object entries => cases h
  | _ => rfl

/-- In a table only the table itself or the description of a name can fail to be an object. -/
theorem readReferences_notAnObject_iff :
    (readReferences json dialect).result = .error (.notAnObject place got) ↔
      (json.object? = none ∧ place = .root ∧ got = json.typeName) ∨
        ∃ before name schema after, json = .object (before ++ (name, schema) :: after) ∧
          (∀ entry ∈ before, ∃ description,
            (readDescriptionAt dialect entry.2 (.ofField entry.1)).result = .ok description) ∧
          schema.object? = none ∧ place = .ofField name ∧ got = schema.typeName := by
  rcases object_or_not json with ⟨entries, rfl⟩ | hnot
  · rw [← Reading.error?_eq_some_iff, error?_readReferences_object, List.findSome?_eq_some_iff]
    simp only [Reading.error?_eq_some_iff, Reading.error?_eq_none_iff,
      readDescriptionAt_notAnObject_iff, Json.object?, Json.object.injEq]
    constructor
    · rintro ⟨before, ⟨name, schema⟩, after, rfl, hschema, hbefore⟩
      exact Or.inr ⟨before, name, schema, after, rfl, hbefore, hschema⟩
    · rintro (⟨hnone, -⟩ | ⟨before, name, schema, after, rfl, hbefore, hschema⟩)
      · cases hnone
      · exact ⟨before, (name, schema), after, rfl, hschema, hbefore⟩
  · rw [result_readReferences_of_not_object hnot]
    simp [hnot, ne_object_of_not_object hnot, eq_comm]

/-- **Reading fails exactly when it must, and blames the first culprit.**  A description cannot be
read if it is no object, or else if it has a text with a `match` that is no pattern, and then the
error names the first one that reading comes to and says why it is refused.  Of a reference table
the description of a name can also be no object; nothing below is ever asked to be one. -/
theorem readDescription_error_iff (dialect : Pattern.Dialect) (json : Json) :
    (∀ path got, (readDescription json dialect).result = .error (.notAnObject path got) ↔
      json.object? = none ∧ path = .root ∧ got = json.typeName) ∧
    (∀ path reason, (readDescription json dialect).result = .error (.invalidPattern path reason) ↔
      ∃ entries, json = .object entries ∧
        Site.FirstMalformed dialect (Site.document entries .root) path reason) ∧
    ((∃ description, (readDescription json dialect).result = .ok description) ↔
      ∃ entries, json = .object entries ∧
        ∀ site ∈ Site.document entries .root, ¬ site.Malformed dialect) ∧
    (∀ path got, (readReferences json dialect).result = .error (.notAnObject path got) ↔
      (json.object? = none ∧ path = .root ∧ got = json.typeName) ∨
        ∃ before name schema after, json = .object (before ++ (name, schema) :: after) ∧
          (∀ entry ∈ before, ∃ description,
            (readDescriptionAt dialect entry.2 (.ofField entry.1)).result = .ok description) ∧
          schema.object? = none ∧ path = .ofField name ∧ got = schema.typeName) :=
  ⟨fun _ _ => readDescriptionAt_notAnObject_iff,
    fun _ _ => readDescriptionAt_invalidPattern_iff, readDescriptionAt_ok_iff,
    fun _ _ => readReferences_notAnObject_iff⟩

end Schema

namespace Sample

/-- Three places that ask for a pattern.  Reading comes to the last one only: the first is behind
the item that declares the elements, the second is an option of a number. -/
def patterns : List (String × Json) :=
  [("tags", .array [.string "Number",
      .object [("type", .string "String"), ("match", .string "(")]]),
    ("size", .object [("type", .string "Number"), ("match", .string "(")]),
    ("list", .array [.object [("key", .object [("type",
      .object [("match", .string "("), ("type", .string "STRING")])])]])]

/-- The last one is to blame. -/
example : (Schema.readDescription (.object patterns)).error? =
    some (.invalidPattern ⟨[.field "list", .index 0, .field "key"]⟩
      (.malformed "unclosed group")) := by
  decide +kernel

end Sample

end DocSchema
