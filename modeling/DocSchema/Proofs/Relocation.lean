import DocSchema.Proofs.Declarable
import DocSchema.Proofs.ReadErrors

/-!
# Reading is independent of location

Reading carries the path of what it reads, and puts it into errors and events.  It never looks at
that path.  What is read at one place is therefore read in the same way at any other, and only the
paths in errors and events get another beginning.

The two ways of reading a whole document only differ in where its parts stand.  A reference table is
read like the descriptions in it, each by itself and under its name, and a field whose declaration
is an object without `type` is read like a description under the name of the field.

* `Path.under`, `Event.under`, `ReadError.under`, `Reading.under`: the same at another place.
* `Schema.readNode_under`: a declaration is read alike at all places.
* `Schema.result_readNamed_eq_ok_iff`, `Schema.readNamed_append_of_error`: a table is read name by
  name, up to the first description that cannot be read.
* `Schema.readReferences_as_descriptions`: tables and fields against descriptions.
-/

namespace DocSchema

/-! ## Other places -/

/-- The path that leads on from a base. -/
def Path.under (path base : Path) : Path :=
  ⟨base.segments ++ path.segments⟩

theorem Path.root_under (base : Path) : root.under base = base :=
  congrArg Path.mk (List.append_nil base.segments)

theorem Path.push_under (path base : Path) (segment : Segment) :
    (path.push segment).under base = (path.under base).push segment :=
  congrArg Path.mk (List.append_assoc _ _ _).symm

theorem Path.field_under (path base : Path) (name : String) :
    (path.field name).under base = (path.under base).field name :=
  path.push_under base (.field name)

theorem Path.index_under (path base : Path) (position : Nat) :
    (path.index position).under base = (path.under base).index position :=
  path.push_under base (.index position)

/-- The same event below a base. -/
def Event.under (event : Event) (base : Path) : Event :=
  match event with
  | unknownType path name => unknownType (path.under base) name
  | unrecognized path got => unrecognized (path.under base) got
  | unreadableBound path option => unreadableBound (path.under base) option
  | compiling path required => compiling (path.under base) required
  | resolved path name => resolved (path.under base) name
  | unresolved path name => unresolved (path.under base) name
  | circular path name => circular (path.under base) name
  | tooDeep path container maxDepth => tooDeep (path.under base) container maxDepth

/-- The same error below a base. -/
def ReadError.under (e : ReadError) (base : Path) : ReadError :=
  match e with
  | notAnObject path got => notAnObject (path.under base) got
  | invalidPattern path reason => invalidPattern (path.under base) reason

namespace Reading

variable {α β : Type}

/-- The same reading below a base: what is read stays, and paths begin with the base. -/
def under (r : Reading α) (base : Path) : Reading α where
  events := r.events.map fun event => event.under base
  result := r.result.mapError fun e => e.under base

theorem bind_under (r : Reading α) (f : α → Reading β) (base : Path) :
    (r >>= f).under base = r.under base >>= fun a => (f a).under base := by
  cases h : r.result with
  | error e =>
    have hunder : (r.under base).result = .error (e.under base) := by rw [under, h]; rfl
    rw [bind_of_error h, bind_of_error hunder]
    rfl
  | ok a =>
    have hunder : (r.under base).result = .ok a := by rw [under, h]; rfl
    rw [bind_of_ok h, bind_of_ok hunder, under, List.map_append]
    rfl

theorem result_under_eq_ok_iff {r : Reading α} {base : Path} {a : α} :
    (r.under base).result = .ok a ↔ r.result = .ok a := by
  rw [under]
  cases r.result <;> simp [Except.mapError]

theorem result_under_of_error {r : Reading α} {e : ReadError} (h : r.result = .error e)
    (base : Path) : (r.under base).result = .error (e.under base) := by
  rw [under, h]
  rfl

end Reading

/-! ## Lists of entries under the same names -/

namespace Assoc

variable {α β : Type} {entries : List (String × α)} {others : List (String × β)}

/-- What stands under the name of an entry is found there. -/
theorem exists_get?_of_forall₂ {R : String × α → β → Prop} (hnames : (names entries).Nodup)
    (h : List.Forall₂ (fun entry other => other.1 = entry.1 ∧ R entry other.2) entries others)
    {entry : String × α} (hentry : entry ∈ entries) :
    ∃ b, R entry b ∧ get? others entry.1 = some b := by
  induction h with
  | nil => cases hentry
  | @cons first other rest others hfirst _ ih =>
    obtain ⟨hnew, hrest⟩ := List.nodup_cons.mp hnames
    obtain ⟨key, b⟩ := other
    obtain ⟨rfl, hb⟩ := hfirst
    rcases List.mem_cons.mp hentry with rfl | hmem
    · exact ⟨b, hb, if_pos rfl⟩
    · have hne : first.1 ≠ entry.1 := fun heq => hnew (heq ▸ List.mem_map_of_mem hmem)
      rw [get?_cons, if_neg hne]
      exact ih hrest hmem

end Assoc

/-! ## Reading at other places -/

namespace Schema

variable {dialect : Pattern.Dialect}

theorem dateBound_under (options : Options) (name : String) (path base : Path) :
    dateBound options name (path.under base) = (dateBound options name path).under base := by
  rw [dateBound, dateBound]
  cases stringOption? options name with
  | none => rfl
  | some text => cases h : Calendar.Rfc3339.parse? text <;> simp only [h] <;> rfl

theorem dateBounds_under (options : Options) (path base : Path) :
    dateBounds options (path.under base) = (dateBounds options path).under base := by
  rw [dateBounds, dateBounds, Reading.bind_under, dateBound_under]
  refine congrArg (Bind.bind _) (funext fun min => ?_)
  rw [Reading.bind_under, dateBound_under]
  rfl

theorem patternOption_under (options : Options) (path base : Path) :
    patternOption dialect options (path.under base) =
      (patternOption dialect options path).under base := by
  rw [patternOption, patternOption]
  cases stringOption? options "match" with
  | none => rfl
  | some source => cases h : Pattern.ofSource source dialect <;> simp only [h] <;> rfl

theorem stringRule_under (options : Options) (path base : Path) :
    stringRule dialect options (path.under base) =
      (stringRule dialect options path).under base := by
  rw [stringRule, stringRule, Reading.bind_under, patternOption_under]
  rfl

theorem typeNode_under (type : TypeName) (options : Options) (path base : Path) :
    typeNode dialect type options (path.under base) =
      (typeNode dialect type options path).under base := by
  cases type with
  | string =>
    rw [typeNode, typeNode, Reading.bind_under, stringRule_under]
    rfl
  | date =>
    rw [typeNode, typeNode, Reading.bind_under, dateBounds_under]
    rfl
  | number | decimal | boolean | map | objectId | mixed => rfl

theorem namedNode_under (name : String) (options : Options) (path base : Path) :
    namedNode dialect name options (path.under base) =
      (namedNode dialect name options path).under base := by
  rw [namedNode, namedNode]
  cases TypeName.ofName? name with
  | none => rfl
  | some type => exact typeNode_under type options path base

/-- Fields are read alike at all places if their declarations are. -/
theorem readFields_under_of_forall {entries : List (String × Json)}
    (h : ∀ entry ∈ entries, ∀ path base : Path,
      readNode dialect entry.2 (path.under base) = (readNode dialect entry.2 path).under base)
    (path base : Path) :
    readFields dialect entries (path.under base) =
      (readFields dialect entries path).under base := by
  induction entries with
  | nil => rfl
  | cons entry rest ih =>
    obtain ⟨name, json⟩ := entry
    obtain ⟨hjson, hrest⟩ := List.forall_mem_cons.mp h
    rw [readFields, readFields, Reading.bind_under, ← Path.field_under, hjson]
    refine congrArg (Bind.bind _) (funext fun node => ?_)
    rw [Reading.bind_under, ih hrest]
    rfl

/-- **A declaration is read alike at all places**, by induction over its form. -/
theorem readNode_under (json : Json) (path base : Path) :
    readNode dialect json (path.under base) = (readNode dialect json path).under base := by
  induction json using Json.declarationInduct generalizing path base with
  | name name => rw [readNode, readNode, namedNode_under]
  | anyArray => rfl
  | arrayOf first rest ih =>
    rw [readNode, readNode, Reading.bind_under, ← Path.index_under, ih]
    rfl
  | named entries name h => rw [readNode_of_named h, readNode_of_named h, namedNode_under]
  | wrapped entries declared h hd ih =>
    rw [readNode_of_wrapped h hd, readNode_of_wrapped h hd, Reading.bind_under, ih]
    rfl
  | fields entries h ih =>
    rw [readNode_of_fields h, readNode_of_fields h, Reading.bind_under,
      readFields_under_of_forall ih]
    rfl
  | null | bool b | number n => rfl

theorem readFields_under (entries : List (String × Json)) (path base : Path) :
    readFields dialect entries (path.under base) = (readFields dialect entries path).under base :=
  readFields_under_of_forall (fun entry _ => readNode_under entry.2) path base

theorem readDescriptionAt_under (json : Json) (path base : Path) :
    readDescriptionAt dialect json (path.under base) =
      (readDescriptionAt dialect json path).under base := by
  cases json with
  | object entries => exact readFields_under entries path base
  | _ => rfl

/-- A description under a path is read like one that stands alone. -/
theorem readDescriptionAt_eq_under (json : Json) (base : Path) :
    readDescriptionAt dialect json base = (readDescription json dialect).under base := by
  rw [readDescription, ← readDescriptionAt_under, Path.root_under]

/-! ## Reference tables -/

/-- The events of reading the description of a name. -/
def entryEvents (dialect : Pattern.Dialect) (entry : String × Json) : List Event :=
  ((readDescription entry.2 dialect).under (.ofField entry.1)).events

variable {name : String} {json : Json} {description : Description} {e : ReadError}

theorem readNamed_cons_of_ok (h : (readDescription json dialect).result = .ok description)
    (rest : List (String × Json)) :
    readNamed dialect ((name, json) :: rest) =
      ⟨entryEvents dialect (name, json) ++ (readNamed dialect rest).events,
        (readNamed dialect rest).result.map fun others => (name, description) :: others⟩ := by
  rw [readNamed, readDescriptionAt_eq_under,
    Reading.bind_of_ok (Reading.result_under_eq_ok_iff.mpr h), Reading.bind_pure_eq]
  rfl

theorem readNamed_cons_of_error (h : (readDescription json dialect).result = .error e)
    (rest : List (String × Json)) :
    readNamed dialect ((name, json) :: rest) =
      ⟨entryEvents dialect (name, json), .error (e.under (.ofField name))⟩ := by
  rw [readNamed, readDescriptionAt_eq_under,
    Reading.bind_of_error (Reading.result_under_of_error h _)]
  rfl

/-- Whether the description of a name can be read by itself. -/
def Readable (dialect : Pattern.Dialect) (entry : String × Json) : Prop :=
  ∃ description, (readDescription entry.2 dialect).result = .ok description

/-- If all descriptions can be read, the table has them all under their names. -/
theorem readNamed_of_readable {entries : List (String × Json)}
    (h : ∀ entry ∈ entries, Readable dialect entry) :
    ∃ named, readNamed dialect entries = ⟨entries.flatMap (entryEvents dialect), .ok named⟩ ∧
      List.Forall₂ (fun entry field => field.1 = entry.1 ∧
        (readDescription entry.2 dialect).result = .ok field.2) entries named := by
  induction entries with
  | nil => exact ⟨[], rfl, .nil⟩
  | cons entry rest ih =>
    obtain ⟨⟨description, hdescription⟩, hrest⟩ := List.forall_mem_cons.mp h
    obtain ⟨named, hnamed, hall⟩ := ih hrest
    refine ⟨(entry.1, description) :: named, ?_, .cons ⟨rfl, hdescription⟩ hall⟩
    rw [readNamed_cons_of_ok hdescription, hnamed]
    rfl

/-- Behind descriptions that can be read, one that cannot be read is the last one that is looked
at. -/
theorem readNamed_append_of_error {before : List (String × Json)}
    (hbefore : ∀ entry ∈ before, Readable dialect entry)
    (h : (readDescription json dialect).result = .error e) (after : List (String × Json)) :
    readNamed dialect (before ++ (name, json) :: after) =
      ⟨(before ++ [(name, json)]).flatMap (entryEvents dialect),
        .error (e.under (.ofField name))⟩ := by
  induction before with
  | nil =>
    rw [List.nil_append, List.nil_append, readNamed_cons_of_error h, List.flatMap_singleton]
  | cons entry rest ih =>
    obtain ⟨⟨description, hdescription⟩, hrest⟩ := List.forall_mem_cons.mp hbefore
    rw [List.cons_append, readNamed_cons_of_ok hdescription, ih hrest]
    rfl

/-- Of descriptions that cannot all be read there is a first one that cannot. -/
theorem exists_first_unreadable {entries : List (String × Json)}
    (h : ¬ ∀ entry ∈ entries, Readable dialect entry) :
    ∃ before name json after e, entries = before ++ (name, json) :: after ∧
      (∀ entry ∈ before, Readable dialect entry) ∧
      (readDescription json dialect).result = .error e := by
  have hfind : ∃ e, (entries.findSome? fun entry => (readDescription entry.2 dialect).error?) =
      some e := by
    rw [← Option.ne_none_iff_exists']
    intro hnone
    exact h fun entry hentry =>
      Reading.error?_eq_none_iff.mp (List.findSome?_eq_none_iff.mp hnone entry hentry)
  obtain ⟨e, hfind⟩ := hfind
  obtain ⟨before, ⟨name, json⟩, after, hentries, herror, hbefore⟩ :=
    List.findSome?_eq_some_iff.mp hfind
  exact ⟨before, name, json, after, e, hentries,
    fun entry hentry => Reading.error?_eq_none_iff.mp (hbefore entry hentry),
    Reading.error?_eq_some_iff.mp herror⟩

theorem readReferences_object_eq (entries : List (String × Json)) :
    readReferences (.object entries) dialect =
      ⟨(readNamed dialect entries).events,
        (readNamed dialect entries).result.map ReferenceTable.ofList⟩ :=
  Reading.bind_pure_eq (readNamed dialect entries) ReferenceTable.ofList

/-- If all descriptions can be read, so can the table, and it has them under their names. -/
theorem readReferences_of_readable {entries : List (String × Json)}
    (hnames : (Assoc.names entries).Nodup) (h : ∀ entry ∈ entries, Readable dialect entry) :
    ∃ table, readReferences (.object entries) dialect =
        ⟨entries.flatMap (entryEvents dialect), .ok table⟩ ∧
      table.names = Assoc.names entries ∧
      ∀ entry ∈ entries, ∃ description,
        (readDescription entry.2 dialect).result = .ok description ∧
          table.get? entry.1 = some description := by
  obtain ⟨named, hnamed, hall⟩ := readNamed_of_readable h
  have hsame : Assoc.names named = Assoc.names entries :=
    Assoc.names_eq_of_forall₂ (hall.imp fun _ _ hread => hread.1)
  have htable : ReferenceTable.ofList named = ⟨named⟩ :=
    congrArg ReferenceTable.mk (Assoc.ofList_of_nodup (hsame ▸ hnames))
  refine ⟨⟨named⟩, ?_, hsame, fun entry hentry => ?_⟩
  · rw [readReferences_object_eq, hnamed, ← htable]
    rfl
  · let R (entry : String × Json) (description : Description) : Prop :=
      (readDescription entry.2 dialect).result = .ok description
    exact Assoc.exists_get?_of_forall₂ (R := R) hnames hall hentry

/-- If some description cannot be read, the table fails like the first of them. -/
theorem readReferences_of_not_readable {entries : List (String × Json)}
    (h : ¬ ∀ entry ∈ entries, Readable dialect entry) :
    ∃ before name json after e, entries = before ++ (name, json) :: after ∧
      (∀ entry ∈ before, Readable dialect entry) ∧
      (readDescription json dialect).result = .error e ∧
      readReferences (.object entries) dialect =
        ⟨(before ++ [(name, json)]).flatMap (entryEvents dialect),
          .error (e.under (.ofField name))⟩ := by
  obtain ⟨before, name, json, after, e, rfl, hbefore, herror⟩ := exists_first_unreadable h
  refine ⟨before, name, json, after, e, rfl, hbefore, herror, ?_⟩
  rw [readReferences_object_eq, readNamed_append_of_error hbefore herror]
  rfl

/-- What is no object fails as such, also below a name. -/
theorem under_eq_notAnObject (hjson : json.object? = none)
    (h : (readDescription json dialect).result = .error e) (name : String) :
    e.under (.ofField name) = .notAnObject (.ofField name) json.typeName := by
  rw [readDescription, result_readDescriptionAt_of_not_object hjson] at h
  cases h
  rfl

/-! ## Fields -/

/-- A field whose declaration is an object without `type` is read like a description. -/
theorem readDescription_field {fields : List (String × Json)}
    (h : Assoc.get? fields "type" = none) (key : String) :
    readDescription (.object [(key, .object fields)]) dialect = (do
      let description ← (readDescription (.object fields) dialect).under (.ofField key)
      return [(key, .object description false)]) := by
  have hfields : readFields dialect fields (.ofField key) =
      (readDescription (.object fields) dialect).under (.ofField key) :=
    readDescriptionAt_eq_under (.object fields) (.ofField key)
  have hnode : readNode dialect (.object fields) (.ofField key) = (do
      let description ← (readDescription (.object fields) dialect).under (.ofField key)
      return .object description false) := by
    rw [readNode_of_fields h, hfields]
  show (readNode dialect (.object fields) (.ofField key) >>= fun node =>
    return [(key, node)]) = _
  rw [hnode, Reading.bind_assoc]
  rfl

/-- **Tables and fields are read like descriptions.**  A reference table can be read if every
description in it can, and then it has just these descriptions under their names, in order.
Otherwise it fails like the first description that cannot be read, below the name of that one.  A
field whose declaration is an object without `type` is an object with the fields of the description
that the object is, or fails like it, below the name of the field.  Events are reported in the same
order and below the same names. -/
theorem readReferences_as_descriptions (dialect : Pattern.Dialect)
    {entries : List (String × Json)} (hnames : (Assoc.names entries).Nodup) (key : String)
    {fields : List (String × Json)} (hfields : Assoc.get? fields "type" = none) :
    ((∃ table, (readReferences (.object entries) dialect).result = .ok table) ↔
      ∀ entry ∈ entries, Readable dialect entry) ∧
    (∀ table, (readReferences (.object entries) dialect).result = .ok table →
      (readReferences (.object entries) dialect).events = entries.flatMap (entryEvents dialect) ∧
      table.names = Assoc.names entries ∧
      ∀ entry ∈ entries, ∃ description,
        (readDescription entry.2 dialect).result = .ok description ∧
          table.get? entry.1 = some description) ∧
    ((¬ ∀ entry ∈ entries, Readable dialect entry) →
      ∃ before name json after e, entries = before ++ (name, json) :: after ∧
        (∀ entry ∈ before, Readable dialect entry) ∧
        (readDescription json dialect).result = .error e ∧
        (json.object? = none →
          e.under (.ofField name) = .notAnObject (.ofField name) json.typeName) ∧
        readReferences (.object entries) dialect =
          ⟨(before ++ [(name, json)]).flatMap (entryEvents dialect),
            .error (e.under (.ofField name))⟩) ∧
    readDescription (.object [(key, .object fields)]) dialect = (do
      let description ← (readDescription (.object fields) dialect).under (.ofField key)
      return [(key, .object description false)]) := by
  have hreadable : ∀ table, (readReferences (.object entries) dialect).result = .ok table →
      ∀ entry ∈ entries, Readable dialect entry := by
    intro table htable
    by_contra hnot
    obtain ⟨_, _, _, _, _, _, _, _, hread⟩ := readReferences_of_not_readable hnot
    rw [hread] at htable
    cases htable
  refine ⟨⟨fun ⟨table, htable⟩ => hreadable table htable, fun hall => ?_⟩,
    fun table htable => ?_, fun hnot => ?_, readDescription_field hfields key⟩
  · obtain ⟨table, hread, -⟩ := readReferences_of_readable hnames hall
    exact ⟨table, by rw [hread]⟩
  · obtain ⟨other, hread, hother⟩ := readReferences_of_readable hnames (hreadable table htable)
    rw [hread] at htable ⊢
    cases htable
    exact ⟨rfl, hother⟩
  · obtain ⟨before, name, json, after, e, hentries, hbefore, herror, hread⟩ :=
      readReferences_of_not_readable hnot
    exact ⟨before, name, json, after, e, hentries, hbefore, herror,
      fun hjson => under_eq_notAnObject hjson herror name, hread⟩

end Schema

namespace Sample

/-- A table with a misspelt type. -/
def shelf : List (String × Json) :=
  [("Cell", .object [("key", .string "Strnig")]), ("Tag", .object [("type", .string "Map")])]

/-- An object with a misspelt type, as the declaration of a field or as a description. -/
def crate : List (String × Json) :=
  [("key", .string "Strnig"), ("tags", .array [.string "Map"])]

end Sample

/-- The samples are read name by name and as a field, with the misspelt type reported below the
name. -/
theorem Schema.readReferences_shelf_as_descriptions :
    (Assoc.names Sample.shelf).Nodup ∧ Assoc.get? Sample.crate "type" = none ∧
      (∃ table, (readReferences (.object Sample.shelf)).result = .ok table ∧
        table.names = ["Cell", "Tag"] ∧
        (readReferences (.object Sample.shelf)).events =
          [.unknownType ⟨[.field "Cell", .field "key"]⟩ "Strnig"]) ∧
      (readDescription (.object [("home", .object Sample.crate)])).events =
        [.unknownType ⟨[.field "home", .field "key"]⟩ "Strnig"] := by
  have hnames : (Assoc.names Sample.shelf).Nodup := by decide
  have hcrate : Assoc.get? Sample.crate "type" = none := by decide
  have hreadable : ∀ entry ∈ Sample.shelf, Readable Pattern.standard entry := by
    intro entry hentry
    rcases List.mem_pair.mp hentry with rfl | rfl
    · exact ⟨[("key", .leaf .unknown false)], by with_unfolding_all rfl⟩
    · exact ⟨[("type", .leaf .map false)], by with_unfolding_all rfl⟩
  obtain ⟨hread, htable, -, hfield⟩ :=
    readReferences_as_descriptions Pattern.standard hnames "home" hcrate
  obtain ⟨table, hok⟩ := hread.mpr hreadable
  obtain ⟨hevents, htablenames, -⟩ := htable table hok
  refine ⟨hnames, hcrate, ⟨table, hok, htablenames, ?_⟩, ?_⟩
  · rw [hevents]
    decide +kernel
  · rw [hfield]
    decide +kernel

end DocSchema
