import DocSchema.Proofs.JsonForm

/-!
# What schema documents can declare

In a schema document the key `type` has a meaning of its own, so an object whose fields include one
of that name has no declaration: whatever stands under `type` is read as the declaration itself.  In
the document as a whole `type` is a key like any other.  A pattern stands in a document as its
source, so one whose source is refused has no declaration either.  This is all that documents cannot
say.  Any other description, whatever the flags of its parts, is read from its JSON form, up to what
its patterns match.

## Why patterns count by their sources

A pattern need not be read from a document.  One that was made under other rules keeps its source,
and by the rules of the document this source may stand for something else, or for nothing.

* `Schema.allParts_of_readNode`: no object with a field `type` is read, and no source that is
  refused.
* `Schema.exists_document_iff`: which descriptions have a document.
* `Schema.not_exists_document_of_octal`: one that has none because of a pattern.
-/

namespace DocSchema

open Calendar (Instant)

namespace Schema

/-! ## What is read -/

section

variable {dialect : Pattern.Dialect}

/-- A pattern that is read has a source that the dialect accepts. -/
theorem accepts_of_patternOption {options : Options} {path : Path} {pattern : Option Pattern}
    (h : (patternOption dialect options path).result = .ok pattern) :
    ∀ p ∈ pattern, dialect.Accepts p.source := by
  rw [patternOption] at h
  cases hsource : stringOption? options "match" with
  | none =>
    rw [hsource] at h
    cases h
    rintro p ⟨⟩
  | some source =>
    simp only [hsource, Pattern.ofSource] at h
    cases hmatch : dialect source with
    | error reason =>
      rw [hmatch] at h
      cases h
    | ok isMatch =>
      rw [hmatch] at h
      cases h
      rintro p ⟨⟩
      exact ⟨isMatch, hmatch⟩

theorem acceptedBy_of_typeNode {type : TypeName} {options : Options} {path : Path} {node : Node}
    (h : (typeNode dialect type options path).result = .ok node) : node.AcceptedBy dialect := by
  cases type with
  | string =>
    rw [result_typeNode_string] at h
    cases hpattern : (patternOption dialect options path).result with
    | error e =>
      rw [hpattern] at h
      cases h
    | ok pattern =>
      rw [hpattern] at h
      cases h
      exact accepts_of_patternOption hpattern
  | date =>
    rw [result_typeNode_date] at h
    cases h
    trivial
  | number | decimal | boolean | map | objectId | mixed =>
    cases h
    trivial

/-- Nothing is inside what a type name declares, and its pattern is read. -/
theorem allParts_of_namedNode {name : String} {options : Options} {path : Path} {node : Node}
    (h : (namedNode dialect name options path).result = .ok node) :
    node.AllParts fun part => part.Typeless ∧ part.AcceptedBy dialect := by
  have haccepted : node.AcceptedBy dialect := by
    cases hname : TypeName.ofName? name with
    | none =>
      rw [result_namedNode_of_ofName?_eq_none hname] at h
      cases h
      trivial
    | some type =>
      rw [namedNode_of_ofName?_eq_some hname] at h
      exact acceptedBy_of_typeNode h
  rcases leaf_or_reference_of_namedNode h with ⟨kind, required, rfl⟩ | ⟨ref, required, rfl⟩
  · exact Node.allParts_leaf_iff.mpr ⟨trivial, haccepted⟩
  · exact Node.allParts_reference_iff.mpr ⟨trivial, haccepted⟩

/-- Every field that is read is that of an entry of the same name. -/
theorem exists_entry_of_mem_fields {entries : List (String × Json)} {fields : Description}
    {path : Path} (h : (readFields dialect entries path).result = .ok fields)
    {field : String × Node} (hfield : field ∈ fields) :
    ∃ entry ∈ entries, field.1 = entry.1 ∧
      ∃ inner, (readNode dialect entry.2 inner).result = .ok field.2 := by
  induction result_readFields_eq_ok_iff.mp h with
  | nil => cases hfield
  | @cons entry first rest others hfirst hothers ih =>
    rcases List.mem_cons.mp hfield with rfl | hrest
    · exact ⟨entry, List.mem_cons_self, hfirst.1, _, hfirst.2⟩
    · obtain ⟨found, hfound, hread⟩ := ih (result_readFields_eq_ok_iff.mpr hothers) hrest
      exact ⟨found, List.mem_cons_of_mem _ hfound, hread⟩

/-- No object with a field `type` is ever read below the fields of the document, and no pattern that
is refused, by induction over the declaration.  An object is only read from entries without a
`type`, and its fields have the names of these entries. -/
theorem allParts_of_readNode {json : Json} {path : Path} {node : Node}
    (h : (readNode dialect json path).result = .ok node) :
    node.AllParts fun part => part.Typeless ∧ part.AcceptedBy dialect := by
  induction json using Json.declarationInduct generalizing path node with
  | name name =>
    rw [readNode] at h
    exact allParts_of_namedNode h
  | anyArray =>
    cases h
    exact Node.allParts_leaf_iff.mpr ⟨trivial, trivial⟩
  | arrayOf first rest ih =>
    obtain ⟨element, helement, rfl⟩ := result_readNode_arrayOf_eq_ok_iff.mp h
    exact Node.allParts_arrayOf_iff.mpr ⟨⟨trivial, trivial⟩, ih helement⟩
  | named entries name hname =>
    rw [readNode_of_named hname] at h
    exact allParts_of_namedNode h
  | wrapped entries declared hdeclared hd ih =>
    obtain ⟨inner, hinner, rfl⟩ := (result_readNode_eq_ok_iff_of_wrapped hdeclared hd).mp h
    -- the flag of the wrapper replaces that of the declaration inside, and nothing else
    refine (Node.allParts_withRequired_iff (fun node required => ?_) inner _).mpr (ih hinner)
    exact and_congr (node.typeless_withRequired_iff required)
      (node.acceptedBy_withRequired_iff required)
  | fields entries hentries ih =>
    obtain ⟨fields, hfields, rfl⟩ := (result_readNode_eq_ok_iff_of_fields hentries).mp h
    refine Node.allParts_object_iff.mpr ⟨⟨fun htype => ?_, trivial⟩, fun field hfield => ?_⟩
    · obtain ⟨field, hfield, hname⟩ := List.mem_map.mp htype
      obtain ⟨entry, hentry, heq, -⟩ := exists_entry_of_mem_fields hfields hfield
      have hmem : "type" ∈ Assoc.names entries :=
        List.mem_map.mpr ⟨entry, hentry, heq.symm.trans hname⟩
      exact Assoc.get?_eq_none_iff.mp hentries hmem
    · obtain ⟨entry, hentry, -, inner, hread⟩ := exists_entry_of_mem_fields hfields hfield
      exact ih entry hentry hread
  | null | bool b | number n =>
    cases h
    exact Node.allParts_leaf_iff.mpr ⟨trivial, trivial⟩

/-- The same for a description that is read, and for any other with the same patterns by source. -/
theorem allParts_of_readDescription {document : Json} {found description : Description}
    (hread : (readDescription document dialect).result = .ok found)
    (hsame : found.SameBySource description) :
    description.AllParts fun part => part.Typeless ∧ part.AcceptedBy dialect := by
  rw [← hsame.allParts_iff fun node =>
    and_congr node.typeless_bySource_iff node.acceptedBy_bySource_iff, Description.allParts_iff]
  intro field hfield
  rcases object_or_not document with ⟨entries, rfl⟩ | hnot
  · obtain ⟨entry, -, -, path, hnode⟩ := exists_entry_of_mem_fields hread hfield
    exact allParts_of_readNode hnode
  · rw [readDescription, result_readDescriptionAt_of_not_object hnot] at hread
    cases hread

end

/-- **What can be declared.**  A description whose limits have a JSON form is read from some
document, up to what its patterns match, if and only if no object inside it has a field `type` and
all sources of its patterns are accepted.  The description itself may have a field `type`. -/
theorem exists_document_iff (dialect : Pattern.Dialect) (description : Description)
    (hnames : description.names.Nodup) (hwritable : description.AllParts Node.Writable) :
    (∃ document : Json, document.WellFormed ∧ ∃ found,
        (readDescription document dialect).result = .ok found ∧ found.SameBySource description) ↔
      description.AllParts Node.Typeless ∧ description.AllParts (Node.AcceptedBy dialect) := by
  constructor
  · rintro ⟨document, -, found, hread, hsame⟩
    have hparts := allParts_of_readDescription hread hsame
    exact ⟨fun part hpart => (hparts part hpart).1, fun part hpart => (hparts part hpart).2⟩
  · rintro ⟨htypeless, haccepted⟩
    rw [Description.allParts_iff] at hwritable htypeless haccepted
    -- some text for every instant that has one
    obtain ⟨dateText, hdate⟩ : ∃ dateText : Instant → String, ∀ t : Instant, t.HasText →
        Calendar.Rfc3339.parse? (dateText t) = some t :=
      ⟨fun t => Classical.epsilon fun text => Calendar.Rfc3339.parse? text = some t,
        fun _ ht => Classical.epsilon_spec ht⟩
    refine ⟨.object (Node.fieldDeclarations dateText description), ?_, ?_⟩
    · exact wellFormed_fieldDeclarations hnames fun field hfield =>
        wellFormed_declaration (hwritable field hfield)
    · exact exists_readFields_fieldDeclarations (fun field hfield path =>
        readsAs_declaration hdate (hwritable field hfield) (htypeless field hfield)
          (haccepted field hfield) path) .root

end Schema

namespace Sample

/-- A description whose own field is called `type`.  Inside are a field of any name, a date and a
text with a pattern. -/
def typed (name : String) : Description :=
  [("type", .object
    [(name, .arrayOf (.leaf (.number ⟨some 1.5, none⟩) true) false),
      ("since", .leaf (.date ⟨some ⟨⟨2026, 10, 18⟩, 0, 0⟩, none⟩) false),
      ("code", .leaf (.string ⟨some ⟨"^[a-z]+$", fun _ => true⟩, some 2, none, none⟩) true)] true)]

theorem writable_typed {name : String} (hsince : name ≠ "since") (hcode : name ≠ "code") :
    (typed name).AllParts Node.Writable := by
  have hfinite : Leaf.Writable (.number ⟨some 1.5, none⟩) := by
    refine ⟨?_, nofun⟩
    rintro x ⟨⟩
    decide
  have hdate : Leaf.Writable (.date ⟨some ⟨⟨2026, 10, 18⟩, 0, 0⟩, none⟩) := by
    refine ⟨?_, nofun⟩
    rintro t ⟨⟩
    exact ⟨"2026-10-18T00:00:00Z", by decide⟩
  have hstring : ∀ rule : StringRule, Leaf.Writable (.string rule) := fun _ => trivial
  simp [Description.allParts_iff, typed, Node.Writable, Assoc.names, hfinite, hdate, hstring,
    hsince, hcode]

theorem acceptedBy_typed (name : String) :
    (typed name).AllParts (Node.AcceptedBy Pattern.standard) := by
  have hsource : Pattern.standard.Accepts "^[a-z]+$" :=
    Pattern.accepts_standard_iff.mpr (by decide +kernel)
  simp [Description.allParts_iff, typed, Node.AcceptedBy, hsource]

/-- A description of a text with a pattern that was made where three octal digits after a backslash
are a character: an `a`. -/
def octal : Description :=
  [("code", .leaf (.string
    ⟨some ⟨"\\141", fun text => text.toList.contains 'a'⟩, none, none, none⟩) false)]

end Sample

/-- The sample is read from a document unless the inner field is called `type`, too. -/
theorem Schema.exists_document_iff_of_typed :
    (∃ document : Json, document.WellFormed ∧ ∃ found,
        (readDescription document).result = .ok found ∧
          found.SameBySource (Sample.typed "kind")) ∧
      ¬ ∃ document : Json, document.WellFormed ∧ ∃ found,
        (readDescription document).result = .ok found ∧
          found.SameBySource (Sample.typed "type") := by
  have hkind : (Sample.typed "kind").AllParts Node.Typeless := by
    simp [Description.allParts_iff, Sample.typed, Node.Typeless, Assoc.names]
  have htype : ¬ (Sample.typed "type").AllParts Node.Typeless := by
    simp [Description.allParts_iff, Sample.typed, Node.Typeless, Assoc.names]
  constructor
  · exact (exists_document_iff Pattern.standard (Sample.typed "kind") (by decide)
      (Sample.writable_typed (by decide) (by decide))).mpr ⟨hkind, Sample.acceptedBy_typed "kind"⟩
  · intro hread
    exact htype ((exists_document_iff Pattern.standard (Sample.typed "type") (by decide)
      (Sample.writable_typed (by decide) (by decide))).mp hread).1

/-- No object in the sample has a field `type`, and yet no document is read as the sample: in a
document its pattern would be a reference to a group, which is refused. -/
theorem Schema.not_exists_document_of_octal :
    Sample.octal.names.Nodup ∧ Sample.octal.AllParts Node.Writable ∧
      Sample.octal.AllParts Node.Typeless ∧
      ¬ ∃ document : Json, document.WellFormed ∧ ∃ found,
        (readDescription document).result = .ok found ∧ found.SameBySource Sample.octal := by
  have hwritable : Sample.octal.AllParts Node.Writable := by
    simp [Description.allParts_iff, Sample.octal, Node.Writable, Leaf.Writable]
  have htypeless : Sample.octal.AllParts Node.Typeless := by
    simp [Description.allParts_iff, Sample.octal, Node.Typeless]
  refine ⟨by decide, hwritable, htypeless, ?_⟩
  rintro ⟨document, -, found, hread, hsame⟩
  have haccepts : Pattern.standard.Accepts "\\141" :=
    (allParts_of_readDescription hread hsame _ ⟨_, List.mem_cons_self, .whole⟩).2 _ rfl
  have hcompile := Pattern.accepts_standard_iff.mp haccepts
  exact absurd hcompile (by decide +kernel)

end DocSchema
