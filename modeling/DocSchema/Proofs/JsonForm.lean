import DocSchema.Proofs.Declarations
import DocSchema.Proofs.Sources

/-!
# The JSON form of a description

A document for a description writes everything in the long form, an object with a `type`, for the
short forms have no room for a flag.  Numbers are written as doubles and lengths as integers, and of
a pattern the source is written.  A date needs some text that names it.  An instant without such a
text has no JSON form, and neither has a number that is not finite.

## Reading it back

What has been written is read as the same description, up to what its patterns match, if their
sources are accepted and no object inside has a field `type`.  The entry under `type` would be read
as the declaration of the whole object.

* `Json.WellFormed`: the trees of JSON documents.
* `Node.Writable`: limits that have a JSON form, and distinct names.
* `Node.Typeless`: no field with the name `type`.
* `Node.declaration`: the JSON form of a declaration.
* `Schema.readsAs_declaration`: it is read as that declaration.
* `Schema.wellFormed_declaration`: it is a JSON tree.
-/

namespace DocSchema

open Calendar (Instant)

/-! ## JSON trees -/

/-- The trees of JSON documents: the keys of an object are distinct, integers have 64 bits with or
without a sign, and the other numbers are finite. -/
inductive Json.WellFormed : Json → Prop
  | null : WellFormed .null
  | bool (b : Bool) : WellFormed (.bool b)
  | integer {n : Int} (hmin : -Int.pow 2 63 ≤ n) (hmax : n < Int.pow 2 64) :
    WellFormed (.number (.integer n))
  | real {x : Float} (h : Number.isFinite x = true) : WellFormed (.number (.real x))
  | string (s : String) : WellFormed (.string s)
  | array {items : List Json} (h : ∀ item ∈ items, WellFormed item) : WellFormed (.array items)
  | object {entries : List (String × Json)} (hnames : (Assoc.names entries).Nodup)
    (h : ∀ entry ∈ entries, WellFormed entry.2) : WellFormed (.object entries)

/-! ## Limits that can be written -/

/-- Whether both limits have a property. -/
def Bounds.Both {α : Type} (bounds : Bounds α) (P : α → Prop) : Prop :=
  (∀ limit, bounds.min = some limit → P limit) ∧ ∀ limit, bounds.max = some limit → P limit

/-- Whether some text names the instant. -/
def Calendar.Instant.HasText (t : Instant) : Prop :=
  ∃ text, Calendar.Rfc3339.parse? text = some t

/-- Whether the limits of a leaf have a JSON form. -/
def Leaf.Writable : Leaf → Prop
  | .number bounds | .decimal bounds => bounds.Both fun x => Number.isFinite x = true
  | .date bounds => bounds.Both Instant.HasText
  | _ => True

/-- Whether a declaration by itself can be written: its limits have a JSON form, and the names of
its fields are distinct. -/
def Node.Writable : Node → Prop
  | .leaf kind _ => kind.Writable
  | .object fields _ => (Assoc.names fields).Nodup
  | _ => True

/-- Whether a declaration is no object with a field `type`. -/
def Node.Typeless : Node → Prop
  | .object fields _ => "type" ∉ Assoc.names fields
  | _ => True

theorem Node.typeless_bySource_iff (node : Node) : node.bySource.Typeless ↔ node.Typeless := by
  cases node with
  | object fields required =>
    show "type" ∉ Assoc.names (fieldsBySource fields) ↔ "type" ∉ Assoc.names fields
    rw [names_fieldsBySource]
  | _ => exact Iff.rfl

theorem Node.typeless_withRequired_iff (node : Node) (required : Bool) :
    (node.withRequired required).Typeless ↔ node.Typeless := by
  cases node <;> rfl

/-! ## The JSON form -/

namespace Schema

/-- The name of a type. -/
def TypeName.text : TypeName → String
  | string => "string"
  | number => "number"
  | decimal => "decimal"
  | date => "date"
  | boolean => "boolean"
  | map => "map"
  | objectId => "objectid"
  | mixed => "mixed"

theorem TypeName.ofName?_text (type : TypeName) : TypeName.ofName? type.text = some type := by
  cases type <;> decide +kernel

/-- The entries of a declaration: its type, its flag, and of its options those that are set. -/
def declarationEntries (type : Json) (options : Assoc (Option Json)) (required : Bool) : Options :=
  ("type", type) :: ("required", .bool required) ::
    options.filterMap fun option => option.2.map (Prod.mk option.1)

/-- The options of a text. -/
def ruleOptions (rule : StringRule) : Assoc (Option Json) :=
  [("match", (rule.pattern.map Pattern.source).map .string),
    ("minlength", rule.minLength.map fun n => .number (.integer n.toNat)),
    ("maxlength", rule.maxLength.map fun n => .number (.integer n.toNat)),
    ("enum", rule.allowed.map fun texts => .array (texts.map .string))]

/-- The options of a type with limits. -/
def boundsOptions {α : Type} (limit : α → Json) (bounds : Bounds α) : Assoc (Option Json) :=
  [("min", bounds.min.map limit), ("max", bounds.max.map limit)]

end Schema

open Schema

section

variable (dateText : Instant → String)

/-- The entries of the JSON form of a leaf. -/
def Leaf.entries (kind : Leaf) (required : Bool) : Options :=
  match kind with
  | .string rule =>
    declarationEntries (.string TypeName.string.text) (ruleOptions rule) required
  | .number bounds =>
    declarationEntries (.string TypeName.number.text)
      (boundsOptions (fun x => .number (.real x)) bounds) required
  | .decimal bounds =>
    declarationEntries (.string TypeName.decimal.text)
      (boundsOptions (fun x => .number (.real x)) bounds) required
  | .date bounds =>
    declarationEntries (.string TypeName.date.text)
      (boundsOptions (fun t => .string (dateText t)) bounds) required
  | .boolean => declarationEntries (.string TypeName.boolean.text) [] required
  | .map => declarationEntries (.string TypeName.map.text) [] required
  | .anyArray => declarationEntries (.array []) [] required
  | .unknown => declarationEntries (.string TypeName.mixed.text) [] required

namespace Node

mutual

/-- The JSON form of a declaration. -/
def declaration : Node → Json
  | .leaf kind required => .object (kind.entries dateText required)
  | .reference name required =>
    .object (declarationEntries (.string TypeName.objectId.text) [("ref", name.map .string)]
      required)
  | .arrayOf element required =>
    .object (declarationEntries (.array [element.declaration]) [] required)
  | .object fields required =>
    .object (declarationEntries (.object (fieldDeclarations fields)) [] required)

/-- The JSON forms of the declarations of fields. -/
def fieldDeclarations : List (String × Node) → List (String × Json)
  | [] => []
  | (name, node) :: rest => (name, node.declaration) :: fieldDeclarations rest

end

theorem fieldDeclarations_eq_map (fields : List (String × Node)) :
    fieldDeclarations dateText fields =
      fields.map fun field => (field.1, field.2.declaration dateText) := by
  induction fields with
  | nil => rfl
  | cons field rest ih => rw [fieldDeclarations, ih, List.map_cons]

theorem names_fieldDeclarations (fields : List (String × Node)) :
    Assoc.names (fieldDeclarations dateText fields) = Assoc.names fields := by
  rw [fieldDeclarations_eq_map, Assoc.names, List.map_map]
  rfl

end Node

end

/-! ## Reading the JSON form -/

namespace Schema

section

variable {type : Json} {options : Assoc (Option Json)} {required : Bool}

/-- An option that is set is found in the declaration, unless it has the name of an entry that every
declaration has. -/
theorem get?_declarationEntries (hnames : ("type" :: "required" :: options.names).Nodup)
    {name : String} {value : Option Json} (hvalue : options.get? name = some value) :
    Assoc.get? (declarationEntries type options required) name = value := by
  obtain ⟨htype, hrest⟩ := List.nodup_cons.mp hnames
  obtain ⟨hrequired, hoptions⟩ := List.nodup_cons.mp hrest
  have hname : name ∈ options.names := Assoc.mem_names_of_get?_eq_some hvalue
  have hne : "type" ≠ name := fun h => htype (List.mem_cons_of_mem _ (h ▸ hname))
  have hne' : "required" ≠ name := fun h => hrequired (h ▸ hname)
  have hfind := Assoc.get?_filterMap hoptions (fun _ value => value) name
  rw [declarationEntries, Assoc.get?_cons, if_neg hne, Assoc.get?_cons, if_neg hne', hfind, hvalue,
    Option.bind_some]

/-- An option is read as it was written. -/
theorem bind_get?_declarationEntries {α : Type}
    (hnames : ("type" :: "required" :: options.names).Nodup) {name : String} {value : Option α}
    {write : α → Json} {read : Json → Option α}
    (hvalue : options.get? name = some (value.map write))
    (hread : ∀ a, value = some a → read (write a) = some a) :
    (Assoc.get? (declarationEntries type options required) name).bind read = value := by
  rw [get?_declarationEntries hnames hvalue]
  cases value with
  | none => rfl
  | some a => exact hread a rfl

@[simp] theorem requiredOption_declarationEntries :
    requiredOption (declarationEntries type options required) = required := by
  cases required <;> rfl

theorem readNode_declarationEntries_of_named {dialect : Pattern.Dialect} (type : TypeName)
    (path : Path) :
    readNode dialect (.object (declarationEntries (.string type.text) options required)) path =
      typeNode dialect type (declarationEntries (.string type.text) options required) path := by
  rw [readNode_of_named rfl, namedNode_of_ofName?_eq_some type.ofName?_text]

theorem result_readNode_declarationEntries_of_wrapped {dialect : Pattern.Dialect}
    (htype : type.string? = none) (path : Path) :
    (readNode dialect (.object (declarationEntries type options required)) path).result =
      (readNode dialect type path).result.map fun node => node.withRequired required := by
  rw [readNode_of_wrapped rfl htype, Reading.result_bind_pure, requiredOption_declarationEntries]

end

theorem nodup_ruleOptions (rule : StringRule) :
    ("type" :: "required" :: (ruleOptions rule).names).Nodup := by
  show ["type", "required", "match", "minlength", "maxlength", "enum"].Nodup
  decide

theorem nodup_boundsOptions {α : Type} (limit : α → Json) (bounds : Bounds α) :
    ("type" :: "required" :: (boundsOptions limit bounds).names).Nodup := by
  show ["type", "required", "min", "max"].Nodup
  decide

theorem nodup_referenceOptions (name : Option String) :
    ("type" :: "required" :: Assoc.names [("ref", name.map Json.string)]).Nodup := by
  show ["type", "required", "ref"].Nodup
  decide

/-- A length is an integer that a JSON tree can have. -/
theorem toNat_lt_pow (n : UInt64) : (n.toNat : Int) < Int.pow 2 64 := by
  have hpow : Int.pow 2 64 = 18446744073709551616 := by decide
  have hn : n.toNat < 18446744073709551616 := n.toNat_lt
  omega

theorem uint64?_number_integer (n : UInt64) :
    (Json.number (.integer n.toNat)).uint64? = some n := by
  have hnonneg : (0 : Int) ≤ n.toNat := Int.natCast_nonneg _
  rw [Json.uint64?, Json.number?, Option.bind_some, JsonNumber.toUInt64?,
    if_pos ⟨hnonneg, toNat_lt_pow n⟩, Int.toNat_natCast, UInt64.ofNat_toNat]

theorem filterMap_string?_map (texts : List String) :
    (texts.map Json.string).filterMap Json.string? = texts := by
  rw [List.filterMap_map]
  exact List.filterMap_some

section

variable {dialect : Pattern.Dialect} {dateText : Instant → String} {type : Json} {required : Bool}

/-- A pattern is read with its source if the dialect accepts that. -/
theorem exists_patternOption {options : Options} {pattern : Option Pattern}
    (hsource : stringOption? options "match" = pattern.map Pattern.source)
    (haccepted : ∀ p ∈ pattern, dialect.Accepts p.source) (path : Path) :
    ∃ found, (patternOption dialect options path).result = .ok found ∧
      found.map Pattern.bySource = pattern.map Pattern.bySource := by
  rw [patternOption, hsource]
  cases pattern with
  | none => exact ⟨none, rfl, rfl⟩
  | some p =>
    obtain ⟨isMatch, hmatch⟩ := haccepted p rfl
    refine ⟨some ⟨p.source, isMatch⟩, ?_, rfl⟩
    simp only [Option.map_some, Pattern.ofSource, hmatch]
    rfl

/-- The constraints of a text are read as they were written. -/
theorem exists_typeNode_string_ruleOptions {rule : StringRule}
    (haccepted : ∀ p ∈ rule.pattern, dialect.Accepts p.source) (path : Path) :
    ∃ found : StringRule, (typeNode dialect .string
        (declarationEntries type (ruleOptions rule) required) path).result =
          .ok (.leaf (.string found) required) ∧
      found.bySource = rule.bySource := by
  have hnames := nodup_ruleOptions rule
  have hmatch : stringOption? (declarationEntries type (ruleOptions rule) required) "match" =
      rule.pattern.map Pattern.source :=
    bind_get?_declarationEntries hnames rfl fun _ _ => rfl
  have hmin : lengthOption? (declarationEntries type (ruleOptions rule) required) "minlength" =
      rule.minLength :=
    bind_get?_declarationEntries hnames rfl fun n _ => uint64?_number_integer n
  have hmax : lengthOption? (declarationEntries type (ruleOptions rule) required) "maxlength" =
      rule.maxLength :=
    bind_get?_declarationEntries hnames rfl fun n _ => uint64?_number_integer n
  have henum : enumOption? (declarationEntries type (ruleOptions rule) required) =
      rule.allowed := by
    rw [enumOption?, Option.map_bind]
    refine bind_get?_declarationEntries hnames rfl fun texts _ => ?_
    exact congrArg some (filterMap_string?_map texts)
  obtain ⟨pattern, hpattern, hsource⟩ := exists_patternOption hmatch haccepted path
  refine ⟨{ rule with pattern := pattern }, ?_, ?_⟩
  · rw [result_typeNode_string, hpattern, hmin, hmax, henum, requiredOption_declarationEntries]
    rfl
  · rw [StringRule.bySource, hsource, StringRule.bySource]

theorem numberBounds_boundsOptions (bounds : Bounds Float) :
    numberBounds (declarationEntries type (boundsOptions (fun x => .number (.real x)) bounds)
      required) = bounds := by
  have hnames := nodup_boundsOptions (fun x => .number (.real x)) bounds
  have hread : ∀ x, Json.float? (.number (.real x)) = some x := fun x => rfl
  rw [numberBounds, bind_get?_declarationEntries hnames rfl fun x _ => hread x,
    bind_get?_declarationEntries hnames rfl fun x _ => hread x]

theorem dateOption?_boundsOptions {bounds : Bounds Instant} {name : String}
    {value : Option Instant}
    (hvalue : (boundsOptions (fun t => .string (dateText t)) bounds).get? name =
      some (value.map fun t => .string (dateText t)))
    (hread : ∀ t, value = some t → Calendar.Rfc3339.parse? (dateText t) = some t) :
    dateOption? (declarationEntries type (boundsOptions (fun t => .string (dateText t)) bounds)
      required) name = value := by
  have hnames := nodup_boundsOptions (fun t => .string (dateText t)) bounds
  rw [dateOption?, stringOption?, Option.bind_assoc]
  exact bind_get?_declarationEntries hnames hvalue hread

/-- Whether a declaration is read as another one, up to what patterns match. -/
def ReadsAs (dialect : Pattern.Dialect) (json : Json) (path : Path) (node : Node) : Prop :=
  ∃ found, (readNode dialect json path).result = .ok found ∧ found.bySource = node.bySource

/-- A wrapper is read as what it stands for, with its own flag. -/
theorem readsAs_declarationEntries_of_wrapped {node : Node} (htype : type.string? = none)
    {path : Path} (h : ReadsAs dialect type path node) :
    ReadsAs dialect (.object (declarationEntries type options required)) path
      (node.withRequired required) := by
  obtain ⟨found, hread, hsource⟩ := h
  refine ⟨found.withRequired required, ?_, ?_⟩
  · rw [result_readNode_declarationEntries_of_wrapped htype, hread]
    rfl
  · rw [Node.bySource_withRequired, hsource, Node.bySource_withRequired]

/-- A leaf is read as it was written. -/
theorem readsAs_leaf
    (hdate : ∀ t : Instant, t.HasText → Calendar.Rfc3339.parse? (dateText t) = some t)
    {kind : Leaf} (hkind : kind.Writable)
    (haccepted : (Node.leaf kind required).AcceptedBy dialect) (path : Path) :
    ReadsAs dialect (.object (kind.entries dateText required)) path (.leaf kind required) := by
  cases kind with
  | string rule =>
    obtain ⟨found, hread, hsource⟩ := exists_typeNode_string_ruleOptions haccepted path
    refine ⟨.leaf (.string found) required, ?_, ?_⟩
    · rw [Leaf.entries, readNode_declarationEntries_of_named, hread]
    · rw [Node.bySource, Leaf.bySource, hsource, Node.bySource, Leaf.bySource]
  | number bounds | decimal bounds =>
    refine ⟨_, ?_, rfl⟩
    rw [Leaf.entries, readNode_declarationEntries_of_named, typeNode, numberBounds_boundsOptions,
      requiredOption_declarationEntries]
    rfl
  | date bounds =>
    obtain ⟨hmin, hmax⟩ := hkind
    refine ⟨_, ?_, rfl⟩
    rw [Leaf.entries, readNode_declarationEntries_of_named, result_typeNode_date,
      dateOption?_boundsOptions rfl fun t ht => hdate t (hmin t ht),
      dateOption?_boundsOptions rfl fun t ht => hdate t (hmax t ht),
      requiredOption_declarationEntries]
  | anyArray =>
    have hread : ReadsAs dialect (.array []) path (.leaf .anyArray false) := ⟨_, rfl, rfl⟩
    exact readsAs_declarationEntries_of_wrapped rfl hread
  | boolean | map | unknown =>
    refine ⟨_, ?_, rfl⟩
    rw [Leaf.entries, readNode_declarationEntries_of_named, typeNode,
      requiredOption_declarationEntries]
    rfl

/-- Fields are read as they were written if their declarations are. -/
theorem exists_readFields_fieldDeclarations {fields : Description}
    (h : ∀ field ∈ fields, ∀ path,
      ReadsAs dialect (field.2.declaration dateText) path field.2) (path : Path) :
    ∃ found, (readFields dialect (Node.fieldDeclarations dateText fields) path).result =
        .ok found ∧ Description.SameBySource found fields := by
  induction fields with
  | nil => exact ⟨[], rfl, rfl⟩
  | cons field rest ih =>
    obtain ⟨name, node⟩ := field
    obtain ⟨found, hread, hsource⟩ := h (name, node) List.mem_cons_self (path.field name)
    obtain ⟨others, hothers, hsources⟩ :=
      ih fun field hfield => h field (List.mem_cons_of_mem _ hfield)
    refine ⟨(name, found) :: others, ?_, ?_⟩
    · rw [Node.fieldDeclarations, readFields, Reading.result_bind_eq_ok_iff]
      exact ⟨found, hread, Reading.result_bind_eq_ok_iff.mpr ⟨others, hothers, rfl⟩⟩
    · rw [Description.SameBySource, Node.fieldsBySource, Node.fieldsBySource, hsource, hsources]

/-- A declaration is read as it was written, by induction over it. -/
theorem readsAs_declaration
    (hdate : ∀ t : Instant, t.HasText → Calendar.Rfc3339.parse? (dateText t) = some t)
    {node : Node} (hwritable : node.AllParts Node.Writable)
    (htypeless : node.AllParts Node.Typeless) (haccepted : node.AllParts (Node.AcceptedBy dialect))
    (path : Path) : ReadsAs dialect (node.declaration dateText) path node := by
  induction node using Node.induct generalizing path with
  | leaf kind required =>
    rw [Node.declaration]
    exact readsAs_leaf hdate (Node.allParts_leaf_iff.mp hwritable)
      (Node.allParts_leaf_iff.mp haccepted) path
  | reference name required =>
    have hname : stringOption? (declarationEntries (.string TypeName.objectId.text)
        [("ref", name.map .string)] required) "ref" = name :=
      bind_get?_declarationEntries (nodup_referenceOptions name) rfl fun _ _ => rfl
    refine ⟨_, ?_, rfl⟩
    rw [Node.declaration, readNode_declarationEntries_of_named, typeNode, hname,
      requiredOption_declarationEntries]
    rfl
  | arrayOf element required ih =>
    obtain ⟨-, hwritable⟩ := Node.allParts_arrayOf_iff.mp hwritable
    obtain ⟨-, htypeless⟩ := Node.allParts_arrayOf_iff.mp htypeless
    obtain ⟨-, haccepted⟩ := Node.allParts_arrayOf_iff.mp haccepted
    obtain ⟨found, hread, hsource⟩ := ih hwritable htypeless haccepted (path.index 0)
    have harray : ReadsAs dialect (.array [element.declaration dateText]) path
        (.arrayOf element false) := by
      refine ⟨.arrayOf found false, result_readNode_arrayOf_eq_ok_iff.mpr ⟨found, hread, rfl⟩, ?_⟩
      rw [Node.bySource, hsource, Node.bySource]
    exact readsAs_declarationEntries_of_wrapped rfl harray
  | object fields required ih =>
    obtain ⟨-, hwritable⟩ := Node.allParts_object_iff.mp hwritable
    obtain ⟨htype, htypeless⟩ := Node.allParts_object_iff.mp htypeless
    obtain ⟨-, haccepted⟩ := Node.allParts_object_iff.mp haccepted
    -- the inner object is read as fields, for none of its entries is called `type`
    have hfields : Assoc.get? (Node.fieldDeclarations dateText fields) "type" = none := by
      rwa [Assoc.get?_eq_none_iff, Node.names_fieldDeclarations]
    obtain ⟨found, hread, hsource⟩ := exists_readFields_fieldDeclarations
      (fun field hfield path => ih field hfield (hwritable field hfield) (htypeless field hfield)
        (haccepted field hfield) path) path
    have hobject : ReadsAs dialect (.object (Node.fieldDeclarations dateText fields)) path
        (.object fields false) := by
      refine ⟨.object found false,
        (result_readNode_eq_ok_iff_of_fields hfields).mpr ⟨found, hread, rfl⟩, ?_⟩
      rw [Node.bySource, hsource, Node.bySource]
    exact readsAs_declarationEntries_of_wrapped rfl hobject

end

/-! ## The JSON form as a tree -/

section

variable {dateText : Instant → String}

/-- The JSON form of a declaration is well-formed if what stands in it is. -/
theorem wellFormed_declarationEntries {type : Json} {options : Assoc (Option Json)}
    {required : Bool} (htype : type.WellFormed)
    (hnames : ("type" :: "required" :: options.names).Nodup)
    (hoptions : ∀ option ∈ options, ∀ json, option.2 = some json → json.WellFormed) :
    (Json.object (declarationEntries type options required)).WellFormed := by
  have hkept := Assoc.names_filterMap_sublist options fun _ value => value
  refine .object ((hkept.cons_cons _).cons_cons _ |>.nodup hnames) ?_
  rw [declarationEntries, List.forall_mem_cons, List.forall_mem_cons]
  refine ⟨htype, .bool required, fun entry hentry => ?_⟩
  obtain ⟨option, hoption, hmap⟩ := List.mem_filterMap.mp hentry
  obtain ⟨json, hjson, rfl⟩ := Option.map_eq_some_iff.mp hmap
  exact hoptions option hoption json hjson

/-- What is written for an option is well-formed if the values it may be written for are. -/
theorem wellFormed_of_map_eq_some {α : Type} {value : Option α} {write : α → Json} {json : Json}
    (hwrite : ∀ a, value = some a → (write a).WellFormed) (hjson : value.map write = some json) :
    json.WellFormed := by
  obtain ⟨a, ha, rfl⟩ := Option.map_eq_some_iff.mp hjson
  exact hwrite a ha

theorem wellFormed_length (n : UInt64) : (Json.number (.integer n.toNat)).WellFormed := by
  have hmin : Int.pow 2 63 = 9223372036854775808 := by decide
  exact .integer (by omega) (toNat_lt_pow n)

theorem wellFormed_ruleOptions (rule : StringRule) :
    ∀ option ∈ ruleOptions rule, ∀ json, option.2 = some json → json.WellFormed := by
  intro option hoption json hjson
  simp only [ruleOptions, List.mem_cons, List.not_mem_nil, or_false] at hoption
  rcases hoption with rfl | rfl | rfl | rfl
  · exact wellFormed_of_map_eq_some (fun source _ => .string source) hjson
  · exact wellFormed_of_map_eq_some (fun n _ => wellFormed_length n) hjson
  · exact wellFormed_of_map_eq_some (fun n _ => wellFormed_length n) hjson
  · refine wellFormed_of_map_eq_some (fun texts _ => ?_) hjson
    exact .array (List.forall_mem_map.mpr fun text _ => .string text)

theorem wellFormed_boundsOptions {α : Type} {limit : α → Json} {bounds : Bounds α}
    (h : bounds.Both fun a => (limit a).WellFormed) :
    ∀ option ∈ boundsOptions limit bounds, ∀ json, option.2 = some json → json.WellFormed := by
  obtain ⟨hmin, hmax⟩ := h
  intro option hoption json hjson
  simp only [boundsOptions, List.mem_cons, List.not_mem_nil, or_false] at hoption
  rcases hoption with rfl | rfl
  · exact wellFormed_of_map_eq_some hmin hjson
  · exact wellFormed_of_map_eq_some hmax hjson

theorem wellFormed_entries {kind : Leaf} (hkind : kind.Writable) (required : Bool) :
    (Json.object (kind.entries dateText required)).WellFormed := by
  have hnone : ("type" :: "required" :: Assoc.names ([] : Assoc (Option Json))).Nodup := by decide
  cases kind with
  | string rule =>
    exact wellFormed_declarationEntries (.string _) (nodup_ruleOptions rule)
      (wellFormed_ruleOptions rule)
  | number bounds | decimal bounds =>
    exact wellFormed_declarationEntries (.string _) (nodup_boundsOptions _ bounds)
      (wellFormed_boundsOptions
        ⟨fun x hx => .real (hkind.1 x hx), fun x hx => .real (hkind.2 x hx)⟩)
  | date bounds =>
    exact wellFormed_declarationEntries (.string _) (nodup_boundsOptions _ bounds)
      (wellFormed_boundsOptions ⟨fun _ _ => .string _, fun _ _ => .string _⟩)
  | anyArray =>
    exact wellFormed_declarationEntries (.array (List.forall_mem_nil _)) hnone
      (List.forall_mem_nil _)
  | boolean | map | unknown =>
    exact wellFormed_declarationEntries (.string _) hnone (List.forall_mem_nil _)

theorem wellFormed_fieldDeclarations {fields : Description} (hnames : fields.names.Nodup)
    (h : ∀ field ∈ fields, (field.2.declaration dateText).WellFormed) :
    (Json.object (Node.fieldDeclarations dateText fields)).WellFormed := by
  refine .object ?_ ?_
  · rwa [Node.names_fieldDeclarations]
  · rw [Node.fieldDeclarations_eq_map]
    exact List.forall_mem_map.mpr h

theorem wellFormed_declaration {node : Node} (h : node.AllParts Node.Writable) :
    (node.declaration dateText).WellFormed := by
  have hnone : ("type" :: "required" :: Assoc.names ([] : Assoc (Option Json))).Nodup := by decide
  induction node using Node.induct with
  | leaf kind required =>
    rw [Node.declaration]
    exact wellFormed_entries (Node.allParts_leaf_iff.mp h) required
  | reference name required =>
    rw [Node.declaration]
    refine wellFormed_declarationEntries (.string _) (nodup_referenceOptions name)
      fun option hoption json hjson => ?_
    obtain rfl := List.mem_singleton.mp hoption
    exact wellFormed_of_map_eq_some (fun text _ => .string text) hjson
  | arrayOf element required ih =>
    obtain ⟨-, helement⟩ := Node.allParts_arrayOf_iff.mp h
    have hitems : (Json.array [element.declaration dateText]).WellFormed :=
      .array (List.forall_mem_singleton.mpr (ih helement))
    rw [Node.declaration]
    exact wellFormed_declarationEntries hitems hnone (List.forall_mem_nil _)
  | object fields required ih =>
    obtain ⟨hnames, hfields⟩ := Node.allParts_object_iff.mp h
    have hinner := wellFormed_fieldDeclarations hnames fun field hfield =>
      ih field hfield (hfields field hfield)
    rw [Node.declaration]
    exact wellFormed_declarationEntries hinner hnone (List.forall_mem_nil _)

end

end Schema

end DocSchema
