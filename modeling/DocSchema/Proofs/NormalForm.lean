import DocSchema.Proofs.Declarations

/-!
# Normal forms of schema documents

Much of a schema document may be anything without changing what is read from it: options that the
declared type does not have, options of a wrong JSON type, the items of an array behind the first,
the case of type names, and the order of options.  The normal form of a document has none of that
left.  A document is read like its normal form, so that documents with the same normal form cannot
be told apart by what is read from them, or by the error if they cannot be read.

Only what is reported on the way may differ: a bound that is no date is reported and then left out,
and in the normal form it is not there at all.

* `Schema.OptionKind`, `Schema.TypeName.options`: the options of each type, and what they must be.
* `Schema.normalOptions`: the options that count, in a fixed order.
* `Schema.normal`, `Schema.normalDocument`: normal forms of declarations and of documents.
* `Schema.result_readNode_normal`: a declaration is read like its normal form.
* `Schema.readDescription_eq_of_normalDocument_eq`: what follows for two documents.
-/

namespace DocSchema

namespace Schema

/-! ## Options that count -/

/-- What the value of an option has to be to count. -/
inductive OptionKind where
  /-- Literally true. -/
  | flag
  | text
  /-- An integer literal of 64 bits without sign. -/
  | length
  /-- An array, in which only texts count. -/
  | texts
  | number
  /-- A text that names a date. -/
  | date

/-- What is left of the value of an option; nothing if it does not count. -/
def OptionKind.normal? : OptionKind → Json → Option Json
  | flag, json => if json.bool? = some true then some json else none
  | text, json => json.string?.map fun _ => json
  | length, json => json.uint64?.map fun _ => json
  | texts, json =>
    json.array?.map fun items => .array (items.filter fun item => item.string?.isSome)
  | number, json => json.number?.map fun _ => json
  | date, json => (json.string?.bind Calendar.Rfc3339.parse?).map fun _ => json

/-- The options of a type beside its flag. -/
def TypeName.options : TypeName → Assoc OptionKind
  | string => [("match", .text), ("minlength", .length), ("maxlength", .length), ("enum", .texts)]
  | number | decimal => [("min", .number), ("max", .number)]
  | date => [("min", .date), ("max", .date)]
  | objectId => [("ref", .text)]
  | boolean | map | mixed => []

/-- The options that count beside a type name.  A name that is not known has only the flag. -/
def namedOptions (name : String) : Assoc OptionKind :=
  ("required", .flag) :: (TypeName.ofName? name).elim [] TypeName.options

/-- The options that count, in a fixed order. -/
def normalOptions (kinds : Assoc OptionKind) (options : Options) : Options :=
  kinds.filterMap fun option =>
    ((Assoc.get? options option.1).bind option.2.normal?).map (Prod.mk option.1)

/-! ## Normal forms -/

mutual

/-- The normal form of a declaration. -/
def normal : Json → Json
  | .string name => .string (name.map Char.toLower)
  | .array [] => .array []
  | .array (first :: _) => .array [normal first]
  | .object entries => match Assoc.get? entries "type" with
    | some (.string name) =>
      .object (("type", .string (name.map Char.toLower))
        :: normalOptions (namedOptions name) entries)
    | some _ =>
      .object (("type", normalTypeEntry entries) :: normalOptions [("required", .flag)] entries)
    | none => .object (normalFields entries)
  | .null => .null
  | .bool b => .bool b
  | .number n => .number n

/-- The normal forms of the declarations of fields. -/
def normalFields : List (String × Json) → List (String × Json)
  | [] => []
  | (name, json) :: rest => (name, normal json) :: normalFields rest

/-- The normal form of the declaration in the `type` entry. -/
def normalTypeEntry : List (String × Json) → Json
  | [] => .null
  | (name, json) :: rest => if name = "type" then normal json else normalTypeEntry rest

end

/-- The normal form of a document.  Its own entries are fields, also one of the name `type`. -/
def normalDocument : Json → Json
  | .object entries => .object (normalFields entries)
  | json => json

variable {dialect : Pattern.Dialect} {entries : List (String × Json)} {path : Path}

theorem normalFields_eq_map (entries : List (String × Json)) :
    normalFields entries = entries.map fun entry => (entry.1, normal entry.2) := by
  induction entries with
  | nil => rfl
  | cons entry rest ih => rw [normalFields, ih, List.map_cons]

theorem names_normalFields (entries : List (String × Json)) :
    Assoc.names (normalFields entries) = Assoc.names entries := by
  rw [normalFields_eq_map, Assoc.names, Assoc.names, List.map_map]
  rfl

theorem normalTypeEntry_eq {declared : Json} (h : Assoc.get? entries "type" = some declared) :
    normalTypeEntry entries = normal declared := by
  induction entries with
  | nil => cases h
  | cons entry rest ih =>
    obtain ⟨key, json⟩ := entry
    rw [Assoc.get?_cons] at h
    rw [normalTypeEntry]
    by_cases hkey : key = "type"
    · rw [if_pos hkey, Option.some_inj] at h
      rw [if_pos hkey, h]
    · rw [if_neg hkey] at h
      rw [if_neg hkey, ih h]

theorem normal_of_named {name : String} (h : Assoc.get? entries "type" = some (.string name)) :
    normal (.object entries) =
      .object (("type", .string (name.map Char.toLower))
        :: normalOptions (namedOptions name) entries) := by
  rw [normal, h]

theorem normal_of_wrapped {declared : Json} (h : Assoc.get? entries "type" = some declared)
    (hd : declared.string? = none) :
    normal (.object entries) =
      .object (("type", normal declared) :: normalOptions [("required", .flag)] entries) := by
  rw [normal, h, normalTypeEntry_eq h]
  cases declared with
  | string s => cases hd
  | _ => rfl

theorem normal_of_fields (h : Assoc.get? entries "type" = none) :
    normal (.object entries) = .object (normalFields entries) := by
  rw [normal, h]

/-- A normal form is a type name if and only if it is that of a type name. -/
theorem string?_normal_eq_none {json : Json} (h : json.string? = none) :
    (normal json).string? = none := by
  cases json using Json.declarationInduct with
  | name s => cases h
  | named entries name hn => rw [normal_of_named hn]; rfl
  | wrapped entries declared hg hd => rw [normal_of_wrapped hg hd]; rfl
  | fields entries hn => rw [normal_of_fields hn]; rfl
  | _ => rfl

/-! ## Reading the options that count -/

theorem nodup_namedOptions (name : String) : (namedOptions name).names.Nodup := by
  rw [namedOptions]
  rcases TypeName.ofName? name with _ | type
  · decide
  · cases type <;> decide

theorem get?_normalOptions {kinds : Assoc OptionKind} (hkinds : kinds.names.Nodup)
    (options : Options) (name : String) :
    Assoc.get? (normalOptions kinds options) name =
      (kinds.get? name).bind fun kind => (options.get? name).bind kind.normal? :=
  Assoc.get?_filterMap hkinds (fun name kind => (Assoc.get? options name).bind kind.normal?) name

/-- An option that counts is read as it was, by whatever reads no more of a value than is left of
it. -/
theorem get?_normalOptions_bind {α : Type} {kinds : Assoc OptionKind} {kind : OptionKind}
    {name : String} {read : Json → Option α} (hkinds : kinds.names.Nodup)
    (hkind : kinds.get? name = some kind)
    (hread : ∀ json, (kind.normal? json).bind read = read json) (options : Options) :
    (Assoc.get? (normalOptions kinds options) name).bind read =
      (options.get? name).bind read := by
  rw [get?_normalOptions hkinds, hkind, Option.bind_some, Option.bind_assoc]
  exact congrArg (Option.bind _) (funext hread)

theorem bind_normal?_text (json : Json) :
    (OptionKind.text.normal? json).bind Json.string? = json.string? := by
  rw [OptionKind.normal?]
  cases h : json.string? <;> simp [h]

theorem bind_normal?_length (json : Json) :
    (OptionKind.length.normal? json).bind Json.uint64? = json.uint64? := by
  rw [OptionKind.normal?]
  cases h : json.uint64? <;> simp [h]

theorem bind_normal?_number (json : Json) :
    (OptionKind.number.normal? json).bind Json.float? = json.float? := by
  rw [OptionKind.normal?]
  cases h : json.number? <;> simp [Json.float?, h]

theorem bind_normal?_date (json : Json) :
    ((OptionKind.date.normal? json).bind fun json => json.string?.bind Calendar.Rfc3339.parse?) =
      json.string?.bind Calendar.Rfc3339.parse? := by
  rw [OptionKind.normal?]
  cases h : json.string?.bind Calendar.Rfc3339.parse? <;> simp [h]

/-- The texts of a list are those of the texts in it. -/
theorem filterMap_string?_filter (items : List Json) :
    (items.filter fun item => item.string?.isSome).filterMap Json.string? =
      items.filterMap Json.string? := by
  have hitem : ∀ item : Json,
      (if item.string?.isSome = true then item.string? else none) = item.string? := by
    intro item
    cases item.string? <;> rfl
  rw [List.filterMap_filter]
  simp only [hitem]

theorem bind_normal?_texts (json : Json) :
    ((OptionKind.texts.normal? json).bind fun json =>
        json.array?.map fun items => items.filterMap Json.string?) =
      json.array?.map fun items => items.filterMap Json.string? := by
  rw [OptionKind.normal?]
  cases json.array? with
  | none => rfl
  | some items => simp [Json.array?, filterMap_string?_filter]

/-! ## Reading a normal form -/

section

variable {kinds : Assoc OptionKind} {name : String} (hkinds : kinds.names.Nodup)
  (declared : Json) (options : Options)

/-- The options of a normal form, behind its `type`. -/
theorem get?_cons_normalOptions (hname : "type" ≠ name) :
    Assoc.get? (("type", declared) :: normalOptions kinds options) name =
      Assoc.get? (normalOptions kinds options) name := by
  rw [Assoc.get?_cons, if_neg hname]

include hkinds

theorem stringOption?_normal (hname : "type" ≠ name) (hkind : kinds.get? name = some .text) :
    stringOption? (("type", declared) :: normalOptions kinds options) name =
      stringOption? options name := by
  rw [stringOption?, get?_cons_normalOptions _ _ hname]
  exact get?_normalOptions_bind hkinds hkind bind_normal?_text options

theorem lengthOption?_normal (hname : "type" ≠ name) (hkind : kinds.get? name = some .length) :
    lengthOption? (("type", declared) :: normalOptions kinds options) name =
      lengthOption? options name := by
  rw [lengthOption?, get?_cons_normalOptions _ _ hname]
  exact get?_normalOptions_bind hkinds hkind bind_normal?_length options

theorem dateOption?_normal (hname : "type" ≠ name) (hkind : kinds.get? name = some .date) :
    dateOption? (("type", declared) :: normalOptions kinds options) name =
      dateOption? options name := by
  rw [dateOption?, dateOption?, stringOption?, stringOption?, Option.bind_assoc, Option.bind_assoc,
    get?_cons_normalOptions _ _ hname]
  exact get?_normalOptions_bind hkinds hkind bind_normal?_date options

theorem floatOption_normal (hname : "type" ≠ name) (hkind : kinds.get? name = some .number) :
    (Assoc.get? (("type", declared) :: normalOptions kinds options) name).bind Json.float? =
      (options.get? name).bind Json.float? := by
  rw [get?_cons_normalOptions _ _ hname]
  exact get?_normalOptions_bind hkinds hkind bind_normal?_number options

theorem numberBounds_normal (hmin : kinds.get? "min" = some .number)
    (hmax : kinds.get? "max" = some .number) :
    numberBounds (("type", declared) :: normalOptions kinds options) = numberBounds options := by
  rw [numberBounds, numberBounds, floatOption_normal hkinds _ _ (by decide) hmin,
    floatOption_normal hkinds _ _ (by decide) hmax]

theorem enumOption?_normal (hkind : kinds.get? "enum" = some .texts) :
    enumOption? (("type", declared) :: normalOptions kinds options) = enumOption? options := by
  rw [enumOption?, enumOption?, Option.map_bind, Option.map_bind,
    get?_cons_normalOptions _ _ (by decide)]
  exact get?_normalOptions_bind hkinds hkind bind_normal?_texts options

theorem requiredOption_normal (hkind : kinds.get? "required" = some .flag) :
    requiredOption (("type", declared) :: normalOptions kinds options) =
      requiredOption options := by
  rw [requiredOption, requiredOption, get?_cons_normalOptions _ _ (by decide),
    get?_normalOptions hkinds, hkind, Option.bind_some]
  cases options.get? "required" with
  | none => rfl
  | some json =>
    rw [Option.bind_some, OptionKind.normal?]
    split
    · rfl
    · rename_i h
      simp [h]

end

/-- The pattern of a text is read from its source alone. -/
theorem patternOption_congr {options others : Options}
    (h : stringOption? options "match" = stringOption? others "match") (path : Path) :
    patternOption dialect options path = patternOption dialect others path := by
  rw [patternOption, patternOption, h]

/-- Of a type with options the normal form keeps all that is read. -/
theorem result_typeNode_normal (type : TypeName) (declared : Json) (options : Options)
    (path : Path) :
    (typeNode dialect type
        (("type", declared) :: normalOptions (("required", .flag) :: type.options) options)
        path).result =
      (typeNode dialect type options path).result := by
  have hkinds : (Assoc.names (("required", .flag) :: type.options)).Nodup := by
    cases type <;> decide
  have hrequired := requiredOption_normal hkinds declared options rfl
  cases type with
  | string =>
    rw [result_typeNode_string, result_typeNode_string, hrequired,
      patternOption_congr (stringOption?_normal hkinds declared options (by decide) rfl),
      lengthOption?_normal hkinds _ _ (by decide) rfl,
      lengthOption?_normal hkinds _ _ (by decide) rfl, enumOption?_normal hkinds _ _ rfl]
  | number | decimal =>
    rw [typeNode, typeNode, hrequired, numberBounds_normal hkinds _ _ rfl rfl]
  | date =>
    rw [result_typeNode_date, result_typeNode_date, hrequired,
      dateOption?_normal hkinds _ _ (by decide) rfl, dateOption?_normal hkinds _ _ (by decide) rfl]
  | objectId =>
    rw [typeNode, typeNode, hrequired, stringOption?_normal hkinds _ _ (by decide) rfl]
  | boolean | map | mixed => rw [typeNode, typeNode, hrequired]

/-- A lower-case character is its own lower-case form. -/
theorem toLower_toLower (c : Char) : c.toLower.toLower = c.toLower := by
  by_cases hupper : c.val ≥ 'A'.val ∧ c.val ≤ 'Z'.val
  · have hval : c.toLower.val = c.val + ('a'.val - 'A'.val) := congrArg Char.val (dif_pos hupper)
    have hlower : ¬ (c.toLower.val ≥ 'A'.val ∧ c.toLower.val ≤ 'Z'.val) := by
      rw [hval]
      grind [UInt32.toNat_add]
    exact dif_neg hlower
  · have hself : c.toLower = c := dif_neg hupper
    rw [hself, hself]

/-- Letter case does not count in a type name. -/
theorem TypeName.ofName?_lower (name : String) :
    TypeName.ofName? (name.map Char.toLower) = TypeName.ofName? name := by
  have hlower : (name.map Char.toLower).map Char.toLower = name.map Char.toLower := by
    rw [String.map_map]
    exact congrArg (String.map · name) (funext toLower_toLower)
  rw [TypeName.ofName?, TypeName.ofName?, hlower]

/-- Without options, letter case is all the normal form changes. -/
theorem result_namedNode_lower (name : String) (options : Options) (path : Path) :
    (namedNode dialect (name.map Char.toLower) options path).result =
      (namedNode dialect name options path).result := by
  cases h : TypeName.ofName? name with
  | none =>
    rw [result_namedNode_of_ofName?_eq_none ((TypeName.ofName?_lower name).trans h),
      result_namedNode_of_ofName?_eq_none h]
  | some type =>
    rw [namedNode_of_ofName?_eq_some ((TypeName.ofName?_lower name).trans h),
      namedNode_of_ofName?_eq_some h]

/-- A type name with options is read like its normal form. -/
theorem result_namedNode_normal (name : String) (declared : Json) (options : Options)
    (path : Path) :
    (namedNode dialect (name.map Char.toLower)
        (("type", declared) :: normalOptions (namedOptions name) options) path).result =
      (namedNode dialect name options path).result := by
  rw [result_namedNode_lower]
  cases h : TypeName.ofName? name with
  | none =>
    have hrequired := requiredOption_normal (nodup_namedOptions name) declared options rfl
    rw [result_namedNode_of_ofName?_eq_none h, result_namedNode_of_ofName?_eq_none h, hrequired]
  | some type =>
    have hkinds : namedOptions name = ("required", .flag) :: type.options := by
      rw [namedOptions, h, Option.elim]
    rw [namedNode_of_ofName?_eq_some h, namedNode_of_ofName?_eq_some h, hkinds,
      result_typeNode_normal]

/-- Fields are read like others of the same names whose declarations are read alike. -/
theorem result_readFields_normal
    (h : ∀ entry ∈ entries, ∀ path,
      (readNode dialect (normal entry.2) path).result = (readNode dialect entry.2 path).result)
    (path : Path) :
    (readFields dialect (normalFields entries) path).result =
      (readFields dialect entries path).result := by
  induction entries with
  | nil => rfl
  | cons entry rest ih =>
    obtain ⟨name, json⟩ := entry
    obtain ⟨hjson, hrest⟩ := List.forall_mem_cons.mp h
    rw [normalFields, readFields, readFields, Reading.result_bind, Reading.result_bind, hjson]
    refine congrArg (Except.bind _) (funext fun node => ?_)
    rw [Reading.result_bind_pure, Reading.result_bind_pure, ih hrest]

/-- A declaration is read like its normal form. -/
theorem result_readNode_normal (json : Json) (path : Path) :
    (readNode dialect (normal json) path).result = (readNode dialect json path).result := by
  induction json using Json.declarationInduct generalizing path with
  | name name =>
    rw [normal, readNode, readNode, result_namedNode_lower]
  | anyArray => rfl
  | arrayOf first rest ih =>
    rw [normal, readNode, readNode, Reading.result_bind_pure, Reading.result_bind_pure, ih]
  | named entries name h =>
    rw [normal_of_named h, readNode_of_named rfl, readNode_of_named h,
      result_namedNode_normal]
  | wrapped entries declared h hd ih =>
    -- beside a declaration that is no type name only the flag counts
    have hkinds : Assoc.names [("required", OptionKind.flag)] |>.Nodup := by decide
    have hrequired := requiredOption_normal hkinds (normal declared) entries rfl
    rw [normal_of_wrapped h hd, readNode_of_wrapped rfl (string?_normal_eq_none hd),
      readNode_of_wrapped h hd, Reading.result_bind_pure, Reading.result_bind_pure, ih, hrequired]
  | fields entries h ih =>
    have hnormal : Assoc.get? (normalFields entries) "type" = none := by
      rwa [Assoc.get?_eq_none_iff, names_normalFields, ← Assoc.get?_eq_none_iff]
    rw [normal_of_fields h, readNode_of_fields hnormal, readNode_of_fields h,
      Reading.result_bind_pure, Reading.result_bind_pure, result_readFields_normal ih]
  | null | bool b | number n => rfl

/-- A document is read like its normal form. -/
theorem result_readDescription_normal (json : Json) (dialect : Pattern.Dialect) :
    (readDescription (normalDocument json) dialect).result =
      (readDescription json dialect).result := by
  cases json with
  | object entries =>
    exact result_readFields_normal (fun entry _ => result_readNode_normal entry.2) .root
  | _ => rfl

/-- Documents with the same normal form are read alike: as the same description, or with the same
error. -/
theorem readDescription_eq_of_normalDocument_eq {document other : Json}
    (h : normalDocument document = normalDocument other) (dialect : Pattern.Dialect) :
    (readDescription document dialect).result = (readDescription other dialect).result := by
  rw [← result_readDescription_normal document, h, result_readDescription_normal]

end Schema

namespace Sample

/-- A document where all that is written counts. -/
def plain : Json :=
  .object [("type", .object [("type", .string "string"), ("minlength", .number (.integer 2)),
      ("enum", .array [.string "a", .string "b"])]),
    ("tags", .object [("type", .array [.string "objectid"]), ("required", .bool true)])]

/-- The same document with a wrong option of every sort, and an item that is no pattern where none
is asked for. -/
def noisy : Json :=
  .object [("type", .object [("min", .number (.integer 1)), ("required", .string "true"),
      ("enum", .array [.string "a", .null, .string "b"]), ("maxlength", .number (.integer (-1))),
      ("minlength", .number (.integer 2)), ("type", .string "String"), ("match", .bool true)]),
    ("tags", .object [("ref", .string "Tag"), ("required", .bool true),
      ("type", .array [.string "ObjectId",
        .object [("type", .string "String"), ("match", .string "(")]])])]

end Sample

/-- The two samples have the same normal form and are read alike. -/
theorem Schema.readDescription_noisy_eq_plain :
    normalDocument Sample.noisy = normalDocument Sample.plain ∧
      (readDescription Sample.noisy).result = (readDescription Sample.plain).result := by
  have hplain : normalDocument Sample.plain = Sample.plain := by with_unfolding_all rfl
  have hnoisy : normalDocument Sample.noisy = Sample.plain := by with_unfolding_all rfl
  have h : normalDocument Sample.noisy = normalDocument Sample.plain := hnoisy.trans hplain.symm
  exact ⟨h, readDescription_eq_of_normalDocument_eq h Pattern.standard⟩

end DocSchema
