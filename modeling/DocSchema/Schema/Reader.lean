import DocSchema.Calendar.Rfc3339
import DocSchema.Schema.Reading
import DocSchema.Schema.ReferenceTable

/-!
# Reading schemas

Schema documents are JSON objects that map field names to declarations.  A declaration is

* a type name, with any ASCII case: `String`, `Number`, `Decimal` or `Decimal128`, `Date`,
  `Boolean`, `Map`, `ObjectId`, `Mixed`; any other name accepts every value;
* an array, whose first item declares the elements; without an item the elements are not checked;
* an object with a `type`, which is a type name with options or itself a declaration;
* any other object: a nested object with its fields.

Reading takes what it can.  Options that the type does not have, or of a wrong JSON type, count for
nothing.  It stops only at a document that is no object and at a `match` that is no pattern.  Which
texts are patterns is left to a dialect; the usual one is `Pattern.standard`.

* `Schema.readDescription`: a description.
* `Schema.readReferences`: a reference table, from an object that maps names to descriptions.
-/

namespace DocSchema.Schema

open Calendar

variable (dialect : Pattern.Dialect)

/-! ## Options -/

/-- The options of a declaration. -/
abbrev Options : Type := Assoc Json

/-- An option that is a string. -/
def stringOption? (options : Options) (name : String) : Option String :=
  (options.get? name).bind Json.string?

/-- A length: an integer literal of 64 bits without sign. -/
def lengthOption? (options : Options) (name : String) : Option UInt64 :=
  (options.get? name).bind Json.uint64?

/-- The allowed texts; items that are no strings are left out. -/
def enumOption? (options : Options) : Option (List String) :=
  ((options.get? "enum").bind Json.array?).map fun items => items.filterMap Json.string?

/-- Whether `required` is literally true. -/
def requiredOption (options : Options) : Bool :=
  (options.get? "required").bind Json.bool? == some true

/-- The limits of a number. -/
def numberBounds (options : Options) : Bounds Float where
  min := (options.get? "min").bind Json.float?
  max := (options.get? "max").bind Json.float?

/-- A limit of a date; a text that is no date is reported and left out. -/
def dateBound (options : Options) (name : String) (path : Path) : Reading (Option Instant) :=
  match stringOption? options name with
  | none => return none
  | some text => match Rfc3339.parse? text with
    | some instant => return some instant
    | none => do
      Reading.emit (.unreadableBound path name)
      return none

/-- The limits of a date. -/
def dateBounds (options : Options) (path : Path) : Reading (Bounds Instant) := do
  let min ← dateBound options "min" path
  let max ← dateBound options "max" path
  return ⟨min, max⟩

/-- The pattern of a text, if there is one. -/
def patternOption (options : Options) (path : Path) : Reading (Option Pattern) :=
  match stringOption? options "match" with
  | none => return none
  | some source => match Pattern.ofSource source dialect with
    | .ok pattern => return some pattern
    | .error reason => Reading.stop (.invalidPattern path reason)

/-- The constraints of a text. -/
def stringRule (options : Options) (path : Path) : Reading StringRule := do
  let pattern ← patternOption dialect options path
  return {
    pattern := pattern
    minLength := lengthOption? options "minlength"
    maxLength := lengthOption? options "maxlength"
    allowed := enumOption? options }

/-! ## Type names -/

/-- What a type name declares. -/
inductive TypeName where
  | string
  | number
  | decimal
  | date
  | boolean
  | map
  | objectId
  | mixed
  deriving DecidableEq, Repr

/-- The type of a name; letter case does not count, within ASCII. -/
def TypeName.ofName? (name : String) : Option TypeName :=
  match name.map Char.toLower with
  | "string" => some string
  | "number" => some number
  | "decimal" | "decimal128" => some decimal
  | "date" => some date
  | "boolean" => some boolean
  | "map" => some map
  | "objectid" => some objectId
  | "mixed" => some mixed
  | _ => none

/-- The declaration of a type with its options. -/
def typeNode (type : TypeName) (options : Options) (path : Path) : Reading Node := do
  let required := requiredOption options
  match type with
  | .string => return .leaf (.string (← stringRule dialect options path)) required
  | .number => return .leaf (.number (numberBounds options)) required
  | .decimal => return .leaf (.decimal (numberBounds options)) required
  | .date => return .leaf (.date (← dateBounds options path)) required
  | .boolean => return .leaf .boolean required
  | .map => return .leaf .map required
  | .objectId => return .reference (stringOption? options "ref") required
  | .mixed => return .leaf .unknown required

/-- The declaration of a type name with its options; a name that is not known is reported. -/
def namedNode (name : String) (options : Options) (path : Path) : Reading Node :=
  match TypeName.ofName? name with
  | some type => typeNode dialect type options path
  | none => do
    Reading.emit (.unknownType path name)
    return .leaf .unknown (requiredOption options)

/-! ## Declarations -/

/-- Reports a declaration of a wrong JSON type, which accepts every value. -/
def unrecognized (json : Json) (path : Path) : Reading Node := do
  Reading.emit (.unrecognized path json.typeName)
  return .leaf .unknown false

mutual

/-- Reads a declaration. -/
def readNode : Json → Path → Reading Node
  | .string name, path => namedNode dialect name [] path
  | .array [], _ => return .leaf .anyArray false
  | .array (first :: _), path => do
    return .arrayOf (← readNode first (path.index 0)) false
  | .object entries, path => match Assoc.get? entries "type" with
    | some (.string name) => namedNode dialect name entries path
    | some _ => do
      return (← readTypeEntry entries path).withRequired (requiredOption entries)
    | none => do
      return .object (← readFields entries path) false
  | .null, path => unrecognized .null path
  | .bool b, path => unrecognized (.bool b) path
  | .number n, path => unrecognized (.number n) path

/-- Reads the declarations of fields. -/
def readFields : List (String × Json) → Path → Reading Description
  | [], _ => return []
  | (name, json) :: rest, path => do
    let node ← readNode json (path.field name)
    let others ← readFields rest path
    return (name, node) :: others

/-- Reads the declaration in the `type` entry; it stands for the whole declaration. -/
def readTypeEntry : List (String × Json) → Path → Reading Node
  | [], _ => return .leaf .unknown false
  | (name, json) :: rest, path =>
    if name = "type" then readNode json path else readTypeEntry rest path

end

/-- The entries of a JSON object. -/
def readEntries (json : Json) (path : Path) : Reading (List (String × Json)) :=
  match json with
  | .object entries => return entries
  | other => Reading.stop (.notAnObject path other.typeName)

/-- Reads a description that lies under a path. -/
def readDescriptionAt (json : Json) (path : Path) : Reading Description := do
  let entries ← readEntries json path
  readFields dialect entries path

/-- Reads a description. -/
def readDescription (json : Json) (dialect : Pattern.Dialect := Pattern.standard) :
    Reading Description :=
  readDescriptionAt dialect json .root

/-- Reads named descriptions. -/
def readNamed : List (String × Json) → Reading (List (String × Description))
  | [] => return []
  | (name, json) :: rest => do
    let description ← readDescriptionAt dialect json (.ofField name)
    let others ← readNamed rest
    return (name, description) :: others

/-- Reads a reference table. -/
def readReferences (json : Json) (dialect : Pattern.Dialect := Pattern.standard) :
    Reading ReferenceTable := do
  let entries ← readEntries json .root
  let named ← readNamed dialect entries
  return .ofList named

end DocSchema.Schema
