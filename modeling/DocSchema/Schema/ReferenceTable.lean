import DocSchema.Schema.Node

/-!
# Reference tables

Named descriptions, in the order in which their names were first added.  `register` refuses a name
that is taken, `insert` replaces its description in place; `change` makes one change to a table and
says what came of it.  The names that descriptions refer to and that the table does not have are
listed by `unresolved`; that is no error, for such a reference only asks for an object.
-/

namespace DocSchema

/-- Named descriptions in order. -/
structure ReferenceTable where
  entries : Assoc Description

/-- A name that is registered already. -/
structure DuplicateName where
  name : String
  deriving DecidableEq, Repr

/-- The text of the error. -/
def DuplicateName.message (e : DuplicateName) : String :=
  "schema '" ++ e.name ++ "' already registered"

namespace ReferenceTable

/-- The table without names. -/
def empty : ReferenceTable :=
  ⟨[]⟩

/-- The description of a name. -/
def get? (table : ReferenceTable) (name : String) : Option Description :=
  table.entries.get? name

/-- Whether a name has a description. -/
def contains (table : ReferenceTable) (name : String) : Bool :=
  table.entries.contains name

theorem contains_iff {table : ReferenceTable} {name : String} :
    table.contains name = true ↔ ∃ description, table.get? name = some description :=
  Option.isSome_iff_exists

theorem contains_eq_false_iff {table : ReferenceTable} {name : String} :
    table.contains name = false ↔ table.get? name = none :=
  Option.isSome_eq_false_iff.trans Option.isNone_iff_eq_none

/-- The names in order. -/
def names (table : ReferenceTable) : List String :=
  table.entries.names

/-- The number of names. -/
def size (table : ReferenceTable) : Nat :=
  table.entries.length

/-- The table with a description, which replaces the one that the name had. -/
def insert (table : ReferenceTable) (name : String) (description : Description) : ReferenceTable :=
  ⟨table.entries.put name description⟩

/-- The table with a description under a new name. -/
def register (table : ReferenceTable) (name : String) (description : Description) :
    Except DuplicateName ReferenceTable :=
  if table.contains name then .error ⟨name⟩ else .ok (table.insert name description)

/-- The table of a list of descriptions; of a repeated name the last one counts. -/
def ofList (entries : List (String × Description)) : ReferenceTable :=
  ⟨Assoc.ofList entries⟩

/-! ## Changes -/

/-- One change to a table. -/
inductive Change where
  /-- Registers a description in place. -/
  | register (name : String) (description : Description)
  /-- Gives the table away and gets the larger one in return, or nothing if the name is taken. -/
  | extend (name : String) (description : Description)
  /-- Adds a description, or replaces the one that the name has. -/
  | insert (name : String) (description : Description)

/-- What comes of a change. -/
inductive Answer where
  | registered
  | refused (e : DuplicateName)
  /-- The description is in the table, in place of another one if the name had one. -/
  | inserted (replaced : Option Description)

/-- Changes a table; what is refused leaves it as it was.  A table that was given away to be
extended is lost if the name is refused: what goes on then is the copy that was kept of it. -/
def change (table : ReferenceTable) : Change → ReferenceTable × Answer
  | .register name description | .extend name description =>
    match table.register name description with
    | .ok larger => (larger, .registered)
    | .error e => (table, .refused e)
  | .insert name description => (table.insert name description, .inserted (table.get? name))

/-! ## Unresolved names -/

/-- Adds a name to an increasing list without repetitions. -/
def insertSorted (name : String) : List String → List String
  | [] => [name]
  | other :: rest =>
    if name < other then name :: other :: rest
    else if name = other then other :: rest
    else other :: insertSorted name rest

/-- The names that the descriptions of the table refer to, in order. -/
def references (table : ReferenceTable) : List String :=
  table.entries.flatMap fun (_, description) => Node.fieldReferences description

/-- The names that are referred to and not registered, in increasing order. -/
def unresolved (table : ReferenceTable) : List String :=
  (table.references.filter fun name => !table.contains name).foldr insertSorted []

end ReferenceTable

end DocSchema
