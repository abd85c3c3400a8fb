import DocSchema.Json.Basic
import DocSchema.Path

/-!
# Events

What reading and compiling a schema report on the way: declarations that are taken as they can be,
and every place where a schema is checked less strictly than it is written.
-/

namespace DocSchema

/-- How much attention an event asks for. -/
inductive Level where
  | debug
  | warn
  deriving DecidableEq, Repr

/-- A container that can be cut off by the depth limit. -/
inductive Container where
  | array
  | object
  | reference (name : String)
  deriving DecidableEq, Repr

/-- Something that happened while a schema was read or compiled. -/
inductive Event where
  /-- A type name that is not known declares nothing about the value. -/
  | unknownType (path : Path) (name : String)
  /-- A declaration of a wrong JSON type declares nothing about the value. -/
  | unrecognized (path : Path) (got : String)
  /-- A bound that is no date is no bound. -/
  | unreadableBound (path : Path) (option : String)
  | compiling (path : Path) (required : Bool)
  | resolved (path : Path) (reference : String)
  | unresolved (path : Path) (reference : String)
  | circular (path : Path) (reference : String)
  /-- A container below the depth limit is only checked for its type. -/
  | tooDeep (path : Path) (container : Container) (maxDepth : Nat)
  deriving DecidableEq, Repr

namespace Event

/-- Warnings are the events that cut off a part of a schema. -/
def level : Event → Level
  | circular _ _ | tooDeep _ _ _ => .warn
  | _ => .debug

/-- The text of an event. -/
def message : Event → String
  | unknownType _ _ => "unknown type name, accepting any value"
  | unrecognized _ _ => "unrecognized declaration"
  | unreadableBound _ _ => "ignoring unparsable date bound"
  | compiling _ _ => "compiling field"
  | resolved _ _ => "resolved reference"
  | unresolved _ _ => "unresolved reference, checking object only"
  | circular _ _ => "circular reference, checking object only"
  | tooDeep _ .array _ => "max depth exceeded, checking array only"
  | tooDeep _ _ _ => "max depth exceeded, checking object only"

/-- The path that an event is about. -/
def path : Event → Path
  | unknownType path _ | unrecognized path _ | unreadableBound path _ | compiling path _
  | resolved path _ | unresolved path _ | circular path _ | tooDeep path _ _ => path

/-- The data of an event behind its path. -/
def details : Event → List (String × Json)
  | unknownType _ name => [("type_name", .string name)]
  | unrecognized _ got => [("got", .string got)]
  | unreadableBound _ option => [("option", .string option)]
  | compiling _ required => [("required", .bool required)]
  | resolved _ name | unresolved _ name | circular _ name => [("reference", .string name)]
  | tooDeep _ (.reference name) maxDepth =>
    [("reference", .string name), ("max_depth", .number (.integer maxDepth))]
  | tooDeep _ _ maxDepth => [("max_depth", .number (.integer maxDepth))]

/-- All data of an event in order. -/
def fields (event : Event) : List (String × Json) :=
  ("path", .string event.path.render) :: event.details

end Event

end DocSchema
