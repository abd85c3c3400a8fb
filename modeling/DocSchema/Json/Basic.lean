import DocSchema.Assoc
import DocSchema.Number.Binary64

/-!
# JSON

JSON trees with the keys of an object in document order.  A number is an integer if it is spelled
without fraction and exponent and is small enough for 64 bits, otherwise a double: schema documents
distinguish the length `5` from `5.0`, while bounds and document numbers are doubles in any case.
-/

namespace DocSchema

/-- A JSON number as it is spelled. -/
inductive JsonNumber where
  | integer (n : Int)
  | real (x : Float)

/-- A JSON tree. -/
inductive Json where
  | null
  | bool (b : Bool)
  | number (n : JsonNumber)
  | string (s : String)
  | array (items : List Json)
  | object (entries : List (String × Json))
  deriving Inhabited

namespace JsonNumber

/-- The double nearest to the number. -/
def toFloat : JsonNumber → Float
  | integer n => Number.ofInt n
  | real x => x

/-- The number as an unsigned 64-bit integer, if it is spelled as one. -/
def toUInt64? : JsonNumber → Option UInt64
  | integer n => if 0 ≤ n ∧ n < Int.pow 2 64 then some (UInt64.ofNat n.toNat) else none
  | real _ => none

end JsonNumber

namespace Json

/-- The name of the type of a tree. -/
def typeName : Json → String
  | null => "null"
  | bool _ => "boolean"
  | number _ => "number"
  | string _ => "string"
  | array _ => "array"
  | object _ => "object"

/-- The text of a string node. -/
def string? : Json → Option String
  | string s => some s
  | _ => none

/-- The truth value of a boolean node. -/
def bool? : Json → Option Bool
  | bool b => some b
  | _ => none

/-- The number of a number node. -/
def number? : Json → Option JsonNumber
  | number n => some n
  | _ => none

/-- The items of an array node. -/
def array? : Json → Option (List Json)
  | array items => some items
  | _ => none

/-- The entries of an object node. -/
def object? : Json → Option (List (String × Json))
  | object entries => some entries
  | _ => none

/-- The double of a number node. -/
def float? (json : Json) : Option Float :=
  json.number?.map JsonNumber.toFloat

/-- The unsigned 64-bit integer of a number node that is spelled as one. -/
def uint64? (json : Json) : Option UInt64 :=
  json.number?.bind JsonNumber.toUInt64?

/-- The entry of an object node under a key. -/
def get? (json : Json) (key : String) : Option Json :=
  json.object?.bind fun entries => Assoc.get? entries key

end Json

end DocSchema
