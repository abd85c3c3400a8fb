import DocSchema.Calendar.Rfc3339
import DocSchema.Json.Printer
import DocSchema.Path

/-!
# Document values

The values that validators look at: JSON with one addition, a date of its own, so that a date can be
told from a string.  Numbers are doubles, NaN and the infinities included.

* `Value.typeName`, `Value.primitiveName`, `Value.className`: the three names of a value's type.
  They differ on dates only: a date is an object to a primitive test.
* `Value.get?`: the child under a path step.
* `Value.ofJson`, `Value.toJson`: from and to JSON trees.
* `Value.display`: the text in messages.
-/

namespace DocSchema

open Calendar (Instant)

/-- A value in a document. -/
inductive Value where
  | null
  | bool (b : Bool)
  | number (x : Float)
  | string (s : String)
  | date (t : Instant)
  | array (items : List Value)
  | object (entries : List (String × Value))
  deriving Inhabited

namespace Value

/-! ## Looking inside -/

/-- The child under a path step: a field of an object, or an element of an array. -/
def get? : Value → Segment → Option Value
  | object entries, .field name => Assoc.get? entries name
  | array items, .index position => items[position]?
  | _, _ => none

/-- Whether the value is null. -/
def isNull : Value → Bool
  | null => true
  | _ => false

/-- The text of a string. -/
def string? : Value → Option String
  | string s => some s
  | _ => none

/-- The double of a number. -/
def number? : Value → Option Float
  | number x => some x
  | _ => none

/-- The instant of a date. -/
def date? : Value → Option Instant
  | date t => some t
  | _ => none

/-- The items of an array. -/
def array? : Value → Option (List Value)
  | array items => some items
  | _ => none

/-- The entries of an object. -/
def object? : Value → Option (List (String × Value))
  | object entries => some entries
  | _ => none

/-! ## Type names -/

/-- The precise type of a value. -/
def typeName : Value → String
  | null => "null"
  | bool _ => "boolean"
  | number _ => "number"
  | string _ => "string"
  | date _ => "date"
  | array _ => "array"
  | object _ => "object"

/-- The type that primitive tests compare with: dates are objects. -/
def primitiveName : Value → String
  | date _ => "object"
  | v => v.typeName

/-- The type as the name of its class. -/
def className : Value → String
  | null => "Null"
  | bool _ => "Boolean"
  | number _ => "Number"
  | string _ => "String"
  | date _ => "Date"
  | array _ => "Array"
  | object _ => "Object"

/-! ## From and to JSON -/

mutual

/-- The value of a JSON tree. -/
def ofJson : Json → Value
  | .null => null
  | .bool b => bool b
  | .number n => number n.toFloat
  | .string s => string s
  | .array items => array (ofJsonItems items)
  | .object entries => object (ofJsonEntries entries)

/-- The values of the items of an array. -/
def ofJsonItems : List Json → List Value
  | [] => []
  | item :: rest => ofJson item :: ofJsonItems rest

/-- The values of the entries of an object. -/
def ofJsonEntries : List (String × Json) → List (String × Value)
  | [] => []
  | (key, item) :: rest => (key, ofJson item) :: ofJsonEntries rest

end

/-- The JSON tree of a double.  A whole number below `2 ^ 63` in magnitude is an integer; a NaN and
the infinities have no spelling and become null. -/
def jsonOfNumber (x : Float) : Json :=
  match Number.decode x with
  | none => .null
  | some d => match d.toInt? with
    | some n => if n.natAbs < Nat.pow 2 63 then .number (.integer n) else .number (.real x)
    | none => .number (.real x)

mutual

/-- The JSON tree of a value; a date becomes its text. -/
def toJson : Value → Json
  | null => .null
  | bool b => .bool b
  | number x => jsonOfNumber x
  | string s => .string s
  | date t => .string t.rfc3339
  | array items => .array (toJsonItems items)
  | object entries => .object (toJsonEntries entries)

/-- The JSON trees of the items of an array. -/
def toJsonItems : List Value → List Json
  | [] => []
  | item :: rest => toJson item :: toJsonItems rest

/-- The JSON trees of the entries of an object. -/
def toJsonEntries : List (String × Value) → List (String × Json)
  | [] => []
  | (key, item) :: rest => (key, toJson item) :: toJsonEntries rest

end

/-! ## Texts -/

/-- The text of a double in messages. -/
def numberText (x : Float) : String :=
  Number.Layout.plain.text x

/-- The text of a value in messages: strings as they are, containers as compact JSON. -/
def display : Value → String
  | null => "null"
  | bool true => "true"
  | bool false => "false"
  | number x => numberText x
  | string s => s
  | date t => t.display
  | array items => (toJson (array items)).render
  | object entries => (toJson (object entries)).render

/-! ## Equality -/

mutual

/-- Whether two values are equal: numbers as doubles, so that a NaN differs from itself, and objects
up to the order of their keys. -/
def beq : Value → Value → Bool
  | null, null => true
  | bool a, bool b => a == b
  | number x, number y => x == y
  | string s, string t => s == t
  | date s, date t => s == t
  | array as, array bs => beqItems as bs
  | object as, object bs => as.length == bs.length && beqEntries as bs
  | _, _ => false

/-- Whether two lists of items are equal in order. -/
def beqItems : List Value → List Value → Bool
  | [], [] => true
  | a :: as, b :: bs => beq a b && beqItems as bs
  | _, _ => false

/-- Whether every entry has an equal one among the others. -/
def beqEntries : List (String × Value) → List (String × Value) → Bool
  | [], _ => true
  | (key, a) :: rest, others =>
    (match Assoc.get? others key with
      | some b => beq a b
      | none => false) && beqEntries rest others

end

instance : BEq Value := ⟨beq⟩

end Value

end DocSchema
