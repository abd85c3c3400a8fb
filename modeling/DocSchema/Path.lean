/-!
# Paths

A path leads from the root of a document, or of a schema document, to one place in it.  A step is a
field name or a position in an array; `Path.render` writes the usual form `list[0].key`.
-/

namespace DocSchema

/-- One step of a path. -/
inductive Segment where
  | field (name : String)
  | index (position : Nat)
  deriving DecidableEq, Repr, Inhabited

namespace Segment

/-- The bare key: the field name, or the position without brackets. -/
def render : Segment → String
  | field name => name
  | index position => position.repr

end Segment

/-- The steps from the root, first step first. -/
structure Path where
  segments : List Segment
  deriving DecidableEq, Repr, Inhabited

namespace Path

/-- The path of no steps. -/
def root : Path := ⟨[]⟩

/-- One step further. -/
def push (path : Path) (segment : Segment) : Path :=
  ⟨path.segments ++ [segment]⟩

/-- One field further. -/
def field (path : Path) (name : String) : Path :=
  path.push (.field name)

/-- One array element further. -/
def index (path : Path) (position : Nat) : Path :=
  path.push (.index position)

/-- The path of one field. -/
def ofField (name : String) : Path :=
  ⟨[.field name]⟩

/-- The number of steps. -/
def length (path : Path) : Nat :=
  path.segments.length

/-- Whether there is no step. -/
def isRoot (path : Path) : Bool :=
  path.segments.isEmpty

/-- The last step. -/
def last? (path : Path) : Option Segment :=
  path.segments.getLast?

/-- The text of a step that is not the first one: fields after a dot, positions in brackets. -/
def renderNext : Segment → String
  | .field name => "." ++ name
  | .index position => "[" ++ position.repr ++ "]"

/-- The text of a first step: as a later one, but a field has no dot. -/
def renderFirst : Segment → String
  | .field name => name
  | .index position => "[" ++ position.repr ++ "]"

/-- The text of a path, such as `list[0].key`; the root is the empty text. -/
def render (path : Path) : String :=
  match path.segments with
  | [] => ""
  | first :: rest => renderFirst first ++ String.join (rest.map renderNext)

@[simp] theorem segments_push (path : Path) (segment : Segment) :
    (path.push segment).segments = path.segments ++ [segment] := rfl

/-- Paths are equal step by step. -/
theorem segments_inj {p q : Path} : p.segments = q.segments ↔ p = q := by
  cases p; cases q; simp

end Path

end DocSchema
