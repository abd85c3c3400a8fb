import DocSchema.Compile.Expansion

/-!
# The log of an expansion

Compiling reports every part of an expansion in order, a part before what it contains, and says of
each reference and of each flat container what became of it.  Paths in the log are made of field
names only: an element is reported under the path of its array.
-/

namespace DocSchema

/-- The event of a flat container; a reference without a name is no event. -/
def Flattening.events (path : Path) (maxDepth : Nat) : Flattening → List Event
  | tooDeep container => [.tooDeep path container maxDepth]
  | circular name => [.circular path name]
  | unresolved name => [.unresolved path name]
  | unnamed => []

namespace Expansion

mutual

/-- The events of an expansion that lies under a path. -/
def events (maxDepth : Nat) (path : Path) : Expansion → List Event
  | leaf _ required => [.compiling path required]
  | arrayOf element required => .compiling path required :: element.events maxDepth path
  | object fields name required =>
    .compiling path required
      :: (name.map (Event.resolved path)).toList ++ fieldEvents maxDepth path fields
  | flat reason required => .compiling path required :: reason.events path maxDepth

/-- The events of the fields of an object that lies under a path. -/
def fieldEvents (maxDepth : Nat) (path : Path) : List (String × Expansion) → List Event
  | [] => []
  | (field, e) :: rest => e.events maxDepth (path.field field) ++ fieldEvents maxDepth path rest

end

end Expansion

end DocSchema
