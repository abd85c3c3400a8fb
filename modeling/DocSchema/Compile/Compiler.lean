import DocSchema.Compile.Log
import DocSchema.Compile.Validators
import DocSchema.Report

/-!
# Compiling schemas

A compiler resolves references through one table at every depth and limits how deep containers are
nested.  It never fails: what it cannot expand is checked for its type only, and the log says so.

* `Compiler.compile`, `Compiler.log`: the validators of a description, and the events on the way.
* `CompiledSchema.validate`: one failure for each top-level field that fails, in order.
-/

namespace DocSchema

/-- How schemas are compiled. -/
structure Compiler where
  table : ReferenceTable
  maxDepth : Nat

/-- The depth limit if no other is given. -/
def defaultMaxDepth : Nat := 100

/-- The compiler without references and with the default limit. -/
def Compiler.default : Compiler :=
  ⟨.empty, defaultMaxDepth⟩

/-- A validator for each top-level field, in order. -/
structure CompiledSchema where
  fields : Assoc Validator

namespace Compiler

/-- The expansion of one declaration at the top level. -/
def expand (compiler : Compiler) (node : Node) : Expansion :=
  .of compiler.table compiler.maxDepth [] node

/-- The expansions of the fields of a description. -/
def expandFields (compiler : Compiler) (description : Description) : List (String × Expansion) :=
  Expansion.ofFields compiler.table compiler.maxDepth [] description

/-- The validator of one declaration at the top level. -/
def compileNode (compiler : Compiler) (node : Node) : Validator :=
  (compiler.expand node).validator

/-- The validators of a description. -/
def compile (compiler : Compiler) (description : Description) : CompiledSchema :=
  ⟨Expansion.fieldValidators (compiler.expandFields description)⟩

/-- The events of compiling a description. -/
def log (compiler : Compiler) (description : Description) : List Event :=
  Expansion.fieldEvents compiler.maxDepth .root (compiler.expandFields description)

end Compiler

namespace CompiledSchema

/-- The validator of a top-level field. -/
def field? (schema : CompiledSchema) (name : String) : Option Validator :=
  schema.fields.get? name

/-- The number of top-level fields. -/
def size (schema : CompiledSchema) : Nat :=
  schema.fields.length

/-- The failures of a document, at most one for each top-level field.  A document that is no object
has none of the fields. -/
def failures (schema : CompiledSchema) (document : Value) (label : String) : List Failure :=
  schema.fields.filterMap fun (name, v) => v.failure? (.field document name) label

/-- The verdict on a document. -/
def validate (schema : CompiledSchema) (document : Value) (label : String) : Verdict :=
  .ofFailures (schema.failures document label)

/-- The verdict on a JSON document. -/
def validateJson (schema : CompiledSchema) (document : Json) (label : String) : Verdict :=
  schema.validate (.ofJson document) label

/-- The verdicts on many documents, in order. -/
def validateBatch (schema : CompiledSchema) (documents : List Value) (label : String) :
    List Verdict :=
  documents.map fun document => schema.validate document label

end CompiledSchema

end DocSchema
