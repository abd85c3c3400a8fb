import DocSchema.Failure

/-!
# Reports

The failures of one document, or of several, in order.  A report is never empty, so a verdict either
accepts or names at least one failure, and verdicts are joined by joining their reports.
-/

namespace DocSchema

/-- At least one failure, in order. -/
structure Report where
  first : Failure
  rest : List Failure
  deriving DecidableEq, Repr

namespace Report

/-- The report of one failure. -/
def single (failure : Failure) : Report :=
  ⟨failure, []⟩

/-- The failures, first to last. -/
def toList (report : Report) : List Failure :=
  report.first :: report.rest

/-- One report after the other. -/
def append (a b : Report) : Report :=
  ⟨a.first, a.rest ++ b.toList⟩

instance : Append Report := ⟨append⟩

/-- The report of a list of failures, unless the list is empty. -/
def ofList? : List Failure → Option Report
  | [] => none
  | first :: rest => some ⟨first, rest⟩

/-- The number of failures. -/
def size (report : Report) : Nat :=
  report.toList.length

/-- The first failure at a path. -/
def atPath? (report : Report) (path : Path) : Option Failure :=
  report.toList.find? fun failure => failure.path = path

/-- The failures of a kind. -/
def ofKind (report : Report) (kind : FailureKind) : List Failure :=
  report.toList.filter fun failure => failure.kind = kind

/-- The failures with a code. -/
def withCode (report : Report) (code : String) : List Failure :=
  report.toList.filter fun failure => failure.code = code

/-- The lines of a report, numbered from one. -/
def displayLines (failures : List Failure) : List String :=
  failures.zipIdx.map fun (failure, i) =>
    "  " ++ (i + 1).repr ++ ". " ++ failure.message ++ "\n"

/-- The text of a report: the number of failures, then their messages. -/
def display (report : Report) : String :=
  "Validation failed with " ++ report.size.repr ++ " error(s):\n"
    ++ String.join (displayLines report.toList)

@[simp] theorem toList_append (a b : Report) : (a ++ b).toList = a.toList ++ b.toList := rfl

theorem toList_inj {a b : Report} : a.toList = b.toList ↔ a = b := by
  cases a; cases b; simp [toList]

end Report

/-- The outcome of a validation. -/
inductive Verdict where
  | accepted
  | rejected (report : Report)
  deriving DecidableEq, Repr

namespace Verdict

/-- The failures of a verdict; none if it accepts. -/
def failures : Verdict → List Failure
  | accepted => []
  | rejected report => report.toList

/-- The verdict that a list of failures amounts to. -/
def ofFailures (failures : List Failure) : Verdict :=
  match Report.ofList? failures with
  | none => accepted
  | some report => rejected report

/-- Two verdicts together: the failures of the left one, then those of the right one. -/
def and : Verdict → Verdict → Verdict
  | accepted, b => b
  | rejected a, accepted => rejected a
  | rejected a, rejected b => rejected (a ++ b)

@[simp] theorem failures_ofFailures (failures : List Failure) :
    (ofFailures failures).failures = failures := by
  cases failures <;> rfl

@[simp] theorem failures_and (a b : Verdict) :
    (a.and b).failures = a.failures ++ b.failures := by
  cases a <;> cases b <;> simp [and, failures]

end Verdict

end DocSchema
