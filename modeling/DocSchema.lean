import DocSchema.Compile.Compiler
import DocSchema.Json.Parser
import DocSchema.Schema.Draft
import DocSchema.Schema.Reader
import DocSchema.Proofs.Expansion
import DocSchema.Proofs.Conformance
import DocSchema.Proofs.Permissiveness
import DocSchema.Proofs.Inlining
import DocSchema.Proofs.Fault
import DocSchema.Proofs.Diagnosis
import DocSchema.Proofs.Guards
import DocSchema.Proofs.Cycles
import DocSchema.Proofs.Indistinguishability
import DocSchema.Proofs.Ordering
import DocSchema.Proofs.Equivalence
import DocSchema.Proofs.Limits
import DocSchema.Proofs.Accumulation
import DocSchema.Proofs.Strengthening
import DocSchema.Proofs.Declarations
import DocSchema.Proofs.ReadErrors
import DocSchema.Proofs.NormalForm
import DocSchema.Proofs.Declarable
import DocSchema.Proofs.ByteOrder
import DocSchema.Proofs.Unresolved
import DocSchema.Proofs.Absence
import DocSchema.Proofs.Relocation
import DocSchema.Proofs.Origins
import DocSchema.Proofs.Degradation
import DocSchema.Proofs.NestedTypes
import DocSchema.Proofs.Placement
import DocSchema.Proofs.Account
import DocSchema.Proofs.RoundTrip
import DocSchema.Proofs.PathTexts
import DocSchema.Proofs.Changes
import DocSchema.Proofs.Reports
