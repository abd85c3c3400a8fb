import DocSchema.Proofs.Accumulation
import Mathlib.Algebra.Group.Defs

/-!
# Reports are free

Reports are made of single failures by joining, and of nothing else.  Joining is associative, it
forgets nothing and adds nothing, and so a report is known by the failures that it is joined from:
reports are the free semigroup on failures.  Whatever can be said of single failures, and of two
reports together, is thereby said of every report in exactly one way.

## Where order could be lost

A list of failures becomes a report by making a report of each one and joining these from the left,
so each failure but the last one is moved as often as there are failures behind it.  That all of
them come out in the order in which they went in is the associativity of joining, by induction over
the reports that are still to be joined.  The queries search the joined report and are therefore
questions about the list.

* `Report.join?_map_single_eq_some_iff`: the join of single reports holds the list they were made
  of.
* `Report.existsUnique_hom`: reports are the free semigroup on failures.
* `Report.Selects`: all members of a list that have a property, in order.
* `Report.atPath?_eq_some_iff`, `Report.existsUnique_mem_ofKind`: what queries find.
* `Report.free_and_searched`: all of it together.
-/

namespace DocSchema.Report

/-! ## Joining -/

theorem append_assoc (a b c : Report) : a ++ b ++ c = a ++ (b ++ c) := by
  rw [← toList_inj]
  simp only [toList_append, List.append_assoc]

/-- Every report is joined from its first failure and what follows. -/
theorem single_append (first second : Failure) (rest : List Failure) :
    single first ++ ⟨second, rest⟩ = ⟨first, second :: rest⟩ := rfl

/-- A property of single failures that joining another failure in front keeps is a property of all
reports. -/
theorem induct {motive : Report → Prop} (single : ∀ failure, motive (.single failure))
    (append : ∀ failure report, motive report → motive (.single failure ++ report))
    (report : Report) : motive report := by
  obtain ⟨first, rest⟩ := report
  induction rest generalizing first with
  | nil => exact single first
  | cons second rest ih =>
    rw [← single_append]
    exact append first ⟨second, rest⟩ (ih second)

/-! ## Reports of lists -/

section OfList

variable {failures before after : List Failure} {report : Report}

/-- The report of a list of failures holds them, all of them and in order. -/
theorem ofList?_eq_some_iff : ofList? failures = some report ↔ report.toList = failures := by
  cases failures with
  | nil =>
    constructor
    · intro h
      cases h
    · intro h
      cases h
  | cons first rest =>
    rw [ofList?, Option.some_inj, ← toList_inj]
    exact eq_comm

/-- **The join of single reports holds the failures that they were made of**, for it is their
report. -/
theorem join?_map_single_eq_some_iff :
    join? (failures.map single) = some report ↔ report.toList = failures := by
  rw [← ofList?_eq_join?, ofList?_eq_some_iff]

theorem ofList?_eq_none_iff : ofList? failures = none ↔ failures = [] := by
  cases failures with
  | nil => exact iff_of_true rfl rfl
  | cons first rest => exact iff_of_false (Option.some_ne_none _) (List.cons_ne_nil _ _)

theorem exists_ofList?_eq_some (h : failures ≠ []) : ∃ report, ofList? failures = some report :=
  Option.ne_none_iff_exists'.mp fun hnone => h (ofList?_eq_none_iff.mp hnone)

/-- The report of two lists, one behind the other, joins their reports. -/
theorem exists_ofList?_append (hbefore : before ≠ []) (hafter : after ≠ []) :
    ∃ left right, ofList? before = some left ∧ ofList? after = some right ∧
      ofList? (before ++ after) = some (left ++ right) := by
  obtain ⟨left, hleft⟩ := exists_ofList?_eq_some hbefore
  obtain ⟨right, hright⟩ := exists_ofList?_eq_some hafter
  refine ⟨left, right, hleft, hright, ?_⟩
  rw [ofList?_eq_some_iff, toList_append, ofList?_eq_some_iff.mp hleft,
    ofList?_eq_some_iff.mp hright]

end OfList

/-! ## The free semigroup -/

/-- The value of a report whose failures have values in a semigroup. -/
def eval {S : Type} [Mul S] (f : Failure → S) (report : Report) : S :=
  (report.rest.map f).foldl (· * ·) (f report.first)

theorem foldl_mul_mul {S : Type} [Semigroup S] (x y : S) (l : List S) :
    l.foldl (· * ·) (x * y) = x * l.foldl (· * ·) y := by
  induction l generalizing y with
  | nil => rfl
  | cons z rest ih => rw [List.foldl_cons, List.foldl_cons, mul_assoc, ih]

theorem eval_append {S : Type} [Semigroup S] (f : Failure → S) (a b : Report) :
    eval f (a ++ b) = eval f a * eval f b := by
  show ((a.rest ++ b.first :: b.rest).map f).foldl (· * ·) (f a.first) = _
  rw [List.map_append, List.foldl_append, List.map_cons, List.foldl_cons, foldl_mul_mul]
  rfl

/-- **Reports are the free semigroup on failures.**  Values of failures in any semigroup extend to
all reports in exactly one way that joining respects. -/
theorem existsUnique_hom (S : Type) [Semigroup S] (f : Failure → S) :
    ∃! φ : Report → S, (∀ failure, φ (single failure) = f failure) ∧
      ∀ a b, φ (a ++ b) = φ a * φ b := by
  refine ⟨eval f, ⟨fun _ => rfl, eval_append f⟩, ?_⟩
  rintro φ ⟨hsingle, happend⟩
  funext report
  induction report using induct with
  | single failure => exact hsingle failure
  | append failure report ih =>
    rw [happend, eval_append, hsingle, ih]
    rfl

/-! ## Queries -/

/-- Whether a list holds the members of another list that have a property: all of them, as often as
they occur and in the same order, and no others. -/
structure Selects (p : Failure → Prop) (all selected : List Failure) : Prop where
  sublist : selected.Sublist all
  count_eq : ∀ failure, p failure → selected.count failure = all.count failure
  of_mem : ∀ failure ∈ selected, p failure

theorem selects_filter (p : Failure → Prop) [DecidablePred p] (all : List Failure) :
    Selects p all (all.filter fun failure => p failure) where
  sublist := List.filter_sublist
  count_eq _ h := List.count_filter (decide_eq_true h)
  of_mem _ h := of_decide_eq_true (List.mem_filter.mp h).2

variable {report : Report} {failure : Failure} {path : Path} {kind : FailureKind}

/-- The failure at a path is the first one whose path has the same steps. -/
theorem atPath?_eq_some_iff :
    report.atPath? path = some failure ↔
      ∃ earlier later, report.toList = earlier ++ failure :: later ∧
        failure.path.segments = path.segments ∧
        ∀ other ∈ earlier, other.path.segments ≠ path.segments := by
  rw [atPath?, List.find?_eq_some_iff_append, decide_eq_true_iff, ← Path.segments_inj]
  constructor
  · rintro ⟨hpath, earlier, later, heq, hearlier⟩
    refine ⟨earlier, later, heq, hpath, fun other hother hsame => ?_⟩
    have hne := hearlier other hother
    rw [decide_eq_true (Path.segments_inj.mp hsame)] at hne
    cases hne
  · rintro ⟨earlier, later, heq, hpath, hearlier⟩
    refine ⟨hpath, earlier, later, heq, fun other hother => ?_⟩
    rw [decide_eq_false fun hsame => hearlier other hother (Path.segments_inj.mpr hsame)]
    rfl

theorem atPath?_eq_none_iff :
    report.atPath? path = none ↔
      ∀ failure ∈ report.toList, failure.path.segments ≠ path.segments := by
  rw [atPath?, List.find?_eq_none]
  refine forall₂_congr fun failure _ => ?_
  rw [decide_eq_true_iff, ← Path.segments_inj]

theorem mem_ofKind_iff :
    failure ∈ report.ofKind kind ↔ failure ∈ report.toList ∧ failure.kind = kind := by
  rw [ofKind, List.mem_filter, decide_eq_true_iff]

/-- Every failure is found under exactly one kind. -/
theorem existsUnique_mem_ofKind (h : failure ∈ report.toList) :
    ∃! kind, failure ∈ report.ofKind kind := by
  refine ⟨failure.kind, mem_ofKind_iff.mpr ⟨h, rfl⟩, fun kind hkind => ?_⟩
  exact (mem_ofKind_iff.mp hkind).2.symm

/-! ## All of it -/

/-- **Reports are the free semigroup on failures, and their queries agree.**  Every list of failures
but the empty one has a report, which is joined from the reports of its members and holds them in
order, and the report of two lists joins their reports.  Joining puts the failures of the left
report before those of the right one and is associative; every report is joined from single ones,
and values of failures in a semigroup extend to reports in exactly one way.  The failure at a path
is the first one with the same steps, the failures of a kind and those with a code are picked out in
order, and every failure has exactly one kind. -/
theorem free_and_searched (failures before after : List Failure) (a b c : Report) (path : Path)
    (kind : FailureKind) (code : String) :
    (ofList? failures = join? (failures.map single) ∧
      (ofList? failures = none ↔ failures = []) ∧
      ∀ report, ofList? failures = some report ↔ report.toList = failures) ∧
    (before ≠ [] → after ≠ [] →
      ∃ left right, ofList? before = some left ∧ ofList? after = some right ∧
        ofList? (before ++ after) = some (left ++ right)) ∧
    ((a ++ b).toList = a.toList ++ b.toList ∧ a ++ b ++ c = a ++ (b ++ c) ∧
      join? (a.toList.map single) = some a) ∧
    (∀ (S : Type) [Semigroup S] (f : Failure → S), ∃! φ : Report → S,
      (∀ failure, φ (single failure) = f failure) ∧ ∀ x y, φ (x ++ y) = φ x * φ y) ∧
    a.toList.head? = some a.first ∧ a.size = a.toList.length ∧
    (∀ failure, a.atPath? path = some failure ↔
      ∃ earlier later, a.toList = earlier ++ failure :: later ∧
        failure.path.segments = path.segments ∧
        ∀ other ∈ earlier, other.path.segments ≠ path.segments) ∧
    (a.atPath? path = none ↔ ∀ failure ∈ a.toList, failure.path.segments ≠ path.segments) ∧
    Selects (·.kind = kind) a.toList (a.ofKind kind) ∧
    Selects (·.code = code) a.toList (a.withCode code) ∧
    ∀ failure ∈ a.toList, ∃! kind, failure ∈ a.ofKind kind := by
  have hlist : ofList? failures = join? (failures.map single) ∧
      (ofList? failures = none ↔ failures = []) ∧
      ∀ report, ofList? failures = some report ↔ report.toList = failures :=
    ⟨ofList?_eq_join? failures, ofList?_eq_none_iff, fun _ => ofList?_eq_some_iff⟩
  have hjoin : (a ++ b).toList = a.toList ++ b.toList ∧ a ++ b ++ c = a ++ (b ++ c) ∧
      join? (a.toList.map single) = some a :=
    ⟨toList_append a b, append_assoc a b c, join?_map_single_eq_some_iff.mpr rfl⟩
  refine ⟨hlist, exists_ofList?_append, hjoin, fun S _ => existsUnique_hom S, rfl, rfl,
    fun _ => atPath?_eq_some_iff, atPath?_eq_none_iff, selects_filter _ _, selects_filter _ _,
    fun _ => existsUnique_mem_ofKind⟩

/-- The report of two lists of one failure each joins their reports. -/
theorem free_and_searched_of_misnamed_cells :
    [Sample.mismatch] ≠ [] ∧ [Sample.mismatch.withCode "name"] ≠ [] ∧
      ∃ left right, ofList? [Sample.mismatch] = some left ∧
        ofList? [Sample.mismatch.withCode "name"] = some right ∧
        ofList? ([Sample.mismatch] ++ [Sample.mismatch.withCode "name"]) =
          some (left ++ right) := by
  have hbefore : [Sample.mismatch] ≠ [] := List.cons_ne_nil _ _
  have hafter : [Sample.mismatch.withCode "name"] ≠ [] := List.cons_ne_nil _ _
  obtain ⟨-, happend, -⟩ := free_and_searched [] [Sample.mismatch]
    [Sample.mismatch.withCode "name"] (single Sample.mismatch) (single Sample.mismatch)
    (single Sample.mismatch) .root .typeMismatch "invalid_type"
  exact ⟨hbefore, hafter, happend hbefore hafter⟩

end DocSchema.Report
