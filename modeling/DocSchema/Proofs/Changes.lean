import DocSchema.Proofs.Expansion
import Mathlib.Data.List.Basic

/-!
# Tables after many changes

A reference table and a description are both made step by step: of a list, and then by changes, some
of which replace what an earlier one added, while others are refused.  What is left in the end can
be told without following the table through the changes.  Everything that was written down on the
way, oldest first, makes a journal.  A name stands where the journal first has it, and its entry is
the one that the journal has last; a change that was refused is not in the journal.

## What carries the argument

A journal only grows at its end, so every new line is the last one of its name, and the first one if
the name is new.  Putting an entry into an ordered map does the same to the map.  This is one step,
and the same one for lists, for changes of tables and for the fields of descriptions; whole runs
follow by induction over the changes.

* `Assoc.Records`: an ordered map holds what a journal says.
* `Assoc.Records.put`, `Assoc.records_ofList`: one more line of a journal, and a whole journal.
* `ReferenceTable.run`, `ReferenceTable.journal`: changes one after the other, and what they wrote.
* `ReferenceTable.records_run`: what a run leaves behind.
* `Compiler.ordered_after_changes`: tables, descriptions and compiled schemas after changes.
-/

namespace DocSchema

/-! ## Journals -/

namespace Assoc

variable {α : Type} {map : Assoc α} {journal : List (String × α)}

/-- Whether an ordered map holds what a journal says, whose last line is the latest: the names of
the journal, each once and in the order of first lines, with the entries of their last lines. -/
structure Records (map : Assoc α) (journal : List (String × α)) : Prop where
  nodup : map.names.Nodup
  mem_names_iff : ∀ name, name ∈ map.names ↔ name ∈ names journal
  ordered : map.names.Pairwise fun name later =>
    (names journal).idxOf name < (names journal).idxOf later
  get?_eq_some_iff : ∀ name a, map.get? name = some a ↔
    ∃ before after, journal = before ++ (name, a) :: after ∧ name ∉ names after

theorem names_append (entries others : List (String × α)) :
    names (entries ++ others) = names entries ++ names others :=
  List.map_append

theorem Records.nil : Records ([] : Assoc α) [] where
  nodup := List.nodup_nil
  mem_names_iff _ := Iff.rfl
  ordered := List.Pairwise.nil
  get?_eq_some_iff name a := by
    constructor
    · intro h
      cases h
    · rintro ⟨before, after, h, -⟩
      exact absurd h.symm (List.append_ne_nil_of_right_ne_nil before (List.cons_ne_nil _ after))

/-- The place of a name in a journal does not change when a line is added. -/
theorem idxOf_names_append_of_mem {name : String} (entry : String × α)
    (h : name ∈ names journal) :
    (names (journal ++ [entry])).idxOf name = (names journal).idxOf name := by
  rw [names_append, List.idxOf_append, if_pos h]

/-- A new name comes behind all others. -/
theorem idxOf_names_append_of_notMem {name : String} (a : α) (h : name ∉ names journal) :
    (names (journal ++ [(name, a)])).idxOf name = (names journal).length := by
  have hself : (names [(name, a)]).idxOf name = 0 := List.idxOf_cons_self
  rw [names_append, List.idxOf_append, if_neg h, hself, Nat.zero_add]

theorem Records.ordered_put (h : map.Records journal) (name : String) (a : α) :
    (map.put name a).names.Pairwise fun other later =>
      (names (journal ++ [(name, a)])).idxOf other <
        (names (journal ++ [(name, a)])).idxOf later := by
  have hold : map.names.Pairwise fun other later =>
      (names (journal ++ [(name, a)])).idxOf other <
        (names (journal ++ [(name, a)])).idxOf later := by
    refine h.ordered.imp_of_mem fun {other later} hother hlater hlt => ?_
    rwa [idxOf_names_append_of_mem _ ((h.mem_names_iff other).mp hother),
      idxOf_names_append_of_mem _ ((h.mem_names_iff later).mp hlater)]
  by_cases hname : name ∈ map.names
  · rwa [names_put_of_mem a hname]
  · rw [names_put_of_notMem a hname, List.pairwise_append]
    refine ⟨hold, List.pairwise_singleton _ name, fun other hother later hlater => ?_⟩
    have hmem := (h.mem_names_iff other).mp hother
    have hnew : name ∉ names journal := fun hmem => hname ((h.mem_names_iff name).mpr hmem)
    rw [List.mem_singleton.mp hlater, idxOf_names_append_of_mem _ hmem,
      idxOf_names_append_of_notMem a hnew]
    exact List.idxOf_lt_length_of_mem hmem

theorem Records.get?_put_eq_some_iff (h : map.Records journal) (name other : String) (a b : α) :
    (map.put name a).get? other = some b ↔
      ∃ before after, journal ++ [(name, a)] = before ++ (other, b) :: after ∧
        other ∉ names after := by
  constructor
  · intro hget
    by_cases hname : name = other
    · subst hname
      rw [get?_put_self, Option.some_inj] at hget
      subst hget
      exact ⟨journal, [], rfl, List.not_mem_nil⟩
    · rw [get?_put_of_ne map a hname] at hget
      obtain ⟨before, after, rfl, hafter⟩ := (h.get?_eq_some_iff other b).mp hget
      refine ⟨before, after ++ [(name, a)], by simp, ?_⟩
      rw [names_append, List.mem_append, not_or]
      exact ⟨hafter, fun hmem => hname (List.mem_singleton.mp hmem).symm⟩
  · rintro ⟨before, after, heq, hafter⟩
    rcases List.eq_nil_or_concat' after with rfl | ⟨rest, last, rfl⟩
    · -- the line of the name is the new one
      obtain ⟨-, hlast⟩ := List.append_inj' heq rfl
      cases hlast
      exact get?_put_self map name a
    · have hsplit : journal ++ [(name, a)] = (before ++ (other, b) :: rest) ++ [last] := by
        rw [heq, List.append_assoc, List.cons_append]
      obtain ⟨hjournal, hlast⟩ := List.append_inj' hsplit rfl
      cases hlast
      rw [names_append, List.mem_append, not_or] at hafter
      have hne : name ≠ other := fun hname => hafter.2 (List.mem_singleton.mpr hname.symm)
      rw [get?_put_of_ne map a hne]
      exact (h.get?_eq_some_iff other b).mpr ⟨before, rest, hjournal, hafter.1⟩

/-- **One more line of a journal is one more entry that is put.** -/
theorem Records.put (h : map.Records journal) (name : String) (a : α) :
    (map.put name a).Records (journal ++ [(name, a)]) where
  nodup := nodup_names_put h.nodup name a
  mem_names_iff other := by
    rw [names_append, List.mem_append, ← h.mem_names_iff]
    by_cases hname : name ∈ map.names
    · rw [names_put_of_mem a hname]
      refine ⟨Or.inl, ?_⟩
      rintro (hmem | hmem)
      · exact hmem
      · rwa [List.mem_singleton.mp hmem]
    · rw [names_put_of_notMem a hname, List.mem_append]
      rfl
  ordered := h.ordered_put name a
  get?_eq_some_iff other b := h.get?_put_eq_some_iff name other a b

theorem Records.mem_names_iff_exists (h : map.Records journal) (name : String) :
    name ∈ map.names ↔ ∃ a, (name, a) ∈ journal := by
  rw [h.mem_names_iff, names, List.mem_map]
  constructor
  · rintro ⟨⟨_, a⟩, hmem, rfl⟩
    exact ⟨a, hmem⟩
  · rintro ⟨a, hmem⟩
    exact ⟨(name, a), hmem, rfl⟩

/-- Entries that are put one after the other are so many lines. -/
theorem Records.foldl_put (h : map.Records journal) (entries : List (String × α)) :
    (entries.foldl (fun map entry => map.put entry.1 entry.2) map).Records
      (journal ++ entries) := by
  induction entries generalizing map journal with
  | nil => rwa [List.append_nil]
  | cons entry rest ih =>
    rw [List.foldl_cons, List.append_cons]
    exact ih (h.put entry.1 entry.2)

theorem records_ofList (entries : List (String × α)) : (ofList entries).Records entries :=
  Records.nil.foldl_put entries

end Assoc

/-! ## One change -/

namespace ReferenceTable

variable {table : ReferenceTable} {name : String}

theorem contains_iff_mem_names : table.contains name = true ↔ name ∈ table.names := by
  rw [← not_iff_not, Bool.not_eq_true, contains_eq_false_iff]
  exact Assoc.get?_eq_none_iff

theorem names_insert (table : ReferenceTable) (name : String) (description : Description) :
    (table.insert name description).names =
      if name ∈ table.names then table.names else table.names ++ [name] := by
  split
  · exact Assoc.names_put_of_mem description ‹_›
  · exact Assoc.names_put_of_notMem description ‹_›

theorem get?_insert (table : ReferenceTable) (name other : String) (description : Description) :
    (table.insert name description).get? other =
      if name = other then some description else table.get? other := by
  split
  · subst name
    exact Assoc.get?_put_self table.entries other description
  · exact Assoc.get?_put_of_ne table.entries description ‹_›

/-- Registering is refused for the names of the table and inserts the others. -/
theorem register_eq (table : ReferenceTable) (name : String) (description : Description) :
    table.register name description =
      if name ∈ table.names then .error ⟨name⟩ else .ok (table.insert name description) := by
  by_cases hname : name ∈ table.names
  · rw [register, if_pos (contains_iff_mem_names.mpr hname), if_pos hname]
  · rw [register, if_neg (mt contains_iff_mem_names.mp hname), if_neg hname]

theorem register_eq_error_iff {description : Description} {e : DuplicateName} :
    table.register name description = .error e ↔ e = ⟨name⟩ ∧ name ∈ table.names := by
  rw [register_eq]
  by_cases hname : name ∈ table.names
  · rw [if_pos hname, Except.error.injEq, and_iff_left hname]
    exact eq_comm
  · rw [if_neg hname]
    exact ⟨fun h => (nomatch h), fun h => absurd h.2 hname⟩

/-- Registering leaves a table as it was when it is refused. -/
theorem change_register (table : ReferenceTable) (name : String) (description : Description) :
    table.change (.register name description) =
      if name ∈ table.names then (table, .refused ⟨name⟩)
      else (table.insert name description, .registered) := by
  rw [change, register_eq]
  by_cases hname : name ∈ table.names
  · rw [if_pos hname, if_pos hname]
  · rw [if_neg hname, if_neg hname]

theorem change_extend (table : ReferenceTable) (name : String) (description : Description) :
    table.change (.extend name description) = table.change (.register name description) :=
  rfl

/-! ## Runs of changes -/

/-- The entry that a change is about. -/
def Change.entry : Change → String × Description
  | register name description | extend name description | insert name description =>
    (name, description)

/-- Whether a change was refused. -/
def Answer.isRefused : Answer → Bool
  | refused _ => true
  | registered | inserted _ => false

/-- Changes a table by one change after the other, with what comes of each. -/
def run (table : ReferenceTable) : List Change → ReferenceTable × List Answer
  | [] => (table, [])
  | change :: rest =>
    let changed := table.change change
    let last := run changed.1 rest
    (last.1, changed.2 :: last.2)

/-- The entries of the changes that were not refused, in order. -/
def journal (changes : List Change) (answers : List Answer) : List (String × Description) :=
  (changes.zip answers).filterMap fun (change, answer) =>
    if answer.isRefused then none else some change.entry

theorem journal_append_journal (change : Change) (answer : Answer) (changes : List Change)
    (answers : List Answer) :
    journal [change] [answer] ++ journal changes answers =
      journal (change :: changes) (answer :: answers) :=
  List.filterMap_append.symm

theorem records_change_register {writes : List (String × Description)}
    (h : table.entries.Records writes) (name : String) (description : Description) :
    (table.change (.register name description)).1.entries.Records
      (writes ++ journal [.register name description]
        [(table.change (.register name description)).2]) := by
  rw [change_register]
  by_cases hname : name ∈ table.names
  · rw [if_pos hname]
    exact (List.append_nil writes).symm ▸ h
  · rw [if_neg hname]
    exact h.put name description

/-- One change adds the line of its entry to the journal, unless it is refused. -/
theorem records_change {writes : List (String × Description)}
    (h : table.entries.Records writes) (change : Change) :
    (table.change change).1.entries.Records
      (writes ++ journal [change] [(table.change change).2]) := by
  cases change with
  | register name description => exact records_change_register h name description
  | extend name description => exact records_change_register h name description
  | insert name description => exact h.put name description

/-- **A run leaves behind what its journal says**, by induction over the changes. -/
theorem records_run {writes : List (String × Description)} (h : table.entries.Records writes)
    (changes : List Change) :
    (table.run changes).1.entries.Records (writes ++ journal changes (table.run changes).2) := by
  induction changes generalizing table writes with
  | nil => exact (List.append_nil writes).symm ▸ h
  | cons change rest ih =>
    have hrest := ih (records_change h change)
    rw [List.append_assoc, journal_append_journal] at hrest
    exact hrest

/-- A table is made of a list by inserting its entries one after the other. -/
theorem ofList_eq_foldl_insert (entries : List (String × Description)) :
    ofList entries = entries.foldl (fun table entry => table.insert entry.1 entry.2) empty := by
  have hfold : ∀ map : Assoc Description,
      (⟨entries.foldl (fun map entry => map.put entry.1 entry.2) map⟩ : ReferenceTable) =
        entries.foldl (fun table entry => table.insert entry.1 entry.2) ⟨map⟩ := by
    induction entries with
    | nil => exact fun map => rfl
    | cons entry rest ih => exact fun map => ih (map.put entry.1 entry.2)
  exact hfold []

end ReferenceTable

namespace Compiler

/-- Compiling keeps the names of a description and their order. -/
theorem names_compile (compiler : Compiler) (description : Description) :
    (compiler.compile description).fields.names = description.names := by
  rw [fields_compile, Assoc.names, List.map_map]
  rfl

/-- **Tables and descriptions are ordered maps after any changes.**  A table that was made of a list
of entries, which may be empty, and then went through changes holds what was written on the way,
without the changes that were refused: its names stand in the order of their first lines and have
the descriptions of their last ones.  Registering, in either way, is refused exactly for the names
of the table, and then leaves it, or the copy that was kept of it, as it was; inserting gives the
description back that it replaces, and moves no name.  To make a table of a list is to insert its
entries into the empty one.  The fields of a description are kept in the same way, and its compiled
schema has their names in their order. -/
theorem ordered_after_changes (entries : List (String × Description))
    (changes : List ReferenceTable.Change) (fields puts : List (String × Node))
    (compiler : Compiler) :
    let run := (ReferenceTable.ofList entries).run changes
    let table := run.1
    let writes := entries ++ ReferenceTable.journal changes run.2
    let description := puts.foldl (fun map put => map.put put.1 put.2) (Assoc.ofList fields)
    (table.entries.Records writes ∧ table.size = table.names.length ∧
      ∀ name, table.contains name = true ↔ ∃ description, (name, description) ∈ writes) ∧
    (∀ name description,
      (∀ e, table.register name description = .error e ↔ e = ⟨name⟩ ∧ name ∈ table.names) ∧
      (table.change (.register name description) =
        if name ∈ table.names then (table, .refused ⟨name⟩)
        else (table.insert name description, .registered)) ∧
      table.change (.extend name description) = table.change (.register name description) ∧
      table.change (.insert name description) =
        (table.insert name description, .inserted (table.get? name)) ∧
      ((table.insert name description).names =
        if name ∈ table.names then table.names else table.names ++ [name]) ∧
      ∀ other, (table.insert name description).get? other =
        if name = other then some description else table.get? other) ∧
    ReferenceTable.ofList entries =
      entries.foldl (fun table entry => table.insert entry.1 entry.2) .empty ∧
    description.Records (fields ++ puts) ∧
    (compiler.compile description).fields.names = description.names := by
  intro run table writes description
  have hrecords : table.entries.Records writes :=
    ReferenceTable.records_run (Assoc.records_ofList entries) changes
  have hsize : table.size = table.names.length := (List.length_map Prod.fst).symm
  have hcontains : ∀ name,
      table.contains name = true ↔ ∃ description, (name, description) ∈ writes := fun name =>
    ReferenceTable.contains_iff_mem_names.trans (hrecords.mem_names_iff_exists name)
  exact ⟨⟨hrecords, hsize, hcontains⟩, fun name description =>
    ⟨fun e => ReferenceTable.register_eq_error_iff,
    ReferenceTable.change_register table name description,
    ReferenceTable.change_extend table name description, rfl,
    ReferenceTable.names_insert table name description,
    fun other => ReferenceTable.get?_insert table name other description⟩,
    ReferenceTable.ofList_eq_foldl_insert entries,
    (Assoc.records_ofList fields).foldl_put puts, names_compile compiler description⟩

/-- Of four changes one is refused; the other names stay where they were first added. -/
example :
    let replaced := [("x", Node.leaf (.boolean) true)]
    let (table, answers) := (ReferenceTable.ofList [("a", []), ("b", []), ("a", replaced)]).run
      [.register "b" replaced, .insert "b" replaced, .extend "c" [], .insert "a" []]
    table.entries = [("a", []), ("b", replaced), ("c", [])] ∧
      answers = [.refused ⟨"b"⟩, .inserted (some []), .registered, .inserted (some replaced)] := by
  intro replaced
  exact ⟨rfl, rfl⟩

end Compiler

end DocSchema
