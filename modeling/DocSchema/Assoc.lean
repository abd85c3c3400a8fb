/-!
# Ordered maps from names

Descriptions, documents and reference tables are all lists of named entries in the order in which
the names were first added.  They are plain lists of pairs, so that they can stand inside the trees
they are part of; that the names are distinct is a property the operations keep.

* `get?`: the entry of a name.
* `put`: replaces the entry of a known name where it stands, and adds a new name at the end.
* `ofList`: puts the entries one after the other, so that a later one wins and the first one
  places.
-/

namespace DocSchema

/-- Named entries in order. -/
abbrev Assoc (α : Type) : Type := List (String × α)

namespace Assoc

variable {α : Type}

/-- The names, in order. -/
def names (entries : Assoc α) : List String :=
  entries.map Prod.fst

/-- The entry of a name. -/
def get? (entries : Assoc α) (name : String) : Option α :=
  match entries with
  | [] => none
  | (key, a) :: rest => if key = name then some a else get? rest name

/-- Whether a name has an entry. -/
def contains (entries : Assoc α) (name : String) : Bool :=
  (entries.get? name).isSome

/-- Replaces the entry of a known name in place; a new name goes to the end. -/
def put (entries : Assoc α) (name : String) (a : α) : Assoc α :=
  match entries with
  | [] => [(name, a)]
  | (key, b) :: rest => if key = name then (key, a) :: rest else (key, b) :: put rest name a

/-- Puts all entries of a list, first to last. -/
def ofList (entries : List (String × α)) : Assoc α :=
  entries.foldl (fun map entry => put map entry.1 entry.2) []

/-! ## What a put does to a look-up -/

@[simp] theorem get?_nil (name : String) : get? ([] : Assoc α) name = none := rfl

theorem get?_cons (key name : String) (a : α) (rest : Assoc α) :
    get? ((key, a) :: rest) name = if key = name then some a else get? rest name := rfl

theorem get?_put_self (entries : Assoc α) (name : String) (a : α) :
    get? (put entries name a) name = some a := by
  induction entries with
  | nil => simp [put, get?]
  | cons entry rest ih =>
    obtain ⟨key, b⟩ := entry
    by_cases h : key = name
    · simp [put, get?, h]
    · simp [put, get?, h, ih]

theorem get?_put_of_ne (entries : Assoc α) {name other : String} (a : α) (h : name ≠ other) :
    get? (put entries name a) other = get? entries other := by
  induction entries with
  | nil => simp [put, get?, h]
  | cons entry rest ih =>
    obtain ⟨key, b⟩ := entry
    by_cases hk : key = name
    · subst hk
      simp [put, get?, h]
    · simp [put, get?, hk, ih]

/-! ## Entries and look-ups -/

theorem mem_of_get?_eq_some {entries : Assoc α} {name : String} {a : α}
    (h : entries.get? name = some a) : (name, a) ∈ entries := by
  induction entries with
  | nil => simp at h
  | cons entry rest ih =>
    obtain ⟨key, b⟩ := entry
    by_cases hk : key = name
    · rw [get?_cons, if_pos hk, Option.some_inj] at h
      rw [hk, h]
      exact List.mem_cons_self
    · rw [get?_cons, if_neg hk] at h
      exact List.mem_cons_of_mem _ (ih h)

theorem mem_names_of_get?_eq_some {entries : Assoc α} {name : String} {a : α}
    (h : entries.get? name = some a) : name ∈ entries.names :=
  List.mem_map_of_mem (mem_of_get?_eq_some h)

theorem get?_eq_none_iff {entries : Assoc α} {name : String} :
    entries.get? name = none ↔ name ∉ entries.names := by
  induction entries with
  | nil => simp [names]
  | cons entry rest ih =>
    obtain ⟨key, b⟩ := entry
    by_cases hk : key = name
    · simp [get?_cons, hk, names]
    · rw [get?_cons, if_neg hk, ih]
      simp [names, Ne.symm hk]

/-- Of distinct names, every entry is found. -/
theorem get?_eq_some_iff_mem {entries : Assoc α} (hnames : entries.names.Nodup) {name : String}
    {a : α} : entries.get? name = some a ↔ (name, a) ∈ entries := by
  refine ⟨mem_of_get?_eq_some, fun h => ?_⟩
  induction entries with
  | nil => cases h
  | cons entry rest ih =>
    obtain ⟨key, b⟩ := entry
    obtain ⟨hkey, hrest⟩ := List.nodup_cons.mp hnames
    rcases List.mem_cons.mp h with heq | hmem
    · cases heq
      rw [get?_cons, if_pos rfl]
    · have hname : name ∈ names rest := List.mem_map_of_mem hmem
      have hne : key ≠ name := fun heq => hkey (heq ▸ hname)
      rw [get?_cons, if_neg hne]
      exact ih hrest hmem

/-- The order of entries with distinct names does not matter to a look-up. -/
theorem get?_eq_of_perm {entries others : Assoc α} (h : entries.Perm others)
    (hnames : entries.names.Nodup) (name : String) : entries.get? name = others.get? name := by
  have hnames' : others.names.Nodup := (h.map Prod.fst).nodup hnames
  refine Option.ext fun a => ?_
  rw [get?_eq_some_iff_mem hnames, get?_eq_some_iff_mem hnames', h.mem_iff]

/-- Entries that are kept with a new value are found under their names. -/
theorem get?_filterMap {β : Type} {entries : Assoc α} (hnames : entries.names.Nodup)
    (keep : String → α → Option β) (name : String) :
    get? (entries.filterMap fun entry => (keep entry.1 entry.2).map (Prod.mk entry.1)) name =
      (entries.get? name).bind (keep name) := by
  induction entries with
  | nil => rfl
  | cons entry rest ih =>
    obtain ⟨key, a⟩ := entry
    obtain ⟨hkey, hrest⟩ := List.nodup_cons.mp hnames
    have hnone : get? rest key = none := get?_eq_none_iff.mpr hkey
    by_cases hname : key = name
    · subst hname
      rw [get?_cons, if_pos rfl]
      cases hkeep : keep key a with
      | none =>
        rw [List.filterMap_cons_none (by rw [hkeep]; rfl), ih hrest, hnone]
        exact hkeep.symm
      | some b =>
        rw [List.filterMap_cons_some (by rw [hkeep]; rfl), get?_cons, if_pos rfl]
        exact hkeep.symm
    · rw [get?_cons, if_neg hname]
      cases hkeep : keep key a with
      | none => rw [List.filterMap_cons_none (by rw [hkeep]; rfl), ih hrest]
      | some b =>
        rw [List.filterMap_cons_some (by rw [hkeep]; rfl), get?_cons, if_neg hname, ih hrest]

/-! ## What a put does to the names -/

theorem names_put_of_mem {entries : Assoc α} {name : String} (a : α) (h : name ∈ entries.names) :
    (put entries name a).names = entries.names := by
  induction entries with
  | nil => simp [names] at h
  | cons entry rest ih =>
    obtain ⟨key, b⟩ := entry
    by_cases hk : key = name
    · simp [put, hk, names]
    · have hr : name ∈ names rest := by
        simpa [names, Ne.symm hk] using h
      have := ih hr
      simp only [names] at this
      simp [put, hk, names, this]

/-- A new name goes to the end. -/
theorem put_of_notMem {entries : Assoc α} {name : String} (a : α) (h : name ∉ entries.names) :
    put entries name a = entries ++ [(name, a)] := by
  induction entries with
  | nil => rfl
  | cons entry rest ih =>
    obtain ⟨key, b⟩ := entry
    obtain ⟨hkey, hrest⟩ := not_or.mp (mt List.mem_cons.mpr h)
    rw [put, if_neg (Ne.symm hkey), ih hrest, List.cons_append]

theorem names_put_of_notMem {entries : Assoc α} {name : String} (a : α)
    (h : name ∉ entries.names) : (put entries name a).names = entries.names ++ [name] := by
  rw [put_of_notMem a h, names, List.map_append]
  rfl

/-- Putting keeps the names distinct. -/
theorem nodup_names_put {entries : Assoc α} (h : entries.names.Nodup) (name : String) (a : α) :
    (put entries name a).names.Nodup := by
  by_cases hname : name ∈ entries.names
  · rwa [names_put_of_mem a hname]
  · rw [names_put_of_notMem a hname]
    refine List.nodup_append.mpr ⟨h, List.pairwise_singleton _ name, ?_⟩
    rintro other hother _ hnew rfl
    exact hname (List.mem_singleton.mp hnew ▸ hother)

theorem nodup_names_ofList (entries : List (String × α)) : (ofList entries).names.Nodup := by
  have hfold : ∀ map : Assoc α, map.names.Nodup →
      (entries.foldl (fun map entry => put map entry.1 entry.2) map).names.Nodup := by
    induction entries with
    | nil => exact fun map hmap => hmap
    | cons entry rest ih => exact fun map hmap => ih _ (nodup_names_put hmap entry.1 entry.2)
  exact hfold [] List.nodup_nil

/-- Entries with distinct names are put in as they are. -/
theorem ofList_of_nodup {entries : List (String × α)} (h : (names entries).Nodup) :
    ofList entries = entries := by
  have hfold : ∀ map : Assoc α, (names (map ++ entries)).Nodup →
      entries.foldl (fun map entry => put map entry.1 entry.2) map = map ++ entries := by
    clear h
    induction entries with
    | nil => exact fun map _ => (List.append_nil map).symm
    | cons entry rest ih =>
      intro map hmap
      have hnew : entry.1 ∉ map.names := by
        rw [names, List.map_append, List.nodup_append] at hmap
        exact fun hmem => hmap.2.2 _ hmem _ List.mem_cons_self rfl
      rw [List.append_cons] at hmap ⊢
      rw [List.foldl_cons, put_of_notMem _ hnew]
      exact ih _ hmap
  exact hfold [] h

end Assoc

/-! ## Keeping entries -/

/-- What is kept of a list is in the same order as before. -/
theorem map_filterMap_sublist {α β γ : Type} {members : List α} {f : α → Option β} {g : β → γ}
    {key : α → γ} (h : ∀ a ∈ members, ∀ b, f a = some b → g b = key a) :
    ((members.filterMap f).map g).Sublist (members.map key) := by
  induction members with
  | nil => exact .slnil
  | cons a rest ih =>
    have hrest := ih fun b hb => h b (List.mem_cons_of_mem a hb)
    rw [List.map_cons]
    cases hf : f a with
    | none =>
      rw [List.filterMap_cons_none hf]
      exact hrest.cons (key a)
    | some b =>
      rw [List.filterMap_cons_some hf, List.map_cons, h a List.mem_cons_self b hf]
      exact hrest.cons_cons (key a)

/-- Of the names some are kept, in the same order. -/
theorem Assoc.names_filterMap_sublist {α β : Type} (entries : Assoc α)
    (keep : String → α → Option β) :
    (names (entries.filterMap fun entry => (keep entry.1 entry.2).map (Prod.mk entry.1))).Sublist
      entries.names := by
  refine map_filterMap_sublist fun entry _ kept hkept => ?_
  obtain ⟨b, -, rfl⟩ := Option.map_eq_some_iff.mp hkept
  rfl

end DocSchema
