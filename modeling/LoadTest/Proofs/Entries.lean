import LoadTest.Entries
import Mathlib.Data.Nat.Notation
import Mathlib.Tactic.SplitIfs

/-!
# Entries with distinct names

A name that is not known yet goes to the end, so entries whose names are distinct are entered as
they stand (`ofList_eq_self`). An insertion changes what is found under its own name and nothing
else (`get?_insert`).

When entries are laid over others, nothing is made up (`mem_override`). Known names keep their
places, new ones follow in their own order (`names_override`), and where both have a value the later
one counts (`get?_override`). Values that are turned into others, or into nothing, stay under their
names (`get?_filterMap`).
-/

namespace LoadTest.Entries

variable {β : Type} {name : String} {value : β} {entries later : Entries β}

theorem insert_of_notMem (h : name ∉ entries.names) :
    entries.insert name value = entries ++ [(name, value)] := by
  induction entries with
  | nil => rfl
  | cons entry rest ih =>
    obtain ⟨n, v⟩ := entry
    simp only [names, List.map_cons, List.mem_cons, not_or] at h
    rw [insert, if_neg (Ne.symm h.1), ih h.2, List.cons_append]

theorem names_insert_of_mem (h : name ∈ entries.names) :
    (entries.insert name value).names = entries.names := by
  induction entries with
  | nil => cases h
  | cons entry rest ih =>
    obtain ⟨n, v⟩ := entry
    rw [insert]
    split_ifs with hn
    · rfl
    · have hrest : name ∈ names rest := (List.mem_cons.1 h).resolve_left (Ne.symm hn)
      exact congrArg (n :: ·) (ih hrest)

theorem override_eq_append (h : (entries ++ later).names.Nodup) :
    entries.override later = entries ++ later := by
  induction later generalizing entries with
  | nil => simp [override]
  | cons entry rest ih =>
    have hmem : entry.1 ∉ entries.names := by
      simp only [names, List.map_append, List.map_cons, List.nodup_append] at h
      exact fun hn => h.2.2 _ hn _ List.mem_cons_self rfl
    have happ : entries ++ entry :: rest = entries ++ [entry] ++ rest := by simp
    rw [happ] at h ⊢
    rw [← ih h]
    simp only [override, List.foldl_cons]
    rw [insert_of_notMem hmem]

theorem ofList_eq_self (h : entries.names.Nodup) : ofList entries = entries :=
  override_eq_append (by simpa using h)

theorem mem_insert {entry : String × β} (h : entry ∈ entries.insert name value) :
    entry = (name, value) ∨ entry ∈ entries := by
  induction entries with
  | nil => exact .inl (List.mem_singleton.1 h)
  | cons first rest ih =>
    obtain ⟨n, v⟩ := first
    rw [insert] at h
    split_ifs at h with hn
    · rcases List.mem_cons.1 h with h | h
      · exact .inl (hn ▸ h)
      · exact .inr (List.mem_cons_of_mem _ h)
    · rcases List.mem_cons.1 h with h | h
      · exact .inr (h ▸ List.mem_cons_self)
      · exact (ih h).imp_right (List.mem_cons_of_mem _)

theorem mem_override {entry : String × β} (h : entry ∈ entries.override later) :
    entry ∈ entries ∨ entry ∈ later := by
  induction later generalizing entries with
  | nil => exact .inl h
  | cons first rest ih =>
    rcases ih h with h | h
    · rcases mem_insert h with rfl | h
      · exact .inr List.mem_cons_self
      · exact .inl h
    · exact .inr (List.mem_cons_of_mem _ h)

@[simp]
theorem get?_nil : get? name ([] : Entries β) = none := rfl

@[simp]
theorem get?_cons (entry : String × β) :
    get? name (entry :: entries) = if entry.1 = name then some entry.2 else get? name entries := rfl

theorem get?_insert (n : String) :
    get? n (entries.insert name value) = if name = n then some value else get? n entries := by
  induction entries with
  | nil => rfl
  | cons entry rest ih =>
    obtain ⟨m, v⟩ := entry
    rw [insert]
    split_ifs with hm hn <;> simp_all

theorem get?_of_mem (h : entries.names.Nodup) (hmem : (name, value) ∈ entries) :
    get? name entries = some value := by
  induction entries with
  | nil => cases hmem
  | cons entry rest ih =>
    simp only [names, List.map_cons, List.nodup_cons] at h
    rw [get?_cons]
    rcases List.mem_cons.1 hmem with rfl | hmem
    · rw [if_pos rfl]
    · rw [if_neg, ih h.2 hmem]
      rintro rfl
      exact h.1 (List.mem_map.2 ⟨_, hmem, rfl⟩)

theorem mem_of_get? (h : get? name entries = some value) : (name, value) ∈ entries := by
  induction entries with
  | nil => cases h
  | cons entry rest ih =>
    rw [get?_cons] at h
    split_ifs at h with hn
    · obtain rfl := Option.some.inj h
      rw [← hn]
      exact List.mem_cons_self
    · exact List.mem_cons_of_mem _ (ih h)

theorem get?_eq_none (h : name ∉ entries.names) : get? name entries = none :=
  Option.eq_none_iff_forall_ne_some.2 fun _ hvalue =>
    h (List.mem_map.2 ⟨_, mem_of_get? hvalue, rfl⟩)

theorem exists_get? : (∃ value, get? name entries = some value) ↔ name ∈ entries.names := by
  induction entries with
  | nil => simp [names]
  | cons entry rest ih =>
    rw [get?_cons, names, List.map_cons, List.mem_cons, ← names, ← ih]
    by_cases hname : entry.1 = name
    · simp [hname]
    · simp [hname, Ne.symm hname]

/-! ## Entries over others -/

theorem override_cons (entry : String × β) (later : Entries β) :
    entries.override (entry :: later) = (entries.insert entry.1 entry.2).override later :=
  rfl

/-- New names come behind the known ones, in their own order. -/
theorem names_override (h : later.names.Nodup) :
    (entries.override later).names =
      entries.names ++ later.names.filter fun n => n ∉ entries.names := by
  induction later generalizing entries with
  | nil => exact (List.append_nil _).symm
  | cons entry rest ih =>
    obtain ⟨hentry, hrest⟩ := List.nodup_cons.1 h
    rw [override_cons, ih hrest, show names (entry :: rest) = entry.1 :: names rest from rfl]
    by_cases hknown : entry.1 ∈ entries.names
    · rw [names_insert_of_mem hknown, List.filter_cons_of_neg (by simpa using hknown)]
    · have hnames : (entries.insert entry.1 entry.2).names = entries.names ++ [entry.1] := by
        rw [insert_of_notMem hknown]
        exact List.map_append
      -- none of the later names is the one that was just put in
      have hfilter : (names rest).filter (fun n => n ∉ entries.names ++ [entry.1]) =
          (names rest).filter fun n => n ∉ entries.names := by
        refine List.filter_congr fun n hn => ?_
        have hne : n ≠ entry.1 := fun heq => hentry (heq ▸ hn)
        simp [hne]
      rw [hnames, hfilter, List.filter_cons_of_pos (by simpa using hknown), List.append_assoc,
        List.singleton_append]

/-- The later value counts. -/
theorem get?_override (h : later.names.Nodup) (name : String) :
    get? name (entries.override later) = (get? name later).or (get? name entries) := by
  induction later generalizing entries with
  | nil => rfl
  | cons entry rest ih =>
    obtain ⟨hentry, hrest⟩ := List.nodup_cons.1 h
    rw [override_cons, ih hrest, get?_insert, get?_cons]
    split_ifs with hname
    · rw [← hname, get?_eq_none hentry]
      rfl
    · rfl

/-! ## Entries whose values are turned into others -/

section FilterMap

variable {γ : Type} (f : β → Option γ)

theorem names_filterMap_sublist (entries : Entries β) :
    (names (entries.filterMap fun entry => (f entry.2).map (entry.1, ·))).Sublist
      entries.names := by
  induction entries with
  | nil => exact List.Sublist.slnil
  | cons entry rest ih =>
    rw [List.filterMap_cons]
    cases f entry.2 with
    | none => exact ih.cons entry.1
    | some value => exact ih.cons_cons entry.1

theorem get?_filterMap (h : entries.names.Nodup) (name : String) :
    get? name (entries.filterMap fun entry => (f entry.2).map (entry.1, ·)) =
      (get? name entries).bind f := by
  induction entries with
  | nil => rfl
  | cons entry rest ih =>
    obtain ⟨hentry, hrest⟩ := List.nodup_cons.1 h
    rw [List.filterMap_cons, get?_cons]
    split_ifs with hname
    · -- nothing else has that name, also if this value is turned into nothing
      have hgone := get?_eq_none fun hmem =>
        hentry (hname ▸ (names_filterMap_sublist f rest).subset hmem)
      cases hvalue : f entry.2 with
      | none => simp [hvalue, hgone]
      | some value => simp [hvalue, hname]
    · cases f entry.2 with
      | none => exact ih hrest
      | some value =>
        rw [Option.map_some, get?_cons, if_neg hname]
        exact ih hrest

end FilterMap

end LoadTest.Entries
