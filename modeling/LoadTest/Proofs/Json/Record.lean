import LoadTest.Config.Json
import LoadTest.Proofs.Json.RoundTrip

/-!
# Records read back

A record is written as the members of its fields that hold something (`present`). It is read back
when every member it declares can be read from its field, or has something to stand for it where
the field holds nothing (`Member.Reads`). Members are added one at a time
(`Record.Reads.andMember`), and the object is then read as the record that was built
(`Record.recovers_present`).

What is read back stays shallow and names no member twice (`Value.Fits`), so that records go into
records.
-/

namespace LoadTest.Json

/-- At most `k` containers are inside each other, and no object names a member twice. -/
structure Value.Fits (k : ℕ) (v : Value) : Prop where
  distinct : v.Distinct
  depth : v.depth ≤ k

/-- The value is read as `a`, and is not null. -/
structure Decoder.Recovers {α : Type} (decode : Decoder α) (k : ℕ) (v : Value) (a : α) : Prop where
  fits : v.Fits k
  notNull : v.isNull = false
  read : decode v.tree = .ok a

section Fits

variable {k : ℕ}

theorem fits_array {items : List Value} (h : ∀ item ∈ items, item.Fits k) :
    (Value.array items).Fits (k + 1) := by
  have hitems : ItemsDistinct items ∧ itemsDepth items ≤ k := by
    induction items with
    | nil => exact ⟨trivial, Nat.zero_le k⟩
    | cons item items ih =>
      obtain ⟨hd, hk⟩ := ih fun i hi => h i (List.mem_cons_of_mem _ hi)
      have hitem := h item List.mem_cons_self
      exact ⟨⟨hitem.distinct, hd⟩, max_le hitem.depth hk⟩
  exact ⟨by simpa only [Value.Distinct] using hitems.1,
    by simpa only [Value.depth, Nat.add_le_add_iff_right] using hitems.2⟩

theorem fits_object {members : Entries Value} (hn : members.names.Nodup)
    (h : ∀ member ∈ members, member.2.Fits k) : (Value.object members).Fits (k + 1) := by
  have hmembers : MembersDistinct members ∧ membersDepth members ≤ k := by
    clear hn
    induction members with
    | nil => exact ⟨trivial, Nat.zero_le k⟩
    | cons member members ih =>
      obtain ⟨hd, hk⟩ := ih fun m hm => h m (List.mem_cons_of_mem _ hm)
      have hmember := h member List.mem_cons_self
      exact ⟨⟨hmember.distinct, hd⟩, max_le hmember.depth hk⟩
  exact ⟨by simpa only [Value.Distinct] using ⟨hn, hmembers.1⟩,
    by simpa only [Value.depth, Nat.add_le_add_iff_right] using hmembers.2⟩

@[simp]
theorem fits_null : Value.null.Fits k :=
  ⟨by simp [Value.Distinct], by simp [Value.depth]⟩

@[simp]
theorem fits_bool (b : Bool) : (Value.bool b).Fits k :=
  ⟨by simp [Value.Distinct], by simp [Value.depth]⟩

@[simp]
theorem fits_text (s : String) : (Value.text s).Fits k :=
  ⟨by simp [Value.Distinct], by simp [Value.depth]⟩

@[simp]
theorem fits_number (n : Number) : (Value.number n).Fits k :=
  ⟨by simp [Value.Distinct], by simp [Value.depth]⟩

end Fits

/-! ## Fields -/

/-- The members of the fields that hold something. -/
def present (fields : Entries (Option Value)) : Entries Value :=
  fields.filterMap fun field => field.2.map (field.1, ·)

/-- What the field of that name holds. -/
def held (name : String) (fields : Entries (Option Value)) : Option Value :=
  (Entries.get? name fields).join

section Fields

variable (name : String) {v : Option Value} {fields : Entries (Option Value)}

theorem present_nil : present [] = [] := rfl

theorem present_cons : present ((name, v) :: fields) = given name v ++ present fields := by
  cases v <;> rfl

theorem given_some (v : Value) : given name (some v) = [(name, v)] := rfl

theorem givenItems_eq (vs : List Value) :
    givenItems name vs = given name (if vs.isEmpty then none else some (.array vs)) := by
  unfold givenItems
  split_ifs <;> rfl

variable (fields) in
theorem names_present_sublist :
    (present fields).names.Sublist fields.names :=
  Entries.names_filterMap_sublist id fields

theorem mem_present {name : String} {v : Value} :
    (name, v) ∈ present fields ↔ (name, some v) ∈ fields := by
  simp only [present, List.mem_filterMap, Option.map_eq_some_iff, Prod.mk.injEq]
  constructor
  · rintro ⟨⟨n, w⟩, hf, u, hw, rfl, rfl⟩
    rwa [← hw]
  · exact fun h => ⟨_, h, v, rfl, rfl, rfl⟩

theorem get?_present (hn : fields.names.Nodup) : Entries.get? name (present fields) =
    held name fields :=
  (Entries.get?_filterMap id hn name).trans Option.bind_id_eq_join

end Fields

/-! ## Objects of a record -/

variable {α β : Type}

/-- The member reads `a` where its field holds `found`. -/
def Member.Reads (m : Member α) (k : ℕ) (found : Option Value) (a : α) : Prop :=
  match found with
  | some v => v.Fits k ∧ m.decode v.tree = .ok a
  | none => m.absent = some a

/-- The record is built as `a` from these fields, and finds no fault in any of them. -/
structure Record.Reads (r : Record α) (k : ℕ) (fields : Entries (Option Value)) (a : α) : Prop where
  build : r.build .object (fun name => (held name fields).map Value.tree) = .ok a
  checks : ∀ known ∈ r.members, ∀ v ∈ held known.1 fields, v.Fits k ∧ known.2 v.tree = .ok ()

namespace Record

variable {k : ℕ} {fields : Entries (Option Value)} {members : Entries Value}

theorem Reads.pure (a : α) : (Record.pure a).Reads k fields a where
  build := rfl
  checks := by simp [Record.pure]

theorem Reads.andMember {f : Record (α → β)} {g : α → β} {m : Member α} {a : α}
    (hf : f.Reads k fields g) (hm : m.Reads k (held m.name fields) a) :
    (f.andMember m).Reads k fields (g a) := by
  have hbuild : (Record.ofMember m).build .object
      (fun name => (held name fields).map Value.tree) = .ok a := by
    unfold Member.Reads at hm
    simp only [Record.ofMember]
    split at hm
    case h_1 v hv => simp only [hv, Option.map_some, hm.2, Except.mapError]
    case h_2 hv => simp only [hv, Option.map_none, hm]
  constructor
  · simp only [Record.andMember, Record.seq, hf.build, hbuild]
    rfl
  · intro known hknown v hv
    simp only [Record.andMember, Record.seq, Record.ofMember, List.mem_append,
      List.mem_singleton] at hknown
    rcases hknown with hknown | rfl
    · exact hf.checks known hknown v hv
    · simp only [Member.Reads, Option.mem_def.1 hv] at hm
      refine ⟨hm.1, ?_⟩
      simp only [hm.2]
      rfl

@[simp]
theorem intact_tree (v : Value) : v.tree.intact = true := by
  cases v <;> simp [Value.tree, Tree.intact]

theorem findMember_memberTrees (members : Entries Value) (name : String) :
    findMember (memberTrees members) name = (Entries.get? name members).map Value.tree := by
  induction members with
  | nil => simp [memberTrees, findMember]
  | cons member members ih =>
    obtain ⟨n, v⟩ := member
    rw [Entries.get?_cons]
    unfold findMember at ih ⊢
    by_cases hn : n = name
    · simp [memberTrees, hn]
    · rw [memberTrees, List.find?_cons_of_neg (by simpa using hn), ih, if_neg hn]

/-- What is checked of the members behind those already seen. -/
theorem checkMembers_memberTrees {known : List (String × Decoder Unit)} {seen : List String}
    (hn : members.names.Nodup) (hseen : ∀ name ∈ members.names, name ∉ seen)
    (h : ∀ member ∈ members, ∀ check ∈ Entries.get? member.1 known,
      check member.2.tree = .ok ()) :
    checkMembers known seen (memberTrees members) = .ok () := by
  induction members generalizing seen with
  | nil => simp [memberTrees, checkMembers]
  | cons member members ih =>
    obtain ⟨name, v⟩ := member
    simp only [Entries.names, List.map_cons, List.nodup_cons] at hn
    have hrest : ∀ m ∈ members, ∀ check ∈ Entries.get? m.1 known, check m.2.tree = .ok () :=
      fun m hm => h m (List.mem_cons_of_mem _ hm)
    simp only [Entries.names, List.map_cons, List.mem_cons, forall_eq_or_imp] at hseen
    rw [memberTrees, checkMembers]
    cases hknown : Entries.get? name known with
    | none =>
      rw [intact_tree, if_pos rfl]
      exact ih hn.2 hseen.2 hrest
    | some check =>
      have hcheck : check v.tree = .ok () := h (name, v) List.mem_cons_self check hknown
      have hfresh : ∀ other ∈ Entries.names members, other ∉ name :: seen := by
        intro other hother hmem
        rcases List.mem_cons.1 hmem with rfl | hmem
        · exact hn.1 hother
        · exact hseen.2 other hother hmem
      simp only [List.contains_iff_mem, hseen.1, if_false, hcheck]
      exact ih hn.2 hfresh hrest

theorem recovers_present (fields : Entries (Option Value)) {r : Record α} {a : α} (title : String)
    (hdistinct : (r.members.map Prod.fst).Nodup) (hnames : fields.names = r.members.map Prod.fst)
    (h : r.Reads k fields a) :
    (r.ofTree title).Recovers (k + 1) (.object (present fields)) a := by
  have hn : fields.names.Nodup := by rwa [hnames]
  have hp : (present fields).names.Nodup := hn.sublist (names_present_sublist fields)
  have hget := fun name => get?_present name hn
  have hcheck : checkMembers r.members [] (memberTrees (present fields)) = .ok () := by
    refine checkMembers_memberTrees hp (by simp) fun member hm check hc => ?_
    refine (h.checks _ (Entries.mem_of_get? hc) _ ?_).2
    rw [Option.mem_def, ← hget, Entries.get?_of_mem hp hm]
  have hfind : findMember (memberTrees (present fields)) =
      fun name => (held name fields).map Value.tree := by
    funext name
    rw [findMember_memberTrees, hget]
  refine ⟨fits_object hp fun member hm => ?_, rfl, ?_⟩
  · have hname : member.1 ∈ fields.names :=
      (names_present_sublist fields).subset (List.mem_map_of_mem hm)
    rw [hnames] at hname
    obtain ⟨known, hmem, heq⟩ := List.mem_map.1 hname
    refine (h.checks known hmem _ ?_).1
    rw [heq, Option.mem_def, ← hget, Entries.get?_of_mem hp hm]
  · rw [Value.tree, ofTree, hcheck, hfind, h.build]
    rfl

end Record

end LoadTest.Json
