import LoadTest.Proofs.Json.Decode

/-!
# What is accepted

Which values a decoder accepts (`Decoder.Accepts`): for every shape that is read there is one lemma
in both directions. A record accepts an object exactly when each of its members accepts what the
object holds under its name (`Record.Settles.accepts_object`); members are added one at a time
(`Record.Settles.required`, `Record.Settles.withDefault`).
-/

namespace LoadTest.Json

variable {α β : Type}

/-- The decoder makes something of the value. -/
def Decoder.Accepts (decode : Decoder α) (v : Value) : Prop :=
  ∃ a, decode v.tree = .ok a

theorem exists_map_ok {ε : Type} {x : Except ε α} {f : α → β} :
    (∃ b, x.map f = .ok b) ↔ ∃ a, x = .ok a := by
  cases x <;> simp [Except.map]

namespace Decoder

variable {decode : Decoder α} {v : Value}

theorem accepts_text : Decoder.text.Accepts v ↔ ∃ s, v = .text s := by
  cases v <;> simp [Accepts, Value.tree, text]

theorem accepts_uint32 : uint32.Accepts v ↔
    ∃ n : UInt64, n.toNat < 2 ^ 32 ∧ v = .number (.natural n) := by
  unfold Accepts uint32
  rw [exists_map_ok]
  cases v with
  | number n =>
    cases n with
    | natural n =>
      by_cases hn : n.toNat < 2 ^ 32
      · exact iff_of_true ⟨n.toNat, by simp only [Value.tree, naturalBelow, if_pos hn]⟩ ⟨n, hn, rfl⟩
      · simp only [Value.tree, naturalBelow, if_neg hn]
        refine iff_of_false (by simp) ?_
        rintro ⟨n', hn', heq⟩
        cases heq
        exact hn hn'
    | negative below => simp [Value.tree, naturalBelow]
    | real x => simp [Value.tree, naturalBelow]
  | _ => simp [Value.tree, naturalBelow]

theorem accepts_option : (Decoder.option decode).Accepts v ↔ v = .null ∨ decode.Accepts v := by
  cases v with
  | null => simp [Accepts, Value.tree, Decoder.option]
  | _ => simp [Accepts, Value.tree, Decoder.option, exists_map_ok]

theorem exists_items_ok {vs : List Value} :
    (∃ as, items decode (itemTrees vs) = .ok as) ↔ ∀ v ∈ vs, decode.Accepts v := by
  induction vs with
  | nil => simp [itemTrees, items]
  | cons v vs ih =>
    rw [List.forall_mem_cons, ← ih, itemTrees, items]
    unfold Accepts
    cases decode v.tree with
    | error fault => simp [Bind.bind, Except.bind]
    | ok a =>
      cases items decode (itemTrees vs) <;>
        simp [Bind.bind, Except.bind, Pure.pure, Except.pure]

theorem accepts_list :
    (list decode).Accepts v ↔ ∃ items, v = .array items ∧ ∀ item ∈ items, decode.Accepts item := by
  cases v with
  | array vs =>
    have hread : (list decode).Accepts (.array vs) ↔
        ∃ as, items decode (itemTrees vs) = .ok as := by
      rw [Accepts, Value.tree, list]
      cases items decode (itemTrees vs) <;>
        simp [Bind.bind, Except.bind, Pure.pure, Except.pure]
    rw [hread, exists_items_ok]
    simp
  | _ => simp [Accepts, Value.tree, list]

theorem accepts_listOrNull : (listOrNull decode).Accepts v ↔
    v = .null ∨ ∃ items, v = .array items ∧ ∀ item ∈ items, decode.Accepts item := by
  unfold Accepts listOrNull
  rw [exists_map_ok]
  exact accepts_option.trans (or_congr_right accepts_list)

theorem exists_ofName_ok {known : List (String × α)} {name : String} :
    (∃ a, ofName known name = .ok a) ↔ name ∈ known.map Prod.fst := by
  rw [← Entries.names, ← Entries.exists_get?]
  unfold ofName
  cases Entries.get? name known <;> simp

theorem accepts_unit : unit.Accepts v ↔ v = .null := by
  cases v <;> simp [Accepts, Value.tree, unit]

/-- A name may also stand as the only member of an object, which is null then. -/
theorem accepts_variant {known : List (String × α)} : (variant known).Accepts v ↔
    ∃ name ∈ known.map Prod.fst, v = .text name ∨ v = .object [(name, .null)] := by
  cases v with
  | text s => simp [Accepts, Value.tree, variant, exists_ofName_ok]
  | object members =>
    rcases members with _ | ⟨⟨name, payload⟩, _ | ⟨_, _⟩⟩
    · simp [Accepts, Value.tree, memberTrees, variant]
    · have hread : (variant known).Accepts (.object [(name, payload)]) ↔
          (∃ a, ofName known name = .ok a) ∧ unit.Accepts payload := by
        simp only [Accepts, Value.tree, memberTrees, variant, namedVariant]
        cases ofName known name <;> cases unit payload.tree <;>
          simp [Bind.bind, Except.bind, Pure.pure, Except.pure]
      rw [hread, exists_ofName_ok, accepts_unit]
      simp
    · simp [Accepts, Value.tree, memberTrees, variant]
  | _ => simp [Accepts, Value.tree, variant]

end Decoder

/-! ## Parts of values -/

theorem distinct_of_mem_items {items : List Value} (h : ItemsDistinct items) :
    ∀ item ∈ items, item.Distinct := by
  induction items with
  | nil => simp
  | cons item items ih =>
    simp only [ItemsDistinct] at h
    exact List.forall_mem_cons.2 ⟨h.1, ih h.2⟩

theorem distinct_of_mem_members {members : Entries Value} (h : MembersDistinct members) :
    ∀ member ∈ members, member.2.Distinct := by
  induction members with
  | nil => simp
  | cons member members ih =>
    obtain ⟨name, v⟩ := member
    simp only [MembersDistinct] at h
    exact List.forall_mem_cons.2 ⟨h.1, ih h.2⟩

theorem distinct_insert {members : Entries Value} {w : Value} (name : String)
    (h : (Value.object members).Distinct) (hw : w.Distinct) :
    (Value.object (members.insert name w)).Distinct := by
  have hmembers : MembersDistinct members → MembersDistinct (members.insert name w) := by
    clear h
    intro h
    induction members with
    | nil => exact ⟨hw, trivial⟩
    | cons member members ih =>
      obtain ⟨n, v⟩ := member
      rw [Entries.insert]
      split_ifs
      · exact ⟨hw, h.2⟩
      · exact ⟨h.1, ih h.2⟩
  simp only [Value.Distinct] at h ⊢
  exact ⟨Entries.nodup_names_insert h.1, hmembers h.2⟩

/-! ## Records -/

/-- The object is one that the record can be built from exactly when this is true of it. -/
structure Record.Settles (r : Record α) (p : Entries Value → Prop) : Prop where
  build : ∀ ms, MembersDistinct ms →
    ((∃ a, r.build .object (fun name => (Entries.get? name ms).map Value.tree) = .ok a) ↔ p ms)
  checks : ∀ ms, MembersDistinct ms → p ms → ∀ known ∈ r.members,
    ∀ v ∈ Entries.get? known.1 ms, known.2 v.tree = .ok ()

namespace Record

variable {p : Entries Value → Prop} {q : Value → Prop} {f : Record (α → β)} {name : String}
  {decode : Decoder α}

theorem Settles.pure (a : α) : (Record.pure a).Settles fun _ => True where
  build := fun _ _ => iff_of_true ⟨a, rfl⟩ trivial
  checks := by simp [Record.pure]

/-- A member is built from what the object holds under its name, or from nothing. -/
theorem exists_build_ofMember {m : Member α} {c : Option Value → Prop} {ms : Entries Value}
    (hnone : m.absent.isSome = true ↔ c none)
    (hsome : ∀ v ∈ Entries.get? m.name ms, (m.decode.Accepts v ↔ c (some v))) :
    (∃ a, (ofMember m).build .object (fun name => (Entries.get? name ms).map Value.tree) =
      .ok a) ↔ c (Entries.get? m.name ms) := by
  simp only [ofMember]
  cases hget : Entries.get? m.name ms with
  | some v =>
    rw [← hsome v hget, Decoder.Accepts, Option.map_some]
    cases hread : m.decode v.tree <;> simp [Except.mapError, hread]
  | none =>
    rw [← hnone, Option.map_none]
    cases m.absent <;> simp

theorem Settles.andMember {m : Member α} {c : Option Value → Prop} (hf : f.Settles p)
    (hnone : m.absent.isSome = true ↔ c none)
    (hsome : ∀ v, v.Distinct → (m.decode.Accepts v ↔ c (some v))) :
    (f.andMember m).Settles fun ms => p ms ∧ c (Entries.get? m.name ms) := by
  have hmember : ∀ ms, MembersDistinct ms →
      ∀ v ∈ Entries.get? m.name ms, (m.decode.Accepts v ↔ c (some v)) := fun ms hms v hv =>
    hsome v (distinct_of_mem_members hms _ (Entries.mem_of_get? hv))
  constructor
  · intro ms hms
    rw [← hf.build ms hms, ← exists_build_ofMember hnone (hmember ms hms)]
    simp only [Record.andMember, Record.seq]
    cases f.build .object _ <;> cases (ofMember m).build .object _ <;>
      simp [Bind.bind, Except.bind, Pure.pure, Except.pure]
  · rintro ms hms ⟨hp, hm⟩ known hknown v hv
    simp only [Record.andMember, Record.seq, ofMember, List.mem_append,
      List.mem_singleton] at hknown
    rcases hknown with hknown | rfl
    · exact hf.checks ms hms hp known hknown v hv
    · rw [Option.mem_def.1 hv] at hm
      obtain ⟨a, ha⟩ := (hmember ms hms v hv).2 hm
      simp only [ha]
      rfl

theorem Settles.required (hf : f.Settles p)
    (hdecode : ∀ v, v.Distinct → (decode.Accepts v ↔ q v)) :
    (f.andMember (.required name decode)).Settles fun ms =>
      p ms ∧ ∃ v, Entries.get? name ms = some v ∧ q v :=
  hf.andMember (c := fun found => ∃ v, found = some v ∧ q v)
    (by simp [Member.required]) (by simpa [Member.required] using hdecode)

theorem Settles.withDefault {default : α} (hf : f.Settles p)
    (hdecode : ∀ v, v.Distinct → (decode.Accepts v ↔ q v)) :
    (f.andMember (.withDefault name decode default)).Settles fun ms =>
      p ms ∧ ∀ v, Entries.get? name ms = some v → q v :=
  hf.andMember (c := fun found => ∀ v, found = some v → q v)
    (by simp [Member.withDefault]) (by simpa [Member.withDefault] using hdecode)

theorem findMember_object (members : Entries Value) :
    findMember (memberTrees members) = fun name => (Entries.get? name members).map Value.tree := by
  funext name
  exact findMember_memberTrees members name

/-- What a record reads from an object it was built as from the members. -/
theorem build_of_ofTree {r : Record α} {title : String} {members : Entries Value} {a : α}
    (h : r.ofTree title (Value.object members).tree = .ok a) :
    r.build .object (fun name => (Entries.get? name members).map Value.tree) = .ok a := by
  rw [Value.tree, ofTree, findMember_object] at h
  cases hcheck : checkMembers r.members [] (memberTrees members) with
  | error fault =>
    rw [hcheck] at h
    cases h
  | ok _ =>
    rw [hcheck] at h
    cases hbuild : r.build .object fun name => (Entries.get? name members).map Value.tree with
    | ok b =>
      rw [hbuild] at h
      obtain rfl : b = a := Except.ok.inj h
      rfl
    | error fault =>
      rw [hbuild] at h
      cases fault <;> cases h

/-- Members that the record does not know do not matter. -/
theorem Settles.accepts_object {r : Record α} (hr : r.Settles p) (title : String)
    {members : Entries Value} (h : (Value.object members).Distinct) :
    (r.ofTree title).Accepts (.object members) ↔ p members := by
  simp only [Value.Distinct] at h
  constructor
  · rintro ⟨a, ha⟩
    exact (hr.build members h.2).1 ⟨a, build_of_ofTree ha⟩
  · intro hp
    obtain ⟨a, ha⟩ := (hr.build members h.2).2 hp
    have hcheck : checkMembers r.members [] (memberTrees members) = .ok () := by
      refine checkMembers_memberTrees h.1 (by simp) fun member hm check hc => ?_
      refine hr.checks members h.2 hp _ (Entries.mem_of_get? hc) _ ?_
      exact Entries.get?_of_mem h.1 hm
    refine ⟨a, ?_⟩
    rw [Value.tree, ofTree, hcheck, findMember_object, ha]
    rfl

end Record

end LoadTest.Json
