import LoadTest.Json.Document
import LoadTest.Proofs.Json.Record
import LoadTest.Proofs.Json.Steps

/-!
# The texts that hold a value

A text is read as a value if and only if it spells one, with at most 127 containers inside each
other and nothing but blanks around it (`ofText?_eq_some_iff_isDocument`). What is read is the value
with its repeated members joined.

A run is followed from its end (`Run.spells`). `Closes` is what the open containers still ask for:
each takes its rest and its closing bracket and goes to the container around it as a complete tree.
A tree becomes a value only if all that was put into it does, so none of the marks for what cannot
be kept is met on the way (`Closes.exists_value`).
-/

namespace LoadTest.Json

variable {stack : List Frame} {cs rest next : List Char} {t result : Tree} {v w : Value}

/-! ## What is kept -/

theorem membersJoined_eq_map (members : List (String × Value)) :
    membersJoined members = members.map fun member => (member.1, member.2.joined) := by
  induction members with
  | nil => rfl
  | cons member members ih => rw [membersJoined, ih, List.map_cons]

mutual

theorem fits_joined : ∀ {v : Value} {k : ℕ}, v.depth ≤ k → v.joined.Fits k
  | .null, _, _ | .bool _, _, _ | .number _, _, _ | .text _, _, _ => by simp [Value.joined]
  | .array items, k, h => by
    rw [Value.depth] at h
    obtain ⟨k, rfl⟩ := Nat.exists_eq_add_of_lt h
    rw [Value.joined]
    exact (fits_array fun item hitem => fits_itemsJoined (by omega) item hitem)
  | .object members, k, h => by
    rw [Value.depth] at h
    obtain ⟨k, rfl⟩ := Nat.exists_eq_add_of_lt h
    have hnames : (Entries.ofList (membersJoined members)).names.Nodup :=
      Entries.nodup_names_override (by simp [Entries.names])
    rw [Value.joined]
    refine fits_object hnames fun member hmember => ?_
    rcases Entries.mem_override hmember with hmember | hmember
    · cases hmember
    · exact fits_membersJoined (by omega) member hmember

theorem fits_itemsJoined : ∀ {items : List Value} {k : ℕ}, itemsDepth items ≤ k →
    ∀ item ∈ itemsJoined items, item.Fits k
  | [], _, _, _, hitem => by cases hitem
  | first :: items, k, h, item, hitem => by
    rw [itemsDepth] at h
    rcases List.mem_cons.1 hitem with rfl | hitem
    · exact fits_joined (by omega)
    · exact fits_itemsJoined (by omega) item hitem

theorem fits_membersJoined : ∀ {members : List (String × Value)} {k : ℕ},
    membersDepth members ≤ k → ∀ member ∈ membersJoined members, member.2.Fits k
  | [], _, _, _, hmember => by cases hmember
  | (name, v) :: members, k, h, member, hmember => by
    rw [membersDepth] at h
    rcases List.mem_cons.1 hmember with rfl | hmember
    · exact fits_joined (by omega)
    · exact fits_membersJoined (by omega) member hmember

end

/-! ## Trees that are values -/

theorem exists_value_of_values? : ∀ {items : List Tree} {vs : List Value},
    Tree.values? items = some vs → ∀ t ∈ items, ∃ v, t.value? = some v
  | [], _, _, _, ht => by cases ht
  | item :: items, vs, h, t, ht => by
    rw [Tree.values?] at h
    split at h
    · rename_i v ws hv hws
      rcases List.mem_cons.1 ht with rfl | ht
      · exact ⟨v, hv⟩
      · exact exists_value_of_values? hws t ht
    · cases h

theorem exists_value_of_memberValues? : ∀ {members : List (Option String × Tree)}
    {ms : List (String × Value)}, Tree.memberValues? members = some ms →
    ∀ m ∈ members, (∃ name, m.1 = some name) ∧ ∃ v, m.2.value? = some v
  | [], _, _, _, hm => by cases hm
  | (name, t) :: members, ms, h, m, hm => by
    unfold Tree.memberValues? at h
    split at h
    · rename_i name' v ws hv hws
      rcases List.mem_cons.1 hm with rfl | hm
      · exact ⟨⟨name', rfl⟩, v, hv⟩
      · exact exists_value_of_memberValues? hws m hm
    · cases h

/-! ## From the end of a run -/

/-- With the tree put to the open containers, what follows closes them, and the whole tree is
`result`. -/
inductive Closes (result : Tree) (rest : List Char) : List Frame → Tree → List Char → Prop
  | done : Closes result rest [] result rest
  | array {stack : List Frame} {done : List Tree} {t : Tree} {items : List Value}
      {more blanks next : List Char} (hitems : ItemsSpelledAs items more)
      (hd : stack.length + itemsDepth items ≤ 126) (hb : AreBlanks blanks)
      (h : Closes result rest stack (.array (done.reverse ++ t :: itemTrees items) true) next) :
      Closes result rest (.array done :: stack) t (more ++ ']' :: (blanks ++ next))
  | object {stack : List Frame} {done : List (Option String × Tree)} {name : Option String}
      {t : Tree} {members : List (String × Value)} {more blanks next : List Char}
      (hmembers : MembersSpelledAs members more) (hd : stack.length + membersDepth members ≤ 126)
      (hb : AreBlanks blanks) (h : Closes result rest stack
        (.object (done.reverse ++ (name, t) :: memberTrees members) true) next) :
      Closes result rest (.object done name :: stack) t (more ++ '\x7d' :: (blanks ++ next))

theorem Closes.length_le (h : Closes result rest stack t cs) : stack.length ≤ 127 := by
  cases h with
  | done => exact Nat.zero_le _
  | array _ hd _ _ => rw [List.length_cons]; omega
  | object _ hd _ _ => rw [List.length_cons]; omega

theorem Closes.exists_value (h : Closes result rest stack t cs) (hw : result.value? = some w) :
    ∃ v, t.value? = some v := by
  induction h with
  | done => exact ⟨w, hw⟩
  | array _ _ _ _ ih =>
    obtain ⟨v, hv⟩ := ih
    rw [Tree.value?] at hv
    obtain ⟨vs, hvs, -⟩ := Option.map_eq_some_iff.1 hv
    exact exists_value_of_values? hvs _ (by simp)
  | @object _ done name t members _ _ _ _ _ _ _ ih =>
    obtain ⟨v, hv⟩ := ih
    rw [Tree.value?] at hv
    obtain ⟨ms, hms, -⟩ := Option.map_eq_some_iff.1 hv
    exact (exists_value_of_memberValues? hms (name, t) (by simp)).2

theorem Closes.exists_name {done : List (Option String × Tree)} {name : Option String}
    (h : Closes result rest (.object done name :: stack) t cs) (hw : result.value? = some w) :
    ∃ s, name = some s := by
  cases h with
  | object _ _ _ h =>
    obtain ⟨v, hv⟩ := h.exists_value hw
    rw [Tree.value?] at hv
    obtain ⟨ms, hms, -⟩ := Option.map_eq_some_iff.1 hv
    exact (exists_value_of_memberValues? hms (name, t) (by simp)).1

/-- A container that becomes a value is not too deep. -/
theorem Closes.of_arrayTree {items : List Tree}
    (h : Closes result rest stack (arrayTree stack items true) cs) (hw : result.value? = some w) :
    stack.length ≤ 126 ∧ Closes result rest stack (.array items.reverse true) cs := by
  obtain ⟨v, hv⟩ := h.exists_value hw
  unfold arrayTree at h hv
  split_ifs at h hv with hkeep
  · exact ⟨mayKeep_iff.1 hkeep, h⟩
  · simp [Tree.value?] at hv

theorem Closes.of_objectTree {members : List (Option String × Tree)}
    (h : Closes result rest stack (objectTree stack members true) cs)
    (hw : result.value? = some w) :
    stack.length ≤ 126 ∧ Closes result rest stack (.object members.reverse true) cs := by
  obtain ⟨v, hv⟩ := h.exists_value hw
  unfold objectTree at h hv
  split_ifs at h hv with hkeep
  · exact ⟨mayKeep_iff.1 hkeep, h⟩
  · simp [Tree.value?] at hv

/-- What lies ahead of a point spells the rest of a document. -/
inductive Point.Spells (result : Tree) (rest : List Char) : Point → Prop
  | value {stack : List Frame} {v : Value} {cs next : List Char} (hv : v.PaddedAs cs)
      (hd : stack.length + v.depth ≤ 127) (h : Closes result rest stack v.tree next) :
      Spells result rest (.value stack (cs ++ next))
  | member {stack : List Frame} {done : List (Option String × Tree)} {name : String} {v : Value}
      {cs next : List Char} (hmember : MemberSpelledAs (name, v) cs)
      (hd : stack.length + v.depth ≤ 126)
      (h : Closes result rest (.object done (some name) :: stack) v.tree next) :
      Spells result rest (.member stack done (cs ++ next))
  | after {stack : List Frame} {t : Tree} {blanks next : List Char} (hb : AreBlanks blanks)
      (h : Closes result rest stack t next) : Spells result rest (.after stack t (blanks ++ next))

theorem Point.Spells.exists_value (h : Point.Spells result rest (.value stack cs)) :
    ∃ v text next, Value.PaddedAs v text ∧ stack.length + v.depth ≤ 127 ∧
      Closes result rest stack v.tree next ∧ cs = text ++ next := by
  cases h with
  | value hv hd h => exact ⟨_, _, _, hv, hd, h, rfl⟩

theorem Closes.spells (h : Closes result rest stack t (skipBlanks cs)) :
    Point.Spells result rest (.after stack t cs) := by
  obtain ⟨blanks, hb, hcs⟩ := exists_blanks cs
  rw [hcs]
  exact .after hb h

/-- A value that is spelled stands in front of what goes on behind it. -/
theorem Closes.spells_value {text blanks : List Char} (h : Closes result rest stack v.tree next)
    (hv : v.SpelledAs text) (hd : stack.length + v.depth ≤ 127) (hb : AreBlanks blanks)
    (hskip : skipBlanks cs = text ++ (blanks ++ next)) :
    Point.Spells result rest (.value stack cs) := by
  obtain ⟨before, hbefore, hcs⟩ := exists_blanks cs
  rw [hcs, hskip, ← List.append_assoc text, ← List.append_assoc]
  exact .value (.mk hbefore hv hb) hd h

/-- What is spelled behind a step is spelled before it, with what the step takes in front. -/
theorem Step.spells {p q : Point} (h : Step p q) (hq : q.Spells result rest)
    (hw : result.value? = some w) : p.Spells result rest := by
  cases h with
  | word hword h =>
    cases hq with | after hb hclose
    have hlevel := hclose.length_le
    simp only [words, List.mem_cons, Prod.mk.injEq, List.not_mem_nil, or_false] at hword
    rcases hword with ⟨rfl, rfl⟩ | ⟨rfl, rfl⟩ | ⟨rfl, rfl⟩
    · exact Closes.spells_value (v := .null) (by simpa [Value.tree] using hclose) .null hlevel hb h
    · exact hclose.spells_value .true hlevel hb h
    · exact hclose.spells_value .false hlevel hb h
  | number h =>
    cases hq with | after hb hclose
    obtain ⟨v, hv⟩ := hclose.exists_value hw
    rw [Tree.value?] at hv
    obtain ⟨n, rfl, -⟩ := Option.map_eq_some_iff.1 hv
    obtain ⟨text, htext, hskip⟩ := exists_of_readNumber h
    exact hclose.spells_value (.number htext) hclose.length_le hb hskip
  | text h hs =>
    cases hq with | after hb hclose
    obtain ⟨v, hv⟩ := hclose.exists_value hw
    rw [Tree.value?] at hv
    obtain ⟨s, rfl, -⟩ := Option.map_eq_some_iff.1 hv
    obtain ⟨inner, hinner, rfl⟩ := readText_eq_some_iff.1 hs
    exact hclose.spells_value (.text (.mk hinner)) hclose.length_le hb (by simpa using h)
  | @emptyArray stack cs rest' next h hr =>
    cases hq with | after hb hclose
    obtain ⟨hd, hclose⟩ := hclose.of_arrayTree hw
    obtain ⟨blanks, hblanks, hrest⟩ := exists_blanks rest'
    rw [hrest, hr] at h
    exact Closes.spells_value (v := .array []) hclose (.emptyArray hblanks)
      (Nat.succ_le_succ hd) hb (by simpa using h)
  | openArray h hr =>
    cases hq with | value hv hd hclose
    cases hclose with | array hitems hd' hb hclose
    rw [List.length_cons] at hd
    exact hclose.spells_value (.array hv hitems) (by rw [Value.depth, itemsDepth]; omega)
      hb (by simpa using h)
  | @emptyObject stack cs rest' next h hr =>
    cases hq with | after hb hclose
    obtain ⟨hd, hclose⟩ := hclose.of_objectTree hw
    obtain ⟨blanks, hblanks, hrest⟩ := exists_blanks rest'
    rw [hrest, hr] at h
    exact Closes.spells_value (v := .object []) hclose (.emptyObject hblanks)
      (Nat.succ_le_succ hd) hb (by simpa using h)
  | openObject h hr =>
    cases hq with | member hmember hd hclose
    cases hclose with | object hmembers hd' hb hclose
    exact hclose.spells_value (.object hmember hmembers)
      (by rw [Value.depth, membersDepth]; omega) hb (by simpa using h)
  | @name stack members cs rest' after next name h hn hc =>
    cases hq with | value hv hd hclose
    obtain ⟨s, rfl⟩ := hclose.exists_name hw
    obtain ⟨before, hbefore, hcs⟩ := exists_blanks cs
    obtain ⟨inner, hinner, rfl⟩ := readText_eq_some_iff.1 hn
    obtain ⟨behind, hbehind, hafter⟩ := exists_blanks after
    have hmember := MemberSpelledAs.mk hbefore (.mk hinner) hbehind hv
    rw [hcs, h, hafter, hc]
    rw [List.length_cons] at hd
    simpa using Point.Spells.member hmember (by omega) hclose
  | nextItem h =>
    cases hq with | value hv hd hclose
    cases hclose with | array hitems hd' hb hclose
    rw [List.length_cons] at hd
    rw [List.reverse_cons, List.append_assoc] at hclose
    have hall := Closes.array (.cons hv hitems) (by rw [itemsDepth]; omega) hb hclose
    exact Closes.spells (by simpa [h] using hall)
  | closeArray h =>
    cases hq with | after hb hclose
    obtain ⟨hd, hclose⟩ := hclose.of_arrayTree hw
    rw [List.reverse_cons] at hclose
    exact Closes.spells (h ▸ Closes.array .nil hd hb hclose)
  | nextMember h =>
    cases hq with | member hmember hd hclose
    cases hclose with | object hmembers hd' hb hclose
    rw [List.reverse_cons, List.append_assoc] at hclose
    have hall := Closes.object (.cons hmember hmembers) (by rw [membersDepth]; omega) hb hclose
    exact Closes.spells (by simpa [h] using hall)
  | closeObject h =>
    cases hq with | after hb hclose
    obtain ⟨hd, hclose⟩ := hclose.of_objectTree hw
    rw [List.reverse_cons] at hclose
    exact Closes.spells (h ▸ Closes.object .nil hd hb hclose)

theorem Run.spells {p : Point} (h : Run p result rest) (hw : result.value? = some w) :
    p.Spells result rest := by
  induction h with
  | done t cs => exact .after (List.forall_mem_nil _) .done
  | step h _ ih => exact h.spells (ih hw) hw

/-! ## Documents -/

/-- The text holds this value and nothing else, as deep as it may be. -/
structure IsDocument (cs : List Char) (v : Value) : Prop where
  spelled : v.PaddedAs cs
  depth : v.depth ≤ 127

theorem Value.PaddedAs.append_blanks {blanks : List Char} (h : v.PaddedAs cs)
    (hb : AreBlanks blanks) : v.PaddedAs (cs ++ blanks) := by
  obtain ⟨hbefore, hv, hbehind⟩ := h
  rw [List.append_assoc, List.append_assoc]
  exact .mk hbefore hv (hbehind.append hb)

/-- What is read is what the text holds, with its repeated members joined. -/
theorem ofText?_eq_some_iff_isDocument {text : String} :
    Value.ofText? text = some w ↔ ∃ v, IsDocument text.toList v ∧ v.joined = w := by
  constructor
  · intro h
    rw [← String.ofList_toList (s := text), ofText?_eq_some_iff] at h
    obtain ⟨result, rest, hrun, hw, hrest⟩ := h
    obtain ⟨v, cs, next, hv, hd, hclose, hcs⟩ := (hrun.spells hw).exists_value
    cases hclose
    have hblank : AreBlanks rest := List.dropWhile_eq_nil_iff.1 hrest
    rw [value?_tree_joined] at hw
    exact ⟨v, ⟨hcs ▸ hv.append_blanks hblank, by simpa using hd⟩, Option.some.inj hw⟩
  · rintro ⟨v, ⟨hv, hd⟩, rfl⟩
    obtain ⟨behind, hbehind, hread⟩ := read_padded hv hd
    have hskip : skipBlanks behind = [] := List.dropWhile_eq_nil_iff.2 hbehind
    simp only [Value.ofText?, hread, hskip, List.isEmpty_nil, if_true, value?_tree_joined]

theorem isDocument_chars {layout : Layout} (hl : layout.IsBlank) (hd : v.depth ≤ 127) (depth : ℕ) :
    IsDocument (v.chars layout depth) v where
  spelled := by
    have hpadded := Value.PaddedAs.mk (List.forall_mem_nil _) (spelled_chars hl v depth)
      (List.forall_mem_nil _)
    rwa [List.nil_append, List.append_nil] at hpadded
  depth := hd

/-- A document is decoded as what it holds. -/
theorem ofChars_of_isDocument {α : Type} (decode : Decoder α) (h : IsDocument cs v) :
    decode.ofChars cs = decode v.tree := by
  obtain ⟨behind, hbehind, hread⟩ := read_padded h.spelled h.depth
  have hskip : skipBlanks behind = [] := List.dropWhile_eq_nil_iff.2 hbehind
  simp only [Decoder.ofChars, hread, hskip]
  cases decode v.tree <;> rfl

/-- A value that is read is read back when it is written. -/
theorem fits_of_ofText? {text : String} (h : Value.ofText? text = some w) : w.Fits 127 := by
  obtain ⟨v, ⟨-, hd⟩, rfl⟩ := ofText?_eq_some_iff_isDocument.1 h
  exact fits_joined hd

/-! ## White space around a document -/

theorem UnsignedSpelledAs.exists_last {negative : Bool} {n : Number}
    (h : UnsignedSpelledAs negative n cs) : ∃ front c, cs = front ++ [c] ∧ c.isDigit = true := by
  have hlast : ∀ {ds : List Char} (front : List Char), (∀ c ∈ ds, c.isDigit = true) → ds ≠ [] →
      ∃ before c, front ++ ds = before ++ [c] ∧ c.isDigit = true := by
    intro ds front hds hne
    refine ⟨front ++ ds.dropLast, ds.getLast hne, ?_, hds _ (List.getLast_mem hne)⟩
    rw [List.append_assoc, List.dropLast_append_getLast hne]
  cases h with
  | whole hw => exact hlast [] hw.digits hw.nonempty
  | @fraction whole ds _ hf hne _ => simpa using hlast (whole ++ ['.']) hf hne
  | @exponent whole ds cs mark _ _ _ _ he _ =>
    cases he with
    | unsigned hds hne => simpa using hlast (whole ++ (pointed ds ++ [mark])) hds hne
    | positive hds hne => simpa using hlast (whole ++ (pointed ds ++ [mark, '+'])) hds hne
    | negative hds hne => simpa using hlast (whole ++ (pointed ds ++ [mark, '-'])) hds hne

theorem exists_last_of_spelled (h : v.SpelledAs cs) :
    ∃ front c, cs = front ++ [c] ∧ isWhite c = false := by
  cases h with
  | null => exact ⟨['n', 'u', 'l'], 'l', rfl, by decide⟩
  | true => exact ⟨['t', 'r', 'u'], 'e', rfl, by decide⟩
  | false => exact ⟨['f', 'a', 'l', 's'], 'e', rfl, by decide⟩
  | number h =>
    obtain @⟨negative, n, cs, h⟩ := h
    obtain ⟨front, c, rfl, hc⟩ := h.exists_last
    exact ⟨signChars negative ++ front, c, by simp, not_isWhite_of_isDigit hc⟩
  | text h =>
    obtain @⟨cs, h⟩ := h
    exact ⟨'"' :: cs, '"', rfl, by decide⟩
  | @emptyArray blanks hb => exact ⟨'[' :: blanks, ']', rfl, by decide⟩
  | @array item items cs more hitem hitems => exact ⟨'[' :: (cs ++ more), ']', by simp, by decide⟩
  | @emptyObject blanks hb => exact ⟨'\x7b' :: blanks, '\x7d', rfl, by decide⟩
  | @object member members cs more hmember hmembers =>
    exact ⟨'\x7b' :: (cs ++ more), '\x7d', by simp, by decide⟩

/-- All white space around a document is blank. -/
theorem spelled_trimChars (h : v.PaddedAs cs) : v.SpelledAs (trimChars cs) := by
  obtain @⟨_, before, text, behind, hbefore, hv, hbehind⟩ := h
  obtain ⟨c, more, hhead, hc, -⟩ := exists_cons_of_spelled hv
  obtain ⟨front, d, hlast, hd⟩ := exists_last_of_spelled hv
  have htext : trimChars text = text := by
    refine trimChars_eq_self_of_ends ?_ ?_
    · simpa [hhead] using hc
    · simpa [hlast] using hd
  rw [trimChars_white_append fun c hc => isWhite_of_isBlank (hbefore c hc),
    trimChars_append_white fun c hc => isWhite_of_isBlank (hbehind c hc), htext]
  exact hv

/-- A value is read from a text that is trimmed as it is read from the text. -/
theorem ofText?_trimmed {s : String} (h : Value.ofText? s = some w) :
    Value.ofText? (trimmed s) = some w := by
  obtain ⟨v, ⟨hv, hd⟩, rfl⟩ := ofText?_eq_some_iff_isDocument.1 h
  have hpadded := Value.PaddedAs.mk (List.forall_mem_nil _) (spelled_trimChars hv)
    (List.forall_mem_nil _)
  rw [List.nil_append, List.append_nil] at hpadded
  refine ofText?_eq_some_iff_isDocument.2 ⟨v, ⟨?_, hd⟩, rfl⟩
  rwa [trimmed, String.toList_ofList]

end LoadTest.Json
