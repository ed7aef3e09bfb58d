import LoadTest.Proofs.Entries
import LoadTest.Proofs.Json.Recognition

/-!
# Values read back

What a layout writes for a value spells that value (`spelled_chars`), so a value whose objects name
no member twice, and whose containers are not too deep inside each other, is read back from its text
in either layout (`ofText?_chars`), also if blanks follow.
-/

namespace LoadTest.Json

mutual

/-- No object names a member twice. -/
def Value.Distinct : Value → Prop
  | .array items => ItemsDistinct items
  | .object members => (Entries.names members).Nodup ∧ MembersDistinct members
  | _ => True

/-- No object inside names a member twice. -/
def ItemsDistinct : List Value → Prop
  | [] => True
  | item :: items => item.Distinct ∧ ItemsDistinct items

/-- No object inside names a member twice. -/
def MembersDistinct : List (String × Value) → Prop
  | [] => True
  | (_, value) :: members => value.Distinct ∧ MembersDistinct members

end

/-! ## What a value is read as -/

mutual

theorem value?_tree_joined : ∀ v : Value, v.tree.value? = some v.joined
  | .null | .bool _ | .number _ | .text _ => by simp [Value.tree, Tree.value?, Value.joined]
  | .array items => by
    simp [Value.tree, Tree.value?, Value.joined, values?_itemTrees_joined items]
  | .object members => by
    simp [Value.tree, Tree.value?, Value.joined, memberValues?_memberTrees_joined members]

theorem values?_itemTrees_joined :
    ∀ items : List Value, Tree.values? (itemTrees items) = some (itemsJoined items)
  | [] => rfl
  | item :: items => by
    simp [itemTrees, Tree.values?, itemsJoined, value?_tree_joined item,
      values?_itemTrees_joined items]

theorem memberValues?_memberTrees_joined : ∀ members : List (String × Value),
    Tree.memberValues? (memberTrees members) = some (membersJoined members)
  | [] => rfl
  | (name, v) :: members => by
    simp [memberTrees, Tree.memberValues?, membersJoined, value?_tree_joined v,
      memberValues?_memberTrees_joined members]

end

mutual

theorem joined_eq_self : ∀ {v : Value}, v.Distinct → v.joined = v
  | .null, _ | .bool _, _ | .number _, _ | .text _, _ => by rw [Value.joined] <;> simp
  | .array items, h => by
    simp only [Value.Distinct] at h
    rw [Value.joined, itemsJoined_eq_self h]
  | .object members, h => by
    simp only [Value.Distinct] at h
    rw [Value.joined, membersJoined_eq_self h.2, Entries.ofList_eq_self h.1]

theorem itemsJoined_eq_self : ∀ {items : List Value}, ItemsDistinct items →
    itemsJoined items = items
  | [], _ => rfl
  | _ :: _, h => by rw [itemsJoined, joined_eq_self h.1, itemsJoined_eq_self h.2]

theorem membersJoined_eq_self : ∀ {members : List (String × Value)}, MembersDistinct members →
    membersJoined members = members
  | [], _ => rfl
  | (_, _) :: _, h => by rw [membersJoined, joined_eq_self h.1, membersJoined_eq_self h.2]

end

theorem exists_of_joined_eq_object {v : Value} {entries : Entries Value}
    (h : v.joined = .object entries) : ∃ members, v = .object members := by
  cases v with
  | object members => exact ⟨members, rfl⟩
  | _ => simp [Value.joined] at h

theorem value?_tree (v : Value) (h : v.Distinct) : v.tree.value? = some v := by
  rw [value?_tree_joined, joined_eq_self h]

/-! ## What is written -/

/-- What a layout puts between the parts of a value is blank. -/
structure Layout.IsBlank (layout : Layout) : Prop where
  newline : ∀ depth, ∀ c ∈ layout.newline depth, isBlank c = true
  afterColon : ∀ c ∈ layout.afterColon, isBlank c = true

theorem isBlank_compact : Layout.compact.IsBlank where
  newline _ := List.forall_mem_nil _
  afterColon := List.forall_mem_nil _

theorem isBlank_spread : Layout.spread.IsBlank where
  newline depth c hc := by
    simp only [Layout.spread, List.mem_cons, List.mem_replicate] at hc
    rcases hc with rfl | ⟨-, rfl⟩ <;> decide
  afterColon := by decide

theorem numberChars_cons (n : Number) :
    ∃ c cs, n.chars = c :: cs ∧ (c = '-' ∨ c.isDigit = true) := by
  have hread := readNumber_chars n (show EndsNumber [] by trivial)
  rw [List.append_nil] at hread
  exact exists_cons_of_readNumber hread

theorem spelled_numberChars (n : Number) : n.SpelledAs n.chars := by
  have hread := readNumber_chars n (show EndsNumber [] by trivial)
  obtain ⟨text, htext, hchars⟩ := exists_of_readNumber hread
  rw [List.append_nil, List.append_nil] at hchars
  rwa [hchars]

theorem spelled_quotedChars (s : String) : TextSpelledAs s (quotedChars s) := by
  obtain ⟨inner, hinner, hchars⟩ := readText_eq_some_iff.1 (readText_quoted s [])
  rw [quotedChars, List.append_cancel_right hchars]
  exact .mk hinner

section Whole

variable {layout : Layout} (hl : layout.IsBlank)

include hl

mutual

/-- What is written for a value spells it. -/
theorem spelled_chars : ∀ (v : Value) (depth : ℕ), v.SpelledAs (v.chars layout depth)
  | .null, _ => by
    rw [Value.chars]
    exact .null
  | .bool true, _ => by
    rw [Value.chars]
    exact .true
  | .bool false, _ => by
    rw [Value.chars]
    exact .false
  | .number n, _ => by
    rw [Value.chars]
    exact .number (spelled_numberChars n)
  | .text s, _ => by
    rw [Value.chars]
    exact .text (spelled_quotedChars s)
  | .array [], _ => by
    rw [Value.chars]
    exact .emptyArray (List.forall_mem_nil _)
  | .array (item :: items), depth => by
    obtain ⟨cs, more, hitem, hitems, hchars⟩ :=
      spelled_itemsChars items depth (hl.newline (depth + 1)) (spelled_chars item (depth + 1))
    have hall := Value.SpelledAs.array hitem hitems
    rw [← List.append_assoc, ← hchars] at hall
    simpa only [Value.chars, List.append_assoc] using hall
  | .object [], _ => by
    rw [Value.chars]
    exact .emptyObject (List.forall_mem_nil _)
  | .object ((name, v) :: members), depth => by
    obtain ⟨cs, more, hmember, hmembers, hchars⟩ :=
      spelled_membersChars members depth name (hl.newline (depth + 1)) (spelled_chars v (depth + 1))
    have hall := Value.SpelledAs.object hmember hmembers
    rw [← List.append_assoc, ← hchars] at hall
    simpa only [Value.chars, List.append_assoc, List.cons_append] using hall

/-- The blanks in front of the closing bracket go to the last item. -/
theorem spelled_itemsChars : ∀ (items : List Value) (depth : ℕ) {item : Value}
    {before text : List Char}, AreBlanks before → item.SpelledAs text →
    ∃ cs more, item.PaddedAs cs ∧ ItemsSpelledAs items more ∧
      before ++ (text ++ (itemsChars layout (depth + 1) items ++ layout.newline depth)) = cs ++ more
  | [], depth, item, before, text, hb, h => by
    refine ⟨_, [], .mk hb h (hl.newline depth), .nil, ?_⟩
    rw [itemsChars, List.nil_append, List.append_nil]
  | next :: items, depth, item, before, text, hb, h => by
    obtain ⟨cs, more, hnext, hitems, hchars⟩ :=
      spelled_itemsChars items depth (hl.newline (depth + 1)) (spelled_chars next (depth + 1))
    refine ⟨_, _, .mk hb h (List.forall_mem_nil _), .cons hnext hitems, ?_⟩
    simp only [itemsChars, ← hchars, List.append_assoc, List.cons_append, List.nil_append]

theorem spelled_membersChars : ∀ (members : List (String × Value)) (depth : ℕ) (name : String)
    {v : Value} {before text : List Char}, AreBlanks before → v.SpelledAs text →
    ∃ cs more, MemberSpelledAs (name, v) cs ∧ MembersSpelledAs members more ∧
      before ++ (quotedChars name ++ ':' :: (layout.afterColon ++
        (text ++ (membersChars layout (depth + 1) members ++ layout.newline depth)))) = cs ++ more
  | [], depth, name, v, before, text, hb, h => by
    refine ⟨_, [], .mk hb (spelled_quotedChars name) (List.forall_mem_nil _)
      (.mk hl.afterColon h (hl.newline depth)), .nil, ?_⟩
    rw [membersChars, List.nil_append, List.nil_append, List.append_nil]
  | (other, w) :: members, depth, name, v, before, text, hb, h => by
    obtain ⟨cs, more, hnext, hmembers, hchars⟩ := spelled_membersChars members depth other
      (hl.newline (depth + 1)) (spelled_chars w (depth + 1))
    refine ⟨_, _, .mk hb (spelled_quotedChars name) (List.forall_mem_nil _)
      (.mk hl.afterColon h (List.forall_mem_nil _)), .cons hnext hmembers, ?_⟩
    simp only [membersChars, ← hchars, List.append_assoc, List.cons_append, List.nil_append]

end

theorem read_chars {v : Value} (hd : v.depth ≤ 127) (depth : ℕ) {rest : List Char}
    (hr : EndsNumber rest) : Tree.read (v.chars layout depth ++ rest) = (v.tree, rest) := by
  have hread := readValue_spelled (spelled_chars hl v depth) [] (by simpa using hd)
    (List.forall_mem_nil _) hr
  rwa [List.nil_append, readAfter] at hread

/-- What a document holds is read back, whatever layout it is in. -/
theorem ofText?_chars_append {v : Value} (hv : v.Distinct) (hd : v.depth ≤ 127) (depth : ℕ)
    {blanks : List Char} (hb : ∀ c ∈ blanks, isBlank c = true) :
    Value.ofText? (String.ofList (v.chars layout depth ++ blanks)) = some v := by
  have hr : EndsNumber (blanks ++ []) := endsNumber_blanks hb trivial
  rw [List.append_nil] at hr
  have hskip : skipBlanks blanks = [] := List.dropWhile_eq_nil_iff.2 hb
  simp [Value.ofText?, read_chars hl hd depth hr, hskip, value?_tree v hv]

theorem ofText?_chars {v : Value} (hv : v.Distinct) (hd : v.depth ≤ 127) (depth : ℕ) :
    Value.ofText? (String.ofList (v.chars layout depth)) = some v := by
  simpa using ofText?_chars_append hl hv hd depth (by simp : ∀ c ∈ ([] : List Char), _)

end Whole

theorem ofText?_compact {v : Value} (hv : v.Distinct) (hd : v.depth ≤ 127) :
    Value.ofText? v.compact = some v :=
  ofText?_chars isBlank_compact hv hd 0

theorem ofText?_spread {v : Value} (hv : v.Distinct) (hd : v.depth ≤ 127) :
    Value.ofText? v.spread = some v :=
  ofText?_chars isBlank_spread hv hd 0

theorem ofText?_spread_newline {v : Value} (hv : v.Distinct) (hd : v.depth ≤ 127) :
    Value.ofText? (v.spread ++ "\n") = some v := by
  have hchars : v.spread ++ "\n" = String.ofList (v.chars .spread 0 ++ ['\n']) := by
    rw [Value.spread, String.ofList_append]
  rw [hchars]
  exact ofText?_chars_append isBlank_spread hv hd 0 (by decide)

end LoadTest.Json
