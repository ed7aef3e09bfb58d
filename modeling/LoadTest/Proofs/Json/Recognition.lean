import LoadTest.Proofs.Json.Reader
import LoadTest.Proofs.Json.Tokens

/-!
# Documents are read

The reader takes whatever is spelled. In front of a text that can follow a value, a spelled value
takes it to the place behind that value and leaves the open containers alone (`readValue_spelled`);
items and members are put to the container on top, one after another (`readAfter_items`,
`readAfter_members`). With blanks around it, a value is the whole of a document (`read_padded`).
-/

namespace LoadTest.Json

variable {stack : List Frame} {cs rest next behind : List Char} {v : Value}

/-! ## Blanks -/

theorem AreBlanks.append {blanks more : List Char} (hb : AreBlanks blanks) (hm : AreBlanks more) :
    AreBlanks (blanks ++ more) :=
  List.forall_mem_append.2 ⟨hb, hm⟩

theorem exists_blanks (cs : List Char) :
    ∃ blanks, AreBlanks blanks ∧ cs = blanks ++ skipBlanks cs :=
  ⟨cs.takeWhile isBlank, fun _ hc => List.mem_takeWhile_imp hc,
    (List.takeWhile_append_dropWhile).symm⟩

/-! ## What is spelled is read -/

theorem exists_cons_of_spelled (h : v.SpelledAs cs) :
    ∃ c more, cs = c :: more ∧ isWhite c = false ∧ c ≠ ']' := by
  cases h with
  | number h =>
    have hread := readNumber_spelled h (show EndsNumber [] by trivial)
    rw [List.append_nil] at hread
    obtain ⟨c, more, rfl, rfl | hdigit⟩ := exists_cons_of_readNumber hread
    · exact ⟨_, _, rfl, by decide, by decide⟩
    · exact ⟨c, more, rfl, not_isWhite_of_isDigit hdigit, ne_of_class hdigit (by decide)⟩
  | text h =>
    obtain ⟨h⟩ := h
    exact ⟨_, _, rfl, by decide, by decide⟩
  | _ => exact ⟨_, _, rfl, by decide, by decide⟩

theorem skipBlanks_spelled {before : List Char} (hb : AreBlanks before) (h : v.SpelledAs cs)
    (rest : List Char) : skipBlanks (before ++ (cs ++ rest)) = cs ++ rest := by
  obtain ⟨c, more, rfl, hwhite, -⟩ := exists_cons_of_spelled h
  have hblank : isBlank c = false := by
    rw [Bool.eq_false_iff]
    intro hblank
    cases hwhite.symm.trans (isWhite_of_isBlank hblank)
  exact skipBlanks_append hb hblank _

theorem skipBlanks_padded_ne (h : v.PaddedAs cs) (rest next : List Char) :
    skipBlanks (cs ++ rest) ≠ ']' :: next := by
  obtain ⟨hbefore, hv, -⟩ := h
  rw [List.append_assoc, List.append_assoc, skipBlanks_spelled hbefore hv]
  obtain ⟨c, more, rfl, -, hclose⟩ := exists_cons_of_spelled hv
  exact fun heq => hclose (List.cons.inj heq).1

theorem skipBlanks_member_ne {member : String × Value} (h : MemberSpelledAs member cs)
    (rest next : List Char) : skipBlanks (cs ++ rest) ≠ '\x7d' :: next := by
  obtain ⟨hbefore, ⟨hname⟩, -, -⟩ := h
  rw [List.append_assoc, List.append_assoc, List.cons_append,
    skipBlanks_append hbefore (by decide)]
  simp

theorem endsNumber_items {items : List Value} (h : ItemsSpelledAs items cs) (rest : List Char) :
    EndsNumber (cs ++ ']' :: rest) := by
  cases h <;> exact ⟨by decide, by decide, by decide, by decide⟩

theorem endsNumber_members {members : List (String × Value)} (h : MembersSpelledAs members cs)
    (rest : List Char) : EndsNumber (cs ++ '\x7d' :: rest) := by
  cases h <;> exact ⟨by decide, by decide, by decide, by decide⟩

theorem readText_of_spelled {s : String} {quoted : List Char} (h : TextSpelledAs s quoted)
    (rest : List Char) :
    ∃ inner, quoted = '"' :: inner ∧ readText .empty (inner ++ rest) = some (some s, rest) := by
  obtain ⟨h⟩ := h
  refine ⟨_, rfl, readText_eq_some_iff.2 ⟨_, h, ?_⟩⟩
  rw [List.append_assoc, List.singleton_append]

mutual

/-- The reader goes behind a value that is spelled. -/
theorem readValue_spelled : ∀ {v : Value} {cs : List Char}, v.SpelledAs cs →
    ∀ (stack : List Frame) {before rest : List Char}, stack.length + v.depth ≤ 127 →
      AreBlanks before → EndsNumber rest →
      readValue stack (before ++ (cs ++ rest)) = readAfter stack v.tree rest
  | _, _, .null, stack, before, rest, _, hb, _ => by
    rw [Value.tree]
    exact readValue_null (skipBlanks_append hb (by decide) _)
  | _, _, .true, stack, before, rest, _, hb, _ => by
    rw [Value.tree]
    exact readValue_true (skipBlanks_append hb (by decide) _)
  | _, _, .false, stack, before, rest, _, hb, _ => by
    rw [Value.tree]
    exact readValue_false (skipBlanks_append hb (by decide) _)
  | .number n, cs, .number h, stack, before, rest, _, hb, hr => by
    rw [Value.tree]
    apply readValue_number
    rw [skipBlanks_spelled hb (.number h), readNumber_spelled h hr]
  | .text s, cs, .text h, stack, before, rest, _, hb, _ => by
    obtain ⟨inner, rfl, hread⟩ := readText_of_spelled h rest
    rw [Value.tree]
    exact readValue_text (skipBlanks_append hb (by decide) _) hread
  | _, _, .emptyArray hblanks, stack, before, rest, hd, hb, _ => by
    simp only [Value.depth, itemsDepth] at hd
    have hclose := skipBlanks_append hblanks (by decide : isBlank ']' = false) rest
    rw [List.cons_append, List.append_assoc, List.singleton_append,
      readValue_array_nil (skipBlanks_append hb (by decide) _) hclose, arrayTree,
      mayKeep_iff.2 (by omega), Value.tree, itemTrees]
    rfl
  | _, _, @Value.SpelledAs.array item items _ more hitem hitems, stack, before, rest,
      hd, hb, _ => by
    simp only [Value.depth, itemsDepth] at hd
    obtain ⟨behind, hbehind, hread⟩ := readValue_padded hitem
    have hends := endsNumber_items hitems rest
    have hfirst := hread (.array [] :: stack) (more ++ ']' :: rest)
      (by rw [List.length_cons]; omega) hends
    have hmore := readAfter_items hitems stack [] item.tree rest hbehind (by omega)
    simp only [List.cons_append, List.append_assoc, List.nil_append]
    rw [readValue_array (skipBlanks_append hb (by decide) _) (skipBlanks_padded_ne hitem _),
      hfirst, hmore, Value.tree, itemTrees]
    rfl
  | _, _, .emptyObject hblanks, stack, before, rest, hd, hb, _ => by
    simp only [Value.depth, membersDepth] at hd
    have hclose := skipBlanks_append hblanks (by decide : isBlank '\x7d' = false) rest
    rw [List.cons_append, List.append_assoc, List.singleton_append,
      readValue_object_nil (skipBlanks_append hb (by decide) _) hclose, objectTree,
      mayKeep_iff.2 (by omega), Value.tree, memberTrees]
    rfl
  | _, _, @Value.SpelledAs.object (name, v) members _ more hmember hmembers,
      stack, before, rest, hd, hb, _ => by
    simp only [Value.depth, membersDepth] at hd
    obtain ⟨behind, hbehind, hread⟩ := readMember_spelled hmember
    have hends := endsNumber_members hmembers rest
    have hfirst := hread stack [] (more ++ '\x7d' :: rest) (by simp only []; omega) hends
    have hmore := readAfter_members hmembers stack [] (some name) v.tree rest hbehind
      (by omega)
    simp only [List.cons_append, List.append_assoc, List.nil_append]
    rw [readValue_object (skipBlanks_append hb (by decide) _) (skipBlanks_member_ne hmember _),
      hfirst, hmore, Value.tree, memberTrees]
    rfl

theorem readValue_padded : ∀ {v : Value} {cs : List Char}, v.PaddedAs cs →
    ∃ behind, AreBlanks behind ∧ ∀ (stack : List Frame) (rest : List Char),
      stack.length + v.depth ≤ 127 → EndsNumber rest →
        readValue stack (cs ++ rest) = readAfter stack v.tree (behind ++ rest)
  | _, _, @Value.PaddedAs.mk _ _ _ behind hbefore h hbehind => by
    refine ⟨behind, hbehind, fun stack rest hd hr => ?_⟩
    rw [List.append_assoc, List.append_assoc]
    exact readValue_spelled h stack hd hbefore (endsNumber_blanks hbehind hr)

/-- The items behind the first one are put to their array. -/
theorem readAfter_items : ∀ {items : List Value} {cs : List Char}, ItemsSpelledAs items cs →
    ∀ (stack : List Frame) (done : List Tree) (t : Tree) {behind : List Char} (rest : List Char),
      AreBlanks behind → stack.length + itemsDepth items ≤ 126 →
      readAfter (.array done :: stack) t (behind ++ (cs ++ ']' :: rest)) =
        readAfter stack (.array (done.reverse ++ t :: itemTrees items) true) rest
  | _, _, .nil, stack, done, t, behind, rest, hb, hd => by
    rw [List.nil_append, readAfter_array_close (skipBlanks_append hb (by decide) rest), arrayTree,
      mayKeep_iff.2 (by omega), if_pos rfl, List.reverse_cons, itemTrees]
  | _, _, @ItemsSpelledAs.cons item items _ more hitem hitems, stack, done, t,
      behind, rest, hb, hd => by
    simp only [itemsDepth] at hd
    obtain ⟨behind', hbehind', hread⟩ := readValue_padded hitem
    have hfirst := hread (.array (t :: done) :: stack) (more ++ ']' :: rest)
      (by rw [List.length_cons]; omega) (endsNumber_items hitems rest)
    have hmore := readAfter_items hitems stack (t :: done) item.tree rest hbehind' (by omega)
    rw [List.cons_append, List.append_assoc,
      readAfter_array_comma (skipBlanks_append hb (by decide) _), hfirst, hmore, List.reverse_cons,
      List.append_assoc, itemTrees]
    rfl

theorem readMember_spelled : ∀ {member : String × Value} {cs : List Char},
    MemberSpelledAs member cs → ∃ behind, AreBlanks behind ∧
      ∀ (stack : List Frame) (done : List (Option String × Tree)) (rest : List Char),
        stack.length + member.2.depth ≤ 126 → EndsNumber rest →
          readMember stack done (cs ++ rest) =
            readAfter (.object done (some member.1) :: stack) member.2.tree (behind ++ rest)
  | _, _, @MemberSpelledAs.mk _ _ _ _ beforeColon cs hbefore hname hcolon hv => by
    obtain ⟨behind, hbehind, hread⟩ := readValue_padded hv
    refine ⟨behind, hbehind, fun stack done rest hd hr => ?_⟩
    obtain ⟨inner, rfl, htext⟩ := readText_of_spelled hname (beforeColon ++ ':' :: (cs ++ rest))
    simp only [List.append_assoc, List.cons_append]
    rw [readMember_eq (skipBlanks_append hbefore (by decide) _) htext
      (skipBlanks_append hcolon (by decide) _)]
    exact hread _ rest (by simp only [List.length_cons]; simp only [] at hd; omega) hr

/-- The members behind the first one are put to their object. -/
theorem readAfter_members : ∀ {members : List (String × Value)} {cs : List Char},
    MembersSpelledAs members cs →
    ∀ (stack : List Frame) (done : List (Option String × Tree)) (name : Option String) (t : Tree)
      {behind : List Char} (rest : List Char),
      AreBlanks behind → stack.length + membersDepth members ≤ 126 →
      readAfter (.object done name :: stack) t (behind ++ (cs ++ '\x7d' :: rest)) =
        readAfter stack (.object (done.reverse ++ (name, t) :: memberTrees members) true) rest
  | _, _, .nil, stack, done, name, t, behind, rest, hb, hd => by
    rw [List.nil_append, readAfter_object_close (skipBlanks_append hb (by decide) rest), objectTree,
      mayKeep_iff.2 (by omega), if_pos rfl, List.reverse_cons, memberTrees]
  | _, _, @MembersSpelledAs.cons (other, v) members _ more hmember hmembers, stack,
      done, name, t, behind, rest, hb, hd => by
    simp only [membersDepth] at hd
    obtain ⟨behind', hbehind', hread⟩ := readMember_spelled hmember
    have hfirst := hread stack ((name, t) :: done) (more ++ '\x7d' :: rest)
      (by simp only []; omega) (endsNumber_members hmembers rest)
    have hmore := readAfter_members hmembers stack ((name, t) :: done) (some other) v.tree rest
      hbehind' (by omega)
    rw [List.cons_append, List.append_assoc,
      readAfter_object_comma (skipBlanks_append hb (by decide) _), hfirst, hmore,
      List.reverse_cons, List.append_assoc, memberTrees]
    rfl

end

/-- A document is read as what it spells. -/
theorem read_padded (h : v.PaddedAs cs) (hd : v.depth ≤ 127) :
    ∃ behind, AreBlanks behind ∧ Tree.read cs = (v.tree, behind) := by
  obtain ⟨behind, hbehind, hread⟩ := readValue_padded h
  refine ⟨behind, hbehind, ?_⟩
  have hwhole := hread [] [] (by simpa using hd) trivial
  rwa [List.append_nil, List.append_nil, readAfter] at hwhole

end LoadTest.Json
