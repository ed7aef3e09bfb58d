import LoadTest.Proofs.Json.RoundTrip
import LoadTest.Proofs.Text.Between
import LoadTest.Proofs.Text.Lines

/-!
# Documents over several lines

A spread document that is moved to the right, all but its first line, is the document in a layout of
its own (`indentRest_chars`): a line end stands in a document only where the layout puts one, never
inside a text, so the margin gets into no text. Behind the line ends and the blanks that follow them
every line starts with a part of the document (`isLaidOut_chars`), so that marks with other lines
are found behind it (`cutAt?_chars_append`).
-/

namespace LoadTest.Json

/-- As spread, but behind the first line everything stands further in. -/
def Layout.moved (margin : ℕ) : Layout :=
  ⟨fun depth => '\n' :: List.replicate (margin + 2 * depth) ' ', [' ']⟩

theorem moved_zero : Layout.moved 0 = .spread := by
  simp only [Layout.moved, Layout.spread, Nat.zero_add]

theorem isBlank_moved (margin : ℕ) : (Layout.moved margin).IsBlank where
  newline depth c hc := by
    simp only [Layout.moved, List.mem_cons, List.mem_replicate] at hc
    rcases hc with rfl | ⟨-, rfl⟩ <;> decide
  afterColon c hc := by
    rw [List.mem_singleton.1 hc]
    decide

/-! ## How the lines start -/

/-- The first character of a value, or what closes a container. -/
def startsPart (c : Char) : Bool :=
  c.isDigit || "\"-[]\x7b\x7dntf".toList.contains c

theorem startsWith_replicate {p : Char → Bool} (k : ℕ) (cs : List Char) :
    startsWith p (List.replicate k ' ' ++ cs) = startsWith p cs := by
  unfold startsWith
  rw [List.find?_append, List.find?_eq_none.2 (by simp), Option.none_or]

theorem startsWith_cons {c : Char} (h : startsPart c = true) (cs : List Char) :
    startsWith startsPart (c :: cs) = true := by
  have hspace : c ≠ ' ' := ne_of_class h (by decide)
  simp [startsWith, hspace, h]

/-- Every line but the first starts with a part of the document, and all lines end alike. -/
structure IsLaidOut (cs : List Char) : Prop where
  starts : linesStart startsPart cs = true
  carriageReturn : '\r' ∉ cs

section LaidOut

variable {cs ds : List Char} (margin : ℕ)

theorem isLaidOut_line (h : ∀ c ∈ cs, 32 ≤ c.toNat) : IsLaidOut cs where
  starts := linesStart_of_notMem fun hmem => absurd (h _ hmem) (by decide)
  carriageReturn hmem := absurd (h _ hmem) (by decide)

theorem IsLaidOut.append (hcs : IsLaidOut cs) (hds : IsLaidOut ds) : IsLaidOut (cs ++ ds) where
  starts := linesStart_append hcs.starts hds.starts
  carriageReturn := by simp [hcs.carriageReturn, hds.carriageReturn]

theorem IsLaidOut.newline (depth : ℕ) (hcs : IsLaidOut cs)
    (hstart : startsWith startsPart cs = true) :
    IsLaidOut ((Layout.moved margin).newline depth ++ cs) where
  starts := by
    have hblanks : linesStart startsPart (List.replicate (margin + 2 * depth) ' ' ++ cs) = true :=
      linesStart_append (linesStart_of_notMem (by simp)) hcs.starts
    rw [Layout.moved, List.cons_append, linesStart, hblanks, startsWith_replicate, hstart]
    rfl
  carriageReturn := by simp [Layout.moved, hcs.carriageReturn]

theorem IsLaidOut.cons {c : Char} (hc : 32 ≤ c.toNat) (hcs : IsLaidOut cs) : IsLaidOut (c :: cs) :=
  (isLaidOut_line (by simpa using hc) : IsLaidOut [c]).append hcs

/-- What closes a container stands on a line of its own. -/
theorem isLaidOut_close (depth : ℕ) {c : Char} (hc : 32 ≤ c.toNat) (hstart : startsPart c = true) :
    IsLaidOut ((Layout.moved margin).newline depth ++ [c]) :=
  (isLaidOut_line (by simpa using hc)).newline margin depth (startsWith_cons hstart [])

theorem isLaidOut_name (depth : ℕ) (name : String) :
    IsLaidOut ((Layout.moved margin).newline depth ++ quotedChars name ++
      ':' :: (Layout.moved margin).afterColon) :=
  ((isLaidOut_line (le_toNat_quotedChars name)).newline margin depth
    (startsWith_cons (by decide) _)).append (isLaidOut_line (by decide) : IsLaidOut [':', ' '])

theorem startsWith_chars (layout : Layout) (depth : ℕ) (v : Value) :
    startsWith startsPart (v.chars layout depth) = true := by
  rcases v with _ | (_ | _) | n | s | (_ | _) | (_ | ⟨_, _⟩)
  case number =>
    obtain ⟨c, cs, hn, hc⟩ := numberChars_cons n
    rw [Value.chars, hn]
    refine startsWith_cons ?_ cs
    rcases hc with rfl | hc
    · decide
    · simp [startsPart, hc]
  all_goals
    unfold Value.chars
    exact startsWith_cons (by decide) _

mutual

theorem isLaidOut_chars : ∀ (v : Value) (depth : ℕ), IsLaidOut (v.chars (.moved margin) depth)
  | .null, _ => by
    rw [Value.chars]
    exact isLaidOut_line (by decide)
  | .bool true, _ => by
    rw [Value.chars]
    exact isLaidOut_line (by decide)
  | .bool false, _ => by
    rw [Value.chars]
    exact isLaidOut_line (by decide)
  | .number n, _ => by
    rw [Value.chars]
    exact isLaidOut_line (le_toNat_numberChars n)
  | .text s, _ => by
    rw [Value.chars]
    exact isLaidOut_line (le_toNat_quotedChars s)
  | .array [], _ => by
    rw [Value.chars]
    exact isLaidOut_line (by decide)
  | .array (item :: items), depth => by
    have hitem := (isLaidOut_chars item (depth + 1)).newline margin (depth + 1)
      (startsWith_chars _ _ item)
    have hitems := isLaidOut_itemsChars items (depth + 1)
    rw [Value.chars, List.append_assoc]
    exact .cons (by decide) ((hitem.append hitems).append
      (isLaidOut_close margin depth (by decide) (by decide)))
  | .object [], _ => by
    rw [Value.chars]
    exact isLaidOut_line (by decide)
  | .object ((name, v) :: members), depth => by
    have hvalue := (isLaidOut_name margin (depth + 1) name).append
      (isLaidOut_chars v (depth + 1))
    have hmembers := isLaidOut_membersChars members (depth + 1)
    rw [Value.chars, List.append_assoc]
    exact .cons (by decide) ((hvalue.append hmembers).append
      (isLaidOut_close margin depth (by decide) (by decide)))

theorem isLaidOut_itemsChars : ∀ (items : List Value) (depth : ℕ),
    IsLaidOut (itemsChars (.moved margin) depth items)
  | [], _ => by
    rw [itemsChars]
    exact isLaidOut_line (by decide)
  | item :: items, depth => by
    have hitem := (isLaidOut_chars item depth).newline margin depth
      (startsWith_chars _ _ item)
    rw [itemsChars]
    exact .cons (by decide) (hitem.append (isLaidOut_itemsChars items depth))

theorem isLaidOut_membersChars : ∀ (members : List (String × Value)) (depth : ℕ),
    IsLaidOut (membersChars (.moved margin) depth members)
  | [], _ => by
    rw [membersChars]
    exact isLaidOut_line (by decide)
  | (name, v) :: members, depth => by
    have hvalue := (isLaidOut_name margin depth name).append (isLaidOut_chars v depth)
    rw [membersChars]
    exact .cons (by decide) (hvalue.append (isLaidOut_membersChars members depth))

end

end LaidOut

/-! ## Moving to the right -/

section Moving

variable {margin : ℕ}

theorem shifted_newline (depth : ℕ) :
    (Layout.spread.newline depth).flatMap (shifted (List.replicate margin ' ')) =
      (Layout.moved margin).newline depth := by
  have hblanks : '\n' ∉ List.replicate (2 * depth) ' ' := by simp
  simp only [Layout.spread, Layout.moved, List.flatMap_cons, flatMap_shifted_of_notMem hblanks,
    List.replicate_add, shifted, if_true, List.cons_append]

theorem shifted_of_line {cs : List Char} (h : ∀ c ∈ cs, 32 ≤ c.toNat) :
    cs.flatMap (shifted (List.replicate margin ' ')) = cs :=
  flatMap_shifted_of_notMem fun hmem => absurd (h _ hmem) (by decide)

mutual

theorem shifted_chars : ∀ (v : Value) (depth : ℕ),
    (v.chars .spread depth).flatMap (shifted (List.replicate margin ' ')) =
      v.chars (.moved margin) depth
  | .null, _ => by
    rw [Value.chars, Value.chars, shifted_of_line (by decide)]
  | .bool true, _ => by
    rw [Value.chars, Value.chars, shifted_of_line (by decide)]
  | .bool false, _ => by
    rw [Value.chars, Value.chars, shifted_of_line (by decide)]
  | .number n, _ => by
    rw [Value.chars, Value.chars, shifted_of_line (le_toNat_numberChars n)]
  | .text s, _ => by
    rw [Value.chars, Value.chars, shifted_of_line (le_toNat_quotedChars s)]
  | .array [], _ => by
    rw [Value.chars, Value.chars, shifted_of_line (by decide)]
  | .array (item :: items), depth => by
    simp only [Value.chars, List.flatMap_cons, List.flatMap_append, shifted_newline,
      shifted_chars item (depth + 1), shifted_itemsChars items (depth + 1)]
    rfl
  | .object [], _ => by
    rw [Value.chars, Value.chars, shifted_of_line (by decide)]
  | .object ((name, v) :: members), depth => by
    simp only [Value.chars, List.flatMap_cons, List.flatMap_append, shifted_newline,
      shifted_of_line (le_toNat_quotedChars name), shifted_chars v (depth + 1),
      shifted_membersChars members (depth + 1)]
    rfl

theorem shifted_itemsChars : ∀ (items : List Value) (depth : ℕ),
    (itemsChars .spread depth items).flatMap (shifted (List.replicate margin ' ')) =
      itemsChars (.moved margin) depth items
  | [], _ => by
    rw [itemsChars, itemsChars, List.flatMap_nil]
  | item :: items, depth => by
    simp only [itemsChars, List.flatMap_cons, List.flatMap_append, shifted_newline,
      shifted_chars item depth, shifted_itemsChars items depth]
    rfl

theorem shifted_membersChars : ∀ (members : List (String × Value)) (depth : ℕ),
    (membersChars .spread depth members).flatMap (shifted (List.replicate margin ' ')) =
      membersChars (.moved margin) depth members
  | [], _ => by
    rw [membersChars, membersChars, List.flatMap_nil]
  | (name, v) :: members, depth => by
    simp only [membersChars, List.flatMap_cons, List.flatMap_append, shifted_newline,
      shifted_of_line (le_toNat_quotedChars name), shifted_chars v depth,
      shifted_membersChars members depth]
    rfl

end

theorem isLaidOut_spread (v : Value) (depth : ℕ) : IsLaidOut (v.chars .spread depth) := by
  rw [← moved_zero]
  exact isLaidOut_chars 0 v depth

theorem indentRest_chars (v : Value) (depth : ℕ) :
    indentRest (List.replicate margin ' ') (v.chars .spread depth) =
      v.chars (.moved margin) depth := by
  have hlaid := isLaidOut_spread v depth
  rw [indentRest_eq_flatMap _ hlaid.carriageReturn (getLast?_of_linesStart hlaid.starts),
    shifted_chars]

variable (margin) in
/-- No line of a document is empty, so a mark that goes over an empty line is first found where it
was put behind the document. -/
theorem cutAt?_chars_append (v : Value) (depth : ℕ) (next behind : List Char) :
    cutAt? (";\n\n".toList ++ next)
        (v.chars (.moved margin) depth ++ (";\n\n".toList ++ next ++ behind)) =
      some (v.chars (.moved margin) depth, behind) := by
  have hstarts : linesStart (· != '\n') (v.chars (.moved margin) depth ++ [';']) = true :=
    linesStart_append (linesStart_ne (by decide) (isLaidOut_chars margin v depth).starts) rfl
  have hnext : ('\n' :: next).find? (· != ' ') = some '\n' := rfl
  exact cutAt?_of_linesStart (by decide) hnext (by decide) hstarts

end Moving

end LoadTest.Json
