import LoadTest.Proofs.Script.Request

/-!
# Reading literals

A literal is read from its opening mark. A backslash gives a meaning to the character behind it, and
the first mark without a backslash ends the literal. What was written is what is read, and reading
stops where writing did, whatever follows (`readLiteral?_literal`). So nothing in an endpoint or in
the label of a check is taken for code (`readLiteral?_script`).
-/

namespace LoadTest.Script

/-! ## The reader -/

/-- What a backslash and this character stand for. -/
def unescape? (c : Char) : Option Char :=
  if c = 'n' then some '\n'
  else if c = 'r' then some '\r'
  else if c = '\\' ∨ c = '\'' then some c
  else none

/-- Reads on from inside a literal, behind a backslash or not, to behind the mark that ends it. -/
def readInside? : (escaped : Bool) → List Char → Option (List Char × List Char)
  | _, [] => none
  | true, c :: rest =>
    (unescape? c).bind fun d => (readInside? false rest).map (Prod.map (d :: ·) id)
  | false, c :: rest =>
    if c = '\'' then some ([], rest)
    else if c = '\\' then readInside? true rest
    else (readInside? false rest).map (Prod.map (c :: ·) id)

/-- The text of the literal at the front, and what stands behind it. -/
def readLiteral? : List Char → Option (String × List Char)
  | [] => none
  | c :: rest => if c = '\'' then (readInside? false rest).map (Prod.map String.ofList id) else none

/-! ## Reading what was written -/

theorem readInside?_backslash {c d : Char} (h : unescape? d = some c) (rest : List Char) :
    readInside? false ('\\' :: d :: rest) =
      (readInside? false rest).map (Prod.map (c :: ·) id) := by
  rw [readInside?, if_neg (by decide), if_pos rfl, readInside?, h, Option.bind_some]

theorem readInside?_escapedChars (c : Char) (rest : List Char) :
    readInside? false (escapedChars c ++ rest) =
      (readInside? false rest).map (Prod.map (c :: ·) id) := by
  unfold escapedChars
  split_ifs with hslash hmark hline hreturn
  · exact readInside?_backslash (by rw [hslash]; rfl) rest
  · exact readInside?_backslash (by rw [hmark]; rfl) rest
  · exact readInside?_backslash (by rw [hline]; rfl) rest
  · exact readInside?_backslash (by rw [hreturn]; rfl) rest
  · rw [List.singleton_append, readInside?, if_neg hmark, if_neg hslash]

theorem readInside?_flatMap (cs rest : List Char) :
    readInside? false (cs.flatMap escapedChars ++ '\'' :: rest) = some (cs, rest) := by
  induction cs with
  | nil => rfl
  | cons c cs ih =>
    rw [List.flatMap_cons, List.append_assoc, readInside?_escapedChars, ih]
    rfl

/-- A literal is read to its end and no further. -/
theorem readLiteral?_literal (s : String) (rest : List Char) :
    readLiteral? (literal s ++ rest) = some (s, rest) := by
  have hliteral : literal s ++ rest = '\'' :: (s.toList.flatMap escapedChars ++ '\'' :: rest) := by
    simp [literal]
  rw [hliteral, readLiteral?, if_pos rfl, readInside?_flatMap]
  exact congrArg (fun t => some (t, rest)) (String.ofList_toList)

/-! ## Literals in a script -/

theorem mem_fields_of_mem_endLines {c : TestConfig} {line : List Char} (h : line ∈ endLines c) :
    line ∈ fields '\n' c.script.toList := by
  obtain ⟨before, hbefore⟩ := chars_eq c
  have hscript : c.script.toList = before ++ '\n' :: ended (endLines c) := by
    rw [← hbefore]
    exact String.toList_ofList
  rw [hscript, fields_lines (lineFeed_notMem_endLines c)]
  exact List.mem_append_left _ (List.mem_append_right _ h)

theorem requestLine_mem_endLines (c : TestConfig) : requestLine c ∈ endLines c := by
  simp [endLines]

theorem labelLine_mem_endLines {c : TestConfig} {label : String} (h : label ∈ labels c.checks) :
    labelLine label ∈ endLines c := by
  have hmem : labelLine label ∈ (labels c.checks).map labelLine := List.mem_map_of_mem h
  simp only [endLines, List.mem_append, List.mem_cons]
  exact .inl (.inr (.inr (.inl hmem)))

/-- Every literal is read as its text, up to its last character, and is all on one line. So the line
of the request is read with the endpoint as its argument, and the line of a check with its label. -/
theorem readLiteral?_script :
    (∀ s rest, readLiteral? (literal s ++ rest) = some (s, rest)) ∧
      (∀ s, '\n' ∉ literal s ∧ '\r' ∉ literal s) ∧
      ∀ c : TestConfig,
        (∃ arguments,
          "  const res = http.".toList ++ (c.method.function.toList ++ '(' :: arguments) ∈
            fields '\n' c.script.toList ∧
          readLiteral? arguments = some (c.endpoint,
            if c.method.carriesBody then ", JSON.stringify(payload), \x7b".toList
            else ", \x7b".toList)) ∧
        ∀ label ∈ labels c.checks, ∃ check, "    ".toList ++ check ∈ fields '\n' c.script.toList ∧
          readLiteral? check = some (label, ": (r) => r.status === 200,".toList) := by
  refine ⟨readLiteral?_literal, fun s => ?_, fun c => ⟨?_, fun label hlabel => ?_⟩⟩
  · exact ⟨lineEnd_notMem_literal (.inl rfl) s, lineEnd_notMem_literal (.inr rfl) s⟩
  · exact ⟨_, mem_fields_of_mem_endLines (requestLine_mem_endLines c), readLiteral?_literal _ _⟩
  · exact ⟨_, mem_fields_of_mem_endLines (labelLine_mem_endLines hlabel), readLiteral?_literal _ _⟩

/-- A backslash at the end, and a mark behind a backslash. -/
example : readLiteral? (literal "\\'); hack('\\" ++ ", \x7b".toList) =
    some ("\\'); hack('\\", ", \x7b".toList) := by
  decide

end LoadTest.Script
