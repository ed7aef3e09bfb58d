import LoadTest.Proofs.Json.Text
import LoadTest.Proofs.Text.Lines
import LoadTest.Script.Basic

/-!
# Headers in a script

Headers that are not empty stand on lines of their own, one for each entry (`headersChars_eq`), and
these lines determine the entries and their order (`entryLines_inj`).
-/

namespace LoadTest.Script

open Json (Layout quotedChars)

/-- An entry as it stands on its line. -/
def entryChars (entry : String × String) : List Char :=
  quotedChars entry.1 ++ ':' :: ' ' :: quotedChars entry.2

/-- The entries on lines that start with a margin, all but the last with a comma behind. -/
def entryLines (margin : List Char) : List (String × String) → List (List Char)
  | [] => []
  | [entry] => [margin ++ entryChars entry]
  | entry :: rest => (margin ++ (entryChars entry ++ [','])) :: entryLines margin rest

theorem entryChars_append_inj {e f : String × String} {rest more : List Char}
    (h : entryChars e ++ rest = entryChars f ++ more) : e = f ∧ rest = more := by
  simp only [entryChars, List.append_assoc, List.cons_append] at h
  obtain ⟨hname, hbehind⟩ := Json.quotedChars_append_inj h
  obtain ⟨hvalue, hrest⟩ := Json.quotedChars_append_inj (List.cons.inj (List.cons.inj hbehind).2).2
  exact ⟨Prod.ext hname hvalue, hrest⟩

theorem entryLines_cons_cons (margin : List Char) (entry next : String × String)
    (rest : List (String × String)) :
    entryLines margin (entry :: next :: rest) =
      (margin ++ (entryChars entry ++ [','])) :: entryLines margin (next :: rest) := rfl

theorem entryLines_inj {margin : List Char} : ∀ {es fs : List (String × String)},
    entryLines margin es = entryLines margin fs → es = fs
  | [], [], _ => rfl
  | [], [_], h => by simp [entryLines] at h
  | [], _ :: _ :: _, h => by simp [entryLines] at h
  | [_], [], h => by simp [entryLines] at h
  | _ :: _ :: _, [], h => by simp [entryLines] at h
  | [e], [f], h => by
    have hline := List.append_cancel_left (List.cons.inj h).1
    have hchars : entryChars e ++ [] = entryChars f ++ [] := by rw [hline]
    rw [(entryChars_append_inj hchars).1]
  | [e], f :: g :: fs, h => by
    rw [entryLines_cons_cons] at h
    have hnil := (List.cons.inj h).2
    cases fs <;> simp [entryLines] at hnil
  | e :: e' :: es, [f], h => by
    rw [entryLines_cons_cons] at h
    have hnil := (List.cons.inj h).2
    cases es <;> simp [entryLines] at hnil
  | e :: e' :: es, f :: f' :: fs, h => by
    rw [entryLines_cons_cons, entryLines_cons_cons] at h
    obtain ⟨hline, hrest⟩ := List.cons.inj h
    rw [(entryChars_append_inj (List.append_cancel_left hline)).1, entryLines_inj hrest]

theorem entryLines_append_margin (outer inner : List Char) :
    ∀ es, (entryLines inner es).map (outer ++ ·) = entryLines (outer ++ inner) es
  | [] => rfl
  | [entry] => by simp [entryLines]
  | entry :: next :: rest => by
    rw [entryLines_cons_cons, entryLines_cons_cons, List.map_cons,
      entryLines_append_margin outer inner (next :: rest), List.append_assoc]

/-! ## Lines of the document -/

theorem mem_entryLines {margin line : List Char} : ∀ {es : List (String × String)},
    line ∈ entryLines margin es → ∃ e ∈ es, ∃ ending, (ending = [] ∨ ending = [',']) ∧
      line = margin ++ (entryChars e ++ ending)
  | [entry], h => by
    simp only [entryLines, List.mem_singleton] at h
    exact ⟨entry, List.mem_cons_self, [], .inl rfl, by rw [h, List.append_nil]⟩
  | entry :: next :: rest, h => by
    rw [entryLines_cons_cons] at h
    rcases List.mem_cons.1 h with h | h
    · exact ⟨entry, List.mem_cons_self, [','], .inr rfl, h⟩
    · obtain ⟨e, he, hline⟩ := mem_entryLines h
      exact ⟨e, List.mem_cons_of_mem _ he, hline⟩

theorem lineFeed_notMem_entryChars (entry : String × String) : '\n' ∉ entryChars entry := by
  simp only [entryChars, List.mem_append, List.mem_cons, not_or]
  exact ⟨Json.lineFeed_notMem_quotedChars _, by decide, by decide,
    Json.lineFeed_notMem_quotedChars _⟩

theorem isLine_entryLines {margin line : List Char} {es : List (String × String)}
    (hmargin : '\n' ∉ margin) (h : line ∈ entryLines margin es) : IsLine line := by
  obtain ⟨entry, -, ending, hending, rfl⟩ := mem_entryLines h
  refine ⟨by simp [entryChars, quotedChars], ?_, ?_⟩
  · simp only [List.mem_append, not_or]
    refine ⟨hmargin, lineFeed_notMem_entryChars entry, ?_⟩
    rcases hending with rfl | rfl <;> decide
  · obtain ⟨front, hfront⟩ : ∃ front, entryChars entry = front ++ ['"'] :=
      ⟨quotedChars entry.1 ++ ':' :: ' ' :: '"' :: entry.2.toList.flatMap Json.escapedChars, by
        simp [entryChars, quotedChars]⟩
    rcases hending with rfl | rfl <;> simp [hfront, List.getLast?_append]

/-- An object of texts, spread over lines. -/
theorem membersChars_texts (name value : String) (rest : List (String × String)) :
    Layout.spread.newline 1 ++ quotedChars name ++ ':' :: Layout.spread.afterColon ++
        (Json.Value.text value).chars .spread 1 ++
        Json.membersChars .spread 1 (rest.map fun entry => (entry.1, .text entry.2)) =
      joined (entryLines "  ".toList ((name, value) :: rest)) := by
  induction rest generalizing name value with
  | nil =>
    simp [Layout.spread, Json.Value.chars, Json.membersChars, entryLines, joined, entryChars]
  | cons entry rest ih =>
    rw [entryLines_cons_cons, joined, List.flatMap_cons]
    have hrest := ih entry.1 entry.2
    rw [joined] at hrest
    rw [← hrest]
    simp [Layout.spread, Json.Value.chars, Json.membersChars, entryChars]

theorem headersChars_eq {headers : Headers} (h : headers.isEmpty = false) :
    headersChars headers =
      '\x7b' :: joined (entryLines "      ".toList headers.entries ++ ["    \x7d".toList]) := by
  obtain ⟨_ | ⟨⟨name, value⟩, rest⟩, hdistinct⟩ := headers
  · cases h
  have hdocument : (Headers.toJson ⟨(name, value) :: rest, hdistinct⟩).chars .spread 0 =
      ['\x7b'] ++ joined (entryLines "  ".toList ((name, value) :: rest) ++ [['\x7d']]) := by
    rw [Headers.toJson, List.map_cons, Json.Value.chars, membersChars_texts]
    simp [joined, Layout.spread]
  have hopen : IsLine ['\x7b'] := ⟨by decide, by decide, by decide⟩
  have hlines : ∀ line ∈ entryLines "  ".toList ((name, value) :: rest) ++ [['\x7d']],
      IsLine line := by
    intro line hline
    rcases List.mem_append.1 hline with hline | hline
    · exact isLine_entryLines (by decide) hline
    · rw [List.mem_singleton.1 hline]
      exact ⟨by decide, by decide, by decide⟩
  rw [headersChars, h, hdocument]
  simp only [Bool.false_eq_true, if_false]
  rw [indentRest_joined hopen hlines, List.map_append, entryLines_append_margin]
  rfl

end LoadTest.Script
