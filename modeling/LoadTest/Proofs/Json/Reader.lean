import LoadTest.Proofs.Json.Number

/-!
# What the reader does next

One lemma for each thing the reader can meet where the text goes on as JSON: what stands behind the
blanks decides, and the reader goes on behind it with the containers that are open then.
-/

namespace LoadTest.Json

/-! ## Blanks -/

theorem skipBlanks_append {blanks : List Char} (hb : ∀ c ∈ blanks, isBlank c = true) {c : Char}
    (hc : isBlank c = false) (rest : List Char) :
    skipBlanks (blanks ++ c :: rest) = c :: rest :=
  dropWhile_append_stops hb hc

theorem endsNumber_blanks {blanks rest : List Char} (hb : ∀ c ∈ blanks, isBlank c = true)
    (hr : EndsNumber rest) : EndsNumber (blanks ++ rest) := by
  cases blanks with
  | nil => exact hr
  | cons c cs =>
    have hblank : c = ' ' ∨ c = '\t' ∨ c = '\n' ∨ c = '\r' := by
      simpa [isBlank, or_assoc] using hb c List.mem_cons_self
    rcases hblank with rfl | rfl | rfl | rfl <;> exact ⟨by decide, by decide, by decide, by decide⟩

theorem isWhite_of_isBlank {c : Char} (h : isBlank c = true) : isWhite c = true := by
  have hblank : c = ' ' ∨ c = '\t' ∨ c = '\n' ∨ c = '\r' := by simpa [isBlank, or_assoc] using h
  rcases hblank with rfl | rfl | rfl | rfl <;> decide

/-! ## Steps of the reader -/

section Steps

variable {stack : List Frame} {cs rest next : List Char}

theorem readValue_null (h : skipBlanks cs = 'n' :: 'u' :: 'l' :: 'l' :: next) :
    readValue stack cs = readAfter stack .null next := by
  rw [readValue]
  split <;> simp_all

theorem readValue_true (h : skipBlanks cs = 't' :: 'r' :: 'u' :: 'e' :: next) :
    readValue stack cs = readAfter stack (.bool true) next := by
  rw [readValue]
  split <;> simp_all

theorem readValue_false (h : skipBlanks cs = 'f' :: 'a' :: 'l' :: 's' :: 'e' :: next) :
    readValue stack cs = readAfter stack (.bool false) next := by
  rw [readValue]
  split <;> simp_all

theorem readValue_text {s : Option String} (h : skipBlanks cs = '"' :: rest)
    (hs : readText .empty rest = some (s, next)) :
    readValue stack cs = readAfter stack (.text s) next := by
  rw [readValue]
  split <;> simp_all
  split <;> simp_all

/-- Only a sign or a digit starts a number. -/
theorem readNumber_cons_eq_none {c : Char} (hsign : c ≠ '-') (hdigit : c.isDigit = false)
    (cs : List Char) : readNumber (c :: cs) = none := by
  unfold readNumber
  split
  · simp_all
  · simp [readUnsigned, hdigit]

theorem exists_cons_of_readNumber {found : Option Number × List Char}
    (h : readNumber cs = some found) : ∃ c more, cs = c :: more ∧ (c = '-' ∨ c.isDigit = true) := by
  rcases cs with _ | ⟨c, more⟩
  · cases h
  · refine ⟨c, more, rfl, ?_⟩
    by_contra hc
    rw [not_or, Bool.not_eq_true] at hc
    rw [readNumber_cons_eq_none hc.1 hc.2] at h
    cases h

theorem readValue_number {n : Option Number} (h : readNumber (skipBlanks cs) = some (n, next)) :
    readValue stack cs = readAfter stack (.number n) next := by
  obtain ⟨c, more, hcs, hc⟩ := exists_cons_of_readNumber h
  rw [readValue]
  split
  case h_7 => split <;> simp_all
  all_goals
    rename_i hother
    obtain ⟨rfl, -⟩ := List.cons.inj (hcs.symm.trans hother)
    exact absurd hc (by decide)

theorem readValue_array_nil (h : skipBlanks cs = '[' :: rest) (hr : skipBlanks rest = ']' :: next) :
    readValue stack cs = readAfter stack (arrayTree stack [] true) next := by
  rw [readValue]
  split <;> simp_all
  split <;> simp_all

theorem readValue_array (h : skipBlanks cs = '[' :: rest)
    (hr : ∀ next, skipBlanks rest ≠ ']' :: next) :
    readValue stack cs = readValue (.array [] :: stack) rest := by
  rw [readValue]
  split <;> simp_all

theorem readValue_object_nil (h : skipBlanks cs = '\x7b' :: rest)
    (hr : skipBlanks rest = '\x7d' :: next) :
    readValue stack cs = readAfter stack (objectTree stack [] true) next := by
  rw [readValue]
  split <;> simp_all
  split <;> simp_all

theorem readValue_object (h : skipBlanks cs = '\x7b' :: rest)
    (hr : ∀ next, skipBlanks rest ≠ '\x7d' :: next) :
    readValue stack cs = readMember stack [] rest := by
  rw [readValue]
  split <;> simp_all

theorem readMember_eq {members : List (Option String × Tree)} {name : Option String}
    {after : List Char} (h : skipBlanks cs = '"' :: rest)
    (hn : readText .empty rest = some (name, after)) (hc : skipBlanks after = ':' :: next) :
    readMember stack members cs = readValue (.object members name :: stack) next := by
  rw [readMember]
  split <;> simp_all
  split <;> simp_all
  split <;> simp_all

theorem readAfter_array_comma {items : List Tree} {t : Tree} (h : skipBlanks cs = ',' :: next) :
    readAfter (.array items :: stack) t cs = readValue (.array (t :: items) :: stack) next := by
  rw [readAfter]
  split <;> simp_all

theorem readAfter_array_close {items : List Tree} {t : Tree} (h : skipBlanks cs = ']' :: next) :
    readAfter (.array items :: stack) t cs =
      readAfter stack (arrayTree stack (t :: items) true) next := by
  rw [readAfter]
  split <;> simp_all

theorem readAfter_object_comma {members : List (Option String × Tree)} {name : Option String}
    {t : Tree} (h : skipBlanks cs = ',' :: next) :
    readAfter (.object members name :: stack) t cs =
      readMember stack ((name, t) :: members) next := by
  rw [readAfter]
  split <;> simp_all

theorem readAfter_object_close {members : List (Option String × Tree)} {name : Option String}
    {t : Tree} (h : skipBlanks cs = '\x7d' :: next) :
    readAfter (.object members name :: stack) t cs =
      readAfter stack (objectTree stack ((name, t) :: members) true) next := by
  rw [readAfter]
  split <;> simp_all

end Steps

theorem mayKeep_iff {stack : List Frame} : mayKeep stack = true ↔ stack.length ≤ 126 := by
  simp [mayKeep]

end LoadTest.Json
