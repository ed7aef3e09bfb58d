import LoadTest.Script.Literal
import Mathlib.Tactic.SplitIfs

/-!
# Literals apart

A text in a script ends at the first quotation mark that is not escaped, so a literal is told from
any other before it ends, whatever follows (`literal_append_inj`). It is all on one line.
-/

namespace LoadTest.Script

theorem escapedChars_append_ne (c : Char) (rest more : List Char) :
    escapedChars c ++ rest ≠ '\'' :: more := by
  unfold escapedChars
  split_ifs <;> simp_all

theorem escapedChars_append_inj {c d : Char} {rest more : List Char}
    (h : escapedChars c ++ rest = escapedChars d ++ more) : c = d ∧ rest = more := by
  unfold escapedChars at h
  split_ifs at h <;> grind

theorem flatMap_escapedChars_inj {cs ds rest more : List Char}
    (h : cs.flatMap escapedChars ++ '\'' :: rest = ds.flatMap escapedChars ++ '\'' :: more) :
    cs = ds ∧ rest = more := by
  induction cs generalizing ds with
  | nil =>
    cases ds with
    | nil => exact ⟨rfl, (List.cons.inj h).2⟩
    | cons d ds =>
      rw [List.flatMap_cons, List.append_assoc] at h
      exact absurd h.symm (escapedChars_append_ne d _ _)
  | cons c cs ih =>
    cases ds with
    | nil =>
      rw [List.flatMap_cons, List.append_assoc] at h
      exact absurd h (escapedChars_append_ne c _ _)
    | cons d ds =>
      rw [List.flatMap_cons, List.flatMap_cons, List.append_assoc, List.append_assoc] at h
      obtain ⟨rfl, hrest⟩ := escapedChars_append_inj h
      obtain ⟨rfl, hmore⟩ := ih hrest
      exact ⟨rfl, hmore⟩

/-- A literal determines its text and what follows it. -/
theorem literal_append_inj {s t : String} {rest more : List Char}
    (h : literal s ++ rest = literal t ++ more) : s = t ∧ rest = more := by
  simp only [literal, List.cons_append, List.append_assoc, List.nil_append] at h
  obtain ⟨hs, hrest⟩ := flatMap_escapedChars_inj (List.cons.inj h).2
  exact ⟨String.toList_inj.1 hs, hrest⟩

theorem lineEnd_notMem_literal {lineEnd : Char} (h : lineEnd = '\n' ∨ lineEnd = '\r')
    (s : String) : lineEnd ∉ literal s := by
  have hescaped : ∀ c, lineEnd ∉ escapedChars c := by
    intro c
    unfold escapedChars
    split_ifs with hslash hmark hline hreturn
    any_goals rcases h with rfl | rfl <;> decide
    rw [List.mem_singleton]
    rintro rfl
    exact h.elim hline hreturn
  have hmark : lineEnd ≠ '\'' := by
    rcases h with rfl | rfl <;> decide
  simp only [literal, List.mem_cons, List.mem_append, List.mem_flatMap, not_or]
  exact ⟨hmark, fun ⟨c, _, hc⟩ => hescaped c hc, hmark, by simp⟩

theorem lineFeed_notMem_literal (s : String) : '\n' ∉ literal s :=
  lineEnd_notMem_literal (.inl rfl) s

end LoadTest.Script
