import LoadTest.Text.Digit
import LoadTest.Text.White
import Mathlib.Data.List.TakeWhile

/-!
# White space around a text

A text is what is left of it when it is trimmed, between two runs of white space
(`exists_append_trimChars`). What is left neither starts nor ends with white space
(`not_isWhite_head`, `not_isWhite_last`). Nothing is left of white space alone (`isEmpty_trimmed`),
and nothing is taken from a text that neither starts nor ends with any
(`trimChars_eq_self_of_ends`). White space before and behind a text does not matter
(`trimChars_white_append`, `trimChars_append_white`).

Digits of any script are no white space, since the two tables lie apart.
-/

namespace LoadTest

/-! ## Classes of characters -/

/-- Ranges that lie apart have no character in common. -/
theorem CharRanges.contains_eq_false {ranges others : CharRanges} {c : Char}
    (hapart : ∀ r ∈ ranges, ∀ s ∈ others, r.2 < s.1 ∨ s.2 < r.1) (h : ranges.contains c = true) :
    others.contains c = false := by
  rw [Bool.eq_false_iff]
  intro hother
  simp only [contains, List.any_eq_true, Bool.and_eq_true, decide_eq_true_eq] at h hother
  obtain ⟨r, hr, hrc⟩ := h
  obtain ⟨s, hs, hsc⟩ := hother
  have := hapart r hr s hs
  omega

theorem not_isWhite_of_ascii {c : Char} (hlow : 32 < c.toNat) (hhigh : c.toNat < 127) :
    isWhite c = false := by
  have hvisible : CharRanges.contains [(33, 126)] c = true := by
    simp only [CharRanges.contains, List.any_cons, List.any_nil, Bool.or_false, Bool.and_eq_true,
      decide_eq_true_eq]
    omega
  exact CharRanges.contains_eq_false (by decide) hvisible

theorem toNat_of_isDigit {c : Char} (h : c.isDigit = true) : 48 ≤ c.toNat ∧ c.toNat ≤ 57 := by
  simpa [Char.isDigit, UInt32.le_iff_toNat_le] using h

theorem not_isWhite_of_isDigit {c : Char} (h : c.isDigit = true) : isWhite c = false := by
  have hbounds := toNat_of_isDigit h
  exact not_isWhite_of_ascii (by omega) (by omega)

theorem not_isWhite_of_isScriptDigit {c : Char} (h : isScriptDigit c = true) :
    isWhite c = false := by
  rcases Bool.or_eq_true_iff.1 h with h | h
  · exact not_isWhite_of_isDigit h
  · exact CharRanges.contains_eq_false (by decide) h

/-! ## Trimming -/

variable {cs : List Char}

theorem exists_append_trimChars (cs : List Char) : ∃ before behind,
    (∀ c ∈ before, isWhite c = true) ∧ (∀ c ∈ behind, isWhite c = true) ∧
      cs = before ++ (trimChars cs ++ behind) := by
  refine ⟨cs.takeWhile isWhite, ((cs.dropWhile isWhite).reverse.takeWhile isWhite).reverse,
    fun _ => List.mem_takeWhile_imp, ?_, ?_⟩
  · exact fun c hc => List.mem_takeWhile_imp (List.mem_reverse.1 hc)
  · rw [trimChars, ← List.reverse_append, List.takeWhile_append_dropWhile, List.reverse_reverse,
      List.takeWhile_append_dropWhile]

theorem trimChars_eq_nil_iff : trimChars cs = [] ↔ ∀ c ∈ cs, isWhite c = true := by
  constructor
  · intro h
    obtain ⟨before, behind, hbefore, hbehind, hcs⟩ := exists_append_trimChars cs
    rw [h, List.nil_append] at hcs
    rw [hcs]
    intro c hc
    exact (List.mem_append.1 hc).elim (hbefore c) (hbehind c)
  · intro h
    rw [trimChars, List.dropWhile_eq_nil_iff.2 h]
    rfl

theorem trimChars_eq_self_of_ends (hhead : ∀ c ∈ cs.head?, isWhite c = false)
    (hlast : ∀ c ∈ cs.getLast?, isWhite c = false) : trimChars cs = cs := by
  have hkeep : ∀ ds : List Char, (∀ c ∈ ds.head?, isWhite c = false) →
      ds.dropWhile isWhite = ds := by
    intro ds hds
    cases ds with
    | nil => rfl
    | cons d ds => rw [List.dropWhile_cons_of_neg (by simp [hds d rfl])]
  rw [trimChars, hkeep cs hhead, hkeep cs.reverse (by simpa using hlast), List.reverse_reverse]

theorem trimChars_eq_self (h : ∀ c ∈ cs, isWhite c = false) : trimChars cs = cs :=
  trimChars_eq_self_of_ends (fun c hc => h c (List.mem_of_mem_head? hc))
    fun c hc => h c (List.mem_of_mem_getLast? hc)

theorem trimChars_white_append {before : List Char} (h : ∀ c ∈ before, isWhite c = true) :
    trimChars (before ++ cs) = trimChars cs := by
  rw [trimChars, List.dropWhile_append_of_pos h, trimChars]

theorem trimChars_append_white {behind : List Char} (h : ∀ c ∈ behind, isWhite c = true) :
    trimChars (cs ++ behind) = trimChars cs := by
  rw [trimChars, List.dropWhile_append]
  split_ifs with hcs
  · rw [List.dropWhile_eq_nil_iff.2 h, trimChars, List.isEmpty_iff.1 hcs]
  · rw [List.reverse_append, List.dropWhile_append_of_pos (by simpa using h), trimChars]

theorem not_isWhite_head {c : Char} (h : (trimChars cs).head? = some c) : isWhite c = false := by
  have hfront : trimChars cs <+: cs.dropWhile isWhite := by
    simpa [trimChars] using List.reverse_prefix.2
      (List.dropWhile_suffix (l := (cs.dropWhile isWhite).reverse) isWhite)
  obtain ⟨rest, hrest⟩ := hfront
  have hhead : (cs.dropWhile isWhite).head? = some c := by
    rw [← hrest, List.head?_append, h, Option.some_or]
  have hdrop := List.head?_dropWhile_not isWhite cs
  rwa [hhead] at hdrop

theorem not_isWhite_last {c : Char} (h : (trimChars cs).getLast? = some c) :
    isWhite c = false := by
  rw [trimChars, List.getLast?_reverse] at h
  have hdrop := List.head?_dropWhile_not isWhite (cs.dropWhile isWhite).reverse
  rwa [h] at hdrop

theorem isEmpty_trimmed (s : String) : (trimmed s).isEmpty = isWhiteText s := by
  have hchars : (trimmed s).isEmpty = true ↔ trimChars s.toList = [] := by
    simp [trimmed]
  rw [Bool.eq_iff_iff, hchars, trimChars_eq_nil_iff, isWhiteText, List.all_eq_true]

end LoadTest
