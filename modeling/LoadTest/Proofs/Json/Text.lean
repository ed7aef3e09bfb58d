import LoadTest.Json.Reader
import LoadTest.Json.Writer
import Mathlib.Data.Nat.Notation
import Mathlib.Tactic.SplitIfs

/-!
# Texts in documents read back

Every character goes through its escape and comes back as itself (`readText_escapedChars`), so what
stands between the quotation marks is the text again, whatever follows it (`readText_flatMap`). A
quoted text is therefore told from any other before it ends (`quotedChars_append_inj`), and it is
all on one line.
-/

namespace LoadTest.Json

theorem hexValue?_hexDigit : ∀ n < 16, hexValue? (hexDigit n) = some n := by
  decide

theorem unit?_hexDigits {n : ℕ} (hn : n < 32) :
    unit? '0' '0' (hexDigit (n / 16)) (hexDigit (n % 16)) = some n := by
  have hzero : hexValue? '0' = some 0 := by decide
  simp only [unit?, hzero, hexValue?_hexDigit (n / 16) (by omega),
    hexValue?_hexDigit (n % 16) (by omega), Option.some.injEq]
  omega

theorem Draft.pushUnit_of_lt {n : ℕ} (hn : n < 32) (d : Draft) :
    d.pushUnit n = d.push (Char.ofNat n) := by
  have hlead : Surrogate.isLead n = false := by
    simp [Surrogate.isLead]
    omega
  have htrail : Surrogate.isTrail n = false := by
    simp [Surrogate.isTrail]
    omega
  simp [Draft.pushUnit, hlead, htrail]

theorem readText_plain {c : Char} (hquote : c ≠ '"') (hslash : c ≠ '\\') (hc : 32 ≤ c.toNat)
    (d : Draft) (rest : List Char) : readText d (c :: rest) = readText (d.push c) rest := by
  rw [readText.eq_def]
  split
  · rename_i heq
    exact absurd (List.cons.inj heq).1 hslash
  · rename_i heq
    exact absurd (List.cons.inj heq).1 hslash
  · rename_i heq
    obtain ⟨rfl, rfl⟩ := List.cons.inj heq
    rw [if_neg hquote, if_neg (not_or.2 ⟨hslash, Nat.not_lt.2 hc⟩)]
  · rename_i heq
    cases heq

/-- The escape of a character is read as that character. -/
theorem readText_escapedChars (c : Char) (d : Draft) (rest : List Char) :
    readText d (escapedChars c ++ rest) = readText (d.push c) rest := by
  unfold escapedChars
  split_ifs with hquote hslash hline hreturn htab hback hform hcontrol
  · subst hquote
    rfl
  · subst hslash
    rfl
  · subst hline
    rfl
  · subst hreturn
    rfl
  · subst htab
    rfl
  · subst hback
    rfl
  · subst hform
    rfl
  · have hunit : Char.ofNat c.toNat = c := Char.ofNat_toNat c
    simp only [List.cons_append, List.nil_append]
    rw [readText, unit?_hexDigits hcontrol]
    simp only [Draft.pushUnit_of_lt hcontrol, hunit]
  · exact readText_plain hquote hslash (by omega) d rest

theorem readText_flatMap (cs acc rest : List Char) :
    readText ⟨acc, none, false⟩ (cs.flatMap escapedChars ++ '"' :: rest) =
      some (some (String.ofList (acc.reverse ++ cs)), rest) := by
  induction cs generalizing acc with
  | nil => simp [readText, Draft.text?]
  | cons c cs ih =>
    rw [List.flatMap_cons, List.append_assoc, readText_escapedChars]
    simpa [Draft.push] using ih (c :: acc)

/-- What follows the opening quotation mark of a text. -/
theorem readText_quoted (s : String) (rest : List Char) :
    readText .empty (s.toList.flatMap escapedChars ++ '"' :: rest) = some (some s, rest) := by
  simpa [Draft.empty] using readText_flatMap s.toList [] rest

/-- A quoted text determines itself and what follows it. -/
theorem quotedChars_append_inj {s t : String} {rest more : List Char}
    (h : quotedChars s ++ rest = quotedChars t ++ more) : s = t ∧ rest = more := by
  simp only [quotedChars, List.cons_append, List.append_assoc, List.nil_append] at h
  have hread := congrArg (readText .empty) (List.cons.inj h).2
  rw [readText_quoted, readText_quoted] at hread
  obtain ⟨hs, hrest⟩ := Prod.mk.inj (Option.some.inj hread)
  exact ⟨Option.some.inj hs, hrest⟩

/-- Control characters do not stand in a document as they are. -/
theorem le_toNat_escapedChars (c : Char) : ∀ d ∈ escapedChars c, 32 ≤ d.toNat := by
  have hdigit : ∀ n < 16, 32 ≤ (hexDigit n).toNat := by decide
  unfold escapedChars
  split_ifs with hquote hslash hline hreturn htab hback hform hcontrol
  any_goals decide
  · have hhigh := hdigit (c.toNat / 16) (by omega)
    have hlow := hdigit (c.toNat % 16) (by omega)
    simp [hhigh, hlow]
  · simpa using hcontrol

theorem le_toNat_quotedChars (s : String) : ∀ d ∈ quotedChars s, 32 ≤ d.toNat := by
  simp only [quotedChars, List.mem_cons, List.mem_append, List.mem_flatMap, List.not_mem_nil,
    or_false]
  rintro d (rfl | ⟨c, -, hd⟩ | rfl)
  · decide
  · exact le_toNat_escapedChars c d hd
  · decide

theorem lineFeed_notMem_quotedChars (s : String) : '\n' ∉ quotedChars s :=
  fun h => absurd (le_toNat_quotedChars s _ h) (by decide)

end LoadTest.Json
