import LoadTest.Duration
import LoadTest.Proofs.Text.Runs
import LoadTest.Proofs.Text.White
import Mathlib.Data.Nat.Notation
import Mathlib.Tactic.SplitIfs

/-!
# Numerals

A numeral is made of digits, with a point where there are further digits behind it (`numeral`). With
the ten digits of ASCII it denotes the double nearest to what it says (`Binary64.ofChars?_numeral`).

A report may also print digits of other scripts, and points anywhere. Such a text is read only where
it is made of ASCII digits and one point (`Binary64.ofChars?_eq_some`), since it has no exponent, no
sign and no letters.
-/

namespace LoadTest

variable {cs whole fraction : List Char}

/-- Without digits behind it the point is left out. -/
def numeral (whole fraction : List Char) : List Char :=
  whole ++ if fraction.isEmpty then [] else '.' :: fraction

theorem mem_numeral {c : Char} :
    c ∈ numeral whole fraction ↔ c ∈ whole ++ fraction ∨ c = '.' ∧ fraction ≠ [] := by
  unfold numeral
  cases fraction with
  | nil => simp
  | cons d fraction => simp [or_comm, or_left_comm]

/-! ## Numerals are read -/

theorem Decimal.ofChars?_numeral (negative : Bool) (hne : whole ≠ [])
    (hdigit : ∀ c ∈ whole ++ fraction, c.isDigit = true) :
    Decimal.ofChars? negative (numeral whole fraction) =
      some (.ofParts negative whole fraction 0) := by
  rw [List.forall_mem_append] at hdigit
  obtain ⟨hwhole, hfraction⟩ := hdigit
  have hempty : whole.isEmpty = false := List.isEmpty_eq_false_iff.2 hne
  unfold Decimal.ofChars? numeral
  rcases hx : fraction with _ | ⟨c, cs⟩
  · rw [List.isEmpty_nil, if_pos rfl, List.append_nil, List.takeWhile_eq_self_iff.2 hwhole,
      List.dropWhile_eq_nil_iff.2 hwhole]
    simp [hempty]
  · rw [List.isEmpty_cons, if_neg (by decide), takeWhile_append_stops hwhole (by exact rfl),
      dropWhile_append_stops hwhole (by exact rfl), ← hx]
    simp only [List.takeWhile_eq_self_iff.2 hfraction, List.dropWhile_eq_nil_iff.2 hfraction,
      hempty, Bool.false_and, Bool.false_eq_true, if_false]

/-- A text that starts with a digit has no sign. -/
theorem Binary64.ofChars?_of_digit {c : Char} (hc : c.isDigit = true) :
    Binary64.ofChars? (c :: cs) = Binary64.ofUnsignedChars? false (c :: cs) := by
  unfold Binary64.ofChars?
  split
  case h_1 heq => exact absurd ((List.cons.inj heq).1 ▸ hc) (by decide)
  case h_2 heq => exact absurd ((List.cons.inj heq).1 ▸ hc) (by decide)
  case h_3 => rfl

theorem Binary64.ofChars?_numeral (hne : whole ≠ [])
    (hdigit : ∀ c ∈ whole ++ fraction, c.isDigit = true) :
    Binary64.ofChars? (numeral whole fraction) =
      some (Decimal.ofParts false whole fraction 0).nearest := by
  have hread := Decimal.ofChars?_numeral false hne hdigit
  rcases whole with _ | ⟨c, whole⟩
  · exact absurd rfl hne
  · have hc : c.isDigit = true := hdigit c List.mem_cons_self
    rw [numeral, List.cons_append] at hread ⊢
    rw [Binary64.ofChars?_of_digit hc, Binary64.ofUnsignedChars?, hread]

/-! ## What is read is a numeral -/

theorem not_isWhite_of_isReportDigit {c : Char} (h : Duration.isReportDigit c = true) :
    isWhite c = false := by
  rw [Duration.isReportDigit, Bool.or_eq_true, decide_eq_true_eq] at h
  rcases h with h | rfl
  · exact not_isWhite_of_isScriptDigit h
  · decide

theorem not_isReportDigit_of_isWhite {c : Char} (h : isWhite c = true) :
    Duration.isReportDigit c = false := by
  refine Bool.eq_false_iff.2 fun hdigit => ?_
  rw [not_isWhite_of_isReportDigit hdigit] at h
  cases h

theorem toLower_of_isReportDigit {c : Char} (h : Duration.isReportDigit c = true) :
    c.toLower = c := by
  have hupper : CharRanges.contains [(65, 90)] c = false := by
    rw [Duration.isReportDigit, isScriptDigit] at h
    simp only [Bool.or_eq_true, decide_eq_true_eq] at h
    rcases h with (h | h) | rfl
    · have hdigit : CharRanges.contains [(48, 57)] c = true := by
        simp [CharRanges.contains, toNat_of_isDigit h]
      exact CharRanges.contains_eq_false (by decide) hdigit
    · exact CharRanges.contains_eq_false (by decide) h
    · decide
  unfold Char.toLower
  rw [dif_neg]
  rintro ⟨hlow, hhigh⟩
  simp [CharRanges.contains] at hupper
  have hlow' : 65 ≤ c.toNat := hlow
  have hhigh' : c.toNat ≤ 90 := hhigh
  omega

/-- Such a text has no exponent. A point may stand at its end, or before its first digit. -/
theorem Decimal.ofChars?_eq_some {d : Decimal}
    (hcs : ∀ c ∈ cs, Duration.isReportDigit c = true) (h : Decimal.ofChars? false cs = some d) :
    ∃ whole fraction, (cs = whole ∨ cs = whole ++ '.' :: fraction) ∧
      (∀ c ∈ whole ++ fraction, c.isDigit = true) ∧ d = .ofParts false whole fraction 0 := by
  have hdigits : ∀ ds : List Char, ∀ c ∈ ds.takeWhile Char.isDigit, c.isDigit = true :=
    fun _ _ => List.mem_takeWhile_imp
  have hdrop : ∀ ds : List Char, ∀ {c}, c ∈ ds.dropWhile Char.isDigit → c ∈ ds :=
    fun _ _ hc => (List.dropWhile_sublist Char.isDigit).subset hc
  have hexponent : ∀ c, Duration.isReportDigit c = true → ¬ (c = 'e' ∨ c = 'E') := by
    rintro c hc (rfl | rfl) <;> exact absurd hc (by decide)
  have hwhole : ∀ ds : List Char, ds.dropWhile Char.isDigit = [] → ds.takeWhile Char.isDigit = ds :=
    fun ds hds => List.takeWhile_eq_self_iff.2 (List.dropWhile_eq_nil_iff.1 hds)
  unfold Decimal.ofChars? at h
  simp only [] at h
  split at h
  case h_1 behind hbehind =>
    split at h
    · cases h
    split at h
    · rename_i hend
      cases h
      refine ⟨cs.takeWhile Char.isDigit, behind.takeWhile Char.isDigit, .inr ?_, ?_, rfl⟩
      · rw [hwhole behind hend, ← hbehind, List.takeWhile_append_dropWhile]
      · exact List.forall_mem_append.2 ⟨hdigits cs, hdigits behind⟩
    · rename_i c rest hrest
      have hrest' : behind.dropWhile Char.isDigit = c :: rest := hrest
      have hmem : c ∈ behind := hdrop behind (hrest' ▸ List.mem_cons_self)
      have hmem' : c ∈ cs := hdrop cs (hbehind ▸ List.mem_cons_of_mem '.' hmem)
      rw [if_neg (hexponent c (hcs c hmem'))] at h
      cases h
  case h_2 =>
    split at h
    · cases h
    split at h
    · rename_i hend
      cases h
      refine ⟨cs.takeWhile Char.isDigit, [], .inl (hwhole cs hend).symm, ?_, rfl⟩
      simpa using hdigits cs
    · rename_i c rest hrest
      have hrest' : cs.dropWhile Char.isDigit = c :: rest := hrest
      have hmem : c ∈ cs := hdrop cs (hrest' ▸ List.mem_cons_self)
      rw [if_neg (hexponent c (hcs c hmem))] at h
      cases h

/-- Such a text is neither signed nor a name. -/
theorem Binary64.ofChars?_eq_some {x : Binary64}
    (hcs : ∀ c ∈ cs, Duration.isReportDigit c = true) (h : Binary64.ofChars? cs = some x) :
    ∃ d, Decimal.ofChars? false cs = some d ∧ x = d.nearest := by
  have hsigned : Binary64.ofChars? cs = Binary64.ofUnsignedChars? false cs := by
    unfold Binary64.ofChars?
    split
    · exact absurd (hcs _ List.mem_cons_self) (by decide)
    · exact absurd (hcs _ List.mem_cons_self) (by decide)
    · rfl
  have hname : ∀ name : String, (∃ c ∈ name.toList, Duration.isReportDigit c = false) →
      String.ofList (cs.map Char.toLower) ≠ name := by
    rintro name ⟨c, hc, hother⟩ rfl
    rw [String.toList_ofList,
      List.map_congr_left fun d hd => toLower_of_isReportDigit (hcs d hd), List.map_id'] at hc
    rw [hcs c hc] at hother
    cases hother
  rw [hsigned, Binary64.ofUnsignedChars?] at h
  split at h
  case h_1 d hd => exact ⟨d, hd, (Option.some.inj h).symm⟩
  case h_2 =>
    simp only [] at h
    rw [if_neg, if_neg] at h
    · cases h
    · exact hname "nan" ⟨'a', by decide, by decide⟩
    · rintro (hinf | hinf)
      · exact hname "inf" ⟨'i', by decide, by decide⟩ hinf
      · exact hname "infinity" ⟨'i', by decide, by decide⟩ hinf

/-! ## Whole numbers -/

/-- The digits of a number, zeros in front of it included. -/
structure AreDigitsOf (digits : List Char) (n : ℕ) : Prop where
  ne_nil : digits ≠ []
  isDigit : ∀ c ∈ digits, c.isDigit = true
  value : Nat.ofDigitChars 10 digits 0 = n

/-- A plus sign in front of the digits changes nothing. -/
theorem naturalBelow?_eq_some {limit n : ℕ} {cs : List Char} :
    naturalBelow? limit cs = some n ↔
      n < limit ∧ ∃ digits, AreDigitsOf digits n ∧ (cs = digits ∨ cs = '+' :: digits) := by
  have hread : ∀ digits : List Char,
      (if digits.isEmpty || !digits.all Char.isDigit then none
        else if Nat.ofDigitChars 10 digits 0 < limit then some (Nat.ofDigitChars 10 digits 0)
          else none) = some n ↔ n < limit ∧ AreDigitsOf digits n := by
    intro digits
    by_cases hdigits : digits ≠ [] ∧ ∀ c ∈ digits, c.isDigit = true
    · rw [if_neg (by simpa using hdigits)]
      constructor
      · intro h
        split_ifs at h with hlimit
        obtain rfl := Option.some.inj h
        exact ⟨hlimit, hdigits.1, hdigits.2, rfl⟩
      · rintro ⟨hlimit, -, -, rfl⟩
        exact if_pos hlimit
    · have hnone : (digits.isEmpty || !digits.all Char.isDigit) = true := by
        by_contra hread
        exact hdigits (by simpa using hread)
      rw [if_pos hnone]
      exact iff_of_false (by simp) fun ⟨_, h⟩ => hdigits ⟨h.ne_nil, h.isDigit⟩
  unfold naturalBelow?
  split
  case h_1 rest =>
    rw [hread]
    refine and_congr_right fun _ => ⟨fun h => ⟨rest, h, .inr rfl⟩, ?_⟩
    rintro ⟨digits, h, rfl | heq⟩
    · exact absurd (h.isDigit '+' List.mem_cons_self) (by decide)
    · exact (List.cons.inj heq).2 ▸ h
  case h_2 hplus =>
    rw [hread]
    refine and_congr_right fun _ => ⟨fun h => ⟨cs, h, .inl rfl⟩, ?_⟩
    rintro ⟨digits, h, rfl | rfl⟩
    · exact h
    · exact absurd rfl (hplus digits)

end LoadTest
