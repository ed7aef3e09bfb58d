import LoadTest.Number.Text
import LoadTest.Proofs.Number.Distance
import LoadTest.Proofs.Number.Numeral
import LoadTest.Proofs.Number.Shortest

/-!
# Plain numerals

Written without an exponent a decimal is a numeral that denotes it: zeros stand for a positive
exponent, and a negative one moves the point (`Decimal.exists_isPlain`). So the shortest decimal of
a positive double is written as a numeral whose nearest double it is
(`Finite.exists_isNumeralOf`).
-/

namespace LoadTest

/-! ## Digits of numbers -/

theorem isDigit_toDigits (n : ℕ) : ∀ c ∈ Nat.toDigits 10 n, c.isDigit = true :=
  fun _ hc => Nat.isDigit_of_mem_toDigits (by decide) (by decide) hc

theorem isDigit_zeros (k : ℕ) : ∀ c ∈ List.replicate k '0', c.isDigit = true := by
  intro c hc
  rw [List.eq_of_mem_replicate hc]
  decide

theorem digitChar_ne_zero : ∀ n < 10, 0 < n → Nat.digitChar n ≠ '0' := by
  decide

theorem head_toDigits_ne_zero {n : ℕ} (hn : 0 < n) : (Nat.toDigits 10 n).head? ≠ some '0' := by
  induction n using Nat.strong_induction_on with
  | _ n ih =>
    by_cases hlt : n < 10
    · rw [Nat.toDigits_of_lt_base hlt, List.head?_cons, ne_eq, Option.some.injEq]
      exact digitChar_ne_zero n hlt hn
    · rw [Nat.toDigits_of_base_le (by decide) (by omega),
        List.head?_append_of_ne_nil _ Nat.toDigits_ne_nil]
      exact ih (n / 10) (by omega) (by omega)

namespace Decimal

/-- The decimal is written as this numeral, in which no zero leads other digits. -/
structure IsPlain (d : Decimal) (whole fraction : List Char) : Prop where
  eq_numeral : d.plainChars = numeral whole fraction
  isDigit : ∀ c ∈ whole ++ fraction, c.isDigit = true
  ne_nil : whole ≠ []
  leading : whole.head? = some '0' → whole.length ≤ 1
  isEmpty_fraction : fraction.isEmpty = decide (0 ≤ d.exponent)
  nearest_eq : (ofParts d.negative whole fraction 0).nearest = d.nearest

variable {d : Decimal}

/-- The digits of a decimal may be cut by the point anywhere. -/
theorem ofParts_of_digits {whole fraction : List Char} {exponent : ℤ}
    (hdigits : Nat.ofDigitChars 10 (whole ++ fraction) 0 = d.digits)
    (hexponent : exponent - fraction.length = d.exponent) :
    ofParts d.negative whole fraction exponent = d := by
  rw [ofParts, hdigits, hexponent]

theorem nearest_ofParts_zero (negative : Bool) (whole : List Char) :
    (ofParts negative whole ['0'] 0).nearest = (ofParts negative whole [] 0).nearest := by
  have hdigits : Nat.ofDigitChars 10 (whole ++ ['0']) 0 =
      Nat.ofDigitChars 10 whole 0 * 10 ^ 1 := by
    simp only [Nat.ofDigitChars_append, Nat.ofDigitChars_cons, Nat.ofDigitChars_nil, Nat.sub_self]
    ring
  rw [ofParts, ofParts, hdigits, nearest_shift, List.append_nil]
  rfl

theorem isPlain_of_nonneg (hd : d.digits ≠ 0) (he : 0 ≤ d.exponent) :
    d.IsPlain (Nat.toDigits 10 d.digits ++ List.replicate d.exponent.toNat '0') [] where
  eq_numeral := by
    simp only [plainChars, if_pos he, numeral, List.isEmpty_nil, if_true, List.append_nil]
  isDigit := by
    rw [List.append_nil]
    exact List.forall_mem_append.2 ⟨isDigit_toDigits _, isDigit_zeros _⟩
  ne_nil := List.append_ne_nil_of_left_ne_nil Nat.toDigits_ne_nil _
  leading := by
    rw [List.head?_append_of_ne_nil _ Nat.toDigits_ne_nil]
    exact fun h => absurd h (head_toDigits_ne_zero (by omega))
  isEmpty_fraction := by simp [he]
  nearest_eq := by
    have hdigits : Nat.ofDigitChars 10 (Nat.toDigits 10 d.digits ++
        List.replicate d.exponent.toNat '0' ++ []) 0 = d.digits * 10 ^ d.exponent.toNat := by
      rw [List.append_nil, Nat.ofDigitChars_append, Nat.ofDigitChars_ten_toDigits,
        Nat.ofDigitChars_replicate_zero]
      ring
    have hexponent : (0 : ℤ) - ([] : List Char).length + d.exponent.toNat = d.exponent := by
      simp [he]
    rw [ofParts, hdigits, nearest_shift, hexponent]

/-- The point stands among the digits. -/
theorem isPlain_of_point (hd : d.digits ≠ 0) (he : d.exponent < 0) (hp : 0 < d.pointPosition) :
    d.IsPlain ((Nat.toDigits 10 d.digits).take d.pointPosition.toNat)
      ((Nat.toDigits 10 d.digits).drop d.pointPosition.toNat) := by
  have hlt : d.pointPosition.toNat < (Nat.toDigits 10 d.digits).length := by
    rw [pointPosition] at hp ⊢
    omega
  have hfraction : ((Nat.toDigits 10 d.digits).drop d.pointPosition.toNat).isEmpty = false := by
    simpa using hlt
  refine ⟨?_, ?_, ?_, ?_, ?_, ?_⟩
  · simp only [plainChars, if_neg (not_le.2 he), if_pos hp, numeral, hfraction, Bool.false_eq_true,
      if_false]
  · rw [List.take_append_drop]
    exact isDigit_toDigits _
  · rw [← List.length_pos_iff, List.length_take]
    omega
  · rw [List.head?_take, if_neg (by omega)]
    exact fun h => absurd h (head_toDigits_ne_zero (by omega))
  · rw [hfraction, decide_eq_false (not_le.2 he)]
  · rw [ofParts_of_digits]
    · rw [List.take_append_drop, Nat.ofDigitChars_ten_toDigits]
    · rw [List.length_drop, pointPosition]
      rw [pointPosition] at hp
      omega

/-- The point stands before the digits, with zeros in between. -/
theorem isPlain_of_zeros (he : d.exponent < 0) (hp : d.pointPosition ≤ 0) :
    d.IsPlain ['0'] (List.replicate d.pointPosition.natAbs '0' ++ Nat.toDigits 10 d.digits) := by
  have hfraction : (List.replicate d.pointPosition.natAbs '0' ++
      Nat.toDigits 10 d.digits).isEmpty = false := by simp
  refine ⟨?_, ?_, by decide, by decide, ?_, ?_⟩
  · simp only [plainChars, if_neg (not_le.2 he), if_neg (not_lt.2 hp), numeral, hfraction,
      Bool.false_eq_true, if_false, List.cons_append, List.nil_append]
  · exact List.forall_mem_append.2 ⟨by decide,
      List.forall_mem_append.2 ⟨isDigit_zeros _, isDigit_toDigits _⟩⟩
  · rw [hfraction, decide_eq_false (not_le.2 he)]
  · rw [ofParts_of_digits]
    · simp [Nat.ofDigitChars_append, Nat.ofDigitChars_cons, Nat.ofDigitChars_ten_toDigits]
    · rw [List.length_append, List.length_replicate, pointPosition]
      rw [pointPosition] at hp
      omega

theorem exists_isPlain (hd : d.digits ≠ 0) : ∃ whole fraction, d.IsPlain whole fraction := by
  by_cases he : 0 ≤ d.exponent
  · exact ⟨_, _, isPlain_of_nonneg hd he⟩
  · rcases lt_or_ge 0 d.pointPosition with hp | hp
    · exact ⟨_, _, isPlain_of_point hd (not_le.1 he) hp⟩
    · exact ⟨_, _, isPlain_of_zeros (not_le.1 he) hp⟩

end Decimal

/-! ## Numerals of doubles -/

/-- A numeral, without sign and exponent, whose nearest double this is. -/
structure IsNumeralOf (x : Finite) (cs whole fraction : List Char) : Prop where
  eq_numeral : cs = numeral whole fraction
  ne_nil : whole ≠ []
  isDigit : ∀ c ∈ whole ++ fraction, c.isDigit = true
  nearest_eq : (Decimal.ofParts false whole fraction 0).nearest = .finite x
  isNearest : IsNearest (Nat.ofDigitChars 10 (whole ++ fraction) 0 * Binary64.one)
    (10 ^ fraction.length) x

namespace Finite

variable {x : Finite}

theorem negative_of_pos (h : 0 < x.signedUnits) : x.negative = false := by
  by_contra hnegative
  rw [signedUnits, if_pos (by simpa using hnegative)] at h
  omega

theorem isZero_of_pos (h : 0 < x.signedUnits) : x.isZero = false := by
  rw [isZero, beq_eq_false_iff_ne]
  intro hrank
  simp [signedUnits, units, hrank, unitsOfRank] at h

/-- A positive double is written as a numeral of its own. -/
theorem exists_isNumeralOf (h : 0 < x.signedUnits) :
    ∃ whole fraction, IsNumeralOf x x.plainChars whole fraction := by
  have hsign := negative_of_pos h
  obtain ⟨whole, fraction, hplain⟩ :=
    Decimal.exists_isPlain (digits_shortest_ne_zero .up (isZero_of_pos h))
  have hnearest : (Decimal.ofParts false whole fraction 0).nearest = .finite x := by
    rw [← hsign, ← negative_shortest .up x, hplain.nearest_eq, nearest_shortest]
  refine ⟨whole, fraction, ?_, hplain.ne_nil, hplain.isDigit, hnearest,
    Decimal.isNearest_nearest hnearest⟩
  rw [plainChars, hsign, hplain.eq_numeral]
  rfl

end Finite

end LoadTest
