import LoadTest.Proofs.Number.Order

/-!
# No double is nearer

The nearest double of a quotient is at least as near to it as every other double
(`isNearest_nearest`). From the binade of a quotient on, magnitudes are multiples of one power of
two, among which rounding takes the nearest (`roundHalfEven_nearest`). Magnitudes that are none lie
on the far side of the start of the binade, which is one (`unitsOfRank_mul_or_lt`).
-/

namespace LoadTest

/-- No multiple of `den` is nearer to `num`. -/
theorem roundHalfEven_nearest (num : ℕ) {den : ℕ} (hd : 0 < den) (k : ℕ) :
    |(num : ℤ) - (roundHalfEven num den * den : ℕ)| ≤ |(num : ℤ) - (k * den : ℕ)| := by
  have hdiv := Nat.div_add_mod' num den
  have hmod := Nat.mod_lt num hd
  -- a multiple lies at or below the quotient, or at or above the next whole number
  have hsides : k * den ≤ num / den * den ∨ (num / den + 1) * den ≤ k * den := by
    rcases Nat.lt_or_ge (num / den) k with h | h
    · exact .inr (Nat.mul_le_mul_right den h)
    · exact .inl (Nat.mul_le_mul_right den h)
  rw [Nat.add_mul, Nat.one_mul] at hsides
  rw [Int.abs_eq_natAbs, Int.abs_eq_natAbs, Int.ofNat_le]
  unfold roundHalfEven
  simp only []
  split_ifs with hround
  · omega
  · rw [Nat.add_mul, Nat.one_mul]
    omega

namespace Finite

/-- A rank of a binade and a place in it. The last place starts the next binade. -/
theorem unitsOfRank_add {s m : ℕ} (hm : m ≤ 2 ^ 53) (hs : s = 0 ∨ 2 ^ 52 ≤ m) :
    unitsOfRank (s * 2 ^ 52 + m) = m * 2 ^ s := by
  unfold unitsOfRank
  by_cases hsmall : s * 2 ^ 52 + m < 2 ^ 52
  · obtain rfl : s = 0 := by omega
    rw [if_pos hsmall]
    omega
  · rw [if_neg hsmall]
    rcases hm.eq_or_lt with rfl | hlt
    · have hdiv : (s * 2 ^ 52 + 2 ^ 53) / 2 ^ 52 - 1 = s + 1 := by omega
      have hmod : (s * 2 ^ 52 + 2 ^ 53) % 2 ^ 52 = 0 := by omega
      rw [hdiv, hmod, Nat.pow_succ]
      ring
    · have hdiv : (s * 2 ^ 52 + m) / 2 ^ 52 - 1 = s := by omega
      have hmod : 2 ^ 52 + (s * 2 ^ 52 + m) % 2 ^ 52 = m := by omega
      rw [hdiv, hmod]

/-- From the start of a binade on, magnitudes are multiples of its step. -/
theorem unitsOfRank_mul_or_lt (s rank : ℕ) :
    (∃ k, unitsOfRank rank = k * 2 ^ s) ∨ 0 < s ∧ unitsOfRank rank < 2 ^ 52 * 2 ^ s := by
  rcases Nat.lt_or_ge rank (s * 2 ^ 52 + 2 ^ 52) with hlt | hle
  · rcases Nat.eq_zero_or_pos s with rfl | hs
    · exact .inl ⟨_, (Nat.mul_one _).symm⟩
    · have hmono := unitsOfRank_strictMono hlt
      rw [unitsOfRank_add (by omega) (.inr (le_refl _))] at hmono
      exact .inr ⟨hs, hmono⟩
  · have hsplit : rank / 2 ^ 52 - 1 = (rank / 2 ^ 52 - 1 - s) + s := by omega
    refine .inl ⟨(2 ^ 52 + rank % 2 ^ 52) * 2 ^ (rank / 2 ^ 52 - 1 - s), ?_⟩
    rw [unitsOfRank, if_neg (by omega), Nat.mul_assoc, ← Nat.pow_add, ← hsplit]

end Finite

namespace Binary64

/-- No magnitude is nearer to a quotient than that of its nearest rank. -/
theorem nearestRank_nearest (num : ℕ) {den : ℕ} (hd : 0 < den) (rank : ℕ) :
    |(num : ℤ) - (Finite.unitsOfRank (nearestRank num den) * den : ℕ)| ≤
      |(num : ℤ) - (Finite.unitsOfRank rank * den : ℕ)| := by
  unfold nearestRank
  simp only []
  generalize hs : (num / den).log2 - 52 = s
  have hstep : 0 < den * 2 ^ s := Nat.mul_pos hd (Nat.two_pow_pos s)
  have hmultiple (k : ℕ) : k * 2 ^ s * den = k * (den * 2 ^ s) := by ring
  have hq : 0 < s → num / den ≠ 0 := by
    intro hpos h0
    rw [h0] at hs
    simp at hs
    omega
  have hplace : s = 0 ∨ 2 ^ 52 ≤ roundHalfEven num (den * 2 ^ s) := by
    rcases Nat.eq_zero_or_pos s with h | h
    · exact .inl h
    · exact .inr (binade_le_roundHalfEven hd (hq h) (by omega))
  rw [Finite.unitsOfRank_add (roundHalfEven_le_binade hd (by omega)) hplace, hmultiple]
  rcases Finite.unitsOfRank_mul_or_lt s rank with ⟨k, hk⟩ | ⟨hpos, hlt⟩
  · rw [hk, hmultiple]
    exact roundHalfEven_nearest num hstep k
  · -- the start of the binade lies between such a magnitude and the quotient
    have hstart : 2 ^ 52 * (den * 2 ^ s) ≤ num := by
      have hlog := Nat.log2_self_le (hq hpos)
      rw [show (num / den).log2 = 52 + s by omega, Nat.le_div_iff_mul_le hd, Nat.pow_add,
        hmultiple] at hlog
      exact hlog
    have hbelow : Finite.unitsOfRank rank * den ≤ 2 ^ 52 * (den * 2 ^ s) := by
      rw [← hmultiple]
      exact Nat.mul_le_mul_right den hlt.le
    refine (roundHalfEven_nearest num hstep (2 ^ 52)).trans ?_
    rw [Int.abs_eq_natAbs, Int.abs_eq_natAbs, Int.ofNat_le]
    omega

end Binary64

/-- No double is nearer to `num / den` units. -/
def IsNearest (num den : ℕ) (x : Finite) : Prop :=
  ∀ y : Finite, |(num : ℤ) - x.signedUnits * den| ≤ |(num : ℤ) - y.signedUnits * den|

theorem Finite.signedUnits_of_nonneg {x : Finite} (h : x.negative = false) :
    x.signedUnits = x.units := by
  simp [signedUnits, h]

theorem isNearest_of_rank {num den : ℕ} (hd : 0 < den) {x : Finite} (hx : x.negative = false)
    (hrank : x.rank = Binary64.nearestRank num den) : IsNearest num den x := by
  intro y
  have hunits : x.units = Finite.unitsOfRank (Binary64.nearestRank num den) := by
    rw [Finite.units, hrank]
  rw [Finite.signedUnits_of_nonneg hx, hunits]
  have hnearest := Binary64.nearestRank_nearest num hd
  push_cast at hnearest
  by_cases hy : y.negative = true
  · -- zero is no farther than a negative number
    have hzero : |(num : ℤ) - (Finite.unitsOfRank 0 : ℕ) * den| = num := by
      simp [Finite.unitsOfRank]
    have hproduct : 0 ≤ (y.units : ℤ) * den := by positivity
    refine (hnearest 0).trans ?_
    rw [hzero, Finite.signedUnits, if_pos hy, Int.neg_mul, sub_neg_eq_add]
    exact (le_add_of_nonneg_right hproduct).trans (le_abs_self _)
  · rw [Finite.signedUnits_of_nonneg (by simpa using hy)]
    exact hnearest y.rank

/-- The decimal `whole.fraction`, counted in units, is rounded to a double that no other is nearer
than. -/
theorem Decimal.isNearest_nearest {whole fraction : List Char} {x : Finite}
    (h : (ofParts false whole fraction 0).nearest = .finite x) :
    IsNearest (Nat.ofDigitChars 10 (whole ++ fraction) 0 * Binary64.one) (10 ^ fraction.length)
      x := by
  obtain ⟨hsign, hrank⟩ := nearest_eq_finite_iff.1 h
  refine isNearest_of_rank (Nat.pow_pos (by omega)) hsign ?_
  rw [← hrank, ofParts, exactRank]
  simp only []
  split_ifs with hlength
  · have hzero : fraction.length = 0 := by omega
    simp [hzero]
  · congr 2
    omega

end LoadTest
