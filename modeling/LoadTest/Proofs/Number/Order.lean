import LoadTest.Proofs.Number.Nearest

/-!
# Rounding keeps the order

A larger quotient has no smaller nearest double (`nearestRank_mono`), so magnitudes grow with ranks
(`unitsOfRank_strictMono`). A whole number of 53 bits times a power of two is the magnitude of a
double (`exists_units`).

An operation whose exact value does not go beyond the magnitude of a double does not go beyond it
after rounding either (`within_ofQuotient`). So the operations stay finite between limits that are
magnitudes themselves, and whole numbers up to `2 ^ 53` are kept exactly (`ofNat_eq_finite`).
Multiplying by one is exact as well (`mul_ofNat_one`).
-/

namespace LoadTest

theorem roundHalfEven_mono {a b : ℕ} (den : ℕ) (h : a ≤ b) :
    roundHalfEven a den ≤ roundHalfEven b den := by
  have hq : a / den ≤ b / den := Nat.div_le_div_right h
  have hr : a / den = b / den → a % den ≤ b % den := by
    intro heq
    have ha := Nat.div_add_mod a den
    have hb := Nat.div_add_mod b den
    rw [heq] at ha
    omega
  unfold roundHalfEven
  simp only []
  split_ifs <;> omega

theorem roundHalfEven_le {num den k : ℕ} (hd : 0 < den) (h : num ≤ k * den) :
    roundHalfEven num den ≤ k :=
  (roundHalfEven_mono den h).trans_eq (roundHalfEven_mul_self k hd)

theorem le_roundHalfEven {num den k : ℕ} (hd : 0 < den) (h : k * den ≤ num) :
    k ≤ roundHalfEven num den :=
  (roundHalfEven_mul_self k hd).symm.trans_le (roundHalfEven_mono den h)

theorem roundHalfAway_le {num den k : ℕ} (hd : 0 < den) (h : num ≤ k * den) :
    roundHalfAway num den ≤ k := by
  have htwice : (k + 1) * (2 * den) = 2 * (k * den) + 2 * den := by ring
  rw [roundHalfAway, ← Nat.lt_succ_iff, Nat.div_lt_iff_lt_mul (by omega), Nat.succ_eq_add_one,
    htwice]
  omega

namespace Binary64

/-! ## Ranks -/

/-- Steps of `2 ^ s` round what lies below the end of a binade to no more than its end. -/
theorem roundHalfEven_le_binade {num den s : ℕ} (hd : 0 < den)
    (h : (num / den).log2 + 1 ≤ 53 + s) : roundHalfEven num (den * 2 ^ s) ≤ 2 ^ 53 := by
  have hnum : num < 2 ^ (53 + s) * den :=
    (Nat.div_lt_iff_lt_mul hd).1
      (Nat.lt_log2_self.trans_le (Nat.pow_le_pow_right (by decide) h))
  refine roundHalfEven_le (Nat.mul_pos hd (Nat.two_pow_pos s)) ?_
  rw [Nat.mul_comm den, ← Nat.mul_assoc, ← Nat.pow_add]
  exact hnum.le

/-- And what lies above the start of a binade to no less than its start. -/
theorem binade_le_roundHalfEven {num den t : ℕ} (hd : 0 < den) (h0 : num / den ≠ 0)
    (h : 52 + t ≤ (num / den).log2) : 2 ^ 52 ≤ roundHalfEven num (den * 2 ^ t) := by
  have hpow : 2 ^ (52 + t) ≤ num / den :=
    (Nat.pow_le_pow_right (by decide) h).trans (Nat.log2_self_le h0)
  refine le_roundHalfEven (Nat.mul_pos hd (Nat.two_pow_pos t)) ?_
  rw [Nat.mul_comm den, ← Nat.mul_assoc, ← Nat.pow_add]
  exact (Nat.le_div_iff_mul_le hd).1 hpow

theorem nearestRank_le_of_le {a b den : ℕ} (hd : 0 < den) (h : a ≤ b) :
    nearestRank a den ≤ nearestRank b den := by
  have hq : a / den ≤ b / den := Nat.div_le_div_right h
  have hlog : (a / den).log2 ≤ (b / den).log2 := by
    rcases Nat.eq_zero_or_pos (a / den) with h0 | h0
    · rw [h0]
      exact Nat.zero_le _
    · exact (Nat.le_log2 (by omega)).2 ((Nat.log2_self_le h0.ne').trans hq)
  unfold nearestRank
  simp only []
  generalize hs : (a / den).log2 - 52 = s
  generalize ht : (b / den).log2 - 52 = t
  rcases (show s ≤ t by omega).eq_or_lt with rfl | hlt
  · exact Nat.add_le_add_left (roundHalfEven_mono _ h) _
  · -- a binade ends where the next one starts
    have hb : b / den ≠ 0 := by
      intro h0
      rw [h0] at ht
      simp at ht
      omega
    have hlow := roundHalfEven_le_binade (s := s) hd (show (a / den).log2 + 1 ≤ 53 + s by omega)
    have hhigh := binade_le_roundHalfEven (t := t) hd hb (by omega)
    omega

/-- A larger quotient has no smaller nearest double. -/
theorem nearestRank_mono {num den num' den' : ℕ} (hd : 0 < den) (hd' : 0 < den')
    (h : num * den' ≤ num' * den) : nearestRank num den ≤ nearestRank num' den' := by
  rw [← nearestRank_mul_right num den hd', ← nearestRank_mul_right num' den' hd,
    Nat.mul_comm den' den]
  exact nearestRank_le_of_le (Nat.mul_pos hd hd') h

end Binary64

namespace Finite

theorem unitsOfRank_strictMono : StrictMono unitsOfRank := by
  intro m n hlt
  by_contra hle
  have h := Binary64.nearestRank_le_of_le Nat.one_pos (Nat.le_of_not_lt hle)
  rw [Binary64.nearestRank_units, Binary64.nearestRank_units] at h
  omega

theorem exists_unitsOfRank {k : ℕ} (hk : k < 2 ^ 53) (e : ℕ) :
    ∃ rank, unitsOfRank rank = k * 2 ^ e := by
  induction e generalizing k with
  | zero =>
    refine ⟨k, ?_⟩
    unfold unitsOfRank
    split_ifs with hsmall
    · rw [Nat.pow_zero, Nat.mul_one]
    · have hdiv : k / 2 ^ 52 = 1 := by omega
      have hmod : 2 ^ 52 + k % 2 ^ 52 = k := by omega
      rw [hdiv, hmod]
  | succ e ih =>
    by_cases hsmall : k < 2 ^ 52
    · obtain ⟨rank, hrank⟩ := ih (show 2 * k < 2 ^ 53 by omega)
      exact ⟨rank, by rw [hrank, Nat.pow_succ]; ring⟩
    · refine ⟨(e + 2) * 2 ^ 52 + (k - 2 ^ 52), ?_⟩
      have hdiv : ((e + 2) * 2 ^ 52 + (k - 2 ^ 52)) / 2 ^ 52 = e + 2 := by omega
      have hmod : 2 ^ 52 + ((e + 2) * 2 ^ 52 + (k - 2 ^ 52)) % 2 ^ 52 = k := by omega
      unfold unitsOfRank
      rw [if_neg (by omega), hdiv, hmod]
      rfl

theorem unitsOfRank_binade (t : ℕ) : unitsOfRank ((t + 2) * 2 ^ 52) = 2 ^ 53 * 2 ^ t := by
  unfold unitsOfRank
  rw [if_neg (by omega), Nat.mul_mod_left, Nat.mul_div_cancel _ (by omega), Nat.add_zero,
    ← Nat.pow_add, ← Nat.pow_add]
  congr 1
  omega

theorem rank_lt_of_units {rank k e t : ℕ} (h : unitsOfRank rank = k * 2 ^ e) (hk : k < 2 ^ 53)
    (he : e ≤ t) : rank < (t + 2) * 2 ^ 52 := by
  refine unitsOfRank_strictMono.lt_iff_lt.1 ?_
  rw [h, unitsOfRank_binade]
  calc k * 2 ^ e ≤ k * 2 ^ t := Nat.mul_le_mul_left _ (Nat.pow_le_pow_right (by omega) he)
    _ < 2 ^ 53 * 2 ^ t := Nat.mul_lt_mul_of_pos_right hk (Nat.two_pow_pos _)

/-- A whole number of 53 bits times a power of two is a magnitude. -/
theorem exists_units {k e : ℕ} (hk : k < 2 ^ 53) (he : e ≤ 2045) (negative : Bool) :
    ∃ x : Finite, x.negative = negative ∧ x.units = k * 2 ^ e := by
  obtain ⟨rank, hrank⟩ := exists_unitsOfRank hk e
  exact ⟨⟨negative, rank, rank_lt_of_units hrank hk he⟩, rfl, hrank⟩

end Finite

namespace Binary64

/-! ## Limits -/

/-- Some double has this magnitude. -/
def IsMagnitude (limit : ℕ) : Prop :=
  ∃ x : Finite, x.units = limit

theorem isMagnitude_mul_pow {k e : ℕ} (hk : k < 2 ^ 53) (he : e ≤ 2045) :
    IsMagnitude (k * 2 ^ e) := by
  obtain ⟨x, -, hx⟩ := Finite.exists_units hk he false
  exact ⟨x, hx⟩

theorem isMagnitude_mul_one {k e : ℕ} (hk : k < 2 ^ 53) (he : e ≤ 971) :
    IsMagnitude (k * 2 ^ e * one) := by
  have hpow : ∀ n, e + n ≤ 2045 → IsMagnitude (k * 2 ^ e * 2 ^ n) := by
    intro n hn
    rw [Nat.mul_assoc, ← Nat.pow_add]
    exact isMagnitude_mul_pow hk hn
  exact hpow 1074 (by omega)

/-- Finite, and at most so many units away from zero. -/
def Within (limit : ℕ) (x : Binary64) : Prop :=
  ∃ y, x = .finite y ∧ y.units ≤ limit

variable {limit : ℕ} {x y : Binary64}

theorem Within.isFinite (h : x.Within limit) : x.isFinite = true := by
  obtain ⟨y, rfl, -⟩ := h
  rfl

theorem within_ofQuotient (hl : IsMagnitude limit) (negative : Bool) {num den : ℕ} (hd : 0 < den)
    (h : num ≤ limit * den) : (ofQuotient negative num den).Within limit := by
  obtain ⟨last, rfl⟩ := hl
  have hrank : nearestRank num den ≤ last.rank :=
    calc nearestRank num den ≤ nearestRank last.units 1 :=
          nearestRank_mono hd Nat.one_pos (by rwa [Nat.mul_one])
      _ = last.rank := nearestRank_units last.rank
  have hlt := hrank.trans_lt last.rank_lt
  refine ⟨⟨negative, _, hlt⟩, ?_, Finite.unitsOfRank_strictMono.monotone hrank⟩
  rw [ofQuotient, dif_pos hlt]

theorem within_zero (negative : Bool) : (finite (.zero negative)).Within limit :=
  ⟨_, rfl, Nat.zero_le limit⟩

theorem within_ofNat (hl : IsMagnitude limit) {n : ℕ} (h : n * one ≤ limit) :
    (ofNat n).Within limit :=
  within_ofQuotient hl false Nat.one_pos (by rwa [Nat.mul_one])

/-- A difference of doubles of one sign is no larger than the larger of them. -/
theorem Within.sub (hl : IsMagnitude limit) (hx : x.Within limit) (hy : y.Within limit)
    (hsign : x.isNegative = y.isNegative) : (x.sub y).Within limit := by
  obtain ⟨x, rfl, hx⟩ := hx
  obtain ⟨y, rfl, hy⟩ := hy
  simp only [isNegative] at hsign
  simp only [Binary64.sub, neg, add]
  split_ifs
  · exact within_zero _
  · refine within_ofQuotient hl _ Nat.one_pos ?_
    simp only [Finite.signedUnits, hsign, Finite.units] at hx hy ⊢
    cases y.negative <;> simp <;> omega

theorem Within.mul {a b : ℕ} (hl : IsMagnitude limit) (hx : x.Within a) (hy : y.Within b)
    (h : a * b ≤ limit * one) : (x.mul y).Within limit := by
  obtain ⟨x, rfl, hx⟩ := hx
  obtain ⟨y, rfl, hy⟩ := hy
  exact within_ofQuotient hl _ one_pos ((Nat.mul_le_mul hx hy).trans h)

theorem Within.round {k : ℕ} (hl : IsMagnitude (k * one)) (hx : x.Within (k * one)) :
    x.round.Within (k * one) := by
  obtain ⟨x, rfl, hx⟩ := hx
  refine within_ofQuotient hl _ Nat.one_pos ?_
  rw [Nat.mul_one]
  exact Nat.mul_le_mul_right _ (roundHalfAway_le one_pos hx)

/-- Division by one or more. -/
theorem Within.div (hl : IsMagnitude limit) (hx : x.Within limit) {d : Finite}
    (hd : one ≤ d.units) : (x.div (.finite d)).Within limit := by
  obtain ⟨x, rfl, hx⟩ := hx
  have hpos : 0 < d.units := one_pos.trans_le hd
  have hzero : d.isZero = false := by
    rw [Finite.isZero, beq_eq_false_iff_ne]
    intro h
    rw [Finite.units, h] at hpos
    exact absurd hpos (by decide)
  simp only [Binary64.div, hzero, Bool.false_eq_true, if_false]
  exact within_ofQuotient hl _ hpos (Nat.mul_le_mul hx hd)

/-! ## Whole numbers -/

theorem ofQuotient_units (x : Finite) :
    ofQuotient x.negative x.units 1 = .finite x := by
  have hrank : nearestRank x.units 1 = x.rank := nearestRank_units x.rank
  simp only [ofQuotient, hrank, x.rank_lt, dite_true]

/-- Whole numbers up to `2 ^ 53` are kept exactly. -/
theorem ofNat_eq_finite {n : ℕ} (hn : n ≤ 2 ^ 53) :
    ∃ x : Finite, ofNat n = .finite x ∧ x.negative = false ∧ x.units = n * one := by
  have hexact : ∀ e ≤ 2044, ∃ x : Finite, x.negative = false ∧ x.units = n * 2 ^ e := by
    intro e he
    rcases hn.eq_or_lt with rfl | hlt
    · obtain ⟨x, hsign, hx⟩ := Finite.exists_units (show 2 ^ 52 < 2 ^ 53 by decide)
        (show e + 1 ≤ 2045 by omega) false
      exact ⟨x, hsign, by rw [hx, Nat.pow_succ]; omega⟩
    · exact Finite.exists_units hlt (by omega) false
  obtain ⟨x, hsign, hx⟩ : ∃ x : Finite, x.negative = false ∧ x.units = n * one :=
    hexact 1074 (by decide)
  refine ⟨x, ?_, hsign, hx⟩
  rw [ofNat, ← hx, ← hsign, ofQuotient_units]

/-- Multiplying by one changes nothing, neither an infinity nor what is not a number. -/
theorem mul_ofNat_one (x : Binary64) : x.mul (.ofNat 1) = x := by
  obtain ⟨y, hy, hsign, hunits⟩ := ofNat_eq_finite (n := 1) (by decide)
  rw [Nat.one_mul] at hunits
  have hzero : y.isZero = false := by
    rw [Finite.isZero, beq_eq_false_iff_ne]
    intro h
    rw [Finite.units, h] at hunits
    exact absurd hunits.symm one_pos.ne'
  rw [hy]
  cases x with
  | nan => rfl
  | infinite negative => simp [mul, hzero, hsign]
  | finite x =>
    have hrank := nearestRank_mul_right x.units 1 one_pos
    rw [Nat.one_mul] at hrank
    have hquotient :
        ofQuotient x.negative (x.units * one) one = ofQuotient x.negative x.units 1 := by
      simp only [ofQuotient, hrank]
    simp only [mul, hsign, hunits, Bool.bne_false, hquotient, ofQuotient_units]

end Binary64

namespace Decimal

theorem isNegative_nearest (d : Decimal) : d.nearest.isNegative = d.negative := by
  unfold nearest
  split_ifs <;> rfl

theorem within_nearest {limit : ℕ} (hl : Binary64.IsMagnitude limit) {d : Decimal}
    (he : d.exponent ≤ 0)
    (h : d.digits * Binary64.one ≤ limit * 10 ^ d.exponent.natAbs) : d.nearest.Within limit := by
  obtain ⟨last, rfl⟩ := hl
  have hrank : exactRank d.digits d.exponent ≤ last.rank := by
    rw [← Binary64.nearestRank_units last.rank]
    unfold exactRank
    split_ifs with hzero
    · have hexp : d.exponent = 0 := by omega
      rw [hexp] at h ⊢
      refine Binary64.nearestRank_le_of_le Nat.one_pos ?_
      simpa [Finite.units] using h
    · refine Binary64.nearestRank_mono (Nat.pow_pos (by omega)) Nat.one_pos ?_
      rwa [Nat.mul_one]
  refine ⟨⟨d.negative, _, hrank.trans_lt last.rank_lt⟩, ?_,
    Finite.unitsOfRank_strictMono.monotone hrank⟩
  exact nearest_eq_finite_iff.2 ⟨rfl, rfl⟩

end Decimal

end LoadTest
