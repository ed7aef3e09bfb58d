import LoadTest.Number.Decimal
import Mathlib.Tactic.Positivity
import Mathlib.Tactic.Ring
import Mathlib.Tactic.SplitIfs

/-!
# The nearest double

Rounding depends on a quotient alone, not on how it is written (`nearestRank_congr`), and a
magnitude that a double has is its own nearest (`nearestRank_units`).

A decimal is settled before any power is computed when its exponent is far out. That is only a
short cut: up to ranks beyond the last one, a decimal is rounded as the quotient it stands for
(`min_nearestRank`), so that zeros can be moved from its digits to its exponent (`nearest_shift`).
-/

namespace LoadTest

theorem roundHalfEven_mul_right (num den : ℕ) {k : ℕ} (hk : 0 < k) :
    roundHalfEven (num * k) (den * k) = roundHalfEven num den := by
  have hlt : 2 * (num % den * k) < den * k ↔ 2 * (num % den) < den := by
    rw [← Nat.mul_assoc]
    exact Nat.mul_lt_mul_right hk
  have heq : 2 * (num % den * k) = den * k ↔ 2 * (num % den) = den := by
    rw [← Nat.mul_assoc]
    exact Nat.mul_left_inj hk.ne'
  unfold roundHalfEven
  simp only [Nat.mul_div_mul_right _ _ hk, Nat.mul_mod_mul_right, hlt, heq]

theorem roundHalfEven_mul_self (q : ℕ) {den : ℕ} (hd : 0 < den) :
    roundHalfEven (q * den) den = q := by
  simp [roundHalfEven, Nat.mul_div_cancel _ hd, hd]

theorem roundHalfEven_of_lt {num den : ℕ} (h : 2 * num < den) : roundHalfEven num den = 0 := by
  simp [roundHalfEven, Nat.div_eq_of_lt (show num < den by omega),
    Nat.mod_eq_of_lt (show num < den by omega), h]

namespace Binary64

theorem one_pos : 0 < one := by
  unfold one
  positivity

theorem nearestRank_mul_right (num den : ℕ) {k : ℕ} (hk : 0 < k) :
    nearestRank (num * k) (den * k) = nearestRank num den := by
  simp only [nearestRank, Nat.mul_div_mul_right _ _ hk, Nat.mul_right_comm den k]
  rw [roundHalfEven_mul_right _ _ hk]

/-- Equal quotients have the same nearest double. -/
theorem nearestRank_congr {num den num' den' : ℕ} (hd : 0 < den) (hd' : 0 < den')
    (h : num * den' = num' * den) : nearestRank num den = nearestRank num' den' := by
  rw [← nearestRank_mul_right num den hd', ← nearestRank_mul_right num' den' hd, h,
    Nat.mul_comm den den']

theorem nearestRank_of_lt {num den : ℕ} (h : 2 * num < den) : nearestRank num den = 0 := by
  have hq : num / den = 0 := Nat.div_eq_of_lt (by omega)
  simp [nearestRank, hq, roundHalfEven_of_lt h]

theorem le_nearestRank {num k : ℕ} (h : 2 ^ k ≤ num) : (k - 52) * 2 ^ 52 ≤ nearestRank num 1 := by
  have hne : num ≠ 0 := by
    have := Nat.two_pow_pos k
    omega
  have hlog : k - 52 ≤ num.log2 - 52 := by
    have := (Nat.le_log2 hne).2 h
    omega
  simp only [nearestRank, Nat.div_one]
  exact Nat.le_trans (Nat.mul_le_mul_right _ hlog) (Nat.le_add_right _ _)

/-- A magnitude of a double is its own nearest. -/
theorem nearestRank_units (rank : ℕ) : nearestRank (Finite.unitsOfRank rank) 1 = rank := by
  unfold Finite.unitsOfRank
  split_ifs with h
  · have hlog : rank.log2 - 52 = 0 := by
      rcases Nat.eq_zero_or_pos rank with rfl | hpos
      · rfl
      · have := (Nat.log2_lt hpos.ne').2 h
        omega
    simp [nearestRank, hlog, roundHalfEven, Nat.mod_one]
  · have hm : rank % 2 ^ 52 < 2 ^ 52 := Nat.mod_lt _ (by decide)
    have hdiv := Nat.div_add_mod rank (2 ^ 52)
    set shift := rank / 2 ^ 52 - 1
    have hrank : rank / 2 ^ 52 = shift + 1 := by
      have : 1 ≤ rank / 2 ^ 52 := (Nat.one_le_div_iff (by decide)).2 (by omega)
      omega
    have hpos : 0 < 2 ^ shift := Nat.two_pow_pos shift
    have hlog : ((2 ^ 52 + rank % 2 ^ 52) * 2 ^ shift).log2 = shift + 52 := by
      rw [Nat.log2_eq_iff (Nat.mul_pos (by omega) hpos).ne']
      constructor
      · rw [Nat.pow_add, Nat.mul_comm]
        exact Nat.mul_le_mul_right _ (by omega)
      · rw [show shift + 52 + 1 = 53 + shift by omega, Nat.pow_add]
        exact Nat.mul_lt_mul_of_pos_right (by omega) hpos
    simp only [nearestRank, Nat.div_one, hlog, Nat.add_sub_cancel, Nat.one_mul]
    rw [roundHalfEven_mul_self _ hpos]
    rw [hrank] at hdiv
    omega

end Binary64

namespace Decimal

/-- The rank nearest to the quotient that a decimal stands for, without any short cut. -/
def exactRank (digits : ℕ) (exponent : ℤ) : ℕ :=
  if 0 ≤ exponent then Binary64.nearestRank (digits * 10 ^ exponent.toNat * Binary64.one) 1
  else Binary64.nearestRank (digits * Binary64.one) (10 ^ exponent.natAbs)

/-- An exponent that is so large settles a decimal. -/
theorem le_exactRank {digits : ℕ} {exponent : ℤ} (hd : digits ≠ 0) (he : 400 ≤ exponent) :
    2047 * 2 ^ 52 ≤ exactRank digits exponent := by
  have hten : 2 ^ (3 * exponent.toNat) ≤ 10 ^ exponent.toNat := by
    rw [Nat.pow_mul]
    exact Nat.pow_le_pow_left (by omega) _
  have hbound : 2 ^ (3 * exponent.toNat + 1074) ≤
      digits * 10 ^ exponent.toNat * Binary64.one :=
    calc 2 ^ (3 * exponent.toNat + 1074)
        = 2 ^ (3 * exponent.toNat) * Binary64.one := by rw [Nat.pow_add, Binary64.one]
      _ ≤ 10 ^ exponent.toNat * Binary64.one := Nat.mul_le_mul_right _ hten
      _ ≤ digits * 10 ^ exponent.toNat * Binary64.one :=
        Nat.mul_le_mul_right _ (Nat.le_mul_of_pos_left _ (by omega))
  rw [exactRank, if_pos (by omega)]
  exact Nat.le_trans (Nat.mul_le_mul_right _ (by omega)) (Binary64.le_nearestRank hbound)

/-- An exponent that is so small settles a decimal. -/
theorem exactRank_eq_zero {digits : ℕ} {exponent : ℤ} (hn : exponent < 0)
    (he : digits.log2 + 1100 ≤ exponent.natAbs) : exactRank digits exponent = 0 := by
  have hlt : 2 * (digits * Binary64.one) < 10 ^ exponent.natAbs :=
    calc 2 * (digits * Binary64.one) < 2 * (2 ^ (digits.log2 + 1) * Binary64.one) := by
          have := Nat.mul_lt_mul_of_pos_right (Nat.lt_log2_self (n := digits)) Binary64.one_pos
          omega
      _ = 2 ^ (digits.log2 + 1 + 1074 + 1) := by
          rw [Nat.pow_succ _ (digits.log2 + 1 + 1074), Nat.pow_add _ _ 1074, Binary64.one,
            Nat.mul_comm]
      _ ≤ 2 ^ exponent.natAbs := Nat.pow_le_pow_right (by omega) (by omega)
      _ ≤ 10 ^ exponent.natAbs := Nat.pow_le_pow_left (by omega) _
  rw [exactRank, if_neg (by omega)]
  exact Binary64.nearestRank_of_lt hlt

theorem exactRank_zero (exponent : ℤ) : exactRank 0 exponent = 0 := by
  unfold exactRank
  split_ifs
  · simp [Binary64.nearestRank, roundHalfEven]
  · rw [Nat.zero_mul]
    exact Binary64.nearestRank_of_lt (Nat.pow_pos (by omega))

theorem min_nearestRank (digits : ℕ) (exponent : ℤ) :
    min (nearestRank digits exponent) (2047 * 2 ^ 52) =
      min (exactRank digits exponent) (2047 * 2 ^ 52) := by
  unfold nearestRank
  split_ifs with hd hlarge hpos hsmall
  · rw [hd, exactRank_zero]
  · rw [Nat.min_self, Nat.min_eq_right (le_exactRank hd hlarge)]
  · rw [exactRank, if_pos hpos]
  · rw [exactRank_eq_zero (by omega) hsmall]
  · rw [exactRank, if_neg hpos]

theorem nearest_eq_finite_iff {d : Decimal} {x : Finite} :
    d.nearest = .finite x ↔ x.negative = d.negative ∧ exactRank d.digits d.exponent = x.rank := by
  have hmin := min_nearestRank d.digits d.exponent
  obtain ⟨negative, rank, hlt⟩ := x
  unfold nearest
  split_ifs with h
  · simp only [Binary64.finite.injEq, Finite.mk.injEq]
    constructor <;> rintro ⟨h1, h2⟩ <;> exact ⟨h1.symm, by omega⟩
  · simp only [false_iff, not_and]
    omega

theorem nearest_congr {d d' : Decimal} (hn : d.negative = d'.negative)
    (h : exactRank d.digits d.exponent = exactRank d'.digits d'.exponent) :
    d.nearest = d'.nearest := by
  have hmin := min_nearestRank d.digits d.exponent
  have hmin' := min_nearestRank d'.digits d'.exponent
  unfold nearest
  split_ifs with h1 h2 h2
  · simp only [Binary64.finite.injEq, Finite.mk.injEq]
    exact ⟨hn, by omega⟩
  · omega
  · omega
  · rw [hn]

theorem exactRank_shift (digits k : ℕ) (exponent : ℤ) :
    exactRank (digits * 10 ^ k) exponent = exactRank digits (exponent + k) := by
  unfold exactRank
  split_ifs with h1 h2 h2
  · have : (exponent + k).toNat = exponent.toNat + k := by omega
    rw [this, Nat.pow_add, Nat.mul_assoc digits, Nat.mul_comm (10 ^ k)]
  · omega
  · have : k = (exponent + k).toNat + exponent.natAbs := by omega
    refine Binary64.nearestRank_congr (Nat.pow_pos (by omega)) Nat.one_pos ?_
    conv_lhs => rw [this, Nat.pow_add]
    ring
  · have : exponent.natAbs = k + (exponent + k).natAbs := by omega
    refine Binary64.nearestRank_congr (Nat.pow_pos (by omega)) (Nat.pow_pos (by omega)) ?_
    rw [this, Nat.pow_add]
    ring

/-- Zeros at the end of the digits may count as part of the exponent. -/
theorem nearest_shift (negative : Bool) (digits k : ℕ) (exponent : ℤ) :
    nearest ⟨negative, digits * 10 ^ k, exponent⟩ = nearest ⟨negative, digits, exponent + k⟩ :=
  nearest_congr rfl (exactRank_shift digits k exponent)

end Decimal

end LoadTest
