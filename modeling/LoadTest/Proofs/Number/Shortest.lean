import LoadTest.Number.Shortest
import LoadTest.Proofs.Number.Nearest

/-!
# The shortest decimal reads back

Whichever number of digits is settled on, and whichever neighbour, the nearest double of the
shortest decimal is the double itself (`nearest_shortest`). Should no number of digits do, all
digits of the value are taken, and they read back as well (`nearest_exact`).
-/

namespace LoadTest

namespace Decimal

theorem nearest_trim (negative : Bool) (digits : ℕ) (exponent : ℤ) :
    (trim negative digits exponent).nearest = nearest ⟨negative, digits, exponent⟩ := by
  fun_induction trim negative digits exponent with
  | case1 digits exponent h ih =>
    have hdigits : digits = digits / 10 * 10 ^ 1 := by omega
    have hshift := nearest_shift negative (digits / 10) 1 exponent
    rw [← hdigits] at hshift
    rw [ih, hshift]
    rfl
  | case2 => rfl

theorem nearest_of_rank {x : Finite} {digits : ℕ} {exponent : ℤ}
    (h : nearestRank digits exponent = x.rank) :
    nearest ⟨x.negative, digits, exponent⟩ = .finite x := by
  unfold nearest
  simp only [h]
  rw [dif_pos x.rank_lt]

end Decimal

namespace Finite

theorem nearestRank_tenths (units places : ℕ) :
    Binary64.nearestRank (units * 5 ^ places * 2 ^ places) (10 ^ places) =
      Binary64.nearestRank units 1 := by
  rw [Nat.mul_assoc, ← Nat.mul_pow]
  calc Binary64.nearestRank (units * 10 ^ places) (10 ^ places)
      = Binary64.nearestRank (units * 10 ^ places) (1 * 10 ^ places) := by rw [Nat.one_mul]
    _ = Binary64.nearestRank units 1 :=
        Binary64.nearestRank_mul_right _ _ (Nat.pow_pos (by omega))

theorem nearest_exact (x : Finite) : x.exact.nearest = .finite x := by
  rw [exact, Decimal.nearest_trim, Decimal.nearest_eq_finite_iff]
  refine ⟨rfl, ?_⟩
  simp only [Decimal.exactRank, Binary64.one]
  have hplaces : (-1074 : ℤ).natAbs = 1074 := rfl
  rw [if_neg (by simp), hplaces]
  generalize 1074 = places
  rw [nearestRank_tenths]
  exact Binary64.nearestRank_units x.rank

theorem nearest_of_neighbour {tie : Tie} {x : Finite} {exponent : ℤ} {num den : ℕ} {d : Decimal}
    (h : x.neighbour tie exponent num den = some d) : d.nearest = .finite x := by
  simp only [neighbour] at h
  split at h
  · rename_i hlow
    rw [Bool.and_eq_true, beq_iff_eq] at hlow
    rw [← Option.some.inj h, Decimal.nearest_trim]
    exact Decimal.nearest_of_rank hlow.1
  · split at h
    · rename_i hhigh
      rw [← Option.some.inj h, Decimal.nearest_trim]
      exact Decimal.nearest_of_rank (beq_iff_eq.1 hhigh)
    · simp at h

theorem nearest_shortest (tie : Tie) (x : Finite) : (x.shortest tie).nearest = .finite x := by
  unfold shortest
  split_ifs with hzero
  · refine Decimal.nearest_of_rank ?_
    rw [Decimal.nearestRank, if_pos rfl]
    exact (beq_iff_eq.1 hzero).symm
  · rcases hfound : (List.range' 1 17).findSome? (x.shortestOf tie) with _ | d
    · rw [Option.getD_none, nearest_exact]
    · obtain ⟨count, -, hd⟩ := List.exists_of_findSome?_eq_some hfound
      rw [Option.getD_some, nearest_of_neighbour hd]

theorem negative_shortest (tie : Tie) (x : Finite) : (x.shortest tie).negative = x.negative :=
  (Decimal.nearest_eq_finite_iff.1 (nearest_shortest tie x)).1.symm

theorem digits_shortest_ne_zero (tie : Tie) {x : Finite} (h : x.isZero = false) :
    (x.shortest tie).digits ≠ 0 := by
  intro hdigits
  have hrank := (Decimal.nearest_eq_finite_iff.1 (nearest_shortest tie x)).2
  rw [hdigits, Decimal.exactRank_zero] at hrank
  simp [isZero, ← hrank] at h

end Finite

end LoadTest
