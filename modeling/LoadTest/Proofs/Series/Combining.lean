import LoadTest.Proofs.Number.Order
import LoadTest.Proofs.Series.Batch

/-!
# Combining values in any order

A sum of doubles depends on the order of its terms, since every addition rounds. Natural numbers
whose total is at most `2 ^ 53` are the exception: every sum on the way is exact
(`total_eq_ofNat`), so that the order does not matter (`IsCounts.total_eq_of_perm`).

The largest of finite values is one of them and no other is above it (`exists_largest`). So it is
the same in any order, but for the sign of a zero (`same_largest_of_perm`).
-/

namespace LoadTest

namespace Binary64

/-- The natural number `n`; a zero may have either sign. -/
def IsNatural (n : ℕ) (x : Binary64) : Prop :=
  ∃ y, x = .finite y ∧ y.signedUnits = (n * one : ℕ)

variable {m n : ℕ} {x : Binary64}

theorem isNatural_ofNat (hn : n ≤ 2 ^ 53) : (ofNat n).IsNatural n := by
  obtain ⟨y, hy, hsign, hunits⟩ := ofNat_eq_finite hn
  exact ⟨y, hy, by rw [Finite.signedUnits, hsign, if_neg Bool.false_ne_true, hunits]⟩

theorem ofNat_zero : ofNat 0 = .zero := by
  rw [ofNat, Nat.zero_mul]
  exact ofQuotient_units (.zero false)

/-- The sum of what is exact is rounded once, as the number itself is. -/
theorem IsNatural.ofNat_add (hx : x.IsNatural n) (hm : m ≤ 2 ^ 53) :
    (ofNat m).add x = ofNat (m + n) := by
  obtain ⟨y, rfl, hy⟩ := hx
  obtain ⟨z, hz, hsign, hunits⟩ := ofNat_eq_finite hm
  have hsum : z.signedUnits + y.signedUnits = ((m + n) * one : ℕ) := by
    rw [Finite.signedUnits, hsign, if_neg Bool.false_ne_true, hunits, hy, Nat.add_mul,
      Nat.cast_add]
  have hpositive : decide ((((m + n) * one : ℕ) : ℤ) < 0) = false :=
    decide_eq_false (Int.not_lt.2 (Int.natCast_nonneg _))
  rw [hz, add, hsum]
  simp only [hpositive, Int.natAbs_natCast]
  split_ifs with h0
  · have hzero : (m + n) * one = 0 := Int.natCast_eq_zero.1 h0
    rw [(Nat.mul_eq_zero.1 hzero).resolve_right one_pos.ne', ofNat_zero, hsign, Bool.false_and,
      zero]
  · rfl

end Binary64

/-! ## Sums of counts -/

/-- Natural numbers with a total that a double holds exactly. -/
def IsCounts (values : List Binary64) : Prop :=
  ∃ ns : List ℕ, List.Forall₂ Binary64.IsNatural ns values ∧ ns.sum ≤ 2 ^ 53

section Counts

variable {values values' : List Binary64} {ns : List ℕ}

theorem foldl_add_ofNat (h : List.Forall₂ Binary64.IsNatural ns values) {m : ℕ}
    (hm : m + ns.sum ≤ 2 ^ 53) :
    values.foldl Binary64.add (.ofNat m) = .ofNat (m + ns.sum) := by
  induction h generalizing m with
  | nil => rw [List.foldl_nil, List.sum_nil, Nat.add_zero]
  | cons hx _ ih =>
    rw [List.sum_cons, ← Nat.add_assoc] at hm ⊢
    rw [List.foldl_cons, hx.ofNat_add (by omega), ih hm]

theorem total_eq_ofNat (h : List.Forall₂ Binary64.IsNatural ns values) (hsum : ns.sum ≤ 2 ^ 53) :
    total values = .ofNat ns.sum := by
  rw [total, ← Binary64.ofNat_zero, foldl_add_ofNat h (by omega), Nat.zero_add]

theorem IsCounts.total_eq_of_perm (hcounts : IsCounts values) (h : values.Perm values') :
    total values = total values' := by
  obtain ⟨ns, hns, hsum⟩ := hcounts
  obtain ⟨ns', hns', hperm⟩ := List.perm_comp_forall₂ h.symm (List.Forall₂.flip hns)
  rw [total_eq_ofNat hns hsum, total_eq_ofNat hns'.flip (hperm.sum_eq.trans_le hsum),
    hperm.sum_eq]

end Counts

/-! ## The largest -/

section Largest

theorem exists_foldl_max (x : Finite) (xs : List Finite) :
    ∃ y ∈ x :: xs, (xs.map Binary64.finite).foldl Binary64.max (.finite x) = .finite y ∧
      ∀ z ∈ x :: xs, z.signedUnits ≤ y.signedUnits := by
  induction xs generalizing x with
  | nil => exact ⟨x, by simp, rfl, by simp⟩
  | cons x' xs ih =>
    have hmax : ∃ w : Finite, (w = x ∨ w = x') ∧
        (Binary64.finite x).max (.finite x') = .finite w ∧
        x.signedUnits ≤ w.signedUnits ∧ x'.signedUnits ≤ w.signedUnits := by
      unfold Binary64.max Binary64.lt
      split_ifs with hlt
      · exact ⟨x', .inr rfl, rfl, (of_decide_eq_true hlt).le, le_rfl⟩
      · exact ⟨x, .inl rfl, rfl, le_rfl, not_lt.1 fun h => hlt (decide_eq_true h)⟩
    obtain ⟨w, hw, hmax, hx, hx'⟩ := hmax
    obtain ⟨y, hy, hfold, hle⟩ := ih w
    have hwy := hle w List.mem_cons_self
    refine ⟨y, ?_, by rw [List.map_cons, List.foldl_cons, hmax, hfold], ?_⟩
    · rcases List.mem_cons.1 hy with rfl | hy
      · rcases hw with rfl | rfl <;> simp
      · simp [hy]
    · intro z hz
      simp only [List.mem_cons] at hz
      rcases hz with rfl | rfl | hz
      · exact hx.trans hwy
      · exact hx'.trans hwy
      · exact hle z (List.mem_cons_of_mem _ hz)

variable {values values' : List Binary64}

/-- The largest of finite values is one that no other is above. -/
theorem exists_largest (hne : values ≠ []) (h : ∀ v ∈ values, v.isFinite = true) :
    ∃ y, Binary64.finite y ∈ values ∧ largest values = .finite y ∧
      ∀ z, Binary64.finite z ∈ values → z.signedUnits ≤ y.signedUnits := by
  have hlift : values ∈ Set.range (List.map Binary64.finite) := by
    rw [Set.range_list_map]
    intro v hv
    cases v with
    | finite x => exact ⟨x, rfl⟩
    | _ => cases h _ hv
  obtain ⟨xs, rfl⟩ := hlift
  cases xs with
  | nil => exact absurd rfl hne
  | cons x xs =>
    obtain ⟨y, hy, hfold, hle⟩ := exists_foldl_max x xs
    refine ⟨y, List.mem_map_of_mem hy, hfold, fun z hz => hle z ?_⟩
    simpa using hz

theorem same_largest_of_perm (hne : values ≠ []) (hfinite : ∀ v ∈ values, v.isFinite = true)
    (h : values.Perm values') : (largest values).same (largest values') = true := by
  have hne' : values' ≠ [] := fun hnil => hne (List.perm_nil.1 (hnil ▸ h))
  obtain ⟨y, hy, hlargest, hle⟩ := exists_largest hne hfinite
  obtain ⟨y', hy', hlargest', hle'⟩ :=
    exists_largest hne' fun v hv => hfinite v (h.mem_iff.2 hv)
  have heq : y.signedUnits = y'.signedUnits :=
    (hle' y (h.mem_iff.1 hy)).antisymm (hle y' (h.mem_iff.2 hy'))
  rw [hlargest, hlargest', Binary64.same, beq_iff_eq, heq]

end Largest

end LoadTest
