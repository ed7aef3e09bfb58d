import LoadTest.Proofs.Report.Recovery
import LoadTest.Proofs.Report.RoundTrip
import LoadTest.Proofs.Report.Size

/-!
# Reports whose metrics are finite

A number of up to 302 digits before its point is a finite double, and so is what is made of it: a
duration times a thousand, and what is missing to a hundred, which is a million times as large for a
moment. Such reports give metrics that all have a spelling (`isFinite_summary`).
-/

namespace LoadTest.Report

open Scan

variable {raw t : List Char} {x : Binary64}

/-- So many steps of the doubles that are furthest apart. -/
def steps (k : ℕ) : ℕ :=
  k * 2 ^ 971 * Binary64.one

theorem isMagnitude_steps {k : ℕ} (hk : k < 2 ^ 53) : Binary64.IsMagnitude (steps k) :=
  Binary64.isMagnitude_mul_one hk le_rfl

theorem steps_mul (k n : ℕ) : steps k * (n * Binary64.one) = steps (k * n) * Binary64.one := by
  have hswap : ∀ step one : ℕ, k * step * one * (n * one) = k * n * step * one * one := by
    intro step one
    ring
  exact hswap _ _

theorem pow_le_steps : 10 ^ 302 * Binary64.one ≤ steps (2 ^ 33) :=
  Nat.mul_le_mul_right _ (by decide +kernel)

theorem le_steps {k n : ℕ} (h : n ≤ k) : n * Binary64.one ≤ steps k := by
  have hpow : ∀ e, k ≤ k * 2 ^ e := fun e => Nat.le_mul_of_pos_right k (Nat.two_pow_pos e)
  exact Nat.mul_le_mul_right _ (h.trans (hpow 971))

/-! ## Numbers -/

theorem within_amount? (ht : IsNumeral 302 t) (h : amount? t = some x) :
    x.Within (steps (2 ^ 33)) ∧ x.isNegative = false :=
  ht.within (isMagnitude_steps (by decide)) pow_le_steps h

theorem isFinite_amount? (ht : IsNumeral 302 t) (h : amount? t = some x) : x.isFinite = true :=
  (within_amount? ht h).1.isFinite

theorem within_mul_ofNat {k n : ℕ} (hx : x.Within (steps k)) (hn : n ≤ 2 ^ 53)
    (hk : k * n < 2 ^ 53) : (x.mul (.ofNat n)).Within (steps (k * n)) := by
  obtain ⟨y, hy, -, hunits⟩ := Binary64.ofNat_eq_finite hn
  exact hx.mul (isMagnitude_steps hk) ⟨y, hy, hunits.le⟩ (steps_mul k n).le

theorem isFinite_reported? (ht : IsDuration 302 t) (h : Duration.reported? t = some x) :
    x.isFinite = true := by
  obtain ⟨number, unit, hnumber, hunit, rfl⟩ := ht
  have hstops : Stops Duration.isReportDigit unit := by
    simp only [List.mem_cons, List.not_mem_nil, or_false] at hunit
    rcases hunit with rfl | rfl <;> exact (show Duration.isReportDigit _ = false by decide)
  unfold Duration.reported? at h
  rw [takeWhile_append_stops hnumber.2 hstops] at h
  simp only [] at h
  split at h
  · cases h
  split at h
  · exact isFinite_amount? hnumber h
  · obtain ⟨y, hy, rfl⟩ := Option.map_eq_some_iff.1 h
    have hwithin := (within_amount? hnumber hy).1
    exact (within_mul_ofNat hwithin (by decide) (by decide)).isFinite
  · cases h

/-- What is missing to a hundred is as large as the percentage, or a hundred. -/
theorem isFinite_complement (hx : x.Within (steps (2 ^ 33))) (hsign : x.isNegative = false) :
    (complement x).isFinite = true := by
  obtain ⟨hundred, hhundred, hpositive, hunits⟩ :=
    Binary64.ofNat_eq_finite (show 100 ≤ 2 ^ 53 by decide)
  obtain ⟨million, hmillion, -, hmillionUnits⟩ :=
    Binary64.ofNat_eq_finite (show 1000000 ≤ 2 ^ 53 by decide)
  have hdifference : ((Binary64.ofNat 100).sub x).Within (steps (2 ^ 33)) := by
    refine Binary64.Within.sub (isMagnitude_steps (by decide)) ⟨hundred, hhundred, ?_⟩ hx ?_
    · exact hunits.le.trans (le_steps (by decide))
    · rw [hsign, hhundred, Binary64.isNegative, hpositive]
  have hscaled := within_mul_ofNat hdifference (show 1000000 ≤ 2 ^ 53 by decide) (by decide)
  have hmagnitude : Binary64.IsMagnitude (steps (2 ^ 33 * 1000000)) :=
    isMagnitude_steps (by decide)
  rw [complement]
  nth_rewrite 2 [hmillion]
  refine ((hscaled.round hmagnitude).div hmagnitude ?_).isFinite
  rw [hmillionUnits]
  exact Nat.le_mul_of_pos_left _ (by decide)

/-! ## Sections -/

theorem exists_of_mem_mapM {α β : Type} {f : α → Option β} {as : List α} {bs : List β}
    (h : as.mapM f = some bs) : ∀ b ∈ bs, ∃ a ∈ as, f a = some b := by
  induction as generalizing bs with
  | nil =>
    cases h
    simp
  | cons a as ih =>
    simp only [List.mapM_cons, Option.bind_eq_bind, Option.bind_eq_some_iff] at h
    obtain ⟨b, hb, bs', hbs', h⟩ := h
    cases h
    intro c hc
    rcases List.mem_cons.1 hc with rfl | hc
    · exact ⟨a, List.mem_cons_self, hb⟩
    · obtain ⟨d, hd, hread⟩ := ih hbs' c hc
      exact ⟨d, List.mem_cons_of_mem a hd, hread⟩

section Sections

variable (hraw : RunsWithin 302 raw)
include hraw

theorem isFinite_counter? (name : String) : ∀ c ∈ counter? name raw, c.rate.isFinite = true := by
  intro c hc
  simp only [counter?, Option.mem_def, Option.bind_eq_bind, Option.bind_eq_some_iff] at hc
  obtain ⟨⟨total, rate⟩, hfind, n, -, x, hx, hc⟩ := hc
  cases hc
  have hrate := find_ensures ensures_counter hraw hfind
  exact isFinite_amount? hrate hx

theorem isFinite_trend? (name : String) : ∀ s ∈ trend? name raw, s.IsFinite := by
  intro s hs
  simp only [trend?, Option.mem_def, Option.bind_eq_bind, Option.bind_eq_some_iff] at hs
  obtain ⟨texts, hfind, hs⟩ := hs
  have hdurations : ∀ t ∈ texts, IsDuration 302 t := find_ensures ensures_trend hraw hfind
  split at hs
  · rename_i hread
    cases hs
    intro x hx
    obtain ⟨t, ht, hreported⟩ := exists_of_mem_mapM hread x hx
    exact isFinite_reported? (hdurations t ht) hreported
  · cases hs

theorem isFinite_failureRate? : ∀ r ∈ failureRate? raw, r.percentage.isFinite = true := by
  intro r hr
  rw [Option.mem_def, failureRate?] at hr
  split at hr
  · rename_i hnewer
    cases hr
    simp only [Option.bind_eq_bind, Option.bind_eq_some_iff] at hnewer
    obtain ⟨⟨percentage, count, total⟩, hfind, x, hx, _, -, _, -, hr⟩ := hnewer
    cases hr
    have hpercentage := find_ensures ensures_share hraw hfind
    exact isFinite_amount? hpercentage hx
  · simp only [Option.bind_eq_bind, Option.bind_eq_some_iff] at hr
    obtain ⟨⟨percentage, failed, succeeded⟩, hfind, _, -, x, hx, _, -, hr⟩ := hr
    cases hr
    have hpercentage := find_ensures ensures_markedShare hraw hfind
    exact isFinite_amount? hpercentage hx

theorem within_checksShareOfSome? : ∀ x ∈ Layout.checksShareOfSome? raw,
    x.Within (steps (2 ^ 33)) ∧ x.isNegative = false := by
  intro x hx
  obtain ⟨⟨y, total⟩, hshare, rfl⟩ := Option.map_eq_some_iff.1 hx
  obtain ⟨hshare, -⟩ := Option.filter_eq_some_iff.1 hshare
  rw [checksShare?] at hshare
  split at hshare
  · rename_i hnewer
    cases hshare
    simp only [Option.bind_eq_bind, Option.bind_eq_some_iff] at hnewer
    obtain ⟨⟨percentage, part, total⟩, hfind, x, hread, _, -, hshare⟩ := hnewer
    cases hshare
    have hpercentage := find_ensures ensures_share hraw hfind
    exact within_amount? hpercentage hread
  · simp only [Option.bind_eq_bind, Option.bind_eq_some_iff] at hshare
    obtain ⟨⟨percentage, passed, failed⟩, hfind, x, hread, _, -, _, -, hshare⟩ := hshare
    cases hshare
    have hpercentage := find_ensures ensures_markedShare hraw hfind
    exact within_amount? hpercentage hread

theorem isFinite_individualChecks :
    ∀ c ∈ individualChecks raw, c.percentage.isFinite = true := by
  intro c hc
  obtain ⟨check, hcheck, hread⟩ := List.mem_filterMap.1 hc
  simp only [RawCheck.read?, Option.bind_eq_bind, Option.bind_eq_some_iff] at hread
  obtain ⟨x, hx, _, -, _, -, hread⟩ := hread
  cases hread
  exact isFinite_amount? (isNumeral_of_mem_rawChecks hraw check hcheck) hx

theorem isFinite_fillAll : (fillAll raw .empty sections).IsFinite := by
  rw [Layout.fillAll_sections]
  have hshare := within_checksShareOfSome? hraw
  constructor
  case checksSucceeded => exact fun x hx => (hshare x hx).1.isFinite
  case checksFailed =>
    intro y hy
    obtain ⟨x, hx, rfl⟩ := Option.map_eq_some_iff.1 hy
    exact isFinite_complement (hshare x hx).1 (hshare x hx).2
  case individualChecks => exact isFinite_individualChecks hraw
  case httpReqDuration => exact isFinite_trend? hraw _
  case httpReqFailed =>
    exact fun r hr => isFinite_failureRate? hraw r (Option.filter_eq_some_iff.1 hr).1
  case httpReqs => exact isFinite_counter? hraw _
  case iterationDuration => exact isFinite_trend? hraw _
  case iterations => exact isFinite_counter? hraw _

end Sections

/-- Every double of the metrics is finite where no run of digits is longer than 302. -/
theorem isFinite_summary {raw : String} (hraw : RunsWithin 302 raw.toList) :
    (summary raw).IsFinite := by
  unfold summary
  split_ifs
  · constructor <;> rintro x ⟨⟩
  · exact isFinite_fillAll hraw

end LoadTest.Report
