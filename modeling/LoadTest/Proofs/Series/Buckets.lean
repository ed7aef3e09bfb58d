import LoadTest.Series.Aggregator
import Mathlib.Algebra.Order.Group.Int
import Mathlib.Tactic.SplitIfs

/-!
# Buckets in order

The times of buckets ascend, and go on to do so when one of them changes (`ascending_update`). A
change is made to one bucket only, which starts empty if there is none at that time (`mem_update`).
-/

namespace LoadTest.Buckets

variable {time t : ℤ} {f : Bucket → Bucket} {b : Bucket} {buckets : Buckets}

/-- The times of the buckets. -/
def times (buckets : Buckets) : List ℤ :=
  buckets.map Prod.fst

/-- Every time is before those behind it. -/
def Ascending (buckets : Buckets) : Prop :=
  buckets.times.Pairwise (· < ·)

theorem ascending_cons {entry : ℤ × Bucket} {rest : Buckets} :
    Ascending (entry :: rest) ↔ (∀ t ∈ times rest, entry.1 < t) ∧ Ascending rest := by
  simp only [Ascending, times, List.map_cons, List.pairwise_cons]

theorem mem_times : t ∈ buckets.times ↔ ∃ b, (t, b) ∈ buckets := by
  simp [times]

theorem mem_times_update : t ∈ (buckets.update time f).times ↔ t = time ∨ t ∈ buckets.times := by
  induction buckets with
  | nil => simp [update, times]
  | cons entry rest ih =>
    obtain ⟨s, b⟩ := entry
    simp only [times] at ih ⊢
    rw [update]
    split_ifs with hlt heq
    · simp only [List.map_cons, List.mem_cons]
    · simp only [List.map_cons, List.mem_cons, heq, or_self_left]
    · simp only [List.map_cons, List.mem_cons, ih]
      exact or_left_comm

theorem ascending_update (h : buckets.Ascending) : (buckets.update time f).Ascending := by
  induction buckets with
  | nil => simp [update, Ascending, times]
  | cons entry rest ih =>
    obtain ⟨s, b⟩ := entry
    obtain ⟨hs, hrest⟩ := ascending_cons.1 h
    rw [update]
    split_ifs with hlt heq
    · refine ascending_cons.2 ⟨fun t ht => ?_, h⟩
      rcases List.mem_cons.1 ht with rfl | ht
      · exact hlt
      · exact hlt.trans (hs t ht)
    · exact ascending_cons.2 ⟨hs, hrest⟩
    · refine ascending_cons.2 ⟨fun t ht => ?_, ih hrest⟩
      rcases mem_times_update.1 ht with rfl | ht
      · simp only []
        omega
      · exact hs t ht

theorem notMem_times_of_lt {entry : ℤ × Bucket} {rest : Buckets} (h : Ascending (entry :: rest))
    (hlt : time < entry.1) : time ∉ times (entry :: rest) := by
  intro hmem
  rcases List.mem_cons.1 hmem with rfl | hmem
  · exact lt_irrefl _ hlt
  · exact lt_asymm hlt ((ascending_cons.1 h).1 _ hmem)

/-- What stands in the buckets after a change. -/
theorem mem_update (h : buckets.Ascending) (hmem : (t, b) ∈ buckets.update time f) :
    (t ≠ time ∧ (t, b) ∈ buckets) ∨
      (t = time ∧ ∃ old, b = f old ∧
        ((time, old) ∈ buckets ∨ old = .empty ∧ time ∉ buckets.times)) := by
  induction buckets with
  | nil =>
    simp only [update, List.mem_singleton, Prod.mk.injEq] at hmem
    exact .inr ⟨hmem.1, .empty, hmem.2, .inr ⟨rfl, by simp [times]⟩⟩
  | cons entry rest ih =>
    obtain ⟨s, old⟩ := entry
    obtain ⟨hs, hrest⟩ := ascending_cons.1 h
    rw [update] at hmem
    split_ifs at hmem with hlt heq
    · have hnone := notMem_times_of_lt h hlt
      rcases List.mem_cons.1 hmem with hnew | hkept
      · obtain ⟨rfl, rfl⟩ := Prod.mk.inj hnew
        exact .inr ⟨rfl, .empty, rfl, .inr ⟨rfl, hnone⟩⟩
      · refine .inl ⟨?_, hkept⟩
        rintro rfl
        exact hnone (mem_times.2 ⟨_, hkept⟩)
    · rcases List.mem_cons.1 hmem with hnew | hmem
      · obtain ⟨rfl, rfl⟩ := Prod.mk.inj hnew
        exact .inr ⟨heq.symm, old, rfl, .inl (by rw [heq]; exact List.mem_cons_self)⟩
      · have hlt : s < t := hs t (mem_times.2 ⟨_, hmem⟩)
        exact .inl ⟨by omega, List.mem_cons_of_mem _ hmem⟩
    · rcases List.mem_cons.1 hmem with hkept | hmem
      · obtain ⟨rfl, rfl⟩ := Prod.mk.inj hkept
        exact .inl ⟨Ne.symm heq, List.mem_cons_self⟩
      · rcases ih hrest hmem with ⟨hne, hold⟩ | ⟨rfl, before, rfl, hold | ⟨rfl, hnone⟩⟩
        · exact .inl ⟨hne, List.mem_cons_of_mem _ hold⟩
        · exact .inr ⟨rfl, before, rfl, .inl (List.mem_cons_of_mem _ hold)⟩
        · refine .inr ⟨rfl, .empty, rfl, .inr ⟨rfl, fun ht => ?_⟩⟩
          rcases List.mem_cons.1 ht with ht | ht
          · exact heq ht
          · exact hnone ht

end LoadTest.Buckets
