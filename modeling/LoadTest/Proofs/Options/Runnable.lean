import LoadTest.Proofs.Options.Union
import LoadTest.Proofs.Text.White

/-!
# Options that can be run

Whatever a configuration leaves out or fills in with nothing, its executor is told counts of at
least one, durations with nothing around them, and at least one stage
(`TestConfig.isRunnable_executorOptions`). Unless the configuration says how many VUs there are at
most, there are enough for those allocated ahead, and twice as many if their number is given
(`le_maxVusOr`). Doubling stops at the largest number of 32 bits (`toNat_twice`).
-/

namespace LoadTest

open Json (Value)

/-! ## Values -/

/-- A whole number of that many bits that is not zero. -/
def IsCount (bits : ℕ) (v : Value) : Prop :=
  ∃ n : UInt64, v = .number (.natural n) ∧ 1 ≤ n.toNat ∧ n.toNat < 2 ^ bits

/-- A text that is not empty and has no white space at either end. -/
def IsTrimmedText (v : Value) : Prop :=
  ∃ s : String, v = .text s ∧ s ≠ "" ∧ (∀ ch, s.toList.head? = some ch → isWhite ch = false) ∧
    ∀ ch, s.toList.getLast? = some ch → isWhite ch = false

/-- These stages in their order, with their texts and targets. -/
def IsSchedule (stages : List Stage) (v : Value) : Prop :=
  v = .array (stages.map fun stage =>
    .object [("duration", .text stage.duration), ("target", .ofUInt32 stage.target)])

theorem isCount_ofUInt32 {n : UInt32} (h : n ≠ 0) : IsCount 32 (.ofUInt32 n) := by
  refine ⟨n.toUInt64, rfl, ?_, ?_⟩
  · rw [UInt32.toNat_toUInt64]
    exact Nat.pos_of_ne_zero fun hzero => h (UInt32.toNat_inj.1 hzero)
  · rw [UInt32.toNat_toUInt64]
    exact n.toNat_lt

theorem isCount_ofUInt64 {n : UInt64} (h : n ≠ 0) : IsCount 64 (.ofUInt64 n) :=
  ⟨n, rfl, Nat.pos_of_ne_zero fun hzero => h (UInt64.toNat_inj.1 hzero), n.toNat_lt⟩

theorem isTrimmedText_text {s : String} (hne : s ≠ "")
    (h : ∀ ch ∈ s.toList, isWhite ch = false) : IsTrimmedText (.text s) :=
  ⟨s, rfl, hne, fun ch hch => h ch (List.mem_of_mem_head? hch),
    fun ch hch => h ch (List.mem_of_getLast? hch)⟩

namespace TestConfig

/-! ## What stands for a field that is left out -/

/-- Zero counts as left out. -/
theorem getD_filter_ne {α : Type} [DecidableEq α] {zero fallback : α} (n : Option α)
    (h : fallback ≠ zero) : (n.filter fun n => n != zero).getD fallback ≠ zero := by
  cases n with
  | none => exact h
  | some n =>
    rw [Option.filter_some]
    split_ifs with hn
    · exact bne_iff_ne.1 hn
    · exact h

theorem isTrimmedText_nonBlank (s : Option String) {fallback : String}
    (h : IsTrimmedText (.text fallback)) : IsTrimmedText (.text ((nonBlank s).getD fallback)) := by
  cases hs : nonBlank s with
  | none => exact h
  | some t =>
    obtain ⟨hmap, hempty⟩ := Option.filter_eq_some_iff.1 hs
    obtain ⟨raw, rfl, rfl⟩ := Option.map_eq_some_iff.1 hmap
    have hchars : (trimmed raw).toList = trimChars raw.toList := String.toList_ofList
    refine ⟨trimmed raw, rfl, fun hnil => ?_, fun ch hch => ?_, fun ch hch => ?_⟩
    · simp [hnil] at hempty
    · exact not_isWhite_head (hchars ▸ hch)
    · exact not_isWhite_last (hchars ▸ hch)

theorem toNat_twice (n : UInt32) : (twice n).toNat = min (2 * n.toNat) (2 ^ 32 - 1) := by
  unfold twice
  rw [UInt32.toNat_ofNat']
  omega

theorem nonZero32_eq_none {n : Option UInt32} : nonZero32 n = none ↔ n = none ∨ n = some 0 := by
  cases n <;> simp [nonZero32, Option.filter]

theorem nonZero32_some {n : UInt32} (h : n ≠ 0) : nonZero32 (some n) = some n := by
  simp [nonZero32, h]

/-- What is allocated ahead, and the most there may be if the configuration does not say. -/
theorem le_maxVusOr {c : TestConfig} {fallback : UInt32} (hfallback : 10 ≤ fallback.toNat)
    (h : c.maxVus = none ∨ c.maxVus = some 0) :
    ((nonZero32 c.preAllocatedVus).getD 10).toNat ≤ (c.maxVusOr fallback).toNat ∧
      ∀ n, c.preAllocatedVus = some n → n ≠ 0 →
        (c.maxVusOr fallback).toNat = min (2 * n.toNat) (2 ^ 32 - 1) := by
  unfold maxVusOr
  rw [nonZero32_eq_none.2 h, Option.getD_none]
  constructor
  · cases nonZero32 c.preAllocatedVus with
    | none => exact hfallback
    | some n =>
      have hn := n.toNat_lt
      rw [Option.getD_some, Option.map_some, Option.getD_some, toNat_twice]
      omega
  · intro n hahead hn
    rw [hahead, nonZero32_some hn, Option.map_some, Option.getD_some, toNat_twice]

theorem maxVusOr_ne_zero (c : TestConfig) {fallback : UInt32} (h : 10 ≤ fallback.toNat) :
    c.maxVusOr fallback ≠ 0 := by
  cases hmost : nonZero32 c.maxVus with
  | none =>
    have hle := (le_maxVusOr h (nonZero32_eq_none.1 hmost)).1
    have hahead : (nonZero32 c.preAllocatedVus).getD 10 ≠ 0 := getD_filter_ne _ (by decide)
    intro hzero
    rw [hzero] at hle
    exact hahead (UInt32.toNat_inj.1 (Nat.le_zero.1 hle))
  | some most =>
    unfold maxVusOr
    rw [hmost]
    simpa using (Option.filter_eq_some_iff.1 hmost).2

/-! ## Entries -/

/-- What an executor can run with, whichever field the entry is. Given stages are kept. -/
structure IsRunnable (c : TestConfig) (entry : String × Value) : Prop where
  count : entry.1 ∈ ["vus", "preAllocatedVUs", "maxVUs"] → IsCount 32 entry.2
  longCount : entry.1 ∈ ["iterations", "rate"] → IsCount 64 entry.2
  text : entry.1 ∈ ["duration", "timeUnit"] → IsTrimmedText entry.2
  stages : entry.1 = "stages" → ∃ stages, IsSchedule stages entry.2 ∧ stages ≠ [] ∧
    (c.stages ≠ [] → stages = c.stages)

section Entries

variable {c : TestConfig} {name : String} {v : Value}

theorem isRunnable_of_other (h : name ∈ ["executor", "startVUs", "startRate"]) :
    IsRunnable c (name, v) := by
  simp only [List.mem_cons, List.not_mem_nil, or_false] at h
  rcases h with rfl | rfl | rfl <;> exact ⟨by simp, by simp, by simp, by simp⟩

theorem isRunnable_count (hname : name ∈ ["vus", "preAllocatedVUs", "maxVUs"])
    (h : IsCount 32 v) : IsRunnable c (name, v) := by
  simp only [List.mem_cons, List.not_mem_nil, or_false] at hname
  rcases hname with rfl | rfl | rfl <;> exact ⟨fun _ => h, by simp, by simp, by simp⟩

theorem isRunnable_longCount (hname : name ∈ ["iterations", "rate"]) (h : IsCount 64 v) :
    IsRunnable c (name, v) := by
  simp only [List.mem_cons, List.not_mem_nil, or_false] at hname
  rcases hname with rfl | rfl <;> exact ⟨by simp, fun _ => h, by simp, by simp⟩

theorem isRunnable_text (hname : name ∈ ["duration", "timeUnit"]) (h : IsTrimmedText v) :
    IsRunnable c (name, v) := by
  simp only [List.mem_cons, List.not_mem_nil, or_false] at hname
  rcases hname with rfl | rfl <;> exact ⟨by simp, by simp, fun _ => h, by simp⟩

theorem isRunnable_stagesOr {fallback : List Stage} (h : fallback ≠ []) :
    IsRunnable c ("stages", c.stagesOr fallback) := by
  refine ⟨by simp, by simp, by simp, fun _ => ⟨_, rfl, ?_⟩⟩
  split_ifs with hempty
  · rw [List.isEmpty_iff] at hempty
    exact ⟨h, fun hne => absurd hempty hne⟩
  · rw [List.isEmpty_iff] at hempty
    exact ⟨hempty, fun _ => rfl⟩

end Entries

variable (c : TestConfig)

theorem isRunnable_vus : IsRunnable c ("vus", c.vusValue) :=
  isRunnable_count (by decide) (isCount_ofUInt32 (getD_filter_ne _ (by decide)))

theorem isRunnable_timeUnit : IsRunnable c ("timeUnit", c.timeUnitValue) :=
  isRunnable_text (by decide)
    (isTrimmedText_nonBlank _ (isTrimmedText_text (by decide) (by decide)))

theorem isRunnable_preAllocated : IsRunnable c ("preAllocatedVUs", c.preAllocatedValue) :=
  isRunnable_count (by decide) (isCount_ofUInt32 (getD_filter_ne _ (by decide)))

theorem isRunnable_maxVus {fallback : UInt32} (h : 10 ≤ fallback.toNat) :
    IsRunnable c ("maxVUs", .ofUInt32 (c.maxVusOr fallback)) :=
  isRunnable_count (by decide) (isCount_ofUInt32 (c.maxVusOr_ne_zero h))

theorem isRunnable_iterations {fallback : UInt64} (h : fallback ≠ 0) :
    IsRunnable c ("iterations", c.iterationsValue fallback) :=
  isRunnable_longCount (by decide) (isCount_ofUInt64 (getD_filter_ne _ h))

theorem isRunnable_duration {fallback : String} (hne : fallback ≠ "")
    (h : ∀ ch ∈ fallback.toList, isWhite ch = false) :
    IsRunnable c ("duration", c.durationValue fallback) :=
  isRunnable_text (by decide) (isTrimmedText_nonBlank _ (isTrimmedText_text hne h))

theorem isRunnable_of_mem_schedule (e : Executor) : ∀ entry ∈ c.schedule e, IsRunnable c entry := by
  cases e with
  | sharedIterations | perVuIterations =>
    simp only [schedule, List.forall_mem_cons]
    exact ⟨c.isRunnable_vus, c.isRunnable_iterations (by decide), by simp⟩
  | constantVus =>
    simp only [schedule, List.forall_mem_cons]
    exact ⟨c.isRunnable_vus, c.isRunnable_duration (by decide) (by decide), by simp⟩
  | rampingVus =>
    simp only [schedule, List.forall_mem_cons]
    exact ⟨isRunnable_of_other (by decide), isRunnable_stagesOr (by decide), by simp⟩
  | constantArrivalRate =>
    simp only [schedule, List.forall_mem_cons]
    exact ⟨isRunnable_longCount (by decide) (isCount_ofUInt64 (getD_filter_ne _ (by decide))),
      c.isRunnable_timeUnit, c.isRunnable_duration (by decide) (by decide),
      c.isRunnable_preAllocated, c.isRunnable_maxVus (by decide), by simp⟩
  | rampingArrivalRate =>
    simp only [schedule, List.forall_mem_cons]
    exact ⟨isRunnable_of_other (by decide), c.isRunnable_timeUnit, c.isRunnable_preAllocated,
      c.isRunnable_maxVus (by decide), isRunnable_stagesOr (by decide), by simp⟩

/-- Only the executors that hold a rate are told how many VUs there are at most. -/
theorem exists_of_mem_maxVus {v : Value} (h : ("maxVUs", v) ∈ c.executorOptions) :
    ("preAllocatedVUs", c.preAllocatedValue) ∈ c.executorOptions ∧
      ∃ fallback : UInt32, 10 ≤ fallback.toNat ∧ v = .ofUInt32 (c.maxVusOr fallback) := by
  unfold executorOptions at h ⊢
  cases hexecutor : c.executor with
  | sharedIterations | perVuIterations | constantVus | rampingVus =>
    simp [hexecutor, schedule] at h
  | constantArrivalRate =>
    refine ⟨by simp [schedule], 20, by decide, ?_⟩
    simpa [hexecutor, schedule] using h
  | rampingArrivalRate =>
    refine ⟨by simp [schedule], 50, by decide, ?_⟩
    simpa [hexecutor, schedule] using h

/-- An executor is told its own fields and can run with them. If the configuration does not say how
many VUs there are at most, they are enough for those allocated ahead. -/
theorem isRunnable_executorOptions (c : TestConfig) :
    c.executorOptions.names = c.executor.optionNames ∧
      (∀ entry ∈ c.executorOptions, IsRunnable c entry) ∧
      (c.maxVus = none ∨ c.maxVus = some 0 → ∀ v, ("maxVUs", v) ∈ c.executorOptions →
        ∃ ahead most : UInt64,
          ("preAllocatedVUs", .number (.natural ahead)) ∈ c.executorOptions ∧
            v = .number (.natural most) ∧ ahead ≤ most ∧
            ∀ n, c.preAllocatedVus = some n → n ≠ 0 →
              most.toNat = min (2 * n.toNat) (2 ^ 32 - 1)) := by
  refine ⟨c.names_executorOptions, fun entry hentry => ?_, fun hmost v hv => ?_⟩
  · rcases List.mem_cons.1 hentry with rfl | hentry
    · exact isRunnable_of_other (by decide)
    · exact c.isRunnable_of_mem_schedule c.executor entry hentry
  · obtain ⟨hahead, fallback, hfallback, rfl⟩ := c.exists_of_mem_maxVus hv
    obtain ⟨hle, htwice⟩ := le_maxVusOr hfallback hmost
    refine ⟨_, _, hahead, rfl, ?_, fun n hn hne => ?_⟩
    · rw [UInt64.le_iff_toNat_le, UInt32.toNat_toUInt64, UInt32.toNat_toUInt64]
      exact hle
    · rw [UInt32.toNat_toUInt64]
      exact htwice n hn hne

/-- Twice the largest count is the largest count. -/
example : { plain .smoke .rampingArrivalRate .get "http://h" with
    preAllocatedVus := some 4294967295, maxVus := some 0 }.executorOptions.get? "maxVUs" =
      some (.number (.natural 4294967295)) := by
  rfl

end TestConfig

end LoadTest
