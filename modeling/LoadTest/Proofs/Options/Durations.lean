import LoadTest.Options.Schedule
import LoadTest.Proofs.Duration
import LoadTest.Proofs.Entries
import LoadTest.Validation
import Mathlib.Tactic.SplitIfs

/-!
# Durations of options

Durations stand in the entries `duration` and `timeUnit` and in every stage (`IsTimed`). If a
configuration has no issues, all of those in its options are accepted, whether they are given, stand
for what is left out, or come with the test type (`TestConfig.isTimed_options`).

A text is checked as it is given, and written without the white space around it. That comes to the
same, since a literal has no white space (`Duration.trimmed_of_isLiteral`).
-/

namespace LoadTest

open Json (Value)

/-! ## Literals -/

namespace Duration

theorem not_isWhite_of_split {cs : List Char} {parts : List Char × Unit}
    (h : split? cs = some parts) : ∀ c ∈ cs, isWhite c = false := by
  obtain ⟨whole, fraction, letters, hparts⟩ := split?_eq_some h
  intro c hc
  rw [hparts.eq_append, List.mem_append] at hc
  rcases hc with hc | hc
  · exact not_isWhite_of_isReportDigit (hparts.isReportDigit_number c hc)
  · exact (not_digit_of_unit hparts.ofChars? c hc).1

theorem trimmed_of_isLiteral {literal : String} (h : isLiteral literal = true) :
    trimmed literal = literal := by
  obtain ⟨parts, hparts⟩ := Option.isSome_iff_exists.1 h
  rw [trimmed, trimChars_eq_self (not_isWhite_of_split hparts), String.ofList_toList]

end Duration

/-! ## Entries -/

/-- A text that is accepted as a duration. -/
def IsDuration (v : Value) : Prop :=
  ∃ literal, v = .text literal ∧ Duration.isLiteral literal = true

/-- If durations belong into the entry, it holds those and they are accepted. -/
structure IsTimed (entry : String × Value) : Prop where
  single : entry.1 = "duration" ∨ entry.1 = "timeUnit" → IsDuration entry.2
  stages : entry.1 = "stages" → ∃ stages, entry.2 = .array stages ∧
    ∀ stage ∈ stages, ∃ v, stage.get? "duration" = some v ∧ IsDuration v

section Entries

variable {name literal : String} {v : Value} {stages : List Stage}

theorem isTimed_of_other (h : name ∉ ["duration", "timeUnit", "stages"]) : IsTimed (name, v) := by
  simp only [List.mem_cons, List.not_mem_nil, or_false, not_or] at h
  exact ⟨fun hname => absurd hname (not_or.2 ⟨h.1, h.2.1⟩), fun hname => absurd hname h.2.2⟩

theorem isTimed_text (hname : name ≠ "stages") (h : Duration.isLiteral literal = true) :
    IsTimed (name, .text literal) :=
  ⟨fun _ => ⟨literal, rfl, h⟩, fun hstages => absurd hstages hname⟩

theorem isTimed_stages (h : ∀ stage ∈ stages, Duration.isLiteral stage.duration = true) :
    IsTimed ("stages", Options.stagesValue stages) := by
  refine ⟨fun hname => absurd hname (by simp), fun _ => ⟨_, rfl, fun value hvalue => ?_⟩⟩
  obtain ⟨stage, hstage, rfl⟩ := List.mem_map.1 hvalue
  exact ⟨.text stage.duration, rfl, stage.duration, rfl, h stage hstage⟩

end Entries

theorem TestType.isTimed_of_mem_options (t : TestType) : ∀ entry ∈ t.options, IsTimed entry := by
  cases t with
  | smoke =>
    simp only [options, List.forall_mem_cons]
    exact ⟨isTimed_of_other (by decide), isTimed_text (by decide) (by decide), by simp⟩
  | averageLoad | stress | soak | spike =>
    simp only [options, List.forall_mem_cons]
    exact ⟨isTimed_stages (by decide), by simp⟩
  | breakpoint =>
    simp only [options, List.forall_mem_cons]
    exact ⟨isTimed_of_other (by decide), isTimed_of_other (by decide),
      isTimed_text (by decide) (by decide), isTimed_of_other (by decide),
      isTimed_of_other (by decide), isTimed_stages (by decide), by simp⟩
  | custom => simp [options]

namespace TestConfig

variable {c : TestConfig}

/-! ## Fields without issues -/

/-- A duration without issues is accepted, or stands for its default. -/
theorem isLiteral_nonBlank {field default : String} {duration : Option String}
    (hdefault : Duration.isLiteral default = true) (h : durationIssues field duration = []) :
    Duration.isLiteral ((nonBlank duration).getD default) = true := by
  cases duration with
  | none => exact hdefault
  | some literal =>
    simp only [durationIssues] at h
    unfold nonBlank
    rw [Option.map_some]
    cases hwhite : isWhiteText literal with
    | true =>
      have hempty := isEmpty_trimmed literal
      rw [hwhite] at hempty
      rw [Option.filter_some, hempty]
      exact hdefault
    | false =>
      have hempty := isEmpty_trimmed literal
      have hliteral : Duration.isLiteral literal = true := by simpa [hwhite] using h
      rw [hwhite] at hempty
      rw [Option.filter_some, hempty, Duration.trimmed_of_isLiteral hliteral]
      exact hliteral

theorem isLiteral_of_stageIssues {stages : List Stage} {index : ℕ}
    (h : stageIssues index stages = []) :
    ∀ stage ∈ stages, Duration.isLiteral stage.duration = true := by
  induction stages generalizing index with
  | nil => simp
  | cons first rest ih =>
    rw [stageIssues, List.append_eq_nil_iff] at h
    rw [List.forall_mem_cons]
    exact ⟨by simpa using h.1, ih h.2⟩

theorem isTimed_stagesOr {fallback : List Stage}
    (hfallback : ∀ stage ∈ fallback, Duration.isLiteral stage.duration = true)
    (h : stageIssues 0 c.stages = []) : IsTimed ("stages", c.stagesOr fallback) := by
  unfold stagesOr
  apply isTimed_stages
  split_ifs
  · exact hfallback
  · exact isLiteral_of_stageIssues h

theorem isTimed_schedule (h : c.executorIssues = []) :
    ∀ entry ∈ c.schedule c.executor, IsTimed entry := by
  unfold executorIssues at h
  cases hexecutor : c.executor with
  | sharedIterations | perVuIterations =>
    simp only [schedule, List.forall_mem_cons]
    exact ⟨isTimed_of_other (by decide), isTimed_of_other (by decide), by simp⟩
  | constantVus =>
    simp only [hexecutor] at h
    simp only [schedule, List.forall_mem_cons]
    exact ⟨isTimed_of_other (by decide),
      isTimed_text (by decide) (isLiteral_nonBlank (by decide) h), by simp⟩
  | rampingVus =>
    simp only [hexecutor] at h
    simp only [schedule, List.forall_mem_cons]
    exact ⟨isTimed_of_other (by decide), isTimed_stagesOr (by decide) h, by simp⟩
  | constantArrivalRate =>
    simp only [hexecutor, List.append_eq_nil_iff] at h
    simp only [schedule, List.forall_mem_cons]
    exact ⟨isTimed_of_other (by decide),
      isTimed_text (by decide) (isLiteral_nonBlank (by decide) h.2),
      isTimed_text (by decide) (isLiteral_nonBlank (by decide) h.1),
      isTimed_of_other (by decide), isTimed_of_other (by decide), by simp⟩
  | rampingArrivalRate =>
    simp only [hexecutor, List.append_eq_nil_iff] at h
    simp only [schedule, List.forall_mem_cons]
    exact ⟨isTimed_of_other (by decide),
      isTimed_text (by decide) (isLiteral_nonBlank (by decide) h.1),
      isTimed_of_other (by decide), isTimed_of_other (by decide),
      isTimed_stagesOr (by decide) h.2, by simp⟩

theorem executorIssues_eq_nil (htype : c.testType ≠ .custom) (h : c.issues = []) :
    c.executorIssues = [] := by
  rw [issues, if_neg htype, List.append_eq_nil_iff] at h
  exact h.2

theorem mem_options {entry : String × Value} (h : entry ∈ c.options) :
    c.testType ≠ .custom ∧ (entry ∈ c.testType.options ∨ entry ∈ c.executorOptions) := by
  unfold options at h
  split_ifs at h with hcustom
  · cases h
  · exact ⟨hcustom, Entries.mem_override h⟩

/-- A configuration without issues has options whose durations are accepted. -/
theorem isTimed_options (h : c.issues = []) : ∀ entry ∈ c.options, IsTimed entry := by
  intro entry hentry
  obtain ⟨htype, hentry | hentry⟩ := mem_options hentry
  · exact c.testType.isTimed_of_mem_options entry hentry
  · rcases List.mem_cons.1 hentry with rfl | hentry
    · exact isTimed_of_other (by decide)
    · exact isTimed_schedule (executorIssues_eq_nil htype h) entry hentry

/-- A blank duration stands for the default, and the stages come with the test type. -/
theorem isTimed_options_breakpoint :
    { plain .breakpoint .constantArrivalRate .get "http://h" with
        duration := some " ", timeUnit := some "1.5m" }.issues = [] ∧
      ∀ entry ∈ { plain .breakpoint .constantArrivalRate .get "http://h" with
        duration := some " ", timeUnit := some "1.5m" }.options, IsTimed entry := by
  have hissues : { plain .breakpoint .constantArrivalRate .get "http://h" with
      duration := some " ", timeUnit := some "1.5m" }.issues = [] := by decide +kernel
  exact ⟨hissues, isTimed_options hissues⟩

end TestConfig

end LoadTest
