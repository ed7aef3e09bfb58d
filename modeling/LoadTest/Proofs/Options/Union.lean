import LoadTest.Options.Schedule
import LoadTest.Proofs.Entries
import Mathlib.Tactic.SplitIfs

/-!
# Options from two sides

The options of a test are those of its type with those of its executor laid over them: an ordered
union in which the executor wins (`TestConfig.isUnion_options`). Both sides have distinct names, and
which names an executor brings does not depend on the configuration (`names_executorOptions`).

A breakpoint test names an executor of its own. It gives way to the one that was chosen, in its
place at the front.
-/

namespace LoadTest

/-! ## Unions -/

namespace Entries

variable {β : Type} {first later : Entries β}

/-- The entries of `first`, each in its place, and behind them the new ones of `later`. Where both
have a name, the value of `later` counts. -/
structure IsUnion (first later union : Entries β) : Prop where
  distinct : union.names.Nodup
  names : union.names = first.names ++ later.names.filter fun name => name ∉ first.names
  ofLater : ∀ entry ∈ later, union.get? entry.1 = some entry.2
  ofFirst : ∀ entry ∈ first, entry.1 ∉ later.names → union.get? entry.1 = some entry.2

theorem isUnion_override (hfirst : first.names.Nodup) (hlater : later.names.Nodup) :
    IsUnion first later (first.override later) where
  distinct := nodup_names_override hfirst
  names := names_override hlater
  ofLater entry hentry := by
    rw [get?_override hlater, get?_of_mem hlater hentry, Option.some_or]
  ofFirst entry hentry hnew := by
    rw [get?_override hlater, get?_eq_none hnew, Option.none_or, get?_of_mem hfirst hentry]

end Entries

/-! ## Names of options -/

theorem TestType.nodup_names_options (t : TestType) : t.options.names.Nodup := by
  cases t <;> simp [options, Entries.names]

/-- What an executor is told, in order. -/
def Executor.optionNames : Executor → List String
  | .sharedIterations | .perVuIterations => ["executor", "vus", "iterations"]
  | .constantVus => ["executor", "vus", "duration"]
  | .rampingVus => ["executor", "startVUs", "stages"]
  | .constantArrivalRate =>
    ["executor", "rate", "timeUnit", "duration", "preAllocatedVUs", "maxVUs"]
  | .rampingArrivalRate =>
    ["executor", "startRate", "timeUnit", "preAllocatedVUs", "maxVUs", "stages"]

namespace TestConfig

variable {c : TestConfig}

theorem names_executorOptions (c : TestConfig) :
    c.executorOptions.names = c.executor.optionNames := by
  unfold executorOptions
  cases c.executor <;> rfl

theorem nodup_names_executorOptions (c : TestConfig) : c.executorOptions.names.Nodup := by
  rw [names_executorOptions]
  cases c.executor <;> decide

theorem options_of_ne_custom (htype : c.testType ≠ .custom) :
    c.options = c.testType.options.override c.executorOptions :=
  if_neg htype

theorem nodup_names_options (c : TestConfig) : c.options.names.Nodup := by
  unfold options
  split_ifs
  · exact List.nodup_nil
  · exact Entries.nodup_names_override c.testType.nodup_names_options

/-- The options of the executor are laid over those of the test type, and the executor that the
options name is the chosen one. -/
theorem isUnion_options (htype : c.testType ≠ .custom) :
    c.testType.options.IsUnion c.executorOptions c.options ∧
      c.options.get? "executor" = some (.text c.executor.id) := by
  have hunion : c.testType.options.IsUnion c.executorOptions c.options := by
    rw [options_of_ne_custom htype]
    exact Entries.isUnion_override c.testType.nodup_names_options c.nodup_names_executorOptions
  exact ⟨hunion, hunion.ofLater ("executor", _) List.mem_cons_self⟩

/-- The executor keeps the place that the test type gave it, and the stages of the test type are
left over. -/
theorem isUnion_options_breakpoint :
    (plain .breakpoint .constantVus .get "http://h").testType ≠ .custom ∧
      (plain .breakpoint .constantVus .get "http://h").options.names =
        ["executor", "startRate", "timeUnit", "preAllocatedVUs", "maxVUs", "stages", "vus",
          "duration"] ∧
      (plain .breakpoint .constantVus .get "http://h").options.get? "executor" =
        some (.text "constant-vus") := by
  have htype : (plain .breakpoint .constantVus .get "http://h").testType ≠ .custom := by decide
  obtain ⟨hunion, hexecutor⟩ := isUnion_options htype
  exact ⟨htype, hunion.names.trans (by decide), hexecutor⟩

end TestConfig

end LoadTest
