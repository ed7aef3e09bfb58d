import LoadTest.Proofs.Config.RoundTrip
import LoadTest.Proofs.Json.Layout
import LoadTest.Proofs.Options.Durations
import LoadTest.Proofs.Options.Union
import LoadTest.Script.Basic

/-!
# Options in a script

Whatever the texts in a configuration are, its options are read back from its script, between
their two marks (`TestConfig.between?_script_options`). The text before the options is fixed, so the
first mark is the one that was put there. The second mark ends with an empty line, and no line of a
document is empty.
-/

namespace LoadTest

open Json (Value Layout)

/-! ## Options that can be read back -/

theorem fits_stagesValue (stages : List Stage) : (Options.stagesValue stages).Fits 2 := by
  refine Json.fits_array fun value hvalue => ?_
  obtain ⟨stage, -, rfl⟩ := List.mem_map.1 hvalue
  exact (Stage.recovers_toJson (k := 0) stage).fits

theorem TestType.fits_options (t : TestType) : ∀ entry ∈ t.options, entry.2.Fits 2 := by
  cases t <;> simp [options, Options.naturalValue, fits_stagesValue]

namespace TestConfig

variable (c : TestConfig)

theorem fits_schedule (e : Executor) : ∀ entry ∈ c.schedule e, entry.2.Fits 2 := by
  cases e <;> simp [schedule, vusValue, iterationsValue, durationValue, timeUnitValue,
    preAllocatedValue, stagesOr, Options.naturalValue, Value.ofUInt32, Value.ofUInt64,
    fits_stagesValue]

theorem fits_options : c.options.toJson.Fits 3 := by
  refine Json.fits_object c.nodup_names_options fun entry hentry => ?_
  obtain ⟨-, hentry | hentry⟩ := mem_options hentry
  · exact c.testType.fits_options entry hentry
  · rcases List.mem_cons.1 hentry with rfl | hentry
    · exact Json.fits_text _
    · exact c.fits_schedule c.executor entry hentry

end TestConfig

namespace Script

theorem toList_script (c : TestConfig) : c.script.toList = chars c :=
  String.toList_ofList

/-- The options as they stand in the script. -/
def optionsChars (c : TestConfig) : List Char :=
  c.options.toJson.chars .spread 0

theorem optionsChars_eq (c : TestConfig) :
    optionsChars c = c.options.toJson.chars (.moved 0) 0 := by
  rw [optionsChars, Json.moved_zero]

end Script

namespace TestConfig

open Script

/-- The options are read back from the script, with their order. -/
theorem between?_script_options (c : TestConfig) : ∃ literal,
    between? "export const options = " ";\n\nexport default function () \x7b\n" c.script =
        some literal ∧
      Value.ofText? literal = some (.object c.options) ∧
      (c.testType = .custom → literal = "\x7b\x7d") := by
  have hmark : ";\n\nexport default function () \x7b\n".toList =
      ";\n\n".toList ++ "export default function () \x7b\n".toList := by decide
  have hscript : ∃ behind, chars c = prologue ++ ("export const options = ".toList ++
      (optionsChars c ++ (";\n\n".toList ++ "export default function () \x7b\n".toList ++
        behind))) := by
    refine ⟨requestPart c ++ (checksPart c.checks ++ (pausePart c ++ ['\x7d', '\n'])), ?_⟩
    unfold chars optionsPart optionsChars
    simp only [List.append_assoc]
  obtain ⟨behind, hbehind⟩ := hscript
  have hopening : cutAt? "export const options = ".toList c.script.toList = some (prologue,
      optionsChars c ++
        (";\n\n".toList ++ "export default function () \x7b\n".toList ++ behind)) := by
    rw [toList_script, hbehind]
    exact cutAt?_append_of_tails (by decide) _
  have hclosing := Json.cutAt?_chars_append 0 c.options.toJson 0
    "export default function () \x7b\n".toList behind
  rw [← optionsChars_eq, ← hmark] at hclosing
  refine ⟨_, between?_eq_some hopening hclosing, ?_, fun hcustom => ?_⟩
  · have hfits := c.fits_options
    exact Json.ofText?_spread hfits.distinct (hfits.depth.trans (by decide))
  · rw [optionsChars, options, if_pos hcustom]
    rfl

end TestConfig

end LoadTest
