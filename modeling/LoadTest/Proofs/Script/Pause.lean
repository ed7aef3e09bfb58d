import LoadTest.Proofs.Number.Plain
import LoadTest.Proofs.Script.Options

/-!
# Pause of a script

Behind its checks a script waits, and that is its end (`TestConfig.script_pause`). A think time that
can be waited for is written as a numeral that denotes it, whichever executor there is. Any other
configuration waits for a second, unless its executor holds an arrival rate.
-/

namespace LoadTest

/-- The think time can be waited for. -/
def TestConfig.Waits (c : TestConfig) (x : Finite) : Prop :=
  c.thinkTime = some (.finite x) ∧ 0 < x.signedUnits

namespace Script

variable {c : TestConfig} {x : Finite}

theorem pausePart_of_waits (h : c.Waits x) : pausePart c = sleepLine x.plainChars := by
  simp only [pausePart, h.1, if_pos h.2]

theorem pausePart_of_not_waits (h : ∀ x, ¬ c.Waits x) :
    pausePart c = if c.executor.category = .arrivalRate then [] else sleepLine ['1'] := by
  have hstandard : (if c.executor.pacesItself then [] else sleepLine ['1']) =
      if c.executor.category = .arrivalRate then [] else sleepLine ['1'] := by
    simp only [Executor.pacesItself, decide_eq_true_eq]
  rw [← hstandard, pausePart]
  rcases htime : c.thinkTime with _ | _ | _ | x
  case some.finite => exact if_neg fun hpositive => h x ⟨htime, hpositive⟩
  all_goals rfl

end Script

namespace TestConfig

open Script

/-- The pause stands between the checks and the end of a script. -/
theorem script_pause (c : TestConfig) : ∃ before pause,
    c.script.toList = before ++ checksPart c.checks ++ pause ++ "\x7d\n".toList ∧
      (∀ x, c.Waits x → ∃ seconds whole fraction, IsNumeralOf x seconds whole fraction ∧
        pause = "  sleep(".toList ++ seconds ++ ");\n".toList) ∧
      ((∀ x, ¬ c.Waits x) →
        pause = if c.executor.category = .arrivalRate then [] else "  sleep(1);\n".toList) := by
  refine ⟨prologue ++ optionsPart c ++ "export default function () \x7b\n".toList ++ requestPart c,
    pausePart c, ?_, fun x hx => ?_, fun hnone => ?_⟩
  · rw [toList_script]
    rfl
  · obtain ⟨whole, fraction, hnumeral⟩ := Finite.exists_isNumeralOf hx.2
    exact ⟨_, whole, fraction, hnumeral, pausePart_of_waits hx⟩
  · rw [pausePart_of_not_waits hnone]
    rfl

/-- The smallest time there is. -/
def briefest : TestConfig :=
  { plain .smoke .constantArrivalRate .get "" with
    thinkTime := some (.finite ⟨false, 1, by decide⟩) }

theorem script_pause_briefest :
    briefest.Waits ⟨false, 1, by decide⟩ ∧ ∃ before seconds whole fraction,
      IsNumeralOf ⟨false, 1, by decide⟩ seconds whole fraction ∧
        briefest.script.toList = before ++ checksPart [] ++ ("  sleep(".toList ++ seconds ++
          ");\n".toList) ++ "\x7d\n".toList := by
  have hwaits : briefest.Waits ⟨false, 1, by decide⟩ := ⟨rfl, by decide⟩
  obtain ⟨before, pause, hscript, hpause, -⟩ := script_pause briefest
  obtain ⟨seconds, whole, fraction, hnumeral, rfl⟩ := hpause _ hwaits
  exact ⟨hwaits, before, seconds, whole, fraction, hnumeral, hscript⟩

end TestConfig

end LoadTest
