import LoadTest.Proofs.Json.Documents
import LoadTest.Proofs.Script.Options
import LoadTest.Validation

/-!
# Payload of a script

If the body of a configuration has no issue, its value is read back from the script, between the two
marks of the payload (`TestConfig.between?_script_payload`).

The body is checked as it is given, and put into the script when it has been trimmed; the value is
the same (`Json.ofText?_trimmed`). The payload is laid out afresh and moved to the right, which does
not change its texts (`Json.indentRest_chars`). The first mark cannot stand in the options, since no
line of a document starts like its second line.
-/

namespace LoadTest

open Json (Value Layout)

namespace TestConfig

variable {c : TestConfig}

/-- What the body holds, the empty object if it is blank. -/
def bodyValue? (c : TestConfig) : Option Value :=
  if isWhiteText (c.body.getD "") then some (.object []) else Value.ofText? (c.body.getD "")

/-- Without an issue a body that is sent holds a value. -/
theorem isSome_bodyValue? (hcarries : c.method.carriesBody = true)
    (hissues : ∀ issue ∈ c.issues, issue.field ≠ "body") : c.bodyValue?.isSome = true := by
  have hvalid : isValidJson (c.body.getD "") = true := by
    by_contra hinvalid
    have hissue : (⟨"body", "Body must be valid JSON"⟩ : Issue) ∈ c.bodyIssues := by
      simp [bodyIssues, hcarries, Bool.eq_false_iff.2 hinvalid]
    have hmem : (⟨"body", "Body must be valid JSON"⟩ : Issue) ∈ c.issues := by
      simp only [issues, List.mem_append]
      exact .inl (.inl (.inr hissue))
    exact hissues _ hmem rfl
  unfold isValidJson at hvalid
  unfold bodyValue?
  split_ifs with hwhite
  · rfl
  · simpa [hwhite] using hvalid

theorem fits_of_bodyValue? {v : Value} (h : c.bodyValue? = some v) : v.Fits 127 := by
  unfold bodyValue? at h
  split_ifs at h
  · obtain rfl := Option.some.inj h
    exact Json.fits_object (by simp [Entries.names]) (by simp)
  · exact Json.fits_of_ofText? h

end TestConfig

namespace Script

variable {c : TestConfig} {v : Value}

theorem payload_eq (h : c.bodyValue? = some v) : payload c.body = v.chars .spread 0 := by
  unfold TestConfig.bodyValue? at h
  unfold payload
  simp only [isEmpty_trimmed]
  split_ifs at h ⊢
  · obtain rfl := Option.some.inj h
    rfl
  · rw [Json.ofText?_trimmed h]

theorem indentRest_payload (h : c.bodyValue? = some v) :
    indentRest "  ".toList (payload c.body) = v.chars (.moved 2) 0 := by
  have hmargin : "  ".toList = List.replicate 2 ' ' := by decide
  rw [payload_eq h, hmargin, Json.indentRest_chars]

theorem exists_chars_payload (hcarries : c.method.carriesBody = true) (h : c.bodyValue? = some v) :
    ∃ behind, chars c = prologue ++ optionsPart c ++
      ("export default function () \x7b".toList ++ '\n' :: "  const payload = ".toList ++
        (v.chars (.moved 2) 0 ++ (";\n\n".toList ++ "  const res = http.".toList ++ behind))) := by
  have hstart : "export default function () \x7b\n".toList =
      "export default function () \x7b".toList ++ ['\n'] := by decide
  have hclose : ";\n\n  const res = http.".toList =
      ";\n\n".toList ++ "  const res = http.".toList := by decide
  unfold chars requestPart
  rw [if_pos hcarries, indentRest_payload h, hstart, hclose]
  simp only [List.append_assoc, List.cons_append, List.nil_append]
  exact ⟨_, rfl⟩

/-- The lines up to the function start otherwise than its first line. -/
theorem linesStart_optionsPart (c : TestConfig) :
    linesStart (· != 'c')
      (prologue ++ optionsPart c ++ "export default function () \x7b".toList) = true := by
  have hbefore : linesStart (· != 'c') (prologue ++ "export const options = ".toList) = true := by
    decide
  have hoptions : linesStart (· != 'c') (optionsChars c) = true :=
    linesStart_ne (by decide) (Json.isLaidOut_spread _ 0).starts
  have hbehind : linesStart (· != 'c')
      (";\n\n".toList ++ "export default function () \x7b".toList) = true := by decide
  have hall := linesStart_append (linesStart_append hbefore hoptions) hbehind
  unfold optionsPart
  simp only [List.append_assoc] at hall ⊢
  exact hall

end Script

namespace TestConfig

open Script

variable {c : TestConfig}

/-- What the body holds is read back from the script. -/
theorem between?_script_payload (hcarries : c.method.carriesBody = true)
    (hissues : ∀ issue ∈ c.issues, issue.field ≠ "body") : ∃ literal v,
    between? "export default function () \x7b\n  const payload = " ";\n\n  const res = http."
        c.script = some literal ∧
      Value.ofText? literal = some v ∧ c.bodyValue? = some v := by
  obtain ⟨v, hv⟩ := Option.isSome_iff_exists.1 (isSome_bodyValue? hcarries hissues)
  obtain ⟨behind, hbehind⟩ := exists_chars_payload hcarries hv
  have hopen : "export default function () \x7b\n  const payload = ".toList =
      "export default function () \x7b".toList ++ '\n' :: "  const payload = ".toList := by decide
  have hclose : ";\n\n  const res = http.".toList =
      ";\n\n".toList ++ "  const res = http.".toList := by decide
  have hnext : "  const payload = ".toList.find? (· != ' ') = some 'c' := by decide
  -- no line of the options starts like the second line of the first mark
  have hopening : cutAt? "export default function () \x7b\n  const payload = ".toList
      c.script.toList = some (prologue ++ optionsPart c, v.chars (.moved 2) 0 ++
        (";\n\n".toList ++ "  const res = http.".toList ++ behind)) := by
    rw [toList_script, hbehind, hopen]
    exact cutAt?_of_linesStart (by decide) hnext (by decide) (linesStart_optionsPart c)
  have hclosing := Json.cutAt?_chars_append 2 v 0 "  const res = http.".toList behind
  rw [← hclose] at hclosing
  have hfits := fits_of_bodyValue? hv
  exact ⟨_, v, between?_eq_some hopening hclosing,
    Json.ofText?_chars (Json.isBlank_moved 2) hfits.distinct hfits.depth 0, hv⟩

/-- The body holds a text that looks like the end of the payload. -/
def imitating : TestConfig :=
  { plain .smoke .constantVus .post "http://h" with
    body := some "\n[\";\\n\\n  const res = http.\"]" }

theorem between?_script_payload_imitating :
    imitating.method.carriesBody = true ∧ (∀ issue ∈ imitating.issues, issue.field ≠ "body") ∧
      ∃ literal v,
        between? "export default function () \x7b\n  const payload = " ";\n\n  const res = http."
            imitating.script = some literal ∧
          Value.ofText? literal = some v ∧ imitating.bodyValue? = some v := by
  have hissues : ∀ issue ∈ imitating.issues, issue.field ≠ "body" := by decide +kernel
  exact ⟨rfl, hissues, between?_script_payload rfl hissues⟩

end TestConfig

end LoadTest
