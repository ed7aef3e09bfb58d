import LoadTest.Proofs.Script.Payload

/-!
# Bodies that are expressions

The script holds the body between the two marks of the payload, and the rest of the script does not
depend on it (`TestConfig.script_body`). A body that is no document is taken as an expression of the
script: it is trimmed, its line ends become line feeds, and every line but the first is moved to the
right. Moved back, it is what it was (`moveBack?_shifted`).
-/

namespace LoadTest

open Json (Value)

/-- The text without the two spaces behind each of its line feeds, if they are there. -/
def moveBack? : List Char → Option (List Char)
  | [] => some []
  | '\n' :: ' ' :: ' ' :: rest => (moveBack? rest).map ('\n' :: ·)
  | '\n' :: _ => none
  | c :: rest => (moveBack? rest).map (c :: ·)

theorem moveBack?_shifted (cs : List Char) :
    moveBack? (cs.flatMap (shifted "  ".toList)) = some cs := by
  have hmargin : "  ".toList = [' ', ' '] := by decide
  induction cs with
  | nil => rfl
  | cons c cs ih =>
    rw [List.flatMap_cons, shifted]
    split_ifs with hc
    · subst hc
      rw [hmargin] at ih ⊢
      simp only [List.cons_append, List.nil_append, moveBack?, ih, Option.map_some]
    · rw [List.singleton_append, moveBack?.eq_4 c _ (fun _ h _ => hc h) hc, ih, Option.map_some]

namespace Script

/-- A body as it stands in the script. -/
def bodyChars (body : Option String) : List Char :=
  indentRest "  ".toList (payload body)

theorem payload_expression {text : String} (hblank : isWhiteText text = false)
    (hvalue : Value.ofText? (trimmed text) = none) :
    payload (some text) = (trimmed text).toList := by
  have hempty : (trimmed text).isEmpty = false := (isEmpty_trimmed text).trans hblank
  simp only [payload, Option.getD_some, hempty, Bool.false_eq_true, if_false, hvalue]

/-- An expression does not end with a line feed, since it is trimmed. -/
theorem getLast?_trimmed (text : String) : (trimmed text).toList.getLast? ≠ some '\n' := by
  intro hlast
  rw [trimmed, String.toList_ofList] at hlast
  exact absurd (not_isWhite_last hlast) (by decide)

theorem moveBack?_bodyChars {text : String} (hblank : isWhiteText text = false)
    (hvalue : Value.ofText? (trimmed text) = none) :
    moveBack? (bodyChars (some text)) = some (withLineFeeds (trimmed text).toList) := by
  rw [bodyChars, payload_expression hblank hvalue, indentRest_eq_shifted _ (getLast?_trimmed text),
    moveBack?_shifted]

end Script

namespace TestConfig

open Script

/-- The body stands between the marks of the payload, and nothing else depends on it. -/
theorem exists_toList_script {c : TestConfig} (hcarries : c.method.carriesBody = true) :
    ∃ before behind, ∀ body, ({ c with body := body } : TestConfig).script.toList =
      before ++ "  const payload = ".toList ++ bodyChars body ++
        ";\n\n  const res = http.".toList ++ behind := by
  refine ⟨prologue ++ optionsPart c ++ "export default function () \x7b\n".toList,
    c.method.function.toList ++ ('(' ::
      (literal c.endpoint ++ ", JSON.stringify(payload), \x7b\n".toList) ++
      ("    headers: ".toList ++ headersChars c.headers ++ ",\n  \x7d);\n\n".toList ++
      (checksPart c.checks ++ (pausePart c ++ ['\x7d', '\n'])))), fun body => ?_⟩
  have hoptions : optionsPart { c with body := body } = optionsPart c := rfl
  have hpause : pausePart { c with body := body } = pausePart c := rfl
  rw [toList_script, chars, requestPart, if_pos hcarries, hoptions, hpause]
  simp only [bodyChars, List.append_assoc, List.cons_append]

/-- A body that is neither blank nor a document is put into the script as it is, but for its line
ends and the margin behind them. -/
theorem script_body : ∃ inside : Option String → List Char,
    (∀ c : TestConfig, c.method.carriesBody = true → ∃ before behind, ∀ body,
      ({ c with body := body } : TestConfig).script.toList =
        before ++ "  const payload = ".toList ++ inside body ++
          ";\n\n  const res = http.".toList ++ behind) ∧
    ∀ text, isWhiteText text = false → Value.ofText? (trimmed text) = none →
      moveBack? (inside (some text)) = some (withLineFeeds (trimmed text).toList) :=
  ⟨bodyChars, fun _ => exists_toList_script, fun _ => moveBack?_bodyChars⟩

/-- An expression over several lines with both line ends, a carriage return of its own and blanks
around it. -/
def looseBody : String :=
  " \x7b\r\n\n  id: __VU\r\r\n\x7d\n"

theorem script_body_looseBody :
    isWhiteText looseBody = false ∧ Value.ofText? (trimmed looseBody) = none ∧
      ∃ before inside behind,
        ({ plain .smoke .constantVus .post "" with body := some looseBody } :
            TestConfig).script.toList =
          before ++ "  const payload = ".toList ++ inside ++
            ";\n\n  const res = http.".toList ++ behind ∧
        moveBack? inside = some "\x7b\n\n  id: __VU\r\n\x7d".toList := by
  have hblank : isWhiteText looseBody = false := by decide +kernel
  have hvalue : Value.ofText? (trimmed looseBody) = none := by decide +kernel
  have htext : withLineFeeds (trimmed looseBody).toList =
      "\x7b\n\n  id: __VU\r\n\x7d".toList := by decide +kernel
  obtain ⟨inside, hscript, hinside⟩ := script_body
  obtain ⟨before, behind, hbody⟩ := hscript (plain .smoke .constantVus .post "") rfl
  exact ⟨hblank, hvalue, before, inside (some looseBody), behind, hbody (some looseBody),
    htext ▸ hinside looseBody hblank hvalue⟩

end TestConfig

end LoadTest
