import LoadTest.Proofs.Json.Number
import LoadTest.Proofs.Script.Headers
import LoadTest.Proofs.Script.Literal

/-!
# What a script says of its configuration

Two configurations with the same script have the same method, endpoint and headers, and label their
checks alike (`TestConfig.request_eq_of_script_eq`).

A body may stand in the script as it is and imitate any part of it, so the script is read from its
end. From the request on it consists of lines of known kinds (`chars_eq`), and going backward the
last line of each kind is told from the lines behind it (`append_cons_inj`).
-/

namespace LoadTest.Script

/-- The labels of the checks that the script makes. -/
def labels (checks : List String) : List String :=
  if checks.isEmpty then [defaultCheck] else checks

/-! ## Lines of the end of a script -/

/-- The line that sends the request. -/
def requestLine (c : TestConfig) : List Char :=
  "  const res = http.".toList ++ (c.method.function.toList ++ '(' :: (literal c.endpoint ++
    (if c.method.carriesBody then ", JSON.stringify(payload), \x7b".toList else ", \x7b".toList)))

/-- Where the headers start, or all of them if there are none. -/
def headersLine (headers : Headers) : List Char :=
  "    headers: \x7b".toList ++ if headers.isEmpty then "\x7d,".toList else []

/-- The lines of the headers below the first. -/
def headersRest (headers : Headers) : List (List Char) :=
  if headers.isEmpty then []
  else entryLines "      ".toList headers.entries ++ ["    \x7d,".toList]

/-- The line of a check. -/
def labelLine (label : String) : List Char :=
  "    ".toList ++ (literal label ++ ": (r) => r.status === 200,".toList)

/-- The line of the pause, if there is one. -/
def pauseLines (c : TestConfig) : List (List Char) :=
  let line (seconds : List Char) : List Char := "  sleep(".toList ++ seconds ++ ");".toList
  let standard := if c.executor.pacesItself then [] else [line ['1']]
  match c.thinkTime with
  | some (.finite x) => if 0 < x.signedUnits then [line x.plainChars] else standard
  | _ => standard

/-- What closes the headers and the request. -/
def requestEnd : List (List Char) :=
  ["  \x7d);".toList, []]

/-- The lines from the request on. -/
def endLines (c : TestConfig) : List (List Char) :=
  requestLine c :: (headersLine c.headers :: headersRest c.headers) ++ requestEnd ++
    "  check(res, \x7b".toList :: ((labels c.checks).map labelLine ++ requestEnd) ++
    (pauseLines c ++ [['\x7d']])

theorem ended_append (ls more : List (List Char)) : ended (ls ++ more) = ended ls ++ ended more :=
  List.flatMap_append

theorem ended_nil : ended [] = [] := rfl

theorem ended_cons (line : List Char) (ls : List (List Char)) :
    ended (line :: ls) = line ++ '\n' :: ended ls := by
  simp [ended]

theorem headers_ended (headers : Headers) :
    "    headers: ".toList ++ headersChars headers ++ ",\n  \x7d);\n\n".toList =
      ended (headersLine headers :: headersRest headers ++ requestEnd) := by
  have hend : ",\n  \x7d);\n\n".toList = ',' :: '\n' :: ended requestEnd := by decide
  have hopen : "    headers: \x7b".toList = "    headers: ".toList ++ ['\x7b'] := by decide
  have hclose : "    \x7d,".toList = "    \x7d".toList ++ [','] := by decide
  have hboth : "\x7d,".toList = ['\x7d', ','] := by decide
  unfold headersLine headersRest
  rw [hend, hopen, hclose, hboth, ended_append]
  cases h : headers.isEmpty with
  | true =>
    rw [headersChars, h]
    simp only [if_true, ended_cons, ended_nil, List.append_assoc, List.cons_append,
      List.nil_append]
  | false =>
    rw [headersChars_eq h]
    simp only [Bool.false_eq_true, if_false]
    rw [← append_joined]
    simp only [joined, List.flatMap_append, List.flatMap_cons, List.flatMap_nil,
      List.append_assoc, List.cons_append, List.nil_append]

theorem checkLine_eq (label : String) : checkLine label = labelLine label ++ ['\n'] := by
  have hcode : ": (r) => r.status === 200,\n".toList =
      ": (r) => r.status === 200,".toList ++ ['\n'] := by decide
  unfold checkLine labelLine
  rw [hcode]
  simp only [List.append_assoc]

theorem checks_ended (checks : List String) :
    checksPart checks =
      ended ("  check(res, \x7b".toList :: ((labels checks).map labelLine ++ requestEnd)) := by
  have hlines : (if checks.isEmpty then checkLine defaultCheck else checks.flatMap checkLine) =
      ended ((labels checks).map labelLine) := by
    unfold labels ended
    split_ifs
    · rw [checkLine_eq, List.map_singleton, List.flatMap_singleton]
    · rw [List.flatMap_map]
      exact congrArg (checks.flatMap ·) (funext checkLine_eq)
  have hopen : "  check(res, \x7b\n".toList = "  check(res, \x7b".toList ++ ['\n'] := by decide
  have hend : "  \x7d);\n\n".toList = ended requestEnd := by decide
  unfold checksPart
  rw [hlines, hopen, hend, ended_cons, ended_append]
  simp only [List.append_assoc, List.cons_append, List.nil_append]

theorem sleepLine_eq (seconds : List Char) :
    sleepLine seconds = ended ["  sleep(".toList ++ seconds ++ ");".toList] := by
  have hend : ");\n".toList = ");".toList ++ ['\n'] := by decide
  unfold sleepLine
  rw [hend, ended_cons, ended_nil]
  simp only [List.append_assoc]

theorem pause_ended (c : TestConfig) : pausePart c = ended (pauseLines c) := by
  have hstandard : (if c.executor.pacesItself then [] else sleepLine ['1']) =
      ended (if c.executor.pacesItself then []
        else ["  sleep(".toList ++ ['1'] ++ ");".toList]) := by
    split_ifs
    · rfl
    · exact sleepLine_eq ['1']
  unfold pausePart pauseLines
  rcases c.thinkTime with _ | _ | _ | x
  case some.finite =>
    simp only []
    by_cases hpositive : 0 < x.signedUnits
    · rw [if_pos hpositive, if_pos hpositive]
      exact sleepLine_eq x.plainChars
    · rw [if_neg hpositive, if_neg hpositive]
      exact hstandard
  all_goals exact hstandard

/-- A script ends with the lines of the request and of what follows it. -/
theorem chars_eq (c : TestConfig) : ∃ before, chars c = before ++ '\n' :: ended (endLines c) := by
  have hlines : ended (endLines c) = requestLine c ++ '\n' ::
      ("    headers: ".toList ++ headersChars c.headers ++ ",\n  \x7d);\n\n".toList ++
        (checksPart c.checks ++ (pausePart c ++ ['\x7d', '\n']))) := by
    rw [headers_ended, checks_ended, pause_ended]
    simp only [endLines, ended_append, ended_cons, ended_nil, List.append_assoc, List.cons_append,
      List.nil_append]
  have hstart : "export default function () \x7b\n".toList =
      "export default function () \x7b".toList ++ ['\n'] := by decide
  have hpayload : ";\n\n  const res = http.".toList =
      ";\n".toList ++ '\n' :: "  const res = http.".toList := by decide
  have hbody : ", JSON.stringify(payload), \x7b\n".toList =
      ", JSON.stringify(payload), \x7b".toList ++ ['\n'] := by decide
  have hplain : ", \x7b\n".toList = ", \x7b".toList ++ ['\n'] := by decide
  rw [hlines]
  unfold chars requestPart requestLine
  by_cases hcarries : c.method.carriesBody = true
  · refine ⟨prologue ++ optionsPart c ++ "export default function () \x7b\n".toList ++
      "  const payload = ".toList ++ indentRest "  ".toList (payload c.body) ++ ";\n".toList, ?_⟩
    rw [if_pos hcarries, if_pos hcarries, hpayload, hbody]
    simp only [List.append_assoc, List.cons_append, List.nil_append]
  · refine ⟨prologue ++ optionsPart c ++ "export default function () \x7b".toList, ?_⟩
    rw [if_neg hcarries, if_neg hcarries, hstart, hplain]
    simp only [List.append_assoc, List.cons_append, List.nil_append]

/-! ## Kinds of lines -/

theorem lineFeed_notMem_plainChars (x : Finite) : '\n' ∉ x.plainChars := by
  have hchars : ∀ ch ∈ x.plainChars, 32 ≤ ch.toNat :=
    List.forall_mem_append.2 ⟨Json.le_toNat_signChars _, Json.le_toNat_plainChars _⟩
  exact fun h => absurd (hchars _ h) (by decide)

theorem pauseLines_isLine (c : TestConfig) : ∀ line ∈ pauseLines c, line ≠ [] ∧ '\n' ∉ line := by
  have hline : ∀ seconds : List Char, '\n' ∉ seconds →
      ∀ line ∈ ["  sleep(".toList ++ seconds ++ ");".toList], line ≠ [] ∧ '\n' ∉ line := by
    intro seconds hseconds line hmem
    rw [List.mem_singleton.1 hmem]
    simp only [List.mem_append, not_or]
    exact ⟨List.append_ne_nil_of_right_ne_nil _ (by decide), ⟨by decide, hseconds⟩, by decide⟩
  have hstandard : ∀ line ∈ (if c.executor.pacesItself then [] else
      ["  sleep(".toList ++ ['1'] ++ ");".toList]), line ≠ [] ∧ '\n' ∉ line := by
    split_ifs
    · simp
    · exact hline ['1'] (by decide)
  unfold pauseLines
  rcases c.thinkTime with _ | _ | _ | x
  case some.finite =>
    simp only []
    by_cases hpositive : 0 < x.signedUnits
    · rw [if_pos hpositive]
      exact hline x.plainChars (lineFeed_notMem_plainChars x)
    · rw [if_neg hpositive]
      exact hstandard
  all_goals exact hstandard

theorem function_inj {m n : Method} (h : m.function = n.function) : m = n := by
  cases m <;> cases n <;> first | rfl | (revert h; decide)

theorem notMem_function (m : Method) :
    '\n' ∉ m.function.toList ∧ '(' ∉ m.function.toList := by
  cases m <;> decide

theorem lineFeed_notMem_endLines (c : TestConfig) : ∀ line ∈ endLines c, '\n' ∉ line := by
  intro line hline
  simp only [endLines, requestEnd, List.mem_append, List.mem_cons, List.not_mem_nil, or_false,
    or_assoc, List.mem_map] at hline
  rcases hline with rfl | rfl | hline | rfl | rfl | rfl | ⟨label, -, rfl⟩ | rfl | rfl | hline | rfl
  · unfold requestLine
    simp only [List.mem_append, List.mem_cons, not_or]
    refine ⟨by decide, (notMem_function c.method).1, by decide,
      lineFeed_notMem_literal c.endpoint, ?_⟩
    split_ifs <;> decide
  · unfold headersLine
    simp only [List.mem_append, not_or]
    refine ⟨by decide, ?_⟩
    split_ifs <;> decide
  · unfold headersRest at hline
    split_ifs at hline
    · cases hline
    · rcases List.mem_append.1 hline with hline | hline
      · exact (isLine_entryLines (by decide) hline).lineFeed
      · rw [List.mem_singleton.1 hline]
        decide
  · decide
  · decide
  · decide
  · unfold labelLine
    simp only [List.mem_append, not_or]
    exact ⟨by decide, lineFeed_notMem_literal label, by decide⟩
  · decide
  · decide
  · exact (pauseLines_isLine c line hline).2
  · decide

/-! ## Reading back -/

theorem requestLine_inj {c d : TestConfig} (h : requestLine c = requestLine d) :
    c.method = d.method ∧ c.endpoint = d.endpoint := by
  unfold requestLine at h
  have hcall := List.append_cancel_left h
  have hname : ∀ m : Method, ∀ ch ∈ m.function.toList, (ch != '(') = true := by
    intro m ch hch
    rw [bne_iff_ne]
    rintro rfl
    exact (notMem_function m).2 hch
  have hparenthesis : ∀ rest, Stops (fun ch => ch != '(') ('(' :: rest) := fun _ => rfl
  have hfunction := congrArg (List.takeWhile fun ch => ch != '(') hcall
  rw [takeWhile_append_stops (hname c.method) (hparenthesis _),
    takeWhile_append_stops (hname d.method) (hparenthesis _)] at hfunction
  rw [hfunction] at hcall
  have harguments := (List.cons.inj (List.append_cancel_left hcall)).2
  exact ⟨function_inj (String.toList_inj.1 hfunction), (literal_append_inj harguments).1⟩

theorem labelLine_inj {l m : String} (h : labelLine l = labelLine m) : l = m := by
  unfold labelLine at h
  exact (literal_append_inj (List.append_cancel_left h)).1

theorem headersRest_inj {g h : Headers} (hrest : headersRest g = headersRest h) : g = h := by
  obtain ⟨es, hes⟩ := g
  obtain ⟨fs, hfs⟩ := h
  suffices es = fs by subst this; rfl
  unfold headersRest Headers.isEmpty at hrest
  rcases es with _ | ⟨e, es⟩ <;> rcases fs with _ | ⟨f, fs⟩
  · rfl
  · simp at hrest
  · simp at hrest
  · simp only [List.isEmpty_cons, Bool.false_eq_true, if_false] at hrest
    exact entryLines_inj (List.append_cancel_right hrest)

theorem append_endLines (before : List (List Char)) (c : TestConfig) :
    before ++ endLines c =
      before ++ [requestLine c] ++ headersLine c.headers :: headersRest c.headers ++ requestEnd ++
        "  check(res, \x7b".toList :: (labels c.checks).map labelLine ++ ["  \x7d);".toList] ++
        [] :: (pauseLines c ++ [['\x7d']]) := by
  simp only [endLines, requestEnd, List.append_assoc, List.cons_append, List.nil_append]

/-- Going backward the last empty line closes the checks, the last line that is not as far in as a
check opens them, and the last line that starts the headers follows the request. -/
theorem endLines_inj {c d : TestConfig} {before after : List (List Char)}
    (h : before ++ endLines c = after ++ endLines d) :
    requestLine c = requestLine d ∧ headersRest c.headers = headersRest d.headers ∧
      labels c.checks = labels d.checks := by
  have hpause : ∀ c, ∀ line ∈ pauseLines c ++ [['\x7d']], (!line.isEmpty) = true := by
    intro c line hline
    rw [Bool.not_eq_true', List.isEmpty_eq_false_iff]
    rcases List.mem_append.1 hline with hline | hline
    · exact (pauseLines_isLine c line hline).1
    · rw [List.mem_singleton.1 hline]
      decide
  have hlabel : ∀ checks, ∀ line ∈ (labels checks).map labelLine,
      "    ".toList.isPrefixOf line = true := by
    intro checks line hline
    obtain ⟨label, -, rfl⟩ := List.mem_map.1 hline
    unfold labelLine
    exact List.isPrefixOf_iff_prefix.2 (List.prefix_append _ _)
  have hentry : ∀ headers, ∀ line ∈ headersRest headers,
      ((line.drop 4).head? != some 'h') = true := by
    intro headers line hline
    unfold headersRest at hline
    split_ifs at hline
    · cases hline
    · rcases List.mem_append.1 hline with hline | hline
      · obtain ⟨entry, -, ending, -, rfl⟩ := mem_entryLines hline
        rfl
      · rw [List.mem_singleton.1 hline]
        rfl
  have hopen : ∀ headers, (((headersLine headers).drop 4).head? != some 'h') = false := fun _ => rfl
  rw [append_endLines, append_endLines] at h
  obtain ⟨hchecks, -, -⟩ := append_cons_inj (hpause c) (hpause d) rfl rfl h
  obtain ⟨hrequest, -, hlabels⟩ := append_cons_inj (hlabel c.checks) (hlabel d.checks) (by decide)
    (by decide) (List.append_cancel_right hchecks)
  obtain ⟨hline, -, hheaders⟩ := append_cons_inj (hentry c.headers) (hentry d.headers)
    (hopen c.headers) (hopen d.headers) (List.append_cancel_right hrequest)
  refine ⟨?_, hheaders, List.map_inj_right (fun _ _ => labelLine_inj) |>.1 hlabels⟩
  exact List.singleton_inj.1 (List.append_inj' hline rfl).2

end LoadTest.Script

namespace LoadTest.TestConfig

open Script

/-- A script determines the request and the checks, whatever the bodies. -/
theorem request_eq_of_script_eq {c d : TestConfig} (h : c.script = d.script) :
    c.method = d.method ∧ c.endpoint = d.endpoint ∧ c.headers = d.headers ∧
      labels c.checks = labels d.checks := by
  have hchars : chars c = chars d := String.ofList_inj.1 h
  obtain ⟨before, hc⟩ := chars_eq c
  obtain ⟨after, hd⟩ := chars_eq d
  have hfields := congrArg (LoadTest.fields '\n') hchars
  rw [hc, hd, fields_lines (lineFeed_notMem_endLines c), fields_lines (lineFeed_notMem_endLines d)]
    at hfields
  obtain ⟨hrequest, hheaders, hlabels⟩ := endLines_inj (List.append_cancel_right hfields)
  obtain ⟨hmethod, hendpoint⟩ := requestLine_inj hrequest
  exact ⟨hmethod, hendpoint, headersRest_inj hheaders, hlabels⟩

/-- The check that stands for none may as well be given. -/
theorem request_eq_of_script_eq_default :
    initial.script = { initial with checks := ["status is 200"] }.script ∧
      labels initial.checks = labels ["status is 200"] := by
  have hscript : initial.script = { initial with checks := ["status is 200"] }.script := by
    have hpart : checksPart [] = checksPart ["status is 200"] := by
      rw [checks_ended, checks_ended]
      rfl
    unfold script chars
    exact congrArg (fun part => String.ofList (prologue ++ optionsPart initial ++
      "export default function () \x7b\n".toList ++ requestPart initial ++ part ++
      pausePart initial ++ ['\x7d', '\n'])) hpart
  exact ⟨hscript, (request_eq_of_script_eq hscript).2.2.2⟩

end LoadTest.TestConfig
