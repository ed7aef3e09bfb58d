import LoadTest.CommandLine.Arguments
import LoadTest.Proofs.Result.RoundTrip
import LoadTest.Proofs.Server.Post
import Mathlib.Data.String.Basic

/-!
# Results to be saved

A result that is posted, in any layout, comes back as its export under a name of its own. The name
stands in a header, which takes every character but the control characters: if the result's own name
holds one of them, the service fails, though the result can be imported and exported
(`Server.respond_exportResult`).
-/

namespace LoadTest

/-- A character that has no place in a header. -/
def IsControl (c : Char) : Prop :=
  (c.toNat < 0x20 ∧ c ≠ '\t') ∨ c = '\x7f'
deriving Decidable

namespace Response

theorem ofFile_of_control {name : String} (h : ∃ c ∈ name.toList, IsControl c) (content : String) :
    ofFile name content = .ofStatus 500 := by
  refine if_pos (List.any_eq_true.2 ?_)
  simpa [IsControl] using h

theorem ofFile_of_plain {name : String} (h : ∀ c ∈ name.toList, ¬ IsControl c) (content : String) :
    ofFile name content = ⟨200, .file name content⟩ := by
  refine if_neg fun hcontrol => ?_
  obtain ⟨c, hc, hcontrol⟩ := List.any_eq_true.1 hcontrol
  exact h c hc (by simpa [IsControl] using hcontrol)

end Response

namespace TestResult

/-- What is put around the name of a result holds no control characters. -/
theorem isControl_of_mem_exportName {r : TestResult} {c : Char} (h : IsControl c) :
    c ∈ r.exportName.toList ↔ c ∈ r.id.toList := by
  have hbefore : ∀ c ∈ "k6-result-".toList, ¬ IsControl c := by decide
  have hbehind : ∀ c ∈ ".json".toList, ¬ IsControl c := by decide
  rw [exportName, String.toList_append, String.toList_append, List.mem_append, List.mem_append]
  constructor
  · rintro ((hc | hc) | hc)
    · exact absurd h (hbefore c hc)
    · exact hc
    · exact absurd h (hbehind c hc)
  · exact fun hc => .inl (.inr hc)

end TestResult

namespace Server

variable {r : TestResult} {layout : Json.Layout} {limit : ℕ}

/-- A result that is posted is read as it is. -/
theorem respond_exportResult_eq (hr : r.IsFinite) (hlayout : layout.IsBlank)
    (hsize : (String.ofList (r.toJson.chars layout 0)).utf8ByteSize ≤ limit) (m : Moment) :
    respond limit m (.post .exportResult (some "application/json")
        (String.ofList (r.toJson.chars layout 0))) =
      .ofFile r.exportName r.exportText := by
  rw [respond_post rfl, answer, ifJson_post, withBody_post hsize, exportResult,
    Json.documentChars_toUTF8, String.toList_ofList,
    (TestResult.recovers_toJson hr).ofChars_chars (by decide) hlayout]

/-- A result is sent back as a file unless its name holds a control character. -/
theorem respond_exportResult (hr : r.IsFinite) (hlayout : layout.IsBlank)
    (hsize : (String.ofList (r.toJson.chars layout 0)).utf8ByteSize ≤ limit) (m : Moment) :
    let response := respond limit m (.post .exportResult (some "application/json")
      (String.ofList (r.toJson.chars layout 0)))
    ((∀ c ∈ r.id.toList, ¬ IsControl c) →
      response.status = 200 ∧
        response.disposition? = some ("attachment; filename=\"k6-result-" ++ r.id ++ ".json\"") ∧
        response.payload = .file r.exportName r.exportText) ∧
      ((∃ c ∈ r.id.toList, IsControl c) → response = .ofStatus 500) := by
  intro response
  have hresponse : response = .ofFile r.exportName r.exportText :=
    respond_exportResult_eq hr hlayout hsize m
  constructor
  · intro hplain
    have hname : ∀ c ∈ r.exportName.toList, ¬ IsControl c := fun c hc hcontrol =>
      hplain c ((TestResult.isControl_of_mem_exportName hcontrol).1 hc) hcontrol
    have hopen : "attachment; filename=\"k6-result-" =
        "attachment; filename=\"" ++ "k6-result-" := by decide
    have hclose : ".json\"" = ".json" ++ "\"" := by decide
    rw [hresponse, Response.ofFile_of_plain hname, hopen, hclose]
    refine ⟨rfl, ?_, rfl⟩
    simp only [Response.disposition?, TestResult.exportName, String.append_assoc]
  · rintro ⟨c, hc, hcontrol⟩
    rw [hresponse, Response.ofFile_of_control
      ⟨c, (TestResult.isControl_of_mem_exportName hcontrol).2 hc, hcontrol⟩]

/-- A result of that name, with nothing in its report. -/
def emptyResult (id : String) : TestResult :=
  ⟨id, 0, .initial, .empty, "", 7, .success⟩

theorem isFinite_emptyResult (id : String) : (emptyResult id).IsFinite := by
  refine ⟨by rintro x ⟨⟩, ?_⟩
  simp only [emptyResult, Metrics.empty]
  constructor <;> rintro x ⟨⟩

theorem utf8ByteSize_emptyResult (id : String) : (emptyResult id).exportText.utf8ByteSize =
    String.utf8Len ((emptyResult id).toJson.chars .spread 0) :=
  String.utf8ByteSize_ofList _

theorem respond_exportResult_quoted :
    (emptyResult "\"ü\"").IsFinite ∧ (emptyResult "\"ü\"").exportText.utf8ByteSize ≤ 1000 ∧
      (∀ c ∈ "\"ü\"".toList, ¬ IsControl c) ∧
      (respond 1000 ⟨0, "2", "", 0⟩ (.post .exportResult (some "application/json")
        (emptyResult "\"ü\"").exportText)).disposition? =
          some ("attachment; filename=\"k6-result-" ++ "\"ü\"" ++ ".json\"") := by
  have hsize : (emptyResult "\"ü\"").exportText.utf8ByteSize ≤ 1000 := by
    rw [utf8ByteSize_emptyResult]
    decide +kernel
  have hplain : ∀ c ∈ "\"ü\"".toList, ¬ IsControl c := by decide
  exact ⟨isFinite_emptyResult _, hsize, hplain,
    ((respond_exportResult (isFinite_emptyResult _) Json.isBlank_spread hsize _).1 hplain).2.1⟩

/-- A line feed in its name keeps a result from being sent. -/
theorem respond_exportResult_lineFeed :
    (emptyResult "a\nb").IsFinite ∧
      (emptyResult "a\nb").exportText.utf8ByteSize ≤ ServeSettings.standard.maxBodyBytes ∧
      respond ServeSettings.standard.maxBodyBytes ⟨0, "2", "", 0⟩
        (.post .exportResult (some "application/json") (emptyResult "a\nb").exportText) =
          .ofStatus 500 := by
  have hsize : (emptyResult "a\nb").exportText.utf8ByteSize ≤
      ServeSettings.standard.maxBodyBytes := by
    rw [utf8ByteSize_emptyResult]
    decide +kernel
  refine ⟨isFinite_emptyResult _, hsize, ?_⟩
  rw [TestResult.exportText, Json.Value.spread,
    respond_exportResult_eq (isFinite_emptyResult _) Json.isBlank_spread hsize]
  exact Response.ofFile_of_control (by decide) _

end Server

end LoadTest
