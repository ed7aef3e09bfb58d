import LoadTest.Proofs.Result.Routes
import LoadTest.Proofs.Server.Form

/-!
# Files to be imported

Of the parts that a request brings, the first that is called a file is imported, and no other counts
(`Server.respond_importResult`).
-/

namespace LoadTest

open Json (Value)

namespace Response

/-- The answer to what is refused with these words. -/
def ofRefusal (message : String) : Response :=
  ⟨400, .json (.object [("success", .bool false), ("error", .text message)])⟩

/-- The answer to what has come of a file. -/
def ofImport : Except Error TestResult → Response
  | .ok result => ⟨200, .json (.object [("success", .bool true), ("result", result.toJson)])⟩
  | .error e => ofRefusal e.message

end Response

namespace TestResult

variable {id fileName content : String} {now : Int64}

theorem error_of_ofFile {e : Error} (h : ofFile id fileName content now = .error e) :
    e = .notResult := by
  by_cases hdocument : IsResultName fileName ∧ ∃ v, Json.IsDocument content.toList v
  · obtain ⟨hname, v, hv⟩ := hdocument
    rw [ofFile_of_document hname hv] at h
    exact error_of_ofDocument h
  · rw [ofFile_of_report hdocument] at h
    cases h

end TestResult

namespace Server

variable {limit : ℕ} {r : Request} {parts : List Part}

theorem importParts_of_noFile (h : ∀ part ∈ parts, part.name ≠ some "file") (m : Moment) :
    importParts m ⟨parts, true⟩ = .ofRefusal "No file provided" := by
  have hnone : parts.find? (fun part => part.name == some "file") = none := by
    simpa using h
  rw [importParts, hnone]
  rfl

theorem importParts_of_file {before after : List Part} {part : Part} {text : String}
    (hbefore : ∀ other ∈ before, other.name ≠ some "file") (hname : part.name = some "file")
    (htext : part.Holds text) (m : Moment) (complete : Bool) :
    importParts m ⟨before ++ part :: after, complete⟩ =
      .ofImport (TestResult.ofFile m.freshId (part.fileName.getD "upload.txt") text m.now) := by
  have hfirst : (before ++ part :: after).find? (fun part => part.name == some "file") =
      some part := by
    rw [List.find?_append, List.find?_eq_none.2 (by simpa using hbefore), Option.none_or,
      List.find?_cons_of_pos (by simp [hname])]
  rw [importParts, hfirst]
  simp only [htext.text_eq]
  cases hfile : TestResult.ofFile m.freshId (part.fileName.getD "upload.txt") text m.now with
  | ok result => rfl
  | error e =>
    obtain rfl := TestResult.error_of_ofFile hfile
    rfl

theorem respond_of_delivers (h : r.Delivers limit parts) (m : Moment) :
    respond limit m r = importParts m ⟨parts, true⟩ := by
  obtain ⟨boundary, hboundary, hupload⟩ := h.upload
  have hanswer : respond limit m r = importUpload limit m r := by
    rw [respond, h.method_eq, h.route_eq]
    rfl
  rw [hanswer, importUpload, hboundary]
  simp only [if_neg (Nat.not_lt.2 h.size_le), hupload]

/-- The first part that is called a file is imported, and neither what is before it nor what is
behind it counts. -/
theorem respond_importResult (h : r.Delivers limit parts) (m : Moment) :
    ((∀ part ∈ parts, part.name ≠ some "file") →
      respond limit m r = .ofRefusal "No file provided") ∧
    ∀ before part after text, parts = before ++ part :: after →
      (∀ other ∈ before, other.name ≠ some "file") → part.name = some "file" →
      part.Holds text →
      respond limit m r =
        .ofImport (TestResult.ofFile m.freshId (part.fileName.getD "upload.txt") text m.now) := by
  rw [respond_of_delivers h]
  constructor
  · exact fun hnone => importParts_of_noFile hnone m
  · rintro before part after text rfl hbefore hname htext
    exact importParts_of_file hbefore hname htext m true

/-- A note, a file without a name and a file with one. -/
def mixedFields : List FormField :=
  [⟨"note", none, "n"⟩, ⟨"file", none, "[]"⟩, ⟨"file", some "run.json", "[]"⟩]

/-- The file without a name is the report of a run. With the fields the other way round the other
file is first, and it holds no result. -/
theorem respond_importResult_mixedFields :
    (Request.form "b" mixedFields).Delivers 300 (mixedFields.map FormField.part) ∧
      respond 300 ⟨0, "2", "", 0⟩ (.form "b" mixedFields) =
        .ofImport (.ok (TestResult.ofReport "2" "[]" 0)) ∧
      respond 300 ⟨0, "2", "", 0⟩ (.form "b" mixedFields.reverse) =
        .ofRefusal "Invalid JSON file" ∧
      respond 300 ⟨0, "2", "", 0⟩ (.form "b" (mixedFields.take 1)) =
        .ofRefusal "No file provided" := by
  have hfits : ∀ f ∈ mixedFields, f.Fits "b" := by decide
  have h : ∀ fields, (∀ f ∈ fields, f ∈ mixedFields) →
      (Request.form "b" fields).body.size ≤ 300 →
      (Request.form "b" fields).Delivers 300 (fields.map FormField.part) :=
    fun fields hfields => Request.delivers_form (by decide) fun f hf => hfits f (hfields f hf)
  have hall := h mixedFields (fun _ => id) (by decide +kernel)
  have hreverse := h mixedFields.reverse (fun f => List.mem_reverse.1) (by decide +kernel)
  have hnote := h (mixedFields.take 1) (fun f => List.mem_of_mem_take) (by decide +kernel)
  have hrefused : TestResult.ofFile "2" "run.json" "[]" 0 = .error .notResult := by
    have harray : Json.IsDocument "[]".toList (.array []) :=
      Json.isDocument_chars (v := .array []) Json.isBlank_compact (by decide) 0
    rw [TestResult.ofFile_of_document (hasResultName_iff.1 (by decide)) harray]
    rfl
  refine ⟨hall, ?_, ?_, ?_⟩
  · exact (respond_importResult hall _).2 [_] _ [_] "[]" rfl (by decide) rfl ⟨rfl, rfl, by decide⟩
  · have himport := (respond_importResult hreverse ⟨0, "2", "", 0⟩).2 [] _ [_, _] "[]" rfl
      (by simp) rfl ⟨rfl, rfl, by decide⟩
    exact himport.trans (congrArg Response.ofImport hrefused)
  · exact (respond_importResult hnote _).1 (by decide)

end Server

end LoadTest
