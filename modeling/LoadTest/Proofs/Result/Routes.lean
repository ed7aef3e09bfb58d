import LoadTest.Proofs.Config.LoadedHeaders
import LoadTest.Proofs.Result.RoundTrip

/-!
# Files that hold results

A file whose name ends in `.json`, in letters of either case, and that holds a document is read as a
result. Every other file is the report of a run, and its result is made from the text as it is, so
it is never refused (`TestResult.ofFile_routes`).

A document holds a result if it is an object whose members for the metrics and for the report are
not null, and the whole object is decoded as that result (`HoldsResult`). Whatever else it holds, it
is refused for one reason.
-/

namespace LoadTest

open Entries (EnteredLast)
open Json (IsDocument Value)

/-- The name ends in `.json`, in letters of either case. -/
def IsResultName (fileName : String) : Prop :=
  ∃ stem ending, fileName = stem ++ ending ∧ ending.toList.map Char.toLower = ".json".toList

theorem hasResultName_iff {fileName : String} :
    hasResultName fileName = true ↔ IsResultName fileName := by
  constructor
  · intro h
    rw [hasResultName, List.isPrefixOf_iff_prefix, List.reverse_prefix] at h
    obtain ⟨front, hfront⟩ := h
    obtain ⟨stem, ending, hname, -, hending⟩ := List.map_eq_append_iff.1 hfront.symm
    refine ⟨String.ofList stem, String.ofList ending, ?_, by rwa [String.toList_ofList]⟩
    rw [← String.ofList_append, ← hname, String.ofList_toList]
  · rintro ⟨stem, ending, rfl, hending⟩
    exact hasResultName_append hending

namespace TestResult

/-- The document has a member of that name that is not null. -/
def HoldsMember (name : String) (v : Value) : Prop :=
  ∃ members w, v = .object members ∧ EnteredLast name w members ∧ w ≠ .null

/-- The document holds that result. -/
structure HoldsResult (v : Value) (r : TestResult) : Prop where
  metrics : HoldsMember "metrics" v
  rawOutput : HoldsMember "rawOutput" v
  read : decoder v.joined.tree = .ok r

variable {v : Value} {r : TestResult} {name : String}

theorem isNull_joined (v : Value) : v.joined.isNull = v.isNull := by
  cases v <;> simp [Value.joined, Value.isNull]

theorem holdsMember_iff : HoldsMember name v ↔
    ∃ w, v.joined.get? name = some w ∧ w.isNull = false := by
  have hnull : ∀ w : Value, w.joined.isNull = false ↔ w ≠ .null := fun w => by
    rw [isNull_joined]
    cases w <;> simp [Value.isNull]
  constructor
  · rintro ⟨members, w, rfl, hw, hne⟩
    refine ⟨w.joined, ?_, (hnull w).2 hne⟩
    rw [Value.joined, Value.get?, Json.get?_ofList_membersJoined]
    exact ⟨w, hw, rfl⟩
  · rintro ⟨w, hget, hw⟩
    cases v with
    | object members =>
      rw [Value.joined, Value.get?, Json.get?_ofList_membersJoined] at hget
      obtain ⟨u, hu, rfl⟩ := hget
      exact ⟨members, u, rfl, hu, (hnull u).1 hw⟩
    | _ => simp [Value.joined, Value.get?] at hget

theorem ofDocument_of_members (hmetrics : HoldsMember "metrics" v)
    (hraw : HoldsMember "rawOutput" v) :
    ofDocument v.joined = (decoder v.joined.tree).mapError fun _ => .notResult := by
  obtain ⟨m, hm, hmnull⟩ := holdsMember_iff.1 hmetrics
  obtain ⟨o, ho, honull⟩ := holdsMember_iff.1 hraw
  simp only [ofDocument, hm, ho, hmnull, honull]
  rfl

theorem ofDocument_of_missing (h : ¬ (HoldsMember "metrics" v ∧ HoldsMember "rawOutput" v)) :
    ofDocument v.joined = .error .notResult := by
  rw [holdsMember_iff, holdsMember_iff] at h
  refine if_neg fun hboth => h ?_
  simp only [Bool.and_eq_true] at hboth
  obtain ⟨hmetrics, hraw⟩ := hboth
  constructor
  · split at hmetrics
    · rename_i w hw
      exact ⟨w, hw, by simpa using hmetrics⟩
    · cases hmetrics
  · split at hraw
    · rename_i w hw
      exact ⟨w, hw, by simpa using hraw⟩
    · cases hraw

theorem ofDocument_eq_ok_iff : ofDocument v.joined = .ok r ↔ HoldsResult v r := by
  by_cases h : HoldsMember "metrics" v ∧ HoldsMember "rawOutput" v
  · rw [ofDocument_of_members h.1 h.2]
    constructor
    · intro hread
      refine ⟨h.1, h.2, ?_⟩
      cases hdecode : decoder v.joined.tree with
      | error fault =>
        rw [hdecode] at hread
        cases hread
      | ok a =>
        rw [hdecode] at hread
        exact congrArg _ (Except.ok.inj hread)
    · rintro ⟨-, -, hread⟩
      rw [hread]
      rfl
  · rw [ofDocument_of_missing h]
    exact iff_of_false (by simp) fun hholds => h ⟨hholds.metrics, hholds.rawOutput⟩

theorem error_of_ofDocument {e : Error} (h : ofDocument v.joined = .error e) : e = .notResult := by
  by_cases hmembers : HoldsMember "metrics" v ∧ HoldsMember "rawOutput" v
  · rw [ofDocument_of_members hmembers.1 hmembers.2] at h
    cases hdecode : decoder v.joined.tree with
    | error fault =>
      rw [hdecode] at h
      exact (Except.error.inj h).symm
    | ok a =>
      rw [hdecode] at h
      cases h
  · rw [ofDocument_of_missing hmembers] at h
    exact (Except.error.inj h).symm

/-! ## Routes -/

variable {fileName content : String}

theorem ofFile_of_report (h : ¬ (IsResultName fileName ∧ ∃ v, IsDocument content.toList v))
    (id : String) (now : Int64) :
    ofFile id fileName content now = .ok (ofReport id content now) := by
  have hnone : (if hasResultName fileName then Value.ofText? content else none) = none := by
    split_ifs with hname
    · refine Option.eq_none_iff_forall_ne_some.2 fun w hw => h ⟨hasResultName_iff.1 hname, ?_⟩
      obtain ⟨v, hv, -⟩ := Json.ofText?_eq_some_iff_isDocument.1 hw
      exact ⟨v, hv⟩
    · rfl
  rw [ofFile, hnone]

theorem ofFile_of_document (hname : IsResultName fileName) (h : IsDocument content.toList v)
    (id : String) (now : Int64) : ofFile id fileName content now = ofDocument v.joined := by
  rw [ofFile, if_pos (hasResultName_iff.2 hname),
    Json.ofText?_eq_some_iff_isDocument.2 ⟨v, h, rfl⟩]

/-- Every file goes one of two ways: as a report it is taken as it is, and as a document it is the
result that it holds, or it is refused. -/
theorem ofFile_routes (id fileName content : String) (now : Int64) :
    (¬ (IsResultName fileName ∧ ∃ v, IsDocument content.toList v) →
      ofFile id fileName content now = .ok
        { id := id
          timestamp := now
          config := .imported
          metrics := Report.summary content
          rawOutput := content
          duration := 0
          status := .success }) ∧
    (IsResultName fileName → ∀ v, IsDocument content.toList v →
      (∀ r, ofFile id fileName content now = .ok r ↔ HoldsResult v r) ∧
      ∀ e, ofFile id fileName content now = .error e ↔
        e = .notResult ∧ ∀ r, ¬ HoldsResult v r) := by
  refine ⟨fun h => ofFile_of_report h id now, fun hname v hv => ?_⟩
  rw [ofFile_of_document hname hv]
  refine ⟨fun r => ofDocument_eq_ok_iff, fun e => ⟨fun he => ?_, ?_⟩⟩
  · refine ⟨error_of_ofDocument he, fun r hr => ?_⟩
    rw [ofDocument_eq_ok_iff.2 hr] at he
    cases he
  · rintro ⟨rfl, hnone⟩
    cases hread : ofDocument v.joined with
    | ok r => exact absurd (ofDocument_eq_ok_iff.1 hread) (hnone r)
    | error e => rw [error_of_ofDocument hread]

/-- The same text is a report under one name and a result under the other, and an empty array is
neither refused as the first nor taken for the second. -/
theorem ofFile_routes_exported :
    (¬ (IsResultName "run.txt" ∧ ∃ v, IsDocument exported.exportText.toList v) ∧
      ofFile "2" "run.txt" exported.exportText 0 = .ok
        ⟨"2", 0, .imported, Report.summary exported.exportText, exported.exportText, 0,
          .success⟩) ∧
      IsResultName "run.JSON" ∧ IsDocument exported.exportText.toList exported.toJson ∧
      HoldsResult exported.toJson exported ∧
      ofFile "2" "run.JSON" exported.exportText 0 = .ok exported ∧
      IsDocument (Value.array []).compact.toList (.array []) ∧
      ofFile "2" "run.JSON" (Value.array []).compact 0 = .error .notResult := by
  have hrecovers := recovers_toJson isFinite_exported
  have hplain : ¬ IsResultName "run.txt" := by
    rw [← hasResultName_iff]
    decide
  have hname : IsResultName "run.JSON" := hasResultName_iff.1 (by decide)
  have hreport := fun h : IsResultName "run.txt" ∧ ∃ v, IsDocument exported.exportText.toList v =>
    hplain h.1
  have hdocument : IsDocument exported.exportText.toList exported.toJson := by
    rw [exportText, Value.spread, String.toList_ofList]
    exact Json.isDocument_chars Json.isBlank_spread (hrecovers.fits.depth.trans (by decide)) 0
  have harray : IsDocument (Value.array []).compact.toList (.array []) := by
    rw [Value.compact, String.toList_ofList]
    exact Json.isDocument_chars Json.isBlank_compact (by decide) 0
  have hjoined := Json.joined_eq_self hrecovers.fits.distinct
  have hholds : HoldsResult exported.toJson exported :=
    { metrics := holdsMember_iff.2 ⟨exported.metrics.toJson, by rw [hjoined]; rfl, rfl⟩
      rawOutput := holdsMember_iff.2 ⟨.text exported.rawOutput, by rw [hjoined]; rfl, rfl⟩
      read := by rw [hjoined, hrecovers.read] }
  have hnone : ∀ r, ¬ HoldsResult (.array []) r := by
    rintro r ⟨⟨_, _, h, -⟩, -, -⟩
    cases h
  exact ⟨⟨hreport, (ofFile_routes "2" "run.txt" exported.exportText 0).1 hreport⟩, hname, hdocument,
    hholds, ((ofFile_routes "2" "run.JSON" _ 0).2 hname _ hdocument).1 _ |>.2 hholds, harray,
    ((ofFile_routes "2" "run.JSON" _ 0).2 hname _ harray).2 _ |>.2 ⟨rfl, hnone⟩⟩

end TestResult

end LoadTest
