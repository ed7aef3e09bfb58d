import LoadTest.Proofs.Report.RoundTrip
import LoadTest.Result.Import

/-!
# Results read back

What is exported can be imported: a result whose doubles are finite comes back as it was, from a
file whose name ends in `.json` in letters of either case, whenever that is
(`TestResult.ofFile_exportText`).
-/

namespace LoadTest

open Json (Decoder Record Value)
open Json.Member

theorem hasResultName_append {stem ending : String}
    (h : ending.toList.map Char.toLower = ".json".toList) :
    hasResultName (stem ++ ending) = true := by
  rw [hasResultName, String.toList_append, List.map_append, List.reverse_append, h,
    List.isPrefixOf_iff_prefix]
  exact List.prefix_append _ _

namespace TestResult

/-- Every double of the result has a spelling. -/
structure IsFinite (r : TestResult) : Prop where
  config : r.config.IsFinite
  metrics : r.metrics.IsFinite

theorem get?_status_variants (s : TestStatus) : Entries.get? s.id TestStatus.variants = some s := by
  cases s <;> rfl

/-- What is left of a result in its document. -/
def spelled (r : TestResult) : TestResult :=
  { r with config := r.config.spelled }

theorem spelled_eq_self {r : TestResult} (hr : r.IsFinite) : r.spelled = r := by
  rw [spelled, TestConfig.spelled_eq_self hr.config]

theorem recovers_spelled {r : TestResult} (hr : r.metrics.IsFinite) :
    decoder.Recovers 4 r.toJson r.spelled := by
  refine Record.recovers_present
    [("id", some (.text r.id)), ("timestamp", some (.ofInt64 r.timestamp)),
      ("config", some r.config.toJson), ("metrics", some r.metrics.toJson),
      ("rawOutput", some (.text r.rawOutput)), ("duration", some (.ofUInt64 r.duration)),
      ("status", some (.text r.status.id))] _ (by decide) rfl ?_
  exact (Record.Reads.pure TestResult.mk)
    |>.andMember (reads_required (Decoder.recovers_text r.id))
    |>.andMember (reads_required (Decoder.recovers_int64 r.timestamp))
    |>.andMember (reads_required r.config.recovers_spelled)
    |>.andMember (reads_required (Metrics.recovers_toJson hr))
    |>.andMember (reads_required (Decoder.recovers_text r.rawOutput))
    |>.andMember (reads_required (Decoder.recovers_uint64 r.duration))
    |>.andMember (reads_required (Decoder.recovers_variant (get?_status_variants r.status)))

theorem recovers_toJson {r : TestResult} (hr : r.IsFinite) : decoder.Recovers 4 r.toJson r := by
  have h := recovers_spelled hr.metrics
  rwa [spelled_eq_self hr] at h

theorem ofDocument_spelled {r : TestResult} (hr : r.metrics.IsFinite) :
    ofDocument r.toJson = .ok r.spelled := by
  have hmetrics : r.toJson.get? "metrics" = some r.metrics.toJson := rfl
  have hraw : r.toJson.get? "rawOutput" = some (.text r.rawOutput) := rfl
  have hnull : r.metrics.toJson.isNull = false := rfl
  simp only [ofDocument, hmetrics, hraw, hnull, (recovers_spelled hr).read]
  rfl

theorem ofDocument_toJson {r : TestResult} (hr : r.IsFinite) : ofDocument r.toJson = .ok r := by
  rw [ofDocument_spelled hr.metrics, spelled_eq_self hr]

/-- An exported result is imported as it was. -/
theorem ofFile_exportText {r : TestResult} (hr : r.IsFinite) (id stem : String) {ending : String}
    (hending : ending.toList.map Char.toLower = ".json".toList) (now : Int64) :
    ofFile id (stem ++ ending) r.exportText now = .ok r := by
  have hfits := (recovers_toJson hr).fits
  have hread : Value.ofText? r.toJson.spread = some r.toJson :=
    Json.ofText?_spread hfits.distinct (hfits.depth.trans (by decide))
  rw [ofFile, if_pos (hasResultName_append hending), exportText, hread]
  exact ofDocument_toJson hr

/-- A run with headers, stages and checks, and with sections of every kind in its report. -/
def exported : TestResult where
  id := "1"
  timestamp := -1
  config :=
    { TestConfig.plain .stress .rampingVus .post "http://localhost/" with
      headers := .ofList [("X-Trace", "\"ü\"\n"), ("Accept", "")]
      body := some "[1,\r\n 2]"
      stages := [⟨"30s", 10⟩, ⟨"1m", 0⟩]
      checks := ["status is 200", ""]
      thinkTime := some ((Binary64.ofNat 3).div (.ofNat 2)) }
  metrics :=
    { Metrics.empty with
      checksTotal := some 3
      checksSucceeded := some ((Binary64.ofNat 100).div (.ofNat 3))
      checksFailed := some ((Binary64.ofNat 200).div (.ofNat 3))
      individualChecks := [⟨"status is 200", 1, 2, (Binary64.ofNat 100).div (.ofNat 3)⟩]
      httpReqDuration := some ⟨.ofNat 2, .ofNat 1, .ofNat 2, .ofNat 9, .ofNat 5, .ofNat 7⟩
      httpReqFailed := some ⟨.zero, 0, 3⟩
      httpReqs := some ⟨18446744073709551615, (Binary64.ofNat 1).div (.ofNat 10)⟩
      vus := some ⟨1, 0, 10⟩
      vusMax := some ⟨10, 10, 10⟩
      dataReceived := some ⟨"1.5 kB", "50 B/s"⟩ }
  rawOutput := "✓ status is 200\n"
  duration := 30007
  status := .failed

theorem isFinite_exported : exported.IsFinite where
  config := by decide +kernel
  metrics := by constructor <;> decide +kernel

theorem ofFile_exportText_exported :
    exported.IsFinite ∧ ".JSON".toList.map Char.toLower = ".json".toList ∧
      ofFile "2" ("run" ++ ".JSON") exported.exportText 0 = .ok exported :=
  ⟨isFinite_exported, by decide, ofFile_exportText isFinite_exported "2" "run" (by decide) 0⟩

end TestResult

end LoadTest
