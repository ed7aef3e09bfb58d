import LoadTest.Proofs.Report.Finite
import LoadTest.Proofs.Result.RoundTrip

/-!
# Exported runs

The metrics of a run survive its export when no run of digits in the report is longer than 302
(`TestResult.ofFile_exportText_ofRun`): each of them has a spelling. A longer number is read as
infinity, which is written as null. A rate that is null is refused when the file is imported, and a
percentage that is null is lost (`TestResult.ofFile_exportText_saturated`).
-/

namespace LoadTest

open Json (Value)

/-! ## Documents of results

A double that has no spelling leaves null behind, so that there is a document of every result.
-/

section Fits

variable {k : ℕ}

@[simp]
theorem Json.fits_ofBinary64 (x : Binary64) : (Value.ofBinary64 x).Fits k := by
  cases x <;> simp [Value.ofBinary64]

@[simp]
theorem Json.fits_ofUInt64 (n : UInt64) : (Value.ofUInt64 n).Fits k :=
  fits_number _

theorem DurationStats.fits_toJson (s : DurationStats) : s.toJson.Fits (k + 1) :=
  Json.fits_object (by simp [Entries.names]) (by simp)

theorem FailureRate.fits_toJson (r : FailureRate) : r.toJson.Fits (k + 1) :=
  Json.fits_object (by simp [Entries.names]) (by simp)

theorem Counter.fits_toJson (c : Counter) : c.toJson.Fits (k + 1) :=
  Json.fits_object (by simp [Entries.names]) (by simp)

theorem IndividualCheck.fits_toJson (c : IndividualCheck) : c.toJson.Fits (k + 1) :=
  Json.fits_object (by simp [Entries.names]) (by simp)

theorem Metrics.fits_toJson (m : Metrics) : m.toJson.Fits 3 := by
  have hdistinct : m.fields.names.Nodup := by simp [Metrics.fields, Entries.names]
  have hchecks : (Value.array (m.individualChecks.map IndividualCheck.toJson)).Fits 2 := by
    refine Json.fits_array fun v hv => ?_
    obtain ⟨c, -, rfl⟩ := List.mem_map.1 hv
    exact c.fits_toJson
  have hfields : ∀ field ∈ m.fields, ∀ v, field.2 = some v → v.Fits 2 := by
    simp only [fields, List.forall_mem_cons, Option.map_eq_some_iff, forall_exists_index, and_imp,
      forall_apply_eq_imp_iff₂, Option.some.injEq, forall_eq']
    simp [hchecks, DurationStats.fits_toJson, FailureRate.fits_toJson, Counter.fits_toJson,
      (VusGauge.recovers_toJson _).fits, (VusMaxGauge.recovers_toJson _).fits,
      (DataTransfer.recovers_toJson _).fits]
  rw [Metrics.toJson_eq]
  refine Json.fits_object (hdistinct.sublist (Json.names_present_sublist _)) ?_
  rintro ⟨name, v⟩ hmember
  exact hfields _ (Json.mem_present.1 hmember) v rfl

theorem TestResult.fits_toJson (r : TestResult) : r.toJson.Fits 4 :=
  Json.fits_object (by simp [Entries.names])
    (by simp [r.config.recovers_spelled.fits, r.metrics.fits_toJson, Value.ofInt64])

end Fits

namespace TestResult

/-- An exported result is taken for the document that it is. -/
theorem ofFile_exportText_eq (r : TestResult) (id stem : String)
    {ending : String} (hending : ending.toList.map Char.toLower = ".json".toList) (now : Int64) :
    ofFile id (stem ++ ending) r.exportText now = ofDocument r.toJson := by
  have hfits := r.fits_toJson
  have hread : Value.ofText? r.toJson.spread = some r.toJson :=
    Json.ofText?_spread hfits.distinct (hfits.depth.trans (by decide))
  rw [ofFile, if_pos (hasResultName_append hending), exportText, hread]

/-- The metrics of an exported run are finite and come back as they were, and so does everything
else but a think time that has no spelling. -/
theorem ofFile_exportText_ofRun {raw : String} (hraw : Report.RunsWithin 302 raw.toList)
    (id : String) (config : TestConfig) (duration : UInt64) (success : Bool) (now : Int64)
    (newId stem : String) {ending : String}
    (hending : ending.toList.map Char.toLower = ".json".toList) (later : Int64) :
    (Report.summary raw).IsFinite ∧
      ofFile newId (stem ++ ending) (ofRun id config raw duration success now).exportText later =
        .ok (ofRun id config.spelled raw duration success now) := by
  have hmetrics := Report.isFinite_summary hraw
  refine ⟨hmetrics, ?_⟩
  rw [ofFile_exportText_eq _ newId stem hending later]
  exact ofDocument_spelled hmetrics

theorem ofFile_exportText_ofRun_rate :
    (Report.summary "http_reqs: 1 2.5/s").IsFinite ∧
      ofFile "2" ("run" ++ ".json")
        (ofRun "1" TestConfig.initial "http_reqs: 1 2.5/s" 7 true 0).exportText 0 =
        .ok (ofRun "1" TestConfig.initial.spelled "http_reqs: 1 2.5/s" 7 true 0) :=
  ofFile_exportText_ofRun (Report.runsWithin_of_length_le (by decide)) "1" .initial 7 true 0
    "2" "run" (by decide) 0

/-! ## Numbers that are too long -/

/-- A rate beyond the last double. -/
def saturatedRate : List Char :=
  "http_reqs: 1 ".toList ++ (List.replicate 309 '9' ++ ['/', 's'])

/-- A percentage of 303 digits is finite, but not what is missing to a hundred. -/
def saturatedShare : List Char :=
  "checks_succeeded: ".toList ++ (List.replicate 303 '9' ++ "% 1 out of 1".toList)

theorem summary_saturatedRate : Report.summary (String.ofList saturatedRate) =
    { Metrics.empty with httpReqs := some ⟨1, .infinite false⟩ } := by
  have hchecks : Report.individualChecks saturatedRate = [] :=
    Report.Layout.individualChecks_eq_nil (by decide +kernel)
  rw [Report.summary, isWhiteText, String.toList_ofList, if_neg (by decide),
    Report.Layout.fillAll_sections, hchecks]
  simp only [Metrics.empty, Metrics.mk.injEq, true_and]
  refine ⟨?_, ?_, ?_, ?_, ?_, ?_, ?_, ?_, ?_, ?_, ?_, ?_⟩ <;> decide +kernel

theorem summary_saturatedShare : Report.summary (String.ofList saturatedShare) =
    { Metrics.empty with
      checksSucceeded := Report.amount? (List.replicate 303 '9')
      checksFailed := some (.infinite true) } := by
  have hchecks : Report.individualChecks saturatedShare = [] :=
    Report.Layout.individualChecks_eq_nil (by decide +kernel)
  rw [Report.summary, isWhiteText, String.toList_ofList, if_neg (by decide),
    Report.Layout.fillAll_sections, hchecks]
  simp only [Metrics.empty, Metrics.mk.injEq, true_and]
  refine ⟨?_, ?_, ?_, ?_, ?_, ?_, ?_, ?_, ?_, ?_, ?_, ?_⟩ <;> decide +kernel

/-- What is known of a run with such metrics when it is imported. -/
theorem ofFile_exportText_of_summary {cs : List Char} {m : Metrics}
    (hsummary : Report.summary (String.ofList cs) = m) :
    ofFile "2" ("run" ++ ".json") (ofRun "1" TestConfig.initial (String.ofList cs) 7 true
      0).exportText 0 =
      ofDocument
        (TestResult.mk "1" 0 TestConfig.initial m (String.ofList cs) 7 .success).toJson := by
  subst hsummary
  exact ofFile_exportText_eq _ "2" "run" (by decide) 0

/-- The rate makes the import refuse the file, and the share of failed checks is lost. -/
theorem ofFile_exportText_saturated :
    (¬ (Report.summary (String.ofList saturatedRate)).IsFinite ∧
      ofFile "2" ("run" ++ ".json") (ofRun "1" TestConfig.initial (String.ofList saturatedRate) 7
        true 0).exportText 0 = .error .notResult) ∧
      (Report.summary (String.ofList saturatedShare)).checksFailed = some (.infinite true) ∧
        ∃ r, ofFile "2" ("run" ++ ".json") (ofRun "1" TestConfig.initial
          (String.ofList saturatedShare) 7 true 0).exportText 0 = .ok r ∧
          r.metrics.checksFailed = none := by
  refine ⟨⟨fun h => ?_, ?_⟩, ?_, ?_⟩
  · rw [summary_saturatedRate] at h
    exact absurd (h.httpReqs _ rfl) (by decide)
  · rw [ofFile_exportText_of_summary summary_saturatedRate]
    rfl
  · rw [summary_saturatedShare]
  · rw [ofFile_exportText_of_summary summary_saturatedShare]
    generalize hread : ofDocument _ = imported
    have hlost : (imported.toOption.map fun r => r.metrics.checksFailed) = some none := by
      rw [← hread]
      decide +kernel
    cases imported with
    | error e => cases hlost
    | ok r => exact ⟨r, rfl, Option.some.inj hlost⟩

end TestResult

end LoadTest
