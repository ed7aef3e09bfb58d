import LoadTest.Report.Summary

/-!
# Results of runs

A result keeps what was run, what the report said, and the report itself. An export is its document,
laid out over lines.
-/

namespace LoadTest

open Json (Decoder Record Value)

/-- How a run ended. -/
inductive TestStatus where
  | success
  | failed
deriving DecidableEq

namespace TestStatus

/-- The name of the status in documents. -/
def id : TestStatus → String
  | .success => "success"
  | .failed => "failed"

/-- The names that a document may use. -/
def variants : List (String × TestStatus) :=
  [.success, .failed].map fun s => (s.id, s)

end TestStatus

/-- A run and what is known of it. -/
structure TestResult where
  id : String
  /-- In milliseconds since 1970. -/
  timestamp : Int64
  config : TestConfig
  metrics : Metrics
  rawOutput : String
  /-- In milliseconds. -/
  duration : UInt64
  status : TestStatus
deriving DecidableEq

namespace TestResult

/-- The result of a run that has just ended. -/
def ofRun (id : String) (config : TestConfig) (rawOutput : String) (duration : UInt64)
    (success : Bool) (now : Int64) : TestResult where
  id := id
  timestamp := now
  config := config
  metrics := Report.summary rawOutput
  rawOutput := rawOutput
  duration := duration
  status := if success then .success else .failed

def toJson (r : TestResult) : Value :=
  .object [("id", .text r.id), ("timestamp", .ofInt64 r.timestamp), ("config", r.config.toJson),
    ("metrics", r.metrics.toJson), ("rawOutput", .text r.rawOutput),
    ("duration", .ofUInt64 r.duration), ("status", .text r.status.id)]

/-- The members of a result, of which none may be left out. -/
def record : Record TestResult :=
  (Record.pure TestResult.mk)
    |>.andMember (.required "id" .text)
    |>.andMember (.required "timestamp" .int64)
    |>.andMember (.required "config" TestConfig.decoder)
    |>.andMember (.required "metrics" Metrics.decoder)
    |>.andMember (.required "rawOutput" .text)
    |>.andMember (.required "duration" .uint64)
    |>.andMember (.required "status" (.variant TestStatus.variants))

def decoder : Decoder TestResult :=
  record.ofTree "struct TestResult"

/-- The document, laid out over lines. -/
def exportText (r : TestResult) : String :=
  r.toJson.spread

/-- The name of the file that an export is saved as. -/
def exportName (r : TestResult) : String :=
  "k6-result-" ++ r.id ++ ".json"

end TestResult

end LoadTest
