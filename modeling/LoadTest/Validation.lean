import LoadTest.Duration
import LoadTest.Config.Json
import LoadTest.Url.Basic

/-!
# Checks before a script is made

Only the fields are looked at that the test type and the executor use.
-/

namespace LoadTest

open Json (Value)

/-- What is wrong with a field. -/
structure Issue where
  field : String
  message : String
deriving DecidableEq

def Issue.toJson (issue : Issue) : Value :=
  .object [("field", .text issue.field), ("message", .text issue.message)]

/-- Whether requests can be sent there. -/
def isValidUrl (endpoint : String) : Bool :=
  Url.isHttp endpoint.toList

/-- A blank text stands for the empty object. -/
def isValidJson (text : String) : Bool :=
  isWhiteText text || (Value.ofText? text).isSome

namespace TestConfig

/-- The endpoint has to be an address. -/
def endpointIssues (c : TestConfig) : List Issue :=
  if isValidUrl c.endpoint then [] else [⟨"endpoint", "Endpoint must be a valid http(s) URL"⟩]

/-- No header may have a blank name. -/
def headerIssues (c : TestConfig) : List Issue :=
  (c.headers.names.filter isWhiteText).map fun _ =>
    ⟨"headers", "Header key cannot be empty"⟩

/-- A body that is sent has to be JSON. -/
def bodyIssues (c : TestConfig) : List Issue :=
  if c.method.carriesBody && !isValidJson (c.body.getD "") then
    [⟨"body", "Body must be valid JSON"⟩]
  else []

/-- A number of seconds that can be waited for, zero included. -/
def isPause : Binary64 → Bool
  | .finite x => 0 ≤ x.signedUnits
  | _ => false

/-- A think time has to be a pause. -/
def thinkTimeIssues (c : TestConfig) : List Issue :=
  match c.thinkTime with
  | some seconds =>
    if isPause seconds then []
    else [⟨"thinkTime", "Think time must be a non-negative number of seconds"⟩]
  | none => []

/-- A blank duration counts as left out. -/
def durationIssues (field : String) (duration : Option String) : List Issue :=
  match duration with
  | some literal =>
    if isWhiteText literal || Duration.isLiteral literal then []
    else [⟨field, "Invalid duration '" ++ literal ++ "' (expected e.g. 30s, 5m, 1h)"⟩]
  | none => []

/-- The duration of every stage has to be a literal. The first one here is the `index`-th of all. -/
def stageIssues (index : Nat) : List Stage → List Issue
  | [] => []
  | stage :: stages =>
    (if Duration.isLiteral stage.duration then []
    else [⟨"stages[" ++ toString index ++ "].duration",
      "Invalid duration '" ++ stage.duration ++ "'"⟩]) ++ stageIssues (index + 1) stages

/-- The literals that the executor takes over. -/
def executorIssues (c : TestConfig) : List Issue :=
  match c.executor with
  | .constantVus => durationIssues "duration" c.duration
  | .constantArrivalRate =>
    durationIssues "duration" c.duration ++ durationIssues "timeUnit" c.timeUnit
  | .rampingArrivalRate => durationIssues "timeUnit" c.timeUnit ++ stageIssues 0 c.stages
  | .rampingVus => stageIssues 0 c.stages
  | .sharedIterations | .perVuIterations => []

/-- All that is wrong with a configuration. A custom test takes nothing from its executor. -/
def issues (c : TestConfig) : List Issue :=
  c.endpointIssues ++ c.headerIssues ++ c.bodyIssues ++ c.thinkTimeIssues ++
    (if c.testType = .custom then [] else c.executorIssues)

end TestConfig

end LoadTest
