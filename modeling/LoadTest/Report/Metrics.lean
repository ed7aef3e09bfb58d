import LoadTest.Config.Json

/-!
# Metrics of a run

What a report says of a run, in milliseconds where it is time. A section that the report does not
have is `none`, which is not the same as a section that says zero.
-/

namespace LoadTest

open Json (Decoder Record Value)

/-- Statistics of a time that was measured often, in milliseconds. -/
structure DurationStats where
  avg : Binary64
  min : Binary64
  med : Binary64
  max : Binary64
  p90 : Binary64
  p95 : Binary64
deriving DecidableEq

/-- How many of all requests failed, and their percentage. -/
structure FailureRate where
  percentage : Binary64
  count : UInt64
  total : UInt64
deriving DecidableEq

/-- How often something happened, in all and by the second. -/
structure Counter where
  total : UInt64
  rate : Binary64
deriving DecidableEq

/-- The VUs at the end of a run, and the fewest and most of them. -/
structure VusGauge where
  current : UInt64
  min : UInt64
  max : UInt64
deriving DecidableEq

/-- The VUs that were ready, and the fewest and most of them. -/
structure VusMaxGauge where
  value : UInt64
  min : UInt64
  max : UInt64
deriving DecidableEq

/-- Amounts of bytes, as the report prints them. -/
structure DataTransfer where
  total : String
  rate : String
deriving DecidableEq

/-- How often a check passed and failed. -/
structure IndividualCheck where
  name : String
  passes : UInt64
  fails : UInt64
  percentage : Binary64
deriving DecidableEq

/-- What a report says, section by section. -/
structure Metrics where
  checksTotal : Option UInt64
  checksSucceeded : Option Binary64
  checksFailed : Option Binary64
  individualChecks : List IndividualCheck
  httpReqDuration : Option DurationStats
  httpReqFailed : Option FailureRate
  httpReqs : Option Counter
  iterationDuration : Option DurationStats
  iterations : Option Counter
  vus : Option VusGauge
  vusMax : Option VusMaxGauge
  dataReceived : Option DataTransfer
  dataSent : Option DataTransfer
deriving DecidableEq

namespace DurationStats

def toJson (s : DurationStats) : Value :=
  .object [("avg", .ofBinary64 s.avg), ("min", .ofBinary64 s.min), ("med", .ofBinary64 s.med),
    ("max", .ofBinary64 s.max), ("p90", .ofBinary64 s.p90), ("p95", .ofBinary64 s.p95)]

/-- The statistics, of which none may be left out. -/
def record : Record DurationStats :=
  (Record.pure DurationStats.mk)
    |>.andMember (.required "avg" .binary64)
    |>.andMember (.required "min" .binary64)
    |>.andMember (.required "med" .binary64)
    |>.andMember (.required "max" .binary64)
    |>.andMember (.required "p90" .binary64)
    |>.andMember (.required "p95" .binary64)

def decoder : Decoder DurationStats :=
  record.ofTree "struct DurationStats"

end DurationStats

namespace FailureRate

def toJson (r : FailureRate) : Value :=
  .object [("percentage", .ofBinary64 r.percentage), ("count", .ofUInt64 r.count),
    ("total", .ofUInt64 r.total)]

/-- The percentage and the counts, of which none may be left out. -/
def record : Record FailureRate :=
  (Record.pure FailureRate.mk)
    |>.andMember (.required "percentage" .binary64)
    |>.andMember (.required "count" .uint64)
    |>.andMember (.required "total" .uint64)

def decoder : Decoder FailureRate :=
  record.ofTree "struct FailureRate"

end FailureRate

namespace Counter

def toJson (c : Counter) : Value :=
  .object [("total", .ofUInt64 c.total), ("rate", .ofBinary64 c.rate)]

/-- The number and the rate, of which none may be left out. -/
def record : Record Counter :=
  (Record.pure Counter.mk)
    |>.andMember (.required "total" .uint64)
    |>.andMember (.required "rate" .binary64)

def decoder : Decoder Counter :=
  record.ofTree "struct Counter"

end Counter

namespace VusGauge

def toJson (g : VusGauge) : Value :=
  .object [("current", .ofUInt64 g.current), ("min", .ofUInt64 g.min), ("max", .ofUInt64 g.max)]

/-- The three numbers, of which none may be left out. -/
def record : Record VusGauge :=
  (Record.pure VusGauge.mk)
    |>.andMember (.required "current" .uint64)
    |>.andMember (.required "min" .uint64)
    |>.andMember (.required "max" .uint64)

def decoder : Decoder VusGauge :=
  record.ofTree "struct VusGauge"

end VusGauge

namespace VusMaxGauge

def toJson (g : VusMaxGauge) : Value :=
  .object [("value", .ofUInt64 g.value), ("min", .ofUInt64 g.min), ("max", .ofUInt64 g.max)]

/-- The three numbers, of which none may be left out. -/
def record : Record VusMaxGauge :=
  (Record.pure VusMaxGauge.mk)
    |>.andMember (.required "value" .uint64)
    |>.andMember (.required "min" .uint64)
    |>.andMember (.required "max" .uint64)

def decoder : Decoder VusMaxGauge :=
  record.ofTree "struct VusMaxGauge"

end VusMaxGauge

namespace DataTransfer

def toJson (d : DataTransfer) : Value :=
  .object [("total", .text d.total), ("rate", .text d.rate)]

/-- Both amounts, of which none may be left out. -/
def record : Record DataTransfer :=
  (Record.pure DataTransfer.mk)
    |>.andMember (.required "total" .text)
    |>.andMember (.required "rate" .text)

def decoder : Decoder DataTransfer :=
  record.ofTree "struct DataTransfer"

end DataTransfer

namespace IndividualCheck

def toJson (c : IndividualCheck) : Value :=
  .object [("name", .text c.name), ("passes", .ofUInt64 c.passes), ("fails", .ofUInt64 c.fails),
    ("percentage", .ofBinary64 c.percentage)]

/-- The name and the numbers, of which none may be left out. -/
def record : Record IndividualCheck :=
  (Record.pure IndividualCheck.mk)
    |>.andMember (.required "name" .text)
    |>.andMember (.required "passes" .uint64)
    |>.andMember (.required "fails" .uint64)
    |>.andMember (.required "percentage" .binary64)

def decoder : Decoder IndividualCheck :=
  record.ofTree "struct IndividualCheck"

end IndividualCheck

namespace Metrics

/-- No section at all. -/
def empty : Metrics where
  checksTotal := none
  checksSucceeded := none
  checksFailed := none
  individualChecks := []
  httpReqDuration := none
  httpReqFailed := none
  httpReqs := none
  iterationDuration := none
  iterations := none
  vus := none
  vusMax := none
  dataReceived := none
  dataSent := none

/-- Whether no section was found. -/
def isEmpty (m : Metrics) : Bool :=
  m.checksTotal.isNone && m.checksSucceeded.isNone && m.checksFailed.isNone &&
    m.individualChecks.isEmpty && m.httpReqDuration.isNone && m.httpReqFailed.isNone &&
    m.httpReqs.isNone && m.iterationDuration.isNone && m.iterations.isNone && m.vus.isNone &&
    m.vusMax.isNone && m.dataReceived.isNone && m.dataSent.isNone

/-- The document of metrics. A section that is absent has no member, but the checks always have one.
-/
def toJson (m : Metrics) : Value :=
  .object <|
    Json.given "checks_total" (m.checksTotal.map .ofUInt64) ++
    Json.given "checks_succeeded" (m.checksSucceeded.map .ofBinary64) ++
    Json.given "checks_failed" (m.checksFailed.map .ofBinary64) ++
    [("individual_checks", .array (m.individualChecks.map IndividualCheck.toJson))] ++
    Json.given "http_req_duration" (m.httpReqDuration.map DurationStats.toJson) ++
    Json.given "http_req_failed" (m.httpReqFailed.map FailureRate.toJson) ++
    Json.given "http_reqs" (m.httpReqs.map Counter.toJson) ++
    Json.given "iteration_duration" (m.iterationDuration.map DurationStats.toJson) ++
    Json.given "iterations" (m.iterations.map Counter.toJson) ++
    Json.given "vus" (m.vus.map VusGauge.toJson) ++
    Json.given "vus_max" (m.vusMax.map VusMaxGauge.toJson) ++
    Json.given "data_received" (m.dataReceived.map DataTransfer.toJson) ++
    Json.given "data_sent" (m.dataSent.map DataTransfer.toJson)

/-- The sections, each of which may be absent or null. -/
def record : Record Metrics :=
  (Record.pure Metrics.mk)
    |>.andMember (.withDefault "checks_total" (.option .uint64) none)
    |>.andMember (.withDefault "checks_succeeded" (.option .binary64) none)
    |>.andMember (.withDefault "checks_failed" (.option .binary64) none)
    |>.andMember (.withDefault "individual_checks" (.listOrNull IndividualCheck.decoder) [])
    |>.andMember (.withDefault "http_req_duration" (.option DurationStats.decoder) none)
    |>.andMember (.withDefault "http_req_failed" (.option FailureRate.decoder) none)
    |>.andMember (.withDefault "http_reqs" (.option Counter.decoder) none)
    |>.andMember (.withDefault "iteration_duration" (.option DurationStats.decoder) none)
    |>.andMember (.withDefault "iterations" (.option Counter.decoder) none)
    |>.andMember (.withDefault "vus" (.option VusGauge.decoder) none)
    |>.andMember (.withDefault "vus_max" (.option VusMaxGauge.decoder) none)
    |>.andMember (.withDefault "data_received" (.option DataTransfer.decoder) none)
    |>.andMember (.withDefault "data_sent" (.option DataTransfer.decoder) none)

def decoder : Decoder Metrics :=
  record.ofTree "struct Metrics"

end Metrics

end LoadTest
