import LoadTest.Series.Point
import LoadTest.Text.Lines
import LoadTest.Text.White

/-!
# Series by the second

An aggregator takes the lines of a stream one by one. The first line with a time fixes the start.
From then on every point of a tracked metric is counted in its bucket, which holds a second of
milliseconds since the start. Durations are averaged, requests added up, and of the VUs the most
counts.
-/

namespace LoadTest

open Json (Value)

/-- The metrics that are tracked. -/
inductive Signal where
  | requestDuration
  | requests
  | vus
deriving DecidableEq

/-- The signal of that metric. -/
def Signal.ofName? (name : String) : Option Signal :=
  if name = "http_req_duration" then some .requestDuration
  else if name = "http_reqs" then some .requests
  else if name = "vus" then some .vus
  else none

/-- What was counted in one second. -/
structure Bucket where
  durationSum : Binary64
  durationCount : Nat
  requests : Option Binary64
  vusMax : Option Binary64

namespace Bucket

/-- Nothing was counted. -/
def empty : Bucket :=
  ⟨.zero, 0, none, none⟩

/-- Counts a value. -/
def add (signal : Signal) (value : Binary64) (b : Bucket) : Bucket :=
  match signal with
  | .requestDuration =>
    { b with durationSum := b.durationSum.add value, durationCount := b.durationCount + 1 }
  | .requests => { b with requests := some ((b.requests.getD .zero).add value) }
  | .vus => { b with vusMax := some (match b.vusMax with | some m => m.max value | none => value) }

/-- The mean duration, if there were any. -/
def durationMean? (b : Bucket) : Option Binary64 :=
  if b.durationCount = 0 then none else some (b.durationSum.div (.ofNat b.durationCount))

end Bucket

/-- Buckets by their time, in ascending order. -/
abbrev Buckets := List (Int × Bucket)

/-- Changes the bucket of a time, which starts empty. -/
def Buckets.update (time : Int) (f : Bucket → Bucket) : Buckets → Buckets
  | [] => [(time, f .empty)]
  | (t, b) :: rest =>
    if time < t then (time, f .empty) :: (t, b) :: rest
    else if time = t then (t, f b) :: rest
    else (t, b) :: Buckets.update time f rest

/-- A point of a series, at that many milliseconds. -/
structure ChartPoint where
  time : Int
  value : Binary64

/-- A series for each signal. -/
structure TimeSeries where
  requestDuration : List ChartPoint
  requests : List ChartPoint
  vus : List ChartPoint

namespace ChartPoint

def toJson (p : ChartPoint) : Value :=
  .object [("time", .ofInt64 (Int64.ofInt p.time)), ("value", .ofBinary64 p.value)]

end ChartPoint

namespace TimeSeries

def toJson (s : TimeSeries) : Value :=
  .object [("http_req_duration", .array (s.requestDuration.map ChartPoint.toJson)),
    ("http_reqs", .array (s.requests.map ChartPoint.toJson)),
    ("vus", .array (s.vus.map ChartPoint.toJson))]

end TimeSeries

/-- What was counted so far, and since when. -/
structure Aggregator where
  start : Option Instant
  buckets : Buckets
  /-- The lines that could not be read. -/
  skipped : Nat

namespace Aggregator

/-- Before any line. -/
def empty : Aggregator :=
  ⟨none, [], 0⟩

/-- The time of the bucket for an instant, in milliseconds since the start. -/
def bucketTime (start t : Instant) : Int :=
  Instant.millisSince start t / 1000 * 1000

/-- The signal and value of a line that is a tracked point. -/
def tracked? (line : StreamLine) : Option (Signal × Binary64) :=
  if line.kind = some "Point" then do
    let data ← line.data
    let value ← data.value
    let signal ← line.metric.bind Signal.ofName?
    some (signal, value)
  else none

/-- A record without a time does not count, and the first one with a time fixes the start. -/
def pushRecord (line : StreamLine) (a : Aggregator) : Aggregator :=
  match line.instant? with
  | none => a
  | some t =>
    let start := a.start.getD t
    let buckets := match tracked? line with
      | some (signal, value) => a.buckets.update (bucketTime start t) (·.add signal value)
      | none => a.buckets
    { a with start := some start, buckets := buckets }

/-- Blank lines do not count at all. -/
def pushLine (line : List Char) (a : Aggregator) : Aggregator :=
  let line := trimChars line
  if line.isEmpty then a
  else match StreamLine.ofChars? line with
    | some record => a.pushRecord record
    | none => { a with skipped := a.skipped + 1 }

/-- Counts the lines one after another. -/
def pushLines (lines : List (List Char)) (a : Aggregator) : Aggregator :=
  lines.foldl (fun a line => a.pushLine line) a

/-- The points of a series: the buckets that have something to say, in their order. -/
def points (f : Bucket → Option Binary64) (buckets : Buckets) : List ChartPoint :=
  buckets.filterMap fun entry => (f entry.2).map fun value => ⟨entry.1, value⟩

/-- The series of what was counted. -/
def finish (a : Aggregator) : TimeSeries where
  requestDuration := points Bucket.durationMean? a.buckets
  requests := points Bucket.requests a.buckets
  vus := points Bucket.vusMax a.buckets

end Aggregator

/-- The series of the lines of a text. -/
def TimeSeries.ofText (text : String) : TimeSeries :=
  (Aggregator.empty.pushLines (lines text.toList)).finish

end LoadTest
