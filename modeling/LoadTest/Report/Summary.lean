import LoadTest.Report.Check

/-!
# Reading a report

Every section looks through the whole report and fills in fields of its own.

The shares of checks and of failed requests have two layouts. The newer one counts as soon as its
numbers can be read, whatever the older one says. A share of nothing says nothing.
-/

namespace LoadTest.Report

/-- What is missing to a hundred, to six places. -/
def complement (percentage : Binary64) : Binary64 :=
  ((((Binary64.ofNat 100).sub percentage).mul (.ofNat 1000000)).round).div (.ofNat 1000000)

/-- The percentage of checks that passed and the number of all checks. The older layout has no such
number, and its two counts are added as counts are, modulo `2 ^ 64`. -/
def checksShare? (raw : List Char) : Option (Binary64 × UInt64) :=
  match (do
    let (percentage, _, total) ← find "checks_succeeded" .share raw
    return (← amount? percentage, ← count? total) : Option (Binary64 × UInt64)) with
  | some share => some share
  | none => do
    let (percentage, passed, failed) ← find "checks" .markedShare raw
    return (← amount? percentage, (← count? passed) + (← count? failed))

/-- The percentage of requests that failed, their number and the number of all requests. The older
layout marks the requests that failed, and counts add up as for checks. -/
def failureRate? (raw : List Char) : Option FailureRate :=
  match (do
    let (percentage, count, total) ← find "http_req_failed" .share raw
    return ⟨← amount? percentage, ← count? count, ← count? total⟩ : Option FailureRate) with
  | some rate => some rate
  | none => do
    let (percentage, failed, succeeded) ← find "http_req_failed" .markedShare raw
    let count ← count? failed
    return ⟨← amount? percentage, count, count + (← count? succeeded)⟩

/-- One part of a report, and how it fills in the metrics. -/
structure Section where
  name : String
  fill : List Char → Metrics → Metrics

/-- The parts of a report in the order in which they are read. -/
def sections : List Section := [
  ⟨"checks_total", fun raw m =>
    { m with checksTotal := (find "checks_total" .counter raw).bind fun c => count? c.1 }⟩,
  ⟨"checks_succeeded", fun raw m =>
    match checksShare? raw with
    | some (percentage, total) =>
      if total = 0 then m
      else { m with
        checksSucceeded := some percentage
        checksFailed := some (complement percentage) }
    | none => m⟩,
  ⟨"individual_checks", fun raw m => { m with individualChecks := individualChecks raw }⟩,
  ⟨"http_req_duration", fun raw m => { m with httpReqDuration := trend? "http_req_duration" raw }⟩,
  ⟨"http_req_failed", fun raw m =>
    { m with httpReqFailed := (failureRate? raw).filter fun rate => rate.total != 0 }⟩,
  ⟨"http_reqs", fun raw m => { m with httpReqs := counter? "http_reqs" raw }⟩,
  ⟨"iteration_duration", fun raw m =>
    { m with iterationDuration := trend? "iteration_duration" raw }⟩,
  ⟨"iterations", fun raw m => { m with iterations := counter? "iterations" raw }⟩,
  ⟨"vus", fun raw m =>
    { m with vus := (gauge? "vus" raw).map fun g => ⟨g.1, g.2.1, g.2.2⟩ }⟩,
  ⟨"vus_max", fun raw m =>
    { m with vusMax := (gauge? "vus_max" raw).map fun g => ⟨g.1, g.2.1, g.2.2⟩ }⟩,
  ⟨"data_received", fun raw m => { m with dataReceived := transfer? "data_received" raw }⟩,
  ⟨"data_sent", fun raw m => { m with dataSent := transfer? "data_sent" raw }⟩]

/-- The metrics after these sections have looked through a report. -/
def fillAll (raw : List Char) (m : Metrics) (parts : List Section) : Metrics :=
  parts.foldl (fun m part => part.fill raw m) m

/-- What a report says. One of blanks only is not searched. -/
def summary (raw : String) : Metrics :=
  if isWhiteText raw then .empty else fillAll raw.toList .empty sections

end LoadTest.Report
