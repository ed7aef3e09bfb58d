import LoadTest.Report.Summary
import Mathlib.Data.Nat.Notation

/-!
# Reports in the newer layout

A report is made of lines, in any order: blank lines, one line for each metric, and two lines for
each check (`Line.chars`). A `Line` holds everything that may differ between reports, so the
numbers are kept as their digits and the blanks as they stand.

`recovered` says what a report means. The first line of a metric counts, the checks keep their
order, and what has no line is absent.
-/

namespace LoadTest.Report.Layout

/-! ## Numbers -/

/-- The digits of a number of 64 bits. -/
structure Count where
  digits : List Char
  ne_nil : digits ≠ []
  isDigit : ∀ c ∈ digits, c.isDigit = true
  lt : Nat.ofDigitChars 10 digits 0 < 2 ^ 64

/-- The number that the digits stand for. -/
def Count.value (n : Count) : UInt64 :=
  UInt64.ofNat (Nat.ofDigitChars 10 n.digits 0)

/-- The digits of a number before and behind the point, which is left out where no digits are
behind it. -/
structure Amount where
  whole : List Char
  fraction : List Char
  ne_nil : whole ≠ []
  isDigit : ∀ c ∈ whole ++ fraction, c.isDigit = true

namespace Amount

/-- The digits, with a point between them where it is needed. -/
def chars (x : Amount) : List Char :=
  x.whole ++ if x.fraction.isEmpty then [] else '.' :: x.fraction

/-- The double nearest to the number. -/
def value (x : Amount) : Binary64 :=
  (Decimal.ofParts false x.whole x.fraction 0).nearest

end Amount

/-- A time in seconds or in milliseconds. -/
structure Timing where
  amount : Amount
  inSeconds : Bool

namespace Timing

/-- The amount with its unit. -/
def chars (t : Timing) : List Char :=
  t.amount.chars ++ if t.inSeconds then ['s'] else ['m', 's']

/-- The time in milliseconds. -/
def milliseconds (t : Timing) : Binary64 :=
  if t.inSeconds then t.amount.value.mul (.ofNat 1000) else t.amount.value

end Timing

/-- One blank more than that number. -/
def gap (n : ℕ) : List Char :=
  List.replicate (n + 1) ' '

/-- An amount of bytes, with or without a letter that scales the unit. -/
structure Quantity where
  amount : Amount
  blanks : ℕ
  scale : Option Char
  scale_mem : ∀ c ∈ scale, c ∈ ['k', 'K', 'M', 'G', 'T']

/-- The amount with its unit. -/
def Quantity.chars (q : Quantity) : List Char :=
  q.amount.chars ++ (gap q.blanks ++ (q.scale.toList ++ ['B']))

/-! ## Values of the metrics -/

/-- The metrics that are counted. -/
inductive CounterName where
  | checksTotal
  | requests
  | iterations
deriving DecidableEq

/-- The name in a report. -/
@[simp]
def CounterName.text : CounterName → String
  | .checksTotal => "checks_total"
  | .requests => "http_reqs"
  | .iterations => "iterations"

/-- The metrics that are shares of all. -/
inductive ShareName where
  | checksSucceeded
  | requestsFailed
deriving DecidableEq

/-- The name in a report. -/
@[simp]
def ShareName.text : ShareName → String
  | .checksSucceeded => "checks_succeeded"
  | .requestsFailed => "http_req_failed"

/-- The metrics that are times. -/
inductive TrendName where
  | requestDuration
  | iterationDuration
deriving DecidableEq

/-- The name in a report. -/
@[simp]
def TrendName.text : TrendName → String
  | .requestDuration => "http_req_duration"
  | .iterationDuration => "iteration_duration"

/-- The metrics that go up and down. -/
inductive GaugeName where
  | vus
  | vusMax
deriving DecidableEq

/-- The name in a report. -/
@[simp]
def GaugeName.text : GaugeName → String
  | .vus => "vus"
  | .vusMax => "vus_max"

/-- The metrics that are amounts of bytes. -/
inductive TransferName where
  | received
  | sent
deriving DecidableEq

/-- The name in a report. -/
@[simp]
def TransferName.text : TransferName → String
  | .received => "data_received"
  | .sent => "data_sent"

/-- `<n> <dec>/s` -/
structure CounterValues where
  total : Count
  rate : Amount
  blanks : ℕ

/-- `<dec>% <n> out of <n>`, the last one not zero -/
structure ShareValues where
  percentage : Amount
  part : Count
  total : Count
  total_ne_zero : total.value ≠ 0
  blanks : ℕ × ℕ × ℕ

/-- `avg=<d> min=<d> med=<d> max=<d> p(90)=<d> p(95)=<d>` -/
structure TrendValues where
  avg : Timing
  min : Timing
  med : Timing
  max : Timing
  p90 : Timing
  p95 : Timing
  blanks : ℕ × ℕ × ℕ × ℕ × ℕ

/-- `<n> min=<n> max=<n>` -/
structure GaugeValues where
  value : Count
  min : Count
  max : Count
  blanks : ℕ × ℕ

/-- `<dec> <unit> <dec> <unit>/s` -/
structure TransferValues where
  total : Quantity
  rate : Quantity
  blanks : ℕ

/-- The number and the rate as they stand on the line. -/
def CounterValues.chars (v : CounterValues) : List Char :=
  v.total.digits ++ (gap v.blanks ++ (v.rate.chars ++ ['/', 's']))

/-- The percentage and the counts as they stand on the line. -/
def ShareValues.chars (v : ShareValues) : List Char :=
  v.percentage.chars ++ (['%'] ++ (gap v.blanks.1 ++ (v.part.digits ++ (gap v.blanks.2.1 ++
    ("out of".toList ++ (gap v.blanks.2.2 ++ v.total.digits))))))

/-- A time behind its label. -/
def Timing.labelled (label : String) (t : Timing) : List Char :=
  label.toList ++ t.chars

/-- The six times as they stand on the line. -/
def TrendValues.chars (v : TrendValues) : List Char :=
  v.avg.labelled "avg=" ++ (gap v.blanks.1 ++ (v.min.labelled "min=" ++ (gap v.blanks.2.1 ++
    (v.med.labelled "med=" ++ (gap v.blanks.2.2.1 ++ (v.max.labelled "max=" ++
      (gap v.blanks.2.2.2.1 ++ (v.p90.labelled "p(90)=" ++ (gap v.blanks.2.2.2.2 ++
        v.p95.labelled "p(95)=")))))))))

/-- A number behind blanks and its label. -/
def Count.labelled (label : String) (blanks : ℕ) (n : Count) : List Char :=
  gap blanks ++ (label.toList ++ n.digits)

/-- The value and its bounds as they stand on the line. -/
def GaugeValues.chars (v : GaugeValues) : List Char :=
  v.value.digits ++ (v.min.labelled "min=" v.blanks.1 ++ v.max.labelled "max=" v.blanks.2)

/-- The amounts as they stand on the line, the second by the second. -/
def TransferValues.chars (v : TransferValues) : List Char :=
  v.total.chars ++ (gap v.blanks ++ (v.rate.chars ++ ['/', 's']))

/-- A metric and its values. -/
inductive Entry where
  | counter (which : CounterName) (values : CounterValues)
  | share (which : ShareName) (values : ShareValues)
  | trend (which : TrendName) (values : TrendValues)
  | gauge (which : GaugeName) (values : GaugeValues)
  | transfer (which : TransferName) (values : TransferValues)

namespace Entry

/-- The name of the metric. -/
@[simp]
def name : Entry → String
  | .counter which _ => which.text
  | .share which _ => which.text
  | .trend which _ => which.text
  | .gauge which _ => which.text
  | .transfer which _ => which.text

/-- The values of a counter, if the entry is of that one. -/
def counter? (name : CounterName) : Entry → Option CounterValues
  | .counter which values => if which = name then some values else none
  | _ => none

/-- The values of a share, if the entry is of that one. -/
def share? (name : ShareName) : Entry → Option ShareValues
  | .share which values => if which = name then some values else none
  | _ => none

/-- The times of a metric, if the entry is of that one. -/
def trend? (name : TrendName) : Entry → Option TrendValues
  | .trend which values => if which = name then some values else none
  | _ => none

/-- The values of a gauge, if the entry is of that one. -/
def gauge? (name : GaugeName) : Entry → Option GaugeValues
  | .gauge which values => if which = name then some values else none
  | _ => none

/-- The amounts of a metric, if the entry is of that one. -/
def transfer? (name : TransferName) : Entry → Option TransferValues
  | .transfer which values => if which = name then some values else none
  | _ => none

/-- The values as they stand on the line. -/
def valuesChars : Entry → List Char
  | .counter _ values => values.chars
  | .share _ values => values.chars
  | .trend _ values => values.chars
  | .gauge _ values => values.chars
  | .transfer _ values => values.chars

end Entry

/-! ## Lines -/

/-- The line of a metric. -/
structure Row where
  margin : List Char
  isBlank_margin : ∀ c ∈ margin, isBlank c = true
  entry : Entry
  separator : List Char
  separator_ne_nil : separator ≠ []
  mem_separator : ∀ c ∈ separator, c = '.' ∨ c = ':' ∨ c = ' '

/-- The name and the values, with what stands before and between them. -/
def Row.chars (r : Row) : List Char :=
  r.margin ++ (r.entry.name.toList ++ (r.separator ++ r.entry.valuesChars))

/-- The two lines of a check. Its name is on one line and trimmed. -/
structure CheckLines where
  margin : List Char
  isBlank_margin : ∀ c ∈ margin, isBlank c = true
  passed : Bool
  name : String
  name_ne : name.toList ≠ []
  trimmed_name : trimChars name.toList = name.toList
  lineFeed_name : '\n' ∉ name.toList
  detailMargin : List Char
  isBlank_detailMargin : ∀ c ∈ detailMargin, isBlank c = true
  percentage : Amount
  passes : Count
  fails : Count
  blanks : ℕ × ℕ × ℕ × ℕ × ℕ × ℕ × ℕ × ℕ

namespace CheckLines

/-- What stands before the name of a check. -/
def opening (c : CheckLines) : List Char :=
  (if c.passed then '✓' else '✗') :: gap c.blanks.1

/-- `↳ <dec>% — ✓ <n> / ✗ <n>` -/
def detail (c : CheckLines) : List Char :=
  c.detailMargin ++ (['↳'] ++ (gap c.blanks.2.1 ++ (c.percentage.chars ++ (['%'] ++
    (gap c.blanks.2.2.1 ++ (['—'] ++ (gap c.blanks.2.2.2.1 ++ (['✓'] ++
      (gap c.blanks.2.2.2.2.1 ++ (c.passes.digits ++ (gap c.blanks.2.2.2.2.2.1 ++ (['/'] ++
        (gap c.blanks.2.2.2.2.2.2.1 ++ (['✗'] ++
          (gap c.blanks.2.2.2.2.2.2.2 ++ c.fails.digits)))))))))))))))

/-- Both lines. -/
def chars (c : CheckLines) : List Char :=
  c.margin ++ (c.opening ++ (c.name.toList ++ '\n' :: c.detail))

/-- What the lines say. -/
def check (c : CheckLines) : IndividualCheck :=
  ⟨c.name, c.passes.value, c.fails.value, c.percentage.value⟩

end CheckLines

/-- A line of a report, or the two of a check. -/
inductive Line where
  | blank (margin : List Char) (isBlank_margin : ∀ c ∈ margin, isBlank c = true)
  | row (r : Row)
  | check (c : CheckLines)

namespace Line

/-- The line with its end. -/
def chars : Line → List Char
  | .blank margin _ => margin ++ ['\n']
  | .row r => r.chars ++ ['\n']
  | .check c => c.chars ++ ['\n']

/-- The check of the line, if it is one. -/
def check? : Line → Option IndividualCheck
  | .check c => some c.check
  | _ => none

/-- The entry of the line, if it has one. -/
def entry? : Line → Option Entry
  | .row r => some r.entry
  | _ => none

end Line

/-! ## Names of checks -/

/-- Whether a text holds a section on its own: a name that starts a word, a separator, and values of
the form that belongs to the name. -/
def holdsSection (cs : List Char) : Bool :=
  ["checks_total", "http_reqs", "iterations"].any (fun name => (find name .counter cs).isSome) ||
    ["checks_succeeded", "http_req_failed"].any (fun name => (find name .share cs).isSome) ||
    ["checks", "http_req_failed"].any (fun name => (find name .markedShare cs).isSome) ||
    ["http_req_duration", "iteration_duration"].any (fun name => (find name .trend cs).isSome) ||
    ["vus", "vus_max"].any (fun name => (find name .gauge cs).isSome) ||
    ["data_received", "data_sent"].any (fun name => (find name .transfer cs).isSome)

/-- The name of a check holds no section. -/
def Line.isBare : Line → Bool
  | .check c => !holdsSection c.name.toList
  | _ => true

/-! ## What a report means -/

/-- What the values of a counter mean. -/
def CounterValues.counter (v : CounterValues) : Counter :=
  ⟨v.total.value, v.rate.value⟩

/-- What the values of a share mean where it is one of failures. -/
def ShareValues.failureRate (v : ShareValues) : FailureRate :=
  ⟨v.percentage.value, v.part.value, v.total.value⟩

/-- What the times mean. -/
def TrendValues.stats (v : TrendValues) : DurationStats :=
  ⟨v.avg.milliseconds, v.min.milliseconds, v.med.milliseconds, v.max.milliseconds,
    v.p90.milliseconds, v.p95.milliseconds⟩

/-- What the values of a gauge mean for the VUs. -/
def GaugeValues.vus (v : GaugeValues) : VusGauge :=
  ⟨v.value.value, v.min.value, v.max.value⟩

/-- What the values of a gauge mean for the VUs that were ready. -/
def GaugeValues.vusMax (v : GaugeValues) : VusMaxGauge :=
  ⟨v.value.value, v.min.value, v.max.value⟩

/-- What the amounts mean, which is how they are printed. -/
def TransferValues.transfer (v : TransferValues) : DataTransfer :=
  ⟨String.ofList v.total.chars, String.ofList (v.rate.chars ++ ['/', 's'])⟩

/-- The entries of the lines, in their order. -/
def entries (lines : List Line) : List Entry :=
  lines.filterMap Line.entry?

/-- The metrics that the lines give. -/
def recovered (lines : List Line) : Metrics :=
  let entries := entries lines
  { checksTotal := (entries.findSome? (Entry.counter? .checksTotal)).map fun v => v.total.value
    checksSucceeded :=
      (entries.findSome? (Entry.share? .checksSucceeded)).map fun v => v.percentage.value
    checksFailed :=
      (entries.findSome? (Entry.share? .checksSucceeded)).map fun v =>
        complement v.percentage.value
    individualChecks := lines.filterMap Line.check?
    httpReqDuration := (entries.findSome? (Entry.trend? .requestDuration)).map TrendValues.stats
    httpReqFailed := (entries.findSome? (Entry.share? .requestsFailed)).map ShareValues.failureRate
    httpReqs := (entries.findSome? (Entry.counter? .requests)).map CounterValues.counter
    iterationDuration := (entries.findSome? (Entry.trend? .iterationDuration)).map TrendValues.stats
    iterations := (entries.findSome? (Entry.counter? .iterations)).map CounterValues.counter
    vus := (entries.findSome? (Entry.gauge? .vus)).map GaugeValues.vus
    vusMax := (entries.findSome? (Entry.gauge? .vusMax)).map GaugeValues.vusMax
    dataReceived := (entries.findSome? (Entry.transfer? .received)).map TransferValues.transfer
    dataSent := (entries.findSome? (Entry.transfer? .sent)).map TransferValues.transfer }

end LoadTest.Report.Layout
