import LoadTest.Options.Profile
import LoadTest.Text.White

/-!
# Options of the executors

An executor takes its own fields of the configuration and fills in what is left out. Counts of
zero and blank texts count as left out, and texts lose the blanks around them.
-/

namespace LoadTest

namespace TestConfig

/-- A count, unless it is zero. -/
def nonZero32 (n : Option UInt32) : Option UInt32 :=
  n.filter fun n => n != 0

/-- A count, unless it is zero. -/
def nonZero64 (n : Option UInt64) : Option UInt64 :=
  n.filter fun n => n != 0

/-- A text without the blanks around it, unless it is blank. -/
def nonBlank (s : Option String) : Option String :=
  (s.map trimmed).filter fun s => !s.isEmpty

/-- The stages of the configuration, or these where it has none. -/
def stagesOr (c : TestConfig) (fallback : List Stage) : Json.Value :=
  Options.stagesValue (if c.stages.isEmpty then fallback else c.stages)

/-- Twice a count, or the largest count if that is too much. -/
def twice (n : UInt32) : UInt32 :=
  UInt32.ofNat (min (2 * n.toNat) (2 ^ 32 - 1))

/-- The most VUs: as given, else twice the number allocated ahead. -/
def maxVusOr (c : TestConfig) (fallback : UInt32) : UInt32 :=
  (nonZero32 c.maxVus).getD (((nonZero32 c.preAllocatedVus).map twice).getD fallback)

/-- The VUs of the configuration, or ten. -/
def vusValue (c : TestConfig) : Json.Value :=
  .ofUInt32 ((nonZero32 c.vus).getD 10)

/-- The iterations of the configuration, or this number. -/
def iterationsValue (c : TestConfig) (fallback : UInt64) : Json.Value :=
  .ofUInt64 ((nonZero64 c.iterations).getD fallback)

/-- The duration of the configuration, or this literal. -/
def durationValue (c : TestConfig) (fallback : String) : Json.Value :=
  .text ((nonBlank c.duration).getD fallback)

/-- The time unit of the configuration, or a second. -/
def timeUnitValue (c : TestConfig) : Json.Value :=
  .text ((nonBlank c.timeUnit).getD "1s")

/-- The VUs to allocate ahead, or ten. -/
def preAllocatedValue (c : TestConfig) : Json.Value :=
  .ofUInt32 ((nonZero32 c.preAllocatedVus).getD 10)

/-- What an executor takes from the configuration, with what stands for the fields left out. -/
def schedule (c : TestConfig) : Executor → Options
  | .sharedIterations => [("vus", c.vusValue), ("iterations", c.iterationsValue 100)]
  | .perVuIterations => [("vus", c.vusValue), ("iterations", c.iterationsValue 10)]
  | .constantVus => [("vus", c.vusValue), ("duration", c.durationValue "30s")]
  | .rampingVus =>
    [("startVUs", Options.naturalValue 0),
      ("stages", c.stagesOr [⟨"30s", 10⟩, ⟨"1m", 10⟩, ⟨"30s", 0⟩])]
  | .constantArrivalRate =>
    [("rate", .ofUInt64 ((nonZero64 c.rate).getD 30)), ("timeUnit", c.timeUnitValue),
      ("duration", c.durationValue "1m"), ("preAllocatedVUs", c.preAllocatedValue),
      ("maxVUs", .ofUInt32 (c.maxVusOr 20))]
  | .rampingArrivalRate =>
    [("startRate", Options.naturalValue 0), ("timeUnit", c.timeUnitValue),
      ("preAllocatedVUs", c.preAllocatedValue), ("maxVUs", .ofUInt32 (c.maxVusOr 50)),
      ("stages", c.stagesOr [⟨"30s", 10⟩, ⟨"1m", 50⟩, ⟨"30s", 0⟩])]

/-- The name of the executor and its schedule. -/
def executorOptions (c : TestConfig) : Options :=
  ("executor", .text c.executor.id) :: c.schedule c.executor

/-- The options of the test type under those of the executor. A custom test has none. -/
def options (c : TestConfig) : Options :=
  if c.testType = .custom then []
  else Entries.override c.testType.options c.executorOptions

end TestConfig

end LoadTest
