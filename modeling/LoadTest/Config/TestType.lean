/-!
# Test types

A test type is a named load shape: what the test is meant to find out.
-/

namespace LoadTest

/-- What a test is meant to find out. -/
inductive TestType where
  | smoke
  | averageLoad
  | stress
  | soak
  | spike
  | breakpoint
  | custom
deriving DecidableEq

namespace TestType

/-- The test types in the order in which they are listed. -/
def all : List TestType :=
  [.smoke, .averageLoad, .stress, .soak, .spike, .breakpoint, .custom]

/-- The name of the test type in documents. -/
def id : TestType → String
  | .smoke => "smoke"
  | .averageLoad => "average-load"
  | .stress => "stress"
  | .soak => "soak"
  | .spike => "spike"
  | .breakpoint => "breakpoint"
  | .custom => "custom"

/-- The test type of that name. -/
def ofId? (s : String) : Option TestType :=
  all.find? fun t => t.id == s

/-- The name of the test type for people. -/
def title : TestType → String
  | .smoke => "Smoke Test"
  | .averageLoad => "Average Load"
  | .stress => "Stress Test"
  | .soak => "Soak Test"
  | .spike => "Spike Test"
  | .breakpoint => "Breakpoint Test"
  | .custom => "Custom Test"

/-- What the test type is good for, in a line. -/
def description : TestType → String
  | .smoke => "Minimal load sanity check (2-5 VUs, 1-2 min)"
  | .averageLoad => "Typical real-world load with gradual ramp-up"
  | .stress => "Beyond normal capacity (200+ VUs)"
  | .soak => "Extended duration to detect memory leaks"
  | .spike => "Sudden sharp load increases"
  | .breakpoint => "Find maximum throughput limits"
  | .custom => "Fully customizable configuration"

theorem mem_all (t : TestType) : t ∈ all := by
  cases t <;> decide

end TestType

end LoadTest
