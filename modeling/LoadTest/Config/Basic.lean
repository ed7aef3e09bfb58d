import LoadTest.Config.TestType
import LoadTest.Config.Executor
import LoadTest.Config.Method
import LoadTest.Config.Headers

/-!
# Test configurations

Which of the optional fields matter depends on the test type and the executor. The others are
carried along.
-/

namespace LoadTest

/-- A ramp towards `target`, linear over `duration`. -/
structure Stage where
  duration : String
  target : UInt32
deriving DecidableEq

/-- What is to be run, and how. -/
structure TestConfig where
  testType : TestType
  executor : Executor
  endpoint : String
  method : Method
  headers : Headers
  body : Option String
  vus : Option UInt32
  duration : Option String
  stages : List Stage
  iterations : Option UInt64
  rate : Option UInt64
  timeUnit : Option String
  preAllocatedVus : Option UInt32
  maxVus : Option UInt32
  checks : List String
  /-- In seconds. -/
  thinkTime : Option Binary64
deriving DecidableEq

namespace TestConfig

/-- A configuration with every optional field left out. -/
def plain (testType : TestType) (executor : Executor) (method : Method) (endpoint : String) :
    TestConfig where
  testType := testType
  executor := executor
  endpoint := endpoint
  method := method
  headers := .empty
  body := none
  vus := none
  duration := none
  stages := []
  iterations := none
  rate := none
  timeUnit := none
  preAllocatedVus := none
  maxVus := none
  checks := []
  thinkTime := none

/-- What a form starts from. -/
def initial : TestConfig :=
  { plain .smoke .constantVus .get "" with vus := some 10, duration := some "30s" }

/-- Stands for the unknown configuration of an imported report. -/
def imported : TestConfig :=
  plain .custom .sharedIterations .get "imported"

end TestConfig

end LoadTest
