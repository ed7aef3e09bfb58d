/-!
# Executors

An executor schedules the iterations of a test. Those that hold an arrival rate pace themselves.
-/

namespace LoadTest

/-- How the iterations of a test are scheduled. -/
inductive Executor where
  | sharedIterations
  | perVuIterations
  | constantVus
  | rampingVus
  | constantArrivalRate
  | rampingArrivalRate
deriving DecidableEq

/-- What an executor counts. -/
inductive ExecutorCategory where
  | iteration
  | vu
  | arrivalRate
deriving DecidableEq

namespace ExecutorCategory

/-- The name of the category in documents. -/
def id : ExecutorCategory → String
  | .iteration => "iteration"
  | .vu => "vu"
  | .arrivalRate => "arrival-rate"

end ExecutorCategory

namespace Executor

/-- The executors in the order in which they are listed. -/
def all : List Executor :=
  [.sharedIterations, .perVuIterations, .constantVus, .rampingVus, .constantArrivalRate,
    .rampingArrivalRate]

/-- The name of the executor in documents and scripts. -/
def id : Executor → String
  | .sharedIterations => "shared-iterations"
  | .perVuIterations => "per-vu-iterations"
  | .constantVus => "constant-vus"
  | .rampingVus => "ramping-vus"
  | .constantArrivalRate => "constant-arrival-rate"
  | .rampingArrivalRate => "ramping-arrival-rate"

/-- The executor of that name. -/
def ofId? (s : String) : Option Executor :=
  all.find? fun e => e.id == s

/-- The name of the executor for people. -/
def title : Executor → String
  | .sharedIterations => "Shared Iterations"
  | .perVuIterations => "Per VU Iterations"
  | .constantVus => "Constant VUs"
  | .rampingVus => "Ramping VUs"
  | .constantArrivalRate => "Constant Arrival Rate"
  | .rampingArrivalRate => "Ramping Arrival Rate"

/-- What the executor does, in a line. -/
def description : Executor → String
  | .sharedIterations => "Fixed total iterations shared among VUs"
  | .perVuIterations => "Each VU runs a fixed number of iterations"
  | .constantVus => "Fixed number of VUs throughout the test"
  | .rampingVus => "VU count increases/decreases per schedule"
  | .constantArrivalRate => "Fixed iterations per time period (precise RPS control)"
  | .rampingArrivalRate => "Variable iteration rate over time"

/-- What the executor counts. -/
def category : Executor → ExecutorCategory
  | .sharedIterations => .iteration
  | .perVuIterations => .iteration
  | .constantVus => .vu
  | .rampingVus => .vu
  | .constantArrivalRate => .arrivalRate
  | .rampingArrivalRate => .arrivalRate

/-- Whether iterations start at a rate, so that a script must not wait between them. -/
def pacesItself (e : Executor) : Bool :=
  e.category = .arrivalRate

theorem mem_all (e : Executor) : e ∈ all := by
  cases e <;> decide

end Executor

end LoadTest
