import LoadTest.Config.Json

/-!
# Options of the test types

Every test type but the custom one brings options of its own.
-/

namespace LoadTest

/-- Options of the engine, in the order in which a script shows them. -/
abbrev Options := Entries Json.Value

namespace Options

/-- An option that is a whole number. -/
def naturalValue (n : Nat) : Json.Value :=
  .number (.ofNat n)

/-- An option that is a list of stages. -/
def stagesValue (stages : List Stage) : Json.Value :=
  .array (stages.map Stage.toJson)

/-- The object that a script shows. -/
def toJson (options : Options) : Json.Value :=
  .object options

end Options

open Options in
/-- The options that a test type brings. -/
def TestType.options : TestType → Options
  | .smoke => [("vus", naturalValue 3), ("duration", .text "1m")]
  | .averageLoad => [("stages", stagesValue [⟨"5m", 100⟩, ⟨"30m", 100⟩, ⟨"5m", 0⟩])]
  | .stress => [("stages", stagesValue [⟨"10m", 200⟩, ⟨"30m", 200⟩, ⟨"5m", 0⟩])]
  | .soak => [("stages", stagesValue [⟨"5m", 100⟩, ⟨"8h", 100⟩, ⟨"5m", 0⟩])]
  | .spike => [("stages", stagesValue [⟨"2m", 2000⟩, ⟨"1m", 0⟩])]
  | .breakpoint =>
    [("executor", .text "ramping-arrival-rate"), ("startRate", naturalValue 0),
      ("timeUnit", .text "1s"), ("preAllocatedVUs", naturalValue 500),
      ("maxVUs", naturalValue 1000), ("stages", stagesValue [⟨"2h", 20000⟩])]
  | .custom => []

end LoadTest
