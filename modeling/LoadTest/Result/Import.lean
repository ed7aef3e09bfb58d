import LoadTest.Result.Basic

/-!
# Importing results

A file whose name ends in `.json` and that holds JSON has to hold an exported result. Any other file
is the report of a run.
-/

namespace LoadTest

open Json (Value)

/-- Whether the name ends in `.json`, in letters of either case. -/
def hasResultName (fileName : String) : Bool :=
  ".json".toList.reverse.isPrefixOf (fileName.toList.map Char.toLower).reverse

namespace TestResult

/-- The result that a document holds. -/
def ofDocument (v : Value) : Except Error TestResult :=
  let holds (name : String) : Bool :=
    match v.get? name with
    | some w => !w.isNull
    | none => false
  if holds "metrics" && holds "rawOutput" then (decoder v.tree).mapError fun _ => .notResult
  else .error .notResult

/-- The result of a report of unknown origin. -/
def ofReport (id : String) (report : String) (now : Int64) : TestResult :=
  ofRun id .imported report 0 true now

/-- `id` is the name of the result if it needs a new one. -/
def ofFile (id fileName content : String) (now : Int64) : Except Error TestResult :=
  match (if hasResultName fileName then Value.ofText? content else none) with
  | some v => ofDocument v
  | none => .ok (ofReport id content now)

end TestResult

end LoadTest
