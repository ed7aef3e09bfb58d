/-!
# Routes

What the service can be asked for, and where. The target of a request is a path, or the whole
address of one, with a query and a fragment that do not count.
-/

namespace LoadTest

/-- What the service can be asked for. -/
inductive Route where
  | health
  | executors
  | testTypes
  | script
  | validate
  | parse
  | timeseries
  | importResult
  | exportResult
deriving DecidableEq

namespace Route

/-- Every route. -/
def all : List Route :=
  [.health, .executors, .testTypes, .script, .validate, .parse, .timeseries, .importResult,
    .exportResult]

/-- Where it is asked for. -/
def path : Route → String
  | .health => "/health"
  | .executors => "/api/executors"
  | .testTypes => "/api/test-types"
  | .script => "/api/k6/script"
  | .validate => "/api/k6/validate"
  | .parse => "/api/k6/parse"
  | .timeseries => "/api/k6/timeseries"
  | .importResult => "/api/k6/import"
  | .exportResult => "/api/k6/export"

/-- Whether it is asked for without a body. -/
def isQuestion : Route → Bool
  | .health | .executors | .testTypes => true
  | _ => false

/-- The characters of a scheme. -/
def isSchemeChar (c : Char) : Bool :=
  c.isAlphanum || "+-.~".toList.contains c

/-- What the query and the fragment start with. -/
def endsPath (c : Char) : Bool :=
  c = '?' || c = '#'

/-- What the path starts with, or what may follow it. -/
def endsHost (c : Char) : Bool :=
  c = '/' || endsPath c

/-- The path in a target, or in the address that the target is. -/
def targetPath? (target : List Char) : Option (List Char) :=
  match target with
  | '/' :: _ => some (target.takeWhile (!endsPath ·))
  | target =>
    match target.dropWhile isSchemeChar with
    | ':' :: '/' :: '/' :: rest => some ((rest.dropWhile (!endsHost ·)).takeWhile (!endsPath ·))
    | _ => none

/-- The route of a target. -/
def ofTarget? (target : String) : Option Route :=
  match targetPath? target.toList with
  | some path => all.find? fun route => route.path == String.ofList path
  | none => none

end Route

end LoadTest
