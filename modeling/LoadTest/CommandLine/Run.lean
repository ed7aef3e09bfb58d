import LoadTest.CommandLine.Arguments
import LoadTest.Result.Import
import LoadTest.Script.Basic
import LoadTest.Series.Aggregator

/-!
# Running a command

What a command prints, as a function of its arguments and of what reading a file gives. A report of
an error ends with its cause, where it has one.
-/

namespace LoadTest

/-- How a command ends, and what it leaves on the two streams. -/
structure Outcome where
  code : Nat
  stdout : String
  stderr : String
deriving DecidableEq

namespace Outcome

/-- A command that did what it was asked for. -/
def done (stdout : String) : Outcome :=
  ⟨0, stdout, ""⟩

/-- A command that gave up. -/
def failed (report : String) : Outcome :=
  ⟨1, "", "Error: " ++ report ++ "\n"⟩

end Outcome

namespace Error

/-- The cause that a message wraps. -/
def cause? : Error → Option String
  | .notJson reason => some reason
  | .wrongShape fault => some fault.message
  | .unreadable fault => some fault.message
  | _ => none

/-- The message, and the cause below it. -/
def report (e : Error) : String :=
  match e.cause? with
  | some cause => e.message ++ "\n\nCaused by:\n    " ++ cause
  | none => e.message

end Error

/-- What a command works with. -/
structure Surroundings where
  read : String → Except FileFault String
  now : Int64
  freshId : String
  /-- What the reader of documents says of a text that is no JSON. -/
  syntaxFault : String → String

namespace CommandLine

/-- The last name of a path. -/
def fileName (path : String) : String :=
  let names := (path.splitOn "/").filter fun name => name != "" && name != "."
  match names.getLast? with
  | some name => if name = ".." then "" else name
  | none => ""

/-- Imports a file under its own name. -/
def importPath (s : Surroundings) (path : String) : Except Error TestResult :=
  match s.read path with
  | .ok content => TestResult.ofFile s.freshId (fileName path) content s.now
  | .error fault => .error (.unreadable fault)

/-- What a command makes of the text of a file. -/
def withFile (s : Surroundings) (path : String) (use : String → Outcome) : Outcome :=
  match s.read path with
  | .ok content => use content
  | .error fault => .failed ("Failed to read " ++ path ++ ": " ++ fault.message)

/-- The outcome of a command, but nothing where a service is to start. -/
def perform (s : Surroundings) : Command → Option Outcome
  | .serve settings =>
    match settings.address? with
    | some _ => none
    | none => some (.failed "invalid socket address syntax")
  | .compile path => some <| withFile s path fun content =>
    match TestConfig.ofText s.syntaxFault content with
    | .ok c => .done c.script
    | .error e => .failed e.report
  | .parse path => some <| withFile s path fun content =>
    .done ((Report.summary content).toJson.spread ++ "\n")
  | .timeseries path => some <| withFile s path fun content =>
    .done ((TimeSeries.ofText content).toJson.spread ++ "\n")
  | .importFile path => some <|
    match importPath s path with
    | .ok result => .done (result.exportText ++ "\n")
    | .error e => .failed e.report

/-- The name and the version of the program. -/
def versionText : String :=
  "k6-workbench 0.1.0\n"

/-- Runs the command that the arguments name. Where they name none, the version can be told; all
else is up to the reader of arguments. -/
def run (s : Surroundings) (args : List String) : Except UsageFault (Option Outcome) :=
  match Command.ofArguments args with
  | .ok command => .ok (perform s command)
  | .error .version => .ok (some (.done versionText))
  | .error fault => .error fault

end CommandLine

end LoadTest
