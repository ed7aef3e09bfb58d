import LoadTest.Json.Fault

/-!
# What can go wrong

Every refusal has its cause here and its wording in `Error.message`.
-/

namespace LoadTest

/-- Why a file could not be read as text. -/
inductive FileFault where
  | missing
  | directory
  | notDirectory
  | notText
  | other (reason : String)
deriving DecidableEq

/-- What the operating system says of a file, or the reader of its bytes. -/
def FileFault.message : FileFault → String
  | .missing => "No such file or directory (os error 2)"
  | .directory => "Is a directory (os error 21)"
  | .notDirectory => "Not a directory (os error 20)"
  | .notText => "stream did not contain valid UTF-8"
  | .other reason => reason

/-- Why something is refused. -/
inductive Error where
  | unknownExecutor (name : String)
  | unknownTestType (name : String)
  | unknownMethod (name : String)
  | invalidDuration (literal : String)
  /-- A document that holds no result of a run. -/
  | notResult
  | noFile
  | badRequest (reason : String)
  /-- A text that is no JSON, and what its reader says of it. -/
  | notJson (reason : String)
  | wrongShape (fault : Json.Fault)
  | unreadable (fault : FileFault)

namespace Error

/-- What is said of a refusal: its kind, and then the text or the cause that it is about. -/
def message : Error → String
  | .unknownExecutor name => "Unknown executor: " ++ name
  | .unknownTestType name => "Unknown test type: " ++ name
  | .unknownMethod name => "Unknown HTTP method: " ++ name
  | .invalidDuration literal => "Invalid duration literal: " ++ literal
  | .notResult => "Invalid JSON file"
  | .noFile => "No file provided"
  | .badRequest reason => "Invalid request: " ++ reason
  | .notJson reason => "JSON error: " ++ reason
  | .wrongShape fault => "JSON error: " ++ fault.message
  | .unreadable fault => "IO error: " ++ fault.message

end Error

end LoadTest
