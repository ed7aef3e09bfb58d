import LoadTest.CommandLine.Run
import LoadTest.Result.Identifier
import Std.Time.DateTime.Timestamp

/-!
# The program

It looks at the clock, draws a name for a new result, reads the file that the command names, and
prints the outcome. Of arguments that name no command it tells by its code only.
-/

namespace LoadTest.Program

/-- The fault behind what the system reports of a file. -/
def fileFault : IO.Error → FileFault
  | .noFileOrDirectory .. => .missing
  | .inappropriateType none .. => .directory
  | .inappropriateType (some _) .. => .notDirectory
  | .permissionDenied .. => .other "Permission denied (os error 13)"
  | .invalidArgument .. => .other "file name contained an unexpected NUL byte"
  | e => .other e.toString

/-- Reads a file whose bytes are a text. -/
def readText (path : String) : IO (Except FileFault String) := do
  match ← (IO.FS.readBinFile path).toBaseIO with
  | .ok bytes =>
    match String.fromUTF8? bytes with
    | some text => return .ok text
    | none => return .error .notText
  | .error e => return .error (fileFault e)

/-- Reads no more than the one file that is asked for. `Json.Value.ofText?` gives no reasons, so
every text that is no JSON gets the same words. -/
def surroundings (path? : Option String) : IO Surroundings := do
  let content ← match path? with
    | some path => readText path
    | none => pure (.error .missing)
  let now ← Std.Time.Timestamp.now
  let bytes ← IO.getRandomBytes 16
  return {
    read := fun _ => content
    now := Int64.ofInt now.toMillisecondsSinceUnixEpoch.val
    freshId := Identifier.ofBytes (bytes.toList.map UInt8.toNat)
    syntaxFault := fun _ => "syntax error" }

end LoadTest.Program

open LoadTest in
/-- Without a listener there is no service to start. -/
def main (args : List String) : IO UInt32 := do
  let s ← Program.surroundings ((Command.ofArguments args).toOption.bind Command.path?)
  match CommandLine.run s args with
  | .error fault => return UInt32.ofNat fault.code
  | .ok outcome? =>
    let outcome := outcome?.getD (.failed "no listener is available")
    IO.print outcome.stdout
    IO.eprint outcome.stderr
    return UInt32.ofNat outcome.code
