import LoadTest.Options.Schedule
import LoadTest.Script.Literal
import LoadTest.Text.Lines

/-!
# Scripts

A script has three parts: the options of the engine, one request with its headers and payload,
and what follows the response, which is checks and a pause. It depends on the configuration alone.
-/

namespace LoadTest.Script

open Json (Value)

/-- What every script starts with. -/
def prologue : List Char :=
  "import http from 'k6/http';\nimport \x7b check, sleep \x7d from 'k6';\n\n".toList

/-- The options of the engine, as an object of the script. -/
def optionsPart (c : TestConfig) : List Char :=
  "export const options = ".toList ++ (Options.toJson c.options).chars .spread 0 ++
    ";\n\n".toList

/-- The headers of the request, as an object of the script. -/
def headersChars (headers : Headers) : List Char :=
  if headers.isEmpty then ['\x7b', '\x7d']
  else indentRest "    ".toList (headers.toJson.chars .spread 0)

/-- A body that is JSON is laid out afresh, a blank one is the empty object, and any other is
taken as an expression of the script. -/
def payload (body : Option String) : List Char :=
  let body := trimmed (body.getD "")
  if body.isEmpty then ['\x7b', '\x7d']
  else match Value.ofText? body with
    | some v => v.chars .spread 0
    | none => body.toList

/-- The request, with its payload before it where the method carries one. -/
def requestPart (c : TestConfig) : List Char :=
  (if c.method.carriesBody then
    "  const payload = ".toList ++ indentRest "  ".toList (payload c.body) ++
      ";\n\n  const res = http.".toList ++ c.method.function.toList ++ '(' ::
      (literal c.endpoint ++ ", JSON.stringify(payload), \x7b\n".toList)
  else
    "  const res = http.".toList ++ c.method.function.toList ++ '(' ::
      (literal c.endpoint ++ ", \x7b\n".toList)) ++
    "    headers: ".toList ++ headersChars c.headers ++ ",\n  \x7d);\n\n".toList

/-- The check that is made where none is asked for. -/
def defaultCheck : String :=
  "status is 200"

/-- The line of a check. -/
def checkLine (label : String) : List Char :=
  "    ".toList ++ literal label ++ ": (r) => r.status === 200,\n".toList

/-- The checks of the response. -/
def checksPart (checks : List String) : List Char :=
  "  check(res, \x7b\n".toList ++
    (if checks.isEmpty then checkLine defaultCheck else checks.flatMap checkLine) ++
    "  \x7d);\n\n".toList

/-- A pause of so many seconds. -/
def sleepLine (seconds : List Char) : List Char :=
  "  sleep(".toList ++ seconds ++ ");\n".toList

/-- The pause: the think time if it is one, else a second, unless the executor paces itself. -/
def pausePart (c : TestConfig) : List Char :=
  let standard := if c.executor.pacesItself then [] else sleepLine ['1']
  match c.thinkTime with
  | some (.finite x) =>
    if 0 < x.signedUnits then sleepLine x.plainChars else standard
  | _ => standard

/-- The characters of the script. -/
def chars (c : TestConfig) : List Char :=
  prologue ++ optionsPart c ++ "export default function () \x7b\n".toList ++ requestPart c ++
    checksPart c.checks ++ pausePart c ++ ['\x7d', '\n']

end LoadTest.Script

namespace LoadTest

/-- The script that runs the test. -/
def TestConfig.script (c : TestConfig) : String :=
  String.ofList (Script.chars c)

end LoadTest
