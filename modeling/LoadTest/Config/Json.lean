import LoadTest.Config.Basic
import LoadTest.Error
import LoadTest.Json.Reader
import LoadTest.Text.Digit
import LoadTest.Text.White

/-!
# Configurations in documents

Reading is lenient where forms are: a numeric field may hold a number, a text that spells one, or
anything else, which counts as left out. Names of executors, test types and methods are checked
before anything else, so that an unknown name is reported as such.

Fields that are left out are not written.
-/

namespace LoadTest

open Json (Decoder Fault Member Record Value)

namespace Json

/-- A member for a field that holds something. -/
def given (name : String) (v : Option Value) : List (String × Value) :=
  match v with
  | some v => [(name, v)]
  | none => []

/-- A member for a list that holds something. -/
def givenItems (name : String) (vs : List Value) : List (String × Value) :=
  if vs.isEmpty then [] else [(name, .array vs)]

end Json

/-- The names that a document may use. -/
def TestType.variants : List (String × TestType) :=
  all.map fun t => (t.id, t)

/-- The names that a document may use. -/
def Executor.variants : List (String × Executor) :=
  all.map fun e => (e.id, e)

/-- The names that a document may use. -/
def Method.variants : List (String × Method) :=
  all.map fun m => (m.id, m)

namespace Stage

def toJson (s : Stage) : Value :=
  .object [("duration", .text s.duration), ("target", .ofUInt32 s.target)]

/-- The members of a stage. Neither may be left out. -/
def record : Record Stage :=
  ((Record.pure Stage.mk).andMember (.required "duration" .text)).andMember
    (.required "target" .uint32)

def decoder : Decoder Stage :=
  record.ofTree "struct Stage"

end Stage

/-- A numeric field of a form: a number of the right kind, or a text that spells one, blanks
around it aside. Anything else carries no value. -/
def formNumber {α : Type} (ofNumber : Json.Number → Option α) (ofChars : List Char → Option α) :
    Decoder (Option α) := fun t =>
  (Decoder.value t).map fun v =>
    match v with
    | .number n => ofNumber n
    | .text s => ofChars (trimChars s.toList)
    | _ => none

/-- A whole number of 32 bits from a form. -/
def formUInt32 : Decoder (Option UInt32) :=
  formNumber
    (fun n => match n with
      | .natural n => if n.toNat < 2 ^ 32 then some n.toUInt32 else none
      | _ => none)
    (fun cs => (naturalBelow? (2 ^ 32) cs).map UInt32.ofNat)

/-- A whole number of 64 bits from a form. -/
def formUInt64 : Decoder (Option UInt64) :=
  formNumber
    (fun n => match n with
      | .natural n => some n
      | _ => none)
    (fun cs => (naturalBelow? (2 ^ 64) cs).map UInt64.ofNat)

/-- Any number from a form. -/
def formBinary64 : Decoder (Option Binary64) :=
  formNumber (fun n => some n.toBinary64) Binary64.ofChars?

namespace TestConfig

def toJson (c : TestConfig) : Value :=
  .object <|
    [("testType", .text c.testType.id), ("executor", .text c.executor.id),
      ("endpoint", .text c.endpoint), ("method", .text c.method.id)] ++
    Json.given "headers" (if c.headers.isEmpty then none else some c.headers.toJson) ++
    Json.given "body" (c.body.map .text) ++
    Json.given "vus" (c.vus.map .ofUInt32) ++
    Json.given "duration" (c.duration.map .text) ++
    Json.givenItems "stages" (c.stages.map Stage.toJson) ++
    Json.given "iterations" (c.iterations.map .ofUInt64) ++
    Json.given "rate" (c.rate.map .ofUInt64) ++
    Json.given "timeUnit" (c.timeUnit.map .text) ++
    Json.given "preAllocatedVUs" (c.preAllocatedVus.map .ofUInt32) ++
    Json.given "maxVUs" (c.maxVus.map .ofUInt32) ++
    Json.givenItems "checks" (c.checks.map .text) ++
    Json.given "thinkTime" (c.thinkTime.map .ofBinary64)

/-- The members of a configuration, of which the first four may not be left out. -/
def record : Record TestConfig :=
  (Record.pure TestConfig.mk)
    |>.andMember (.required "testType" (.variant TestType.variants))
    |>.andMember (.required "executor" (.variant Executor.variants))
    |>.andMember (.required "endpoint" .text)
    |>.andMember (.required "method" (.variant Method.variants))
    |>.andMember (.withDefault "headers" Headers.decoder .empty)
    |>.andMember (.withDefault "body" (.option .text) none)
    |>.andMember (.withDefault "vus" formUInt32 none)
    |>.andMember (.withDefault "duration" (.option .text) none)
    |>.andMember (.withDefault "stages" (.listOrNull Stage.decoder) [])
    |>.andMember (.withDefault "iterations" formUInt64 none)
    |>.andMember (.withDefault "rate" formUInt64 none)
    |>.andMember (.withDefault "timeUnit" (.option .text) none)
    |>.andMember (.withDefault "preAllocatedVUs" formUInt32 none)
    |>.andMember (.withDefault "maxVUs" formUInt32 none)
    |>.andMember (.withDefault "checks" (.listOrNull .text) [])
    |>.andMember (.withDefault "thinkTime" formBinary64 none)

def decoder : Decoder TestConfig :=
  record.ofTree "struct TestConfig"

/-- Refuses a text under that name which is no known identifier. -/
def checkName {α : Type} (v : Value) (member : String) (ofId? : String → Option α)
    (fault : String → Error) : Except Error Unit :=
  match (v.get? member).bind Value.text? with
  | some name => if (ofId? name).isSome then .ok () else .error (fault name)
  | none => .ok ()

/-- Reads a configuration from a document. -/
def ofValue (v : Value) : Except Error TestConfig := do
  checkName v "executor" Executor.ofId? .unknownExecutor
  checkName v "testType" TestType.ofId? .unknownTestType
  checkName v "method" Method.ofId? .unknownMethod
  (decoder v.tree).mapError .wrongShape

/-- Reads a configuration from a text. `syntaxFault` is what the reader of documents says of a text
that is no JSON. -/
def ofText (syntaxFault : String → String) (text : String) : Except Error TestConfig :=
  match Value.ofText? text with
  | some v => ofValue v
  | none => .error (.notJson (syntaxFault text))

end TestConfig

end LoadTest
