import LoadTest.Registry
import LoadTest.Result.Import
import LoadTest.Script.Basic
import LoadTest.Series.Aggregator
import LoadTest.Server.Multipart
import LoadTest.Server.Route
import LoadTest.Validation

/-!
# Answers to requests

What the service answers depends on the request, on the most bytes a body may have, and on a
`Moment`: the time, a name for a new result, and since when the service runs.
-/

namespace LoadTest

open Json (Value)

/-- What is asked of the service. -/
structure Request where
  method : String
  /-- With the query and the fragment, if there are any. -/
  target : String
  contentType : Option String
  body : ByteArray

/-- What an answer carries. Words that are not the service's own, as those of a body that could not
be read, do not count. -/
inductive Payload where
  | nothing
  | json (v : Value)
  | file (name : String) (content : String)

/-- What the service answers. -/
structure Response where
  status : Nat
  payload : Payload

/-- What an answer may depend on beside the request. -/
structure Moment where
  now : Int64
  freshId : String
  startedAt : String
  uptimeSeconds : Int64

namespace Response

/-- A status, with no payload of the service's own. -/
def ofStatus (status : Nat) : Response :=
  ⟨status, .nothing⟩

/-- An answer to what could be done. -/
def ok (v : Value) : Response :=
  ⟨200, .json v⟩

/-- The answer to what is refused. Only a file that cannot be read is the service's own fault. -/
def ofError (e : Error) : Response :=
  let status := match e with
    | .unreadable _ => 500
    | _ => 400
  ⟨status, .json (.object [("success", .bool false), ("error", .text e.message)])⟩

/-- A file to be saved; its name goes into a header, which has no room for control characters. -/
def ofFile (name content : String) : Response :=
  if name.toList.any fun c => (c.toNat < 0x20 && c != '\t') || c = '\x7f' then ofStatus 500
  else ⟨200, .file name content⟩

/-- What a response says of its body: whether it is to be saved, and under which name. -/
def disposition? (r : Response) : Option String :=
  match r.payload with
  | .file name _ => some ("attachment; filename=\"" ++ name ++ "\"")
  | _ => none

/-- The answer without what only says that something was asked for. -/
def withoutPayload (r : Response) : Response :=
  ⟨r.status, .nothing⟩

end Response

namespace Server

/-- The version of the service. -/
def version : String :=
  "0.1.0"

/-- How the service is, and what it has on offer. -/
def health (m : Moment) : Value :=
  .object [("status", .text "healthy"), ("version", .text version),
    ("started_at", .text m.startedAt), ("uptime_secs", .ofInt64 m.uptimeSeconds),
    ("executors", .number (.ofNat Executor.all.length)),
    ("test_types", .number (.ofNat TestType.all.length))]

/-- Answers a request whose body is not too large. -/
def withBody (limit : Nat) (r : Request) (answer : ByteArray → Response) : Response :=
  if limit < r.body.size then .ofStatus 413 else answer r.body

/-- Answers a request whose body is a text. -/
def withText (limit : Nat) (r : Request) (answer : String → Response) : Response :=
  withBody limit r fun bytes =>
    match String.fromUTF8? bytes with
    | some text => answer text
    | none => .ofStatus 400

/-- Answers a request that says that its body is JSON. -/
def ifJson (r : Request) (response : Response) : Response :=
  if ((r.contentType.bind MediaType.ofText?).map MediaType.isJson).getD false then response
  else .ofStatus 415

/-- Answers with a configuration that stands in the body. -/
def withConfig (limit : Nat) (r : Request) (answer : TestConfig → Value) : Response :=
  ifJson r <| withText limit r fun text =>
    match Value.ofText? text with
    | none => .ofStatus 400
    | some v =>
      match TestConfig.ofValue v with
      | .ok c => .ok (answer c)
      | .error e => .ofError e

/-- The refusal of an upload that breaks off. -/
def brokenUpload : Error :=
  .badRequest "Error parsing \x60multipart/form-data\x60 request"

/-- Imports the first part that is called a file, unless the upload breaks off before it ends. -/
def importParts (m : Moment) (upload : Upload) : Response :=
  match upload.parts.find? fun part => part.name == some "file" with
  | none => .ofError (if upload.complete then .noFile else brokenUpload)
  | some part =>
    match TestResult.ofFile m.freshId (part.fileName.getD "upload.txt") part.text m.now with
    | .ok result => .ok (.object [("success", .bool true), ("result", result.toJson)])
    | .error e => .ofError e

/-- What stands between the parts of a body, as its type tells. -/
def boundary? (r : Request) : Option Multipart.Bytes := do
  let type ← r.contentType.bind MediaType.ofText?
  if type.isFormData then
    return Multipart.bytesOf (String.ofList (← type.parameter? "boundary"))
  else none

/-- Imports from a body of several parts. -/
def importUpload (limit : Nat) (m : Moment) (r : Request) : Response :=
  match boundary? r with
  | none => .ofStatus 400
  | some boundary =>
    if limit < r.body.size then .ofError brokenUpload
    else importParts m (Upload.ofBytes boundary r.body.data.toList)

/-- Sends a result back as a file. It is read off the document at once, so that bytes that are no
JSON are told from JSON that is no result. -/
def exportResult (bytes : ByteArray) : Response :=
  match TestResult.decoder.ofChars (Json.documentChars bytes) with
  | .ok result => .ofFile result.exportName result.exportText
  | .error fault => .ofStatus (if fault.spoilsText then 400 else 422)

/-- What is answered on a route. -/
def answer (limit : Nat) (m : Moment) (r : Request) : Route → Response
  | .health => .ok (health m)
  | .executors => .ok (.object [("executors", executorListing)])
  | .testTypes => .ok (.object [("test_types", testTypeListing)])
  | .script => withConfig limit r fun c =>
    .object [("success", .bool true), ("script", .text c.script)]
  | .validate => withConfig limit r fun c =>
    .object [("valid", .bool c.issues.isEmpty), ("errors", .array (c.issues.map Issue.toJson))]
  | .parse => withText limit r fun text =>
    .ok (.object [("success", .bool true), ("metrics", (Report.summary text).toJson)])
  | .timeseries => withText limit r fun text => .ok (TimeSeries.ofText text).toJson
  | .importResult => importUpload limit m r
  | .exportResult => ifJson r (withBody limit r exportResult)

/-- Browsers may ask about any path beforehand. -/
def respond (limit : Nat) (m : Moment) (r : Request) : Response :=
  if r.method = "OPTIONS" then .ofStatus 200
  else match Route.ofTarget? r.target with
    | none => .ofStatus 404
    | some route =>
      if route.isQuestion then
        if r.method = "GET" then answer limit m r route
        else if r.method = "HEAD" then (answer limit m r route).withoutPayload
        else .ofStatus 405
      else if r.method = "POST" then answer limit m r route
      else .ofStatus 405

end Server

end LoadTest
