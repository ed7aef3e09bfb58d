import LoadTest.CommandLine.Run
import LoadTest.Proofs.Result.Run
import LoadTest.Proofs.Server.Post

/-!
# Commands and requests

A command on a file and the request that posts its text give the same (`sameAnswers_of_read`): the
same script, or the same error, and what a command prints of a report or a stream is a document of
the very value that the request is answered with.
-/

namespace LoadTest

open Json (Value)

/-! ## Refused configurations -/

theorem error_of_bind {ε α β : Type} {x : Except ε α} {f : α → Except ε β} {e : ε}
    (h : x >>= f = .error e) : x = .error e ∨ ∃ a, x = .ok a ∧ f a = .error e := by
  cases x with
  | error e' => exact .inl (congrArg _ (Except.error.inj h))
  | ok a => exact .inr ⟨a, rfl, h⟩

namespace TestConfig

theorem checkName_eq_error {α : Type} {v : Value} {member : String} {ofId? : String → Option α}
    {fault : String → Error} {e : Error} (h : checkName v member ofId? fault = .error e) :
    ∃ name, e = fault name := by
  unfold checkName at h
  split at h
  · split_ifs at h
    exact ⟨_, (Except.error.inj h).symm⟩
  · cases h

theorem ofText_eq {text : String} {v : Value} (hv : Value.ofText? text = some v)
    (syntaxFault : String → String) : ofText syntaxFault text = ofValue v := by
  rw [ofText, hv]

/-- No configuration is refused for a file that cannot be read. -/
theorem ofError_of_ofValue {v : Value} {e : Error} (h : ofValue v = .error e) :
    Response.ofError e =
      ⟨400, .json (.object [("success", .bool false), ("error", .text e.message)])⟩ := by
  unfold ofValue at h
  -- the three names are checked first, each in the same way
  iterate 3
    rcases error_of_bind h with h | ⟨_, -, h⟩
    · obtain ⟨name, rfl⟩ := checkName_eq_error h
      rfl
  cases hread : decoder v.tree with
  | ok c => rw [hread] at h; cases h
  | error fault =>
    rw [hread] at h
    obtain rfl := Except.error.inj h
    rfl

end TestConfig

/-- A report starts with the message. -/
theorem Error.exists_report (e : Error) : ∃ cause, e.report = e.message ++ cause := by
  unfold report
  split
  · exact ⟨_, String.append_assoc ..⟩
  · exact ⟨"", (String.append_empty).symm⟩

/-! ## Documents of series -/

theorem ChartPoint.fits_toJson (p : ChartPoint) : p.toJson.Fits 1 :=
  Json.fits_object (by simp [Entries.names]) (by simp [Value.ofInt64])

theorem TimeSeries.fits_toJson (s : TimeSeries) : s.toJson.Fits 3 := by
  have hpoints : ∀ points : List ChartPoint,
      (Value.array (points.map ChartPoint.toJson)).Fits 2 := by
    intro points
    refine Json.fits_array fun v hv => ?_
    obtain ⟨p, -, rfl⟩ := List.mem_map.1 hv
    exact p.fits_toJson
  exact Json.fits_object (by simp [Entries.names]) (by simp [hpoints])

/-! ## The same answers -/

section Commands

variable {s : Surroundings} {path text : String}

namespace CommandLine

theorem perform_compile (hread : s.read path = .ok text) {c : TestConfig}
    (hc : TestConfig.ofText s.syntaxFault text = .ok c) :
    perform s (.compile path) = some (.done c.script) := by
  simp only [perform, withFile, hread, hc]

theorem perform_compile_refused (hread : s.read path = .ok text) {e : Error}
    (he : TestConfig.ofText s.syntaxFault text = .error e) :
    perform s (.compile path) = some (.failed e.report) := by
  simp only [perform, withFile, hread, he]

theorem perform_parse (hread : s.read path = .ok text) :
    perform s (.parse path) = some (.done ((Report.summary text).toJson.spread ++ "\n")) := by
  simp only [perform, withFile, hread]

theorem perform_timeseries (hread : s.read path = .ok text) :
    perform s (.timeseries path) =
      some (.done ((TimeSeries.ofText text).toJson.spread ++ "\n")) := by
  simp only [perform, withFile, hread]

end CommandLine

namespace Server

variable {limit : ℕ} (m : Moment)

theorem respond_script (hsize : text.utf8ByteSize ≤ limit) {v : Value}
    (hv : Value.ofText? text = some v) {c : TestConfig} (hc : TestConfig.ofValue v = .ok c) :
    respond limit m (.post .script (some "application/json") text) =
      .ok (.object [("success", .bool true), ("script", .text c.script)]) := by
  rw [respond_post rfl, answer, withConfig, ifJson_post, withText_post hsize, hv]
  simp only [hc]

theorem respond_script_refused (hsize : text.utf8ByteSize ≤ limit) {v : Value}
    (hv : Value.ofText? text = some v) {e : Error} (he : TestConfig.ofValue v = .error e) :
    respond limit m (.post .script (some "application/json") text) =
      ⟨400, .json (.object [("success", .bool false), ("error", .text e.message)])⟩ := by
  rw [respond_post rfl, answer, withConfig, ifJson_post, withText_post hsize, hv]
  simp only [he]
  exact TestConfig.ofError_of_ofValue he

theorem respond_parse (hsize : text.utf8ByteSize ≤ limit) (contentType : Option String) :
    respond limit m (.post .parse contentType text) =
      .ok (.object [("success", .bool true), ("metrics", (Report.summary text).toJson)]) := by
  rw [respond_post rfl, answer, withText_post hsize]

theorem respond_timeseries (hsize : text.utf8ByteSize ≤ limit) (contentType : Option String) :
    respond limit m (.post .timeseries contentType text) =
      .ok (TimeSeries.ofText text).toJson := by
  rw [respond_post rfl, answer, withText_post hsize]

end Server

open CommandLine (perform)
open Server (respond)

/-- Commands on a file give what requests get that post its text. -/
structure SameAnswers (limit : ℕ) (m : Moment) (s : Surroundings) (path text : String) :
    Prop where
  script : ∀ v, Value.ofText? text = some v → ∀ script,
    perform s (.compile path) = some (.done script) ↔
      respond limit m (.post .script (some "application/json") text) =
        .ok (.object [("success", .bool true), ("script", .text script)])
  refusal : ∀ v, Value.ofText? text = some v →
    (∀ script, perform s (.compile path) ≠ some (.done script)) → ∃ error cause,
      respond limit m (.post .script (some "application/json") text) =
        ⟨400, .json (.object [("success", .bool false), ("error", .text error)])⟩ ∧
      perform s (.compile path) = some ⟨1, "", "Error: " ++ error ++ cause⟩
  metrics : ∀ contentType, ∃ printed v,
    perform s (.parse path) = some (.done printed) ∧ Value.ofText? printed = some v ∧
      respond limit m (.post .parse contentType text) =
        .ok (.object [("success", .bool true), ("metrics", v)])
  series : ∀ contentType, ∃ printed v,
    perform s (.timeseries path) = some (.done printed) ∧ Value.ofText? printed = some v ∧
      respond limit m (.post .timeseries contentType text) = .ok v

theorem sameAnswers_of_read {limit : ℕ} (hsize : text.utf8ByteSize ≤ limit)
    (hread : s.read path = .ok text) (m : Moment) : SameAnswers limit m s path text where
  script v hv script := by
    cases hc : TestConfig.ofValue v with
    | ok c =>
      rw [CommandLine.perform_compile hread (TestConfig.ofText_eq hv _ ▸ hc),
        Server.respond_script m hsize hv hc]
      simp [Outcome.done, Response.ok]
    | error e =>
      rw [CommandLine.perform_compile_refused hread (TestConfig.ofText_eq hv _ ▸ hc),
        Server.respond_script_refused m hsize hv hc]
      simp [Outcome.done, Outcome.failed, Response.ok]
  refusal v hv hfails := by
    cases hc : TestConfig.ofValue v with
    | ok c =>
      exact absurd (CommandLine.perform_compile hread (TestConfig.ofText_eq hv _ ▸ hc))
        (hfails c.script)
    | error e =>
      obtain ⟨cause, hreport⟩ := e.exists_report
      refine ⟨e.message, cause ++ "\n", Server.respond_script_refused m hsize hv hc, ?_⟩
      rw [CommandLine.perform_compile_refused hread (TestConfig.ofText_eq hv _ ▸ hc)]
      simp only [Outcome.failed, hreport, String.append_assoc]
  metrics contentType := by
    have hfits := (Report.summary text).fits_toJson
    exact ⟨_, _, CommandLine.perform_parse hread,
      Json.ofText?_spread_newline hfits.distinct (hfits.depth.trans (by decide)),
      Server.respond_parse m hsize contentType⟩
  series contentType := by
    have hfits := (TimeSeries.ofText text).fits_toJson
    exact ⟨_, _, CommandLine.perform_timeseries hread,
      Json.ofText?_spread_newline hfits.distinct (hfits.depth.trans (by decide)),
      Server.respond_timeseries m hsize contentType⟩

end Commands

/-- A configuration that is compiled. -/
def smokeText : String :=
  "\x7b\"testType\":\"smoke\",\"executor\":\"constant-vus\",\"method\":\"GET\"," ++
    "\"endpoint\":\"u\"\x7d"

/-- Every file holds it. -/
def smokeFile : Surroundings :=
  ⟨fun _ => .ok smokeText, 0, "1", fun _ => "syntax error"⟩

theorem sameAnswers_smokeText :
    (Value.ofText? smokeText).isSome = true ∧ smokeText.utf8ByteSize ≤ 100 ∧
      SameAnswers 100 ⟨0, "2", "", 0⟩ smokeFile "smoke.json" smokeText :=
  ⟨by decide +kernel, by decide,
    sameAnswers_of_read (s := smokeFile) (by decide) rfl _⟩

end LoadTest
