import LoadTest.Proofs.Config.RoundTrip
import LoadTest.Report.Metrics

/-!
# Metrics read back

Metrics whose doubles are finite are read back from their document (`Metrics.recovers_toJson`). A
section that is absent stays absent, and individual checks are written even when there are none.
-/

namespace LoadTest

open Json (Decoder Record Value)
open Json.Member

section Sections

variable {k : ℕ}

namespace DurationStats

/-- Every statistic has a spelling. -/
def IsFinite (s : DurationStats) : Prop :=
  ∀ x ∈ [s.avg, s.min, s.med, s.max, s.p90, s.p95], x.isFinite = true
deriving Decidable

theorem recovers_toJson {s : DurationStats} (hs : s.IsFinite) :
    decoder.Recovers (k + 1) s.toJson s := by
  simp only [IsFinite, List.forall_mem_cons] at hs
  obtain ⟨havg, hmin, hmed, hmax, hp90, hp95, -⟩ := hs
  refine Record.recovers_present
    [("avg", some (.ofBinary64 s.avg)), ("min", some (.ofBinary64 s.min)),
      ("med", some (.ofBinary64 s.med)), ("max", some (.ofBinary64 s.max)),
      ("p90", some (.ofBinary64 s.p90)), ("p95", some (.ofBinary64 s.p95))] _ (by decide) rfl ?_
  exact (Record.Reads.pure DurationStats.mk)
    |>.andMember (reads_required (Decoder.recovers_binary64 havg))
    |>.andMember (reads_required (Decoder.recovers_binary64 hmin))
    |>.andMember (reads_required (Decoder.recovers_binary64 hmed))
    |>.andMember (reads_required (Decoder.recovers_binary64 hmax))
    |>.andMember (reads_required (Decoder.recovers_binary64 hp90))
    |>.andMember (reads_required (Decoder.recovers_binary64 hp95))

end DurationStats

theorem FailureRate.recovers_toJson {r : FailureRate} (hr : r.percentage.isFinite = true) :
    decoder.Recovers (k + 1) r.toJson r := by
  refine Record.recovers_present
    [("percentage", some (.ofBinary64 r.percentage)), ("count", some (.ofUInt64 r.count)),
      ("total", some (.ofUInt64 r.total))] _ (by decide) rfl ?_
  exact (Record.Reads.pure FailureRate.mk)
    |>.andMember (reads_required (Decoder.recovers_binary64 hr))
    |>.andMember (reads_required (Decoder.recovers_uint64 r.count))
    |>.andMember (reads_required (Decoder.recovers_uint64 r.total))

theorem Counter.recovers_toJson {c : Counter} (hc : c.rate.isFinite = true) :
    decoder.Recovers (k + 1) c.toJson c := by
  refine Record.recovers_present
    [("total", some (.ofUInt64 c.total)), ("rate", some (.ofBinary64 c.rate))] _ (by decide) rfl ?_
  exact (Record.Reads.pure Counter.mk)
    |>.andMember (reads_required (Decoder.recovers_uint64 c.total))
    |>.andMember (reads_required (Decoder.recovers_binary64 hc))

theorem VusGauge.recovers_toJson (g : VusGauge) : decoder.Recovers (k + 1) g.toJson g := by
  refine Record.recovers_present
    [("current", some (.ofUInt64 g.current)), ("min", some (.ofUInt64 g.min)),
      ("max", some (.ofUInt64 g.max))] _ (by decide) rfl ?_
  exact (Record.Reads.pure VusGauge.mk)
    |>.andMember (reads_required (Decoder.recovers_uint64 g.current))
    |>.andMember (reads_required (Decoder.recovers_uint64 g.min))
    |>.andMember (reads_required (Decoder.recovers_uint64 g.max))

theorem VusMaxGauge.recovers_toJson (g : VusMaxGauge) : decoder.Recovers (k + 1) g.toJson g := by
  refine Record.recovers_present
    [("value", some (.ofUInt64 g.value)), ("min", some (.ofUInt64 g.min)),
      ("max", some (.ofUInt64 g.max))] _ (by decide) rfl ?_
  exact (Record.Reads.pure VusMaxGauge.mk)
    |>.andMember (reads_required (Decoder.recovers_uint64 g.value))
    |>.andMember (reads_required (Decoder.recovers_uint64 g.min))
    |>.andMember (reads_required (Decoder.recovers_uint64 g.max))

theorem DataTransfer.recovers_toJson (d : DataTransfer) : decoder.Recovers (k + 1) d.toJson d := by
  refine Record.recovers_present
    [("total", some (.text d.total)), ("rate", some (.text d.rate))] _ (by decide) rfl ?_
  exact (Record.Reads.pure DataTransfer.mk)
    |>.andMember (reads_required (Decoder.recovers_text d.total))
    |>.andMember (reads_required (Decoder.recovers_text d.rate))

theorem IndividualCheck.recovers_toJson {c : IndividualCheck} (hc : c.percentage.isFinite = true) :
    decoder.Recovers (k + 1) c.toJson c := by
  refine Record.recovers_present
    [("name", some (.text c.name)), ("passes", some (.ofUInt64 c.passes)),
      ("fails", some (.ofUInt64 c.fails)), ("percentage", some (.ofBinary64 c.percentage))] _
    (by decide) rfl ?_
  exact (Record.Reads.pure IndividualCheck.mk)
    |>.andMember (reads_required (Decoder.recovers_text c.name))
    |>.andMember (reads_required (Decoder.recovers_uint64 c.passes))
    |>.andMember (reads_required (Decoder.recovers_uint64 c.fails))
    |>.andMember (reads_required (Decoder.recovers_binary64 hc))

end Sections

namespace Metrics

/-- Every double of every section has a spelling. -/
structure IsFinite (m : Metrics) : Prop where
  checksSucceeded : ∀ x ∈ m.checksSucceeded, x.isFinite = true
  checksFailed : ∀ x ∈ m.checksFailed, x.isFinite = true
  individualChecks : ∀ c ∈ m.individualChecks, c.percentage.isFinite = true
  httpReqDuration : ∀ s ∈ m.httpReqDuration, s.IsFinite
  httpReqFailed : ∀ r ∈ m.httpReqFailed, r.percentage.isFinite = true
  httpReqs : ∀ c ∈ m.httpReqs, c.rate.isFinite = true
  iterationDuration : ∀ s ∈ m.iterationDuration, s.IsFinite
  iterations : ∀ c ∈ m.iterations, c.rate.isFinite = true

/-- The members of the document and what they hold. -/
def fields (m : Metrics) : Entries (Option Value) :=
  [("checks_total", m.checksTotal.map .ofUInt64),
    ("checks_succeeded", m.checksSucceeded.map .ofBinary64),
    ("checks_failed", m.checksFailed.map .ofBinary64),
    ("individual_checks", some (.array (m.individualChecks.map IndividualCheck.toJson))),
    ("http_req_duration", m.httpReqDuration.map DurationStats.toJson),
    ("http_req_failed", m.httpReqFailed.map FailureRate.toJson),
    ("http_reqs", m.httpReqs.map Counter.toJson),
    ("iteration_duration", m.iterationDuration.map DurationStats.toJson),
    ("iterations", m.iterations.map Counter.toJson), ("vus", m.vus.map VusGauge.toJson),
    ("vus_max", m.vusMax.map VusMaxGauge.toJson),
    ("data_received", m.dataReceived.map DataTransfer.toJson),
    ("data_sent", m.dataSent.map DataTransfer.toJson)]

theorem toJson_eq (m : Metrics) : m.toJson = .object (Json.present m.fields) := by
  simp only [toJson, fields, Json.present_cons, Json.present_nil, Json.given_some,
    List.append_assoc, List.append_nil]

theorem recovers_toJson {m : Metrics} (hm : m.IsFinite) : decoder.Recovers 3 m.toJson m := by
  rw [toJson_eq]
  refine Record.recovers_present m.fields _ (by decide) rfl ?_
  exact (Record.Reads.pure Metrics.mk)
    |>.andMember (reads_option fun n _ => Decoder.recovers_uint64 n)
    |>.andMember (reads_option fun x hx => Decoder.recovers_binary64 (hm.checksSucceeded x hx))
    |>.andMember (reads_option fun x hx => Decoder.recovers_binary64 (hm.checksFailed x hx))
    |>.andMember (reads_list fun c hc => IndividualCheck.recovers_toJson (hm.individualChecks c hc))
    |>.andMember (reads_option fun s hs => DurationStats.recovers_toJson (hm.httpReqDuration s hs))
    |>.andMember (reads_option fun r hr => FailureRate.recovers_toJson (hm.httpReqFailed r hr))
    |>.andMember (reads_option fun c hc => Counter.recovers_toJson (hm.httpReqs c hc))
    |>.andMember
      (reads_option fun s hs => DurationStats.recovers_toJson (hm.iterationDuration s hs))
    |>.andMember (reads_option fun c hc => Counter.recovers_toJson (hm.iterations c hc))
    |>.andMember (reads_option fun g _ => g.recovers_toJson)
    |>.andMember (reads_option fun g _ => g.recovers_toJson)
    |>.andMember (reads_option fun d _ => d.recovers_toJson)
    |>.andMember (reads_option fun d _ => d.recovers_toJson)

end Metrics

end LoadTest
