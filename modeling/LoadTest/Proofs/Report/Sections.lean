import LoadTest.Proofs.Report.Recovery

/-!
# Sections are independent

Every field of the metrics belongs to one section (`Field.sectionName`), and a section fills in its
own fields with what the report says, whatever they held before (`get_fill`). So it does not matter
in which order the sections look through a report, or how often (`fillAll_eq`).

There is nothing to find in a blank report, which is why it need not be looked through
(`fillAll_of_white`).
-/

namespace LoadTest

namespace Metrics

/-- The fields of metrics. -/
inductive Field where
  | checksTotal
  | checksSucceeded
  | checksFailed
  | individualChecks
  | httpReqDuration
  | httpReqFailed
  | httpReqs
  | iterationDuration
  | iterations
  | vus
  | vusMax
  | dataReceived
  | dataSent

/-- The section that fills in the field. The share of failed checks comes with the others. -/
def Field.sectionName : Field → String
  | .checksTotal => "checks_total"
  | .checksSucceeded => "checks_succeeded"
  | .checksFailed => "checks_succeeded"
  | .individualChecks => "individual_checks"
  | .httpReqDuration => "http_req_duration"
  | .httpReqFailed => "http_req_failed"
  | .httpReqs => "http_reqs"
  | .iterationDuration => "iteration_duration"
  | .iterations => "iterations"
  | .vus => "vus"
  | .vusMax => "vus_max"
  | .dataReceived => "data_received"
  | .dataSent => "data_sent"

/-- What is kept in the field. -/
def Field.Holds : Field → Type
  | .checksTotal => Option UInt64
  | .checksSucceeded => Option Binary64
  | .checksFailed => Option Binary64
  | .individualChecks => List IndividualCheck
  | .httpReqDuration => Option DurationStats
  | .httpReqFailed => Option FailureRate
  | .httpReqs => Option Counter
  | .iterationDuration => Option DurationStats
  | .iterations => Option Counter
  | .vus => Option VusGauge
  | .vusMax => Option VusMaxGauge
  | .dataReceived => Option DataTransfer
  | .dataSent => Option DataTransfer

/-- What the metrics keep in the field. -/
def get (m : Metrics) : (f : Field) → f.Holds
  | .checksTotal => m.checksTotal
  | .checksSucceeded => m.checksSucceeded
  | .checksFailed => m.checksFailed
  | .individualChecks => m.individualChecks
  | .httpReqDuration => m.httpReqDuration
  | .httpReqFailed => m.httpReqFailed
  | .httpReqs => m.httpReqs
  | .iterationDuration => m.iterationDuration
  | .iterations => m.iterations
  | .vus => m.vus
  | .vusMax => m.vusMax
  | .dataReceived => m.dataReceived
  | .dataSent => m.dataSent

/-- Metrics are what their fields hold. -/
theorem ext_get {m m' : Metrics} (h : ∀ f, m.get f = m'.get f) : m = m' := by
  obtain ⟨_, _, _, _, _, _, _, _, _, _, _, _, _⟩ := m
  obtain ⟨_, _, _, _, _, _, _, _, _, _, _, _, _⟩ := m'
  rw [mk.injEq]
  exact ⟨h .checksTotal, h .checksSucceeded, h .checksFailed, h .individualChecks,
    h .httpReqDuration, h .httpReqFailed, h .httpReqs, h .iterationDuration, h .iterations,
    h .vus, h .vusMax, h .dataReceived, h .dataSent⟩

end Metrics

namespace Report

open Metrics (Field)

variable {raw : List Char} {m : Metrics} {f : Field} {s : Section}

/-- What a report has for a field, if its section writes anything at all. -/
def written (raw : List Char) : (f : Field) → Option f.Holds
  | .checksTotal => some ((find "checks_total" .counter raw).bind fun c => count? c.1)
  | .checksSucceeded => (Layout.checksShareOfSome? raw).map some
  | .checksFailed => (Layout.checksShareOfSome? raw).map fun share => some (complement share)
  | .individualChecks => some (individualChecks raw)
  | .httpReqDuration => some (trend? "http_req_duration" raw)
  | .httpReqFailed => some ((failureRate? raw).filter fun rate => rate.total != 0)
  | .httpReqs => some (counter? "http_reqs" raw)
  | .iterationDuration => some (trend? "iteration_duration" raw)
  | .iterations => some (counter? "iterations" raw)
  | .vus => some ((gauge? "vus" raw).map fun g => ⟨g.1, g.2.1, g.2.2⟩)
  | .vusMax => some ((gauge? "vus_max" raw).map fun g => ⟨g.1, g.2.1, g.2.2⟩)
  | .dataReceived => some (transfer? "data_received" raw)
  | .dataSent => some (transfer? "data_sent" raw)

/-- Only the shares of checks may be left as they are. -/
theorem written_eq_none :
    written raw f = none ↔
      f.sectionName = "checks_succeeded" ∧ Layout.checksShareOfSome? raw = none := by
  cases f
  case checksSucceeded | checksFailed =>
    exact Option.map_eq_none_iff.trans (and_iff_right rfl).symm
  all_goals simp [written, Field.sectionName]

/-- A section writes its own fields and no other one. -/
theorem get_fill (hs : s ∈ sections) (raw : List Char) (m : Metrics) (f : Field) :
    (s.fill raw m).get f =
      if f.sectionName = s.name then (written raw f).getD (m.get f) else m.get f := by
  simp only [sections, List.mem_cons, List.not_mem_nil, or_false] at hs
  rcases hs with rfl | rfl | rfl | rfl | rfl | rfl | rfl | rfl | rfl | rfl | rfl | rfl
  case inr.inl =>
    dsimp only
    rcases hshare : checksShare? raw with _ | ⟨percentage, total⟩
    · have hnone := Layout.checksShareOfSome?_of_none hshare
      cases f <;> simp only [written, hnone] <;> rfl
    have hwritten := Layout.checksShareOfSome?_of_some hshare
    dsimp only
    by_cases htotal : total = 0
    · rw [if_pos htotal] at hwritten ⊢
      cases f <;> simp only [written, hwritten] <;> rfl
    · rw [if_neg htotal] at hwritten ⊢
      cases f <;> simp only [written, hwritten] <;> rfl
  all_goals cases f <;> rfl

/-- Every section writes the fields it owns once, and leaves all others to the sections that own
them. -/
theorem get_fillAll {parts : List Section} (hparts : ∀ s ∈ parts, s ∈ sections) (raw : List Char)
    (m : Metrics) (f : Field) :
    (fillAll raw m parts).get f =
      if f.sectionName ∈ parts.map Section.name then (written raw f).getD (m.get f)
      else m.get f := by
  induction parts generalizing m with
  | nil => rfl
  | cons s parts ih =>
    have hs := get_fill (hparts s List.mem_cons_self) raw m f
    have hrest := ih (fun t ht => hparts t (List.mem_cons_of_mem s ht)) (s.fill raw m)
    rw [fillAll, List.foldl_cons, ← fillAll, hrest, hs]
    simp only [List.map_cons, List.mem_cons]
    by_cases hhead : f.sectionName = s.name <;>
      by_cases htail : f.sectionName ∈ parts.map Section.name
    · -- what was written before is written again
      rw [if_pos htail, if_pos hhead, if_pos (Or.inl hhead)]
      cases written raw f <;> rfl
    · rw [if_neg htail, if_pos hhead, if_pos (Or.inl hhead)]
    · rw [if_pos htail, if_neg hhead, if_pos (Or.inr htail)]
    · rw [if_neg htail, if_neg hhead, if_neg (not_or.2 ⟨hhead, htail⟩)]

theorem sectionName_mem (f : Field) : f.sectionName ∈ sections.map Section.name := by
  cases f <;> decide

/-- The order of the sections does not matter, nor how often they look through the report. -/
theorem fillAll_eq {order : List Section} (horder : ∀ s, s ∈ order ↔ s ∈ sections)
    (raw : List Char) (m : Metrics) : fillAll raw m order = fillAll raw m sections := by
  refine Metrics.ext_get fun f => ?_
  have hmem : f.sectionName ∈ order.map Section.name := by
    obtain ⟨s, hs, hname⟩ := List.mem_map.1 (sectionName_mem f)
    exact List.mem_map.2 ⟨s, (horder s).2 hs, hname⟩
  rw [get_fillAll (fun s => (horder s).1), get_fillAll (fun s => id), if_pos hmem,
    if_pos (sectionName_mem f)]

/-! ## Blank reports -/

section White

variable (hraw : ∀ c ∈ raw, isWhite c = true)
include hraw

theorem find_of_white {α : Type} {name : String} {values : Scan α}
    (hname : ∃ c ∈ name.toList, isWhite c = false) : find name values raw = none := by
  refine findSection_of_absent (fun hfound => ?_) none
  obtain ⟨c, hc, hvisible⟩ := hname
  exact absurd (hraw c (hfound.subset hc)) (by simp [hvisible])

theorem fillAll_of_white : fillAll raw .empty sections = .empty := by
  have hmarks : ∀ c ∈ raw, isMark c = false := by
    intro c hc
    by_contra hmark
    rw [Bool.not_eq_false] at hmark
    have hwhite := hraw c hc
    rcases Layout.eq_of_isMark hmark with rfl | rfl <;> exact absurd hwhite (by decide)
  rw [Layout.fillAll_sections, Layout.individualChecks_eq_nil hmarks]
  simp (disch := decide) only [Layout.checksShareOfSome?, checksShare?, counter?, trend?, gauge?,
    transfer?, failureRate?, find_of_white hraw]
  rfl

end White

/-- The early return for a blank report changes nothing. -/
theorem summary_eq_fillAll (raw : String) : summary raw = fillAll raw.toList .empty sections := by
  unfold summary
  split_ifs with hblank
  · exact (fillAll_of_white (List.all_eq_true.1 hblank)).symm
  · rfl

/-- Each section fills in its own fields with what does not depend on any field, or nothing at
all. The order of the sections does not matter, nor how often they look through the report, and a
blank report need not be looked through. -/
theorem sections_independent (raw : String) :
    (∀ s ∈ sections, ∀ m f, f.sectionName ≠ s.name → (s.fill raw.toList m).get f = m.get f) ∧
      (∀ s ∈ sections, (∀ m, s.fill raw.toList m = m) ∨
        ∀ m m' f, f.sectionName = s.name →
          (s.fill raw.toList m).get f = (s.fill raw.toList m').get f) ∧
      (∀ order, (∀ s, s ∈ order ↔ s ∈ sections) →
        fillAll raw.toList .empty order = summary raw) ∧
      ((trimmed raw).isEmpty = true →
        summary raw = .empty ∧ fillAll raw.toList .empty sections = .empty) := by
  have hwhite : isWhiteText raw = true → fillAll raw.toList .empty sections = .empty := fun h =>
    fillAll_of_white (List.all_eq_true.1 h)
  refine ⟨fun s hs m f hf => ?_, fun s hs => ?_, fun order horder => ?_, fun h => ?_⟩
  · rw [get_fill hs, if_neg hf]
  · by_cases hnothing :
        s.name = "checks_succeeded" ∧ Layout.checksShareOfSome? raw.toList = none
    · refine Or.inl fun m => Metrics.ext_get fun f => ?_
      rw [get_fill hs]
      split_ifs with hf
      · rw [written_eq_none.2 ⟨hf.trans hnothing.1, hnothing.2⟩, Option.getD_none]
      · rfl
    · refine Or.inr fun m m' f hf => ?_
      obtain ⟨a, ha⟩ : ∃ a, written raw.toList f = some a := by
        refine Option.ne_none_iff_exists'.1 fun hnone => hnothing ?_
        rw [← hf]
        exact written_eq_none.1 hnone
      rw [get_fill hs, get_fill hs, if_pos hf, if_pos hf, ha, Option.getD_some, Option.getD_some]
  · rw [fillAll_eq horder, summary]
    split_ifs with hblank
    · exact hwhite hblank
    · rfl
  · rw [isEmpty_trimmed] at h
    exact ⟨if_pos h, hwhite h⟩

theorem sections_independent_reverse :
    (∀ s, s ∈ sections.reverse ++ sections.take 3 ↔ s ∈ sections) ∧
      fillAll "vus: 1 min=1 max=1".toList .empty (sections.reverse ++ sections.take 3) =
        summary "vus: 1 min=1 max=1" ∧
      summary " \n" = .empty := by
  have hsame : ∀ s, s ∈ sections.reverse ++ sections.take 3 ↔ s ∈ sections := by
    intro s
    rw [List.mem_append, List.mem_reverse]
    exact ⟨fun h => h.elim id List.mem_of_mem_take, Or.inl⟩
  exact ⟨hsame, (sections_independent "vus: 1 min=1 max=1").2.2.1 _ hsame,
    ((sections_independent " \n").2.2.2 (by decide)).1⟩

end Report

end LoadTest
