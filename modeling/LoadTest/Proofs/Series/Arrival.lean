import LoadTest.Proofs.Json.Ensures
import LoadTest.Proofs.Series.Combining
import Mathlib.Data.List.Sort

/-!
# Lines in another order

The order in which lines arrive does not matter as long as the first time among them is the same
(`Aggregator.pushLines_perm`). The lines that cannot be read are as many, and every second has the
same values of every signal (`Batch.values_perm`), only in another order. So the points of every
series stand at the same times. What they hold is the same where the order of the values does not
matter: the most VUs are, and sums of requests where they are counts.
-/

namespace LoadTest

/-! ## What a line can hold -/

open Json (Decoder Member)

theorem PointData.ensures_decoder :
    decoder.Ensures fun data => ∀ x ∈ data.value, x.isFinite = true := by
  refine Json.Record.Ensures.ofTree ?_ _
  refine .andMember (.andMember (Json.Record.ensures_pure ?_)
    (Member.ensures_optional (Decoder.ensures_true _) _))
    (Member.ensures_optional Decoder.ensures_binary64 _)
  exact fun _ _ _ hvalue => hvalue

theorem StreamLine.ensures_decoder :
    decoder.Ensures fun line => ∀ data ∈ line.data, ∀ x ∈ data.value, x.isFinite = true := by
  have htext := fun name => Member.ensures_optional (Decoder.ensures_true .text) name
  refine Json.Record.Ensures.ofTree ?_ _
  refine .andMember (.andMember (.andMember (.andMember (Json.Record.ensures_pure ?_)
    (htext _)) (htext _)) (htext _)) (Member.ensures_optional PointData.ensures_decoder _)
  exact fun _ _ _ _ _ _ _ hdata => hdata

namespace Batch

variable {lines lines' : List (List Char)}

/-- The line holds something that is not a record. -/
def unreadable (line : List Char) : Bool :=
  !(trimChars line).isEmpty && (StreamLine.ofChars? (trimChars line)).isNone

theorem values_perm (h : lines.Perm lines') (hstart : start? lines = start? lines') (time : ℤ)
    (signal : Signal) : (values lines time signal).Perm (values lines' time signal) := by
  unfold values
  rw [hstart]
  split
  · exact (h.filterMap _).filterMap _
  · exact List.Perm.refl _

theorem values_eq_nil_iff (h : lines.Perm lines') (hstart : start? lines = start? lines')
    (signal : Signal) (time : ℤ) :
    values lines time signal = [] ↔ values lines' time signal = [] := by
  have hperm := values_perm h hstart time signal
  constructor <;> intro hnil
  · exact List.nil_perm.1 (hnil ▸ hperm)
  · exact List.perm_nil.1 (hnil ▸ hperm)

theorem isFinite_of_mem_values {time : ℤ} {signal : Signal} {value : Binary64}
    (h : value ∈ values lines time signal) : value.isFinite = true := by
  unfold values at h
  split at h
  case h_2 => cases h
  obtain ⟨⟨record, t⟩, hrecord, hin⟩ := List.mem_filterMap.1 h
  obtain ⟨line, -, hline⟩ := List.mem_filterMap.1 hrecord
  have hvalue : record.valueOf? signal = some value := by
    unfold valueIn? at hin
    split_ifs at hin
    exact hin
  have hread : StreamLine.decoder.ofChars (trimChars line) = .ok record := by
    unfold timed? at hline
    split_ifs at hline
    obtain ⟨read, hread, hmap⟩ := Option.bind_eq_some_iff.1 hline
    obtain ⟨t', -, hpair⟩ := Option.map_eq_some_iff.1 hmap
    obtain ⟨rfl, -⟩ := Prod.mk.inj hpair
    unfold StreamLine.ofChars? at hread
    cases hdecode : StreamLine.decoder.ofChars (trimChars line) with
    | error fault => rw [hdecode] at hread; cases hread
    | ok record => rw [hdecode] at hread; rw [Option.some.inj hread]
  unfold StreamLine.valueOf? at hvalue
  split_ifs at hvalue
  obtain ⟨data, hdata, hvalue⟩ := Option.bind_eq_some_iff.1 hvalue
  exact StreamLine.ensures_decoder.ofChars hread data hdata value hvalue

end Batch

/-! ## Series of the same seconds -/

namespace IsSeries

variable {points points' : List ChartPoint} {values values' : ℤ → List Binary64}
  {combine combine' : List Binary64 → Binary64}

theorem mem_times (hs : IsSeries points values combine) {time : ℤ} :
    time ∈ points.map ChartPoint.time ↔ 1000 ∣ time ∧ values time ≠ [] := by
  rw [List.mem_map]
  constructor
  · rintro ⟨p, hp, rfl⟩
    exact ⟨((hs.mem_iff p).1 hp).1, ((hs.mem_iff p).1 hp).2.1⟩
  · rintro ⟨hdvd, hnil⟩
    exact ⟨⟨time, combine (values time)⟩, (hs.mem_iff _).2 ⟨hdvd, hnil, rfl⟩, rfl⟩

theorem times_eq (hs : IsSeries points values combine) (hs' : IsSeries points' values' combine')
    (h : ∀ time, values time = [] ↔ values' time = []) :
    points.map ChartPoint.time = points'.map ChartPoint.time := by
  refine hs.ascending.eq_of_mem_iff hs'.ascending fun time => ?_
  rw [hs.mem_times, hs'.mem_times, Ne, h, Ne]

/-- Point for point, what holds of the combined values of every second holds of the points. -/
theorem forall₂ (hs : IsSeries points values combine) (hs' : IsSeries points' values' combine')
    (h : ∀ time, values time = [] ↔ values' time = []) {r : ChartPoint → ChartPoint → Prop}
    (hr : ∀ time, values time ≠ [] →
      r ⟨time, combine (values time)⟩ ⟨time, combine' (values' time)⟩) :
    List.Forall₂ r points points' := by
  have htimes := hs.times_eq hs' h
  have hsame : List.Forall₂ (fun p p' : ChartPoint => p.time = p'.time) points points' := by
    rw [← List.forall₂_eq_eq_eq, List.forall₂_map_left_iff, List.forall₂_map_right_iff] at htimes
    exact htimes
  rw [List.forall₂_iff_zip] at hsame ⊢
  refine ⟨hsame.1, ?_⟩
  rintro ⟨time, value⟩ ⟨time', value'⟩ hmem
  obtain rfl : time = time' := hsame.2 hmem
  obtain ⟨hp, hp'⟩ := List.of_mem_zip hmem
  obtain ⟨-, hne, hvalue⟩ := (hs.mem_iff _).1 hp
  obtain ⟨-, -, hvalue'⟩ := (hs'.mem_iff _).1 hp'
  obtain rfl : value = combine (values time) := hvalue
  obtain rfl : value' = combine' (values' time) := hvalue'
  exact hr time hne

end IsSeries

namespace Aggregator

open Batch

theorem skipped_pushRecord (a : Aggregator) (record : StreamLine) :
    (a.pushRecord record).skipped = a.skipped := by
  unfold pushRecord
  cases record.instant? <;> rfl

theorem skipped_pushLine (a : Aggregator) (line : List Char) :
    (a.pushLine line).skipped = a.skipped + if unreadable line then 1 else 0 := by
  by_cases hblank : trimChars line = []
  · simp [pushLine_of_blank hblank, unreadable, hblank]
  · cases hread : StreamLine.ofChars? (trimChars line) with
    | none => simp [pushLine_of_unread hblank hread, unreadable, hblank, hread]
    | some record =>
      simp [pushLine_of_read hblank hread, skipped_pushRecord, unreadable, hread]

theorem skipped_pushLines (lines : List (List Char)) (a : Aggregator) :
    (a.pushLines lines).skipped = a.skipped + lines.countP unreadable := by
  induction lines generalizing a with
  | nil => rfl
  | cons line lines ih =>
    rw [pushLines, List.foldl_cons, ← pushLines, ih, skipped_pushLine, List.countP_cons]
    omega

/-- With the same start the lines give the same in any order: as many lines that cannot be read,
points at the same times in every series, as many VUs, and as many requests where they are
counts. -/
theorem pushLines_perm {lines lines' : List (List Char)} (h : lines.Perm lines')
    (hstart : start? lines = start? lines') :
    let a := Aggregator.empty.pushLines lines
    let a' := Aggregator.empty.pushLines lines'
    a.skipped = a'.skipped ∧
      a.finish.requestDuration.map ChartPoint.time =
        a'.finish.requestDuration.map ChartPoint.time ∧
      a.finish.requests.map ChartPoint.time = a'.finish.requests.map ChartPoint.time ∧
      a.finish.vus.map ChartPoint.time = a'.finish.vus.map ChartPoint.time ∧
      List.Forall₂ (fun p p' => p.value.same p'.value = true) a.finish.vus a'.finish.vus ∧
      List.Forall₂ (fun p p' => IsCounts (values lines p.time .requests) → p.value = p'.value)
        a.finish.requests a'.finish.requests := by
  intro a a'
  have ha : a.Tallies lines := tallies_pushLines lines
  have ha' : a'.Tallies lines' := tallies_pushLines lines'
  have hvalues := values_perm h hstart
  have hnil := values_eq_nil_iff h hstart
  refine ⟨?skipped, ha.durations.times_eq ha'.durations (hnil _),
    ha.requests.times_eq ha'.requests (hnil _), ha.vus.times_eq ha'.vus (hnil _), ?vus, ?requests⟩
  case skipped =>
    rw [skipped_pushLines, skipped_pushLines, h.countP_eq]
  case vus =>
    refine ha.vus.forall₂ ha'.vus (hnil _) fun time hne => ?_
    exact same_largest_of_perm hne (fun _ => isFinite_of_mem_values) (hvalues time _)
  case requests =>
    refine ha.requests.forall₂ ha'.requests (hnil _) fun time _ hcounts => ?_
    exact hcounts.total_eq_of_perm (hvalues time _)

/-- A point as it is streamed. -/
def pointLine (metric time value : String) : List Char :=
  ("\x7b\"type\":\"Point\",\"metric\":\"" ++ metric ++ "\",\"time\":\"2024-05-01T" ++ time ++
    "\",\"data\":\x7b\"value\":" ++ value ++ "\x7d\x7d").toList

/-- The first line of a stream. -/
def startLine : List Char :=
  pointLine "vus" "10:00:00Z" "3"

/-- Requests of one second, requests before the start, and no record at all. -/
def laterLines : List (List Char) :=
  [pointLine "http_reqs" "10:00:00.900Z" "2", pointLine "http_reqs" "10:00:00.1Z" "1",
    pointLine "http_reqs" "09:59:58Z" "1", "x".toList]

theorem pushLines_perm_reverse :
    start? (startLine :: laterLines) = start? (startLine :: laterLines.reverse) ∧
      IsCounts (values (startLine :: laterLines) 0 .requests) ∧
      List.Forall₂ (fun p p' =>
          IsCounts (values (startLine :: laterLines) p.time .requests) → p.value = p'.value)
        (Aggregator.empty.pushLines (startLine :: laterLines)).finish.requests
        (Aggregator.empty.pushLines (startLine :: laterLines.reverse)).finish.requests := by
  have hstart : start? (startLine :: laterLines) = start? (startLine :: laterLines.reverse) := by
    decide +kernel
  have hvalues : values (startLine :: laterLines) 0 .requests = [.ofNat 2, .ofNat 1] := by
    decide +kernel
  have hcounts : IsCounts (values (startLine :: laterLines) 0 .requests) := by
    rw [hvalues]
    exact ⟨[2, 1], .cons (Binary64.isNatural_ofNat (by decide))
      (.cons (Binary64.isNatural_ofNat (by decide)) .nil), by decide⟩
  have hperm : (startLine :: laterLines).Perm (startLine :: laterLines.reverse) :=
    (List.reverse_perm laterLines).symm.cons startLine
  exact ⟨hstart, hcounts, (pushLines_perm hperm hstart).2.2.2.2.2⟩

end Aggregator

end LoadTest
