import LoadTest.Proofs.Series.Arrival

/-!
# Seconds of records

A tracked point is counted in the second that its exact time falls into, whether it comes before or
after the start, with one exception (`Aggregator.inSecond_pushLines`). The difference from the start
is first cut off to milliseconds, toward zero, so less than a millisecond in front of a full second
before the start counts as that second (`Instant.FallsShort`), and the point is counted one second
late.
-/

namespace LoadTest

open Aggregator (bucketTime)

namespace Instant

variable {start t : Instant}

/-- The second that starts `time` milliseconds after the start, in exact time. -/
def InSecond (start t : Instant) (time : ℤ) : Prop :=
  time * 1000000 ≤ nanosSince start t ∧ nanosSince start t < (time + 1000) * 1000000
deriving Decidable

/-- Before the start, and short of a full second by less than a millisecond. -/
def FallsShort (start t : Instant) : Prop :=
  nanosSince start t < 0 ∧ 999000000 < nanosSince start t % 1000000000
deriving Decidable

theorem millisSince_of_nonneg (h : 0 ≤ nanosSince start t) :
    millisSince start t = nanosSince start t / 1000000 :=
  Int.tdiv_eq_ediv_of_nonneg h

theorem millisSince_of_neg (h : nanosSince start t < 0) :
    millisSince start t = -(-nanosSince start t / 1000000) := by
  have hback : nanosSince start t = -(-nanosSince start t) := (Int.neg_neg _).symm
  rw [millisSince, hback, Int.neg_tdiv, Int.tdiv_eq_ediv_of_nonneg (by omega), Int.neg_neg]

theorem inSecond_bucketTime_iff : InSecond start t (bucketTime start t) ↔ ¬ FallsShort start t := by
  unfold InSecond FallsShort bucketTime
  rcases le_or_gt 0 (nanosSince start t) with h | h
  · rw [millisSince_of_nonneg h]
    omega
  · rw [millisSince_of_neg h]
    omega

theorem FallsShort.inSecond (h : FallsShort start t) :
    InSecond start t (bucketTime start t - 1000) := by
  unfold InSecond bucketTime
  rw [millisSince_of_neg h.1]
  have hshort := h.2
  omega

end Instant

namespace Aggregator

open Batch
open Instant (InSecond FallsShort)

variable {lines : List (List Char)} {line : List Char} {record : StreamLine} {t : Instant}
  {signal : Signal} {value : Binary64}

/-- A record that is a tracked point changes the one bucket of its time. -/
theorem buckets_pushLines_concat (h : timed? line = some (record, t))
    (hvalue : record.valueOf? signal = some value) :
    (Aggregator.empty.pushLines (lines ++ [line])).buckets =
      (Aggregator.empty.pushLines lines).buckets.update
        (bucketTime ((start? lines).getD t) t) (·.add signal value) := by
  obtain ⟨hpush, ht⟩ := pushLine_of_timed h (Aggregator.empty.pushLines lines)
  rw [pushLines_concat, hpush, buckets_pushRecord ht, tracked?_eq_some.2 hvalue,
    (tallies_pushLines lines).start]

/-- Every tracked point of a stream is counted in one bucket, which is that of its second unless it
falls short of a second before the start. Then the bucket is the next one. -/
theorem inSecond_pushLines (lines : List (List Char)) (h : timed? line = some (record, t))
    (hvalue : record.valueOf? signal = some value) :
    ∃ start, start? (lines ++ [line]) = some start ∧
      (Aggregator.empty.pushLines (lines ++ [line])).buckets =
        (Aggregator.empty.pushLines lines).buckets.update (bucketTime start t)
          (·.add signal value) ∧
      1000 ∣ bucketTime start t ∧
      (InSecond start t (bucketTime start t) ↔ ¬ FallsShort start t) ∧
      (FallsShort start t → InSecond start t (bucketTime start t - 1000)) :=
  ⟨(start? lines).getD t, start?_concat h, buckets_pushLines_concat h hvalue,
    Int.dvd_mul_left _ _, Instant.inSecond_bucketTime_iff, Instant.FallsShort.inSecond⟩

theorem exists_timed (h : (timed? line).map (fun timed => (timed.2, timed.1.valueOf? signal)) =
    some (t, some value)) :
    ∃ record, timed? line = some (record, t) ∧ record.valueOf? signal = some value := by
  obtain ⟨⟨record, t'⟩, htimed, hpair⟩ := Option.map_eq_some_iff.1 h
  obtain ⟨rfl, hvalue⟩ := Prod.mk.inj hpair
  exact ⟨record, htimed, hvalue⟩

/-- The time of `startLine`. -/
def startInstant : Instant :=
  ⟨739372, 36000, 0⟩

theorem start?_startLine : start? [startLine] = some startInstant := by decide +kernel

theorem start?_behind_startLine (h : timed? line = some (record, t)) :
    start? ([startLine] ++ [line]) = some startInstant := by
  rw [start?_concat h, start?_startLine]
  rfl

/-- More than a second before the start, with a fraction of a millisecond. -/
def earlyLine : List Char :=
  pointLine "http_reqs" "09:59:58.2000004Z" "1"

theorem inSecond_pushLines_early :
    ∃ record t, timed? earlyLine = some (record, t) ∧
      record.valueOf? .requests = some (.ofNat 1) ∧
      start? ([startLine] ++ [earlyLine]) = some startInstant ∧
      (Aggregator.empty.pushLines ([startLine] ++ [earlyLine])).buckets =
        (Aggregator.empty.pushLines [startLine]).buckets.update (-2000)
          (·.add .requests (.ofNat 1)) ∧
      InSecond startInstant t (-2000) := by
  have hread : (timed? earlyLine).map (fun timed => (timed.2, timed.1.valueOf? .requests)) =
      some (⟨739372, 35998, 200000400⟩, some (.ofNat 1)) := by decide +kernel
  obtain ⟨record, htimed, hvalue⟩ := exists_timed hread
  obtain ⟨start, hstart, hbuckets, -, hsecond, -⟩ :=
    inSecond_pushLines [startLine] htimed hvalue
  have hconcrete := start?_behind_startLine htimed
  obtain rfl : start = startInstant := Option.some.inj (hstart.symm.trans hconcrete)
  have htime : bucketTime startInstant ⟨739372, 35998, 200000400⟩ = -2000 := by decide
  have hexact : ¬ FallsShort startInstant ⟨739372, 35998, 200000400⟩ := by decide
  rw [htime] at hbuckets hsecond
  exact ⟨record, _, htimed, hvalue, hconcrete, hbuckets, hsecond.2 hexact⟩

/-- Half a millisecond in front of the start. -/
def lateLine : List Char :=
  pointLine "http_reqs" "09:59:59.9995Z" "1"

/-- The record comes in the second before the start and is counted in the one after it. -/
theorem not_inSecond_lateLine :
    (∃ record t, timed? lateLine = some (record, t) ∧
      record.valueOf? .requests = some (.ofNat 1) ∧
      start? ([startLine] ++ [lateLine]) = some startInstant ∧
      InSecond startInstant t (-1000) ∧ ¬ InSecond startInstant t (bucketTime startInstant t)) ∧
    ((Aggregator.empty.pushLines ([startLine] ++ [lateLine])).finish.requests.map fun p =>
      (p.time, p.value)) = [(0, .ofNat 1)] := by
  have hread : (timed? lateLine).map (fun timed => (timed.2, timed.1.valueOf? .requests)) =
      some (⟨739372, 35999, 999500000⟩, some (.ofNat 1)) := by decide +kernel
  obtain ⟨record, htimed, hvalue⟩ := exists_timed hread
  refine ⟨⟨record, _, htimed, hvalue, start?_behind_startLine htimed, by decide, by decide⟩, ?_⟩
  decide +kernel

end Aggregator

end LoadTest
