import LoadTest.Proofs.Series.Buckets
import Mathlib.Data.List.Induction

/-!
# The whole stream at once

What the aggregator gives after any lines can be said of the lines as a whole. A record says when
it is by its `time`, or by that of its data where it has none (`Batch.time?_eq_some_iff`), and the
first record with a time fixes the start. A series has a point at every full second in which its
signal has values and nowhere else, and the point combines those values in the order in which they
came (`Aggregator.finish_pushLines`).

`Aggregator.Tallies` is what every line preserves (`Tallies.pushLine`): the aggregator has the start
of the lines so far, and its buckets hold the values of their seconds, none of them left out.
-/

namespace LoadTest

open Aggregator (bucketTime tracked?)

/-! ## Values of a stream -/

namespace Signal

/-- The name of the metric. -/
def name : Signal → String
  | .requestDuration => "http_req_duration"
  | .requests => "http_reqs"
  | .vus => "vus"

theorem ofName?_eq_some {name : String} {signal : Signal} :
    ofName? name = some signal ↔ name = signal.name := by
  unfold ofName?
  constructor
  · intro h
    split_ifs at h with h1 h2 h3 <;> obtain rfl := Option.some.inj h <;> assumption
  · rintro rfl
    cases signal <;> decide

end Signal

/-- The value of a record that is a point of that signal. -/
def StreamLine.valueOf? (signal : Signal) (record : StreamLine) : Option Binary64 :=
  if record.kind = some "Point" ∧ record.metric = some signal.name then
    record.data.bind PointData.value
  else none

theorem tracked?_eq_some {record : StreamLine} {signal : Signal} {value : Binary64} :
    tracked? record = some (signal, value) ↔ record.valueOf? signal = some value := by
  unfold tracked? StreamLine.valueOf?
  by_cases hkind : record.kind = some "Point"
  · rw [if_pos hkind]
    simp only [Option.bind_eq_bind, Option.bind_eq_some_iff, Option.some.injEq, Prod.mk.injEq,
      Signal.ofName?_eq_some]
    constructor
    · rintro ⟨data, hdata, v, hv, s, ⟨metric, hmetric, rfl⟩, rfl, rfl⟩
      rw [if_pos ⟨hkind, hmetric⟩, hdata, Option.bind_some, hv]
    · intro h
      split_ifs at h with hname
      obtain ⟨data, hdata, hv⟩ := Option.bind_eq_some_iff.1 h
      exact ⟨data, hdata, value, hv, signal, ⟨signal.name, hname.2, rfl⟩, rfl, rfl⟩
  · rw [if_neg hkind, if_neg fun h => hkind h.1]
    simp

theorem valueOf?_of_untracked {record : StreamLine} (h : tracked? record = none) (signal : Signal) :
    record.valueOf? signal = none := by
  refine Option.eq_none_iff_forall_ne_some.2 fun value hvalue => ?_
  rw [tracked?_eq_some.2 hvalue] at h
  cases h

theorem valueOf?_of_other {record : StreamLine} {signal other : Signal} {value : Binary64}
    (h : tracked? record = some (signal, value)) (hne : other ≠ signal) :
    record.valueOf? other = none := by
  refine Option.eq_none_iff_forall_ne_some.2 fun v hv => ?_
  rw [tracked?_eq_some.2 hv] at h
  exact hne (congrArg Prod.fst (Option.some.inj h))

namespace Batch

/-- The text that says when a record is: its `time`, or that of its data where it has none. -/
def timeText? (record : StreamLine) : Option String :=
  record.time.or (record.data.bind PointData.time)

/-- When a record is, if its text for it can be read. The other text is not asked then. -/
def time? (record : StreamLine) : Option Instant :=
  (timeText? record).bind fun text => Instant.ofChars? text.toList

theorem time?_eq_some_iff {record : StreamLine} {t : Instant} :
    time? record = some t ↔ ∃ text : String, Instant.ofChars? text.toList = some t ∧
      (record.time = some text ∨
        record.time = none ∧ ∃ data, record.data = some data ∧ data.time = some text) := by
  simp only [time?, timeText?, Option.bind_eq_some_iff, Option.or_eq_some_iff]
  exact exists_congr fun text => and_comm

/-- The aggregator takes a record to be when it says it is. -/
theorem instant?_eq_time? (record : StreamLine) : record.instant? = time? record := by
  unfold StreamLine.instant? time? timeText?
  cases record.time <;> rfl

/-- A record that has a time, and that time. -/
def timed? (line : List Char) : Option (StreamLine × Instant) :=
  if (trimChars line).isEmpty then none
  else (StreamLine.ofChars? (trimChars line)).bind fun record =>
    (time? record).map fun t => (record, t)

/-- The records that have a time, in the order in which they came. -/
def timed (lines : List (List Char)) : List (StreamLine × Instant) :=
  lines.filterMap timed?

/-- The time of the first record that has one. -/
def start? (lines : List (List Char)) : Option Instant :=
  (timed lines).head?.map Prod.snd

/-- The value of a record if it is of that signal and comes in the second after `time`. -/
def valueIn? (signal : Signal) (time : ℤ) (start : Instant) (record : StreamLine × Instant) :
    Option Binary64 :=
  if time ≤ Instant.millisSince start record.2 ∧ Instant.millisSince start record.2 < time + 1000
  then record.1.valueOf? signal
  else none

/-- The values of a signal in the second after `time`, in the order in which they came. -/
def values (lines : List (List Char)) (time : ℤ) (signal : Signal) : List Binary64 :=
  match start? lines with
  | some start => (timed lines).filterMap (valueIn? signal time start)
  | none => []

end Batch

/-! ## Combining values -/

/-- The sum of values, added up in their order. -/
def total (values : List Binary64) : Binary64 :=
  values.foldl Binary64.add .zero

/-- The sum of values divided by how many they are. -/
def mean (values : List Binary64) : Binary64 :=
  (total values).div (.ofNat values.length)

/-- The largest of values, zero where there are none. -/
def largest : List Binary64 → Binary64
  | [] => .zero
  | value :: values => values.foldl Binary64.max value

/-- Nothing where there are no values to combine. -/
def combined (combine : List Binary64 → Binary64) (values : List Binary64) : Option Binary64 :=
  if values = [] then none else some (combine values)

section Combining

variable (values : List Binary64) (value : Binary64)

theorem total_concat : total (values ++ [value]) = (total values).add value := by
  simp [total]

theorem combined_total_concat :
    combined total (values ++ [value]) = some (((combined total values).getD .zero).add value) := by
  unfold combined
  rw [if_neg (by simp), total_concat]
  split_ifs with h
  · simp [h, total]
  · rfl

theorem combined_largest_concat :
    combined largest (values ++ [value]) =
      some (match combined largest values with | some m => m.max value | none => value) := by
  cases values <;> simp [combined, largest]

end Combining

/-- The bucket holds these values of each signal. -/
structure Bucket.Holds (b : Bucket) (values : Signal → List Binary64) : Prop where
  durationSum : b.durationSum = total (values .requestDuration)
  durationCount : b.durationCount = (values .requestDuration).length
  requests : b.requests = combined total (values .requests)
  vusMax : b.vusMax = combined largest (values .vus)

namespace Bucket

variable {values values' : Signal → List Binary64}

theorem holds_empty (h : ∀ signal, values signal = []) : Bucket.empty.Holds values := by
  constructor <;> rw [h] <;> rfl

theorem Holds.add {b : Bucket} (hb : b.Holds values) {signal : Signal} {value : Binary64}
    (hsignal : values' signal = values signal ++ [value])
    (hother : ∀ other, other ≠ signal → values' other = values other) :
    (b.add signal value).Holds values' := by
  cases signal with
  | requestDuration =>
    have h1 := hother .requests (by decide)
    have h2 := hother .vus (by decide)
    constructor
    · rw [hsignal, total_concat, ← hb.durationSum]; rfl
    · rw [hsignal, List.length_append, ← hb.durationCount]; rfl
    · rw [h1, ← hb.requests]; rfl
    · rw [h2, ← hb.vusMax]; rfl
  | requests =>
    have h1 := hother .requestDuration (by decide)
    have h2 := hother .vus (by decide)
    constructor
    · rw [h1, ← hb.durationSum]; rfl
    · rw [h1, ← hb.durationCount]; rfl
    · rw [hsignal, combined_total_concat, ← hb.requests]; rfl
    · rw [h2, ← hb.vusMax]; rfl
  | vus =>
    have h1 := hother .requestDuration (by decide)
    have h2 := hother .requests (by decide)
    constructor
    · rw [h1, ← hb.durationSum]; rfl
    · rw [h1, ← hb.durationCount]; rfl
    · rw [h2, ← hb.requests]; rfl
    · rw [hsignal, combined_largest_concat, ← hb.vusMax]; rfl

theorem Holds.durationMean?_eq {b : Bucket} (hb : b.Holds values) :
    b.durationMean? = combined mean (values .requestDuration) := by
  unfold durationMean? combined mean
  rw [hb.durationSum, hb.durationCount]
  simp only [List.length_eq_zero_iff]

end Bucket

/-! ## One line more -/

namespace Batch

variable {lines : List (List Char)} {line : List Char} {record : StreamLine} {t : Instant}

theorem timed_concat (h : timed? line = some (record, t)) :
    timed (lines ++ [line]) = timed lines ++ [(record, t)] := by
  simp [timed, h]

theorem start?_concat (h : timed? line = some (record, t)) :
    start? (lines ++ [line]) = some ((start? lines).getD t) := by
  unfold start?
  rw [timed_concat h]
  cases timed lines <;> rfl

theorem timed_concat_none (h : timed? line = none) : timed (lines ++ [line]) = timed lines := by
  simp [timed, h]

theorem start?_concat_none (h : timed? line = none) : start? (lines ++ [line]) = start? lines := by
  rw [start?, timed_concat_none h, start?]

theorem values_concat_none (h : timed? line = none) :
    values (lines ++ [line]) = values lines := by
  funext time signal
  rw [values, values, start?_concat_none h, timed_concat_none h]

/-- A record adds its value to the values of its second. -/
theorem values_concat (h : timed? line = some (record, t)) (time : ℤ) (signal : Signal) :
    values (lines ++ [line]) time signal = values lines time signal ++
      (valueIn? signal time ((start? lines).getD t) (record, t)).toList := by
  rw [values, start?_concat h, timed_concat h]
  simp only [List.filterMap_append]
  congr 1
  unfold values
  cases hstart : start? lines with
  | some start => rfl
  | none =>
    have hnil : timed lines = [] := by simpa [start?] using hstart
    rw [hnil]
    rfl

/-- The second of a record is the one whose bucket it falls into. -/
theorem valueIn?_of_dvd {start : Instant} {time : ℤ} (htime : 1000 ∣ time) (signal : Signal) :
    valueIn? signal time start (record, t) =
      if time = bucketTime start t then record.valueOf? signal else none := by
  have hiff : time ≤ Instant.millisSince start t ∧ Instant.millisSince start t < time + 1000 ↔
      time = bucketTime start t := by
    unfold bucketTime
    omega
  simp only [valueIn?, hiff]

/-- In its own second a record adds the value of the signal, if it has one. -/
theorem values_concat_own (h : timed? line = some (record, t)) {time : ℤ} (htime : 1000 ∣ time)
    (hown : time = bucketTime ((start? lines).getD t) t) (signal : Signal) :
    values (lines ++ [line]) time signal =
      values lines time signal ++ (record.valueOf? signal).toList := by
  rw [values_concat h, valueIn?_of_dvd htime, if_pos hown]

/-- Away from its second a record changes nothing. -/
theorem values_concat_away (h : timed? line = some (record, t)) {time : ℤ} (htime : 1000 ∣ time)
    (haway : time ≠ bucketTime ((start? lines).getD t) t) :
    values (lines ++ [line]) time = values lines time := by
  funext signal
  rw [values_concat h, valueIn?_of_dvd htime, if_neg haway, Option.toList_none, List.append_nil]

theorem values_concat_untracked (h : timed? line = some (record, t))
    (hrecord : tracked? record = none) {time : ℤ} (htime : 1000 ∣ time) :
    values (lines ++ [line]) time = values lines time := by
  funext signal
  rw [values_concat h, valueIn?_of_dvd htime, valueOf?_of_untracked hrecord, ite_self,
    Option.toList_none, List.append_nil]

end Batch

namespace Aggregator

open Batch

/-- The aggregator has counted these lines. -/
structure Tallies (a : Aggregator) (lines : List (List Char)) : Prop where
  start : a.start = start? lines
  ascending : a.buckets.Ascending
  holds : ∀ time b, (time, b) ∈ a.buckets → 1000 ∣ time ∧ b.Holds (values lines time)
  complete : ∀ time, 1000 ∣ time → time ∉ a.buckets.times → ∀ signal, values lines time signal = []

variable {a : Aggregator} {lines : List (List Char)} {line : List Char} {record : StreamLine}
  {t : Instant}

theorem tallies_empty : Aggregator.empty.Tallies [] where
  start := rfl
  ascending := List.Pairwise.nil
  holds := by simp [empty]
  complete _ _ _ _ := rfl

theorem start_pushRecord (ht : record.instant? = some t) :
    (a.pushRecord record).start = some (a.start.getD t) := by
  rw [pushRecord, ht]

theorem buckets_pushRecord (ht : record.instant? = some t) :
    (a.pushRecord record).buckets =
      match tracked? record with
      | some (signal, value) =>
        a.buckets.update (bucketTime (a.start.getD t) t) (·.add signal value)
      | none => a.buckets := by
  cases htracked : tracked? record <;> simp [pushRecord, ht, htracked]

/-- What is counted stays so while the buckets and the values of every second stay the same. -/
theorem Tallies.of_same {a' : Aggregator} {lines' : List (List Char)} (ha : a.Tallies lines)
    (hstart : a'.start = start? lines') (hbuckets : a'.buckets = a.buckets)
    (hvalues : ∀ time, 1000 ∣ time → values lines' time = values lines time) :
    a'.Tallies lines' := by
  refine ⟨hstart, by rw [hbuckets]; exact ha.ascending, ?_, ?_⟩
  · intro time b hb
    rw [hbuckets] at hb
    obtain ⟨htime, hholds⟩ := ha.holds time b hb
    exact ⟨htime, by rwa [hvalues time htime]⟩
  · intro time htime hmem
    rw [hbuckets] at hmem
    rw [hvalues time htime]
    exact ha.complete time htime hmem

theorem pushLine_of_blank (h : trimChars line = []) : a.pushLine line = a := by
  simp [pushLine, h]

theorem pushLine_of_unread (h : trimChars line ≠ [])
    (hread : StreamLine.ofChars? (trimChars line) = none) :
    a.pushLine line = { a with skipped := a.skipped + 1 } := by
  simp [pushLine, h, hread]

theorem pushLine_of_read (h : trimChars line ≠ [])
    (hread : StreamLine.ofChars? (trimChars line) = some record) :
    a.pushLine line = a.pushRecord record := by
  simp [pushLine, h, hread]

/-- A line without a record, or whose record has no time, changes neither start nor buckets. -/
theorem Tallies.pushLine_untimed (ha : a.Tallies lines) (h : timed? line = none) :
    (a.pushLine line).Tallies (lines ++ [line]) := by
  have hsame : (a.pushLine line).start = a.start ∧ (a.pushLine line).buckets = a.buckets := by
    by_cases hblank : trimChars line = []
    · rw [pushLine_of_blank hblank]
      exact ⟨rfl, rfl⟩
    · cases hread : StreamLine.ofChars? (trimChars line) with
      | none =>
        rw [pushLine_of_unread hblank hread]
        exact ⟨rfl, rfl⟩
      | some record =>
        have hnone : record.instant? = none := by
          simpa [timed?, hblank, hread, instant?_eq_time?] using h
        rw [pushLine_of_read hblank hread, Aggregator.pushRecord, hnone]
        exact ⟨rfl, rfl⟩
  refine ha.of_same ?_ hsame.2 fun time _ => congrFun (values_concat_none h) time
  rw [hsame.1, ha.start, start?_concat_none h]

/-- A bucket updated with the value of a record holds the values of its second. -/
theorem Tallies.update (ha : a.Tallies lines) (h : timed? line = some (record, t))
    {signal : Signal} {value : Binary64} (htracked : tracked? record = some (signal, value))
    {time : ℤ} (htime : time = bucketTime ((start? lines).getD t) t) {a' : Aggregator}
    (hstart : a'.start = start? (lines ++ [line]))
    (hbuckets : a'.buckets = a.buckets.update time (·.add signal value)) :
    a'.Tallies (lines ++ [line]) := by
  have hdvd : 1000 ∣ time := by
    rw [htime, bucketTime]
    exact Int.dvd_mul_left _ _
  have haway : ∀ s, 1000 ∣ s → s ≠ time → values (lines ++ [line]) s = values lines s :=
    fun s hs hne => values_concat_away h hs (htime ▸ hne)
  have hadd : ∀ old : Bucket, old.Holds (values lines time) →
      (old.add signal value).Holds (values (lines ++ [line]) time) := by
    intro old hold
    refine hold.add ?_ fun other hne => ?_
    · rw [values_concat_own h hdvd htime, tracked?_eq_some.1 htracked, Option.toList_some]
    · rw [values_concat_own h hdvd htime, valueOf?_of_other htracked hne, Option.toList_none,
        List.append_nil]
  refine ⟨hstart, by rw [hbuckets]; exact Buckets.ascending_update ha.ascending, ?_, ?_⟩
  · intro s b hb
    rw [hbuckets] at hb
    rcases Buckets.mem_update ha.ascending hb with ⟨hne, hb⟩ | ⟨rfl, old, rfl, hold⟩
    · obtain ⟨hs, hholds⟩ := ha.holds s b hb
      exact ⟨hs, by rwa [haway s hs hne]⟩
    · rcases hold with hold | ⟨rfl, hnone⟩
      · exact ⟨hdvd, hadd old (ha.holds _ old hold).2⟩
      · exact ⟨hdvd, hadd .empty (Bucket.holds_empty (ha.complete _ hdvd hnone))⟩
  · intro s hs hmem
    rw [hbuckets, Buckets.mem_times_update, not_or] at hmem
    rw [haway s hs hmem.1]
    exact ha.complete s hs hmem.2

theorem Tallies.pushRecord (ha : a.Tallies lines) (h : timed? line = some (record, t))
    (ht : record.instant? = some t) : (a.pushRecord record).Tallies (lines ++ [line]) := by
  have hstart : (a.pushRecord record).start = start? (lines ++ [line]) := by
    rw [start_pushRecord ht, start?_concat h, ha.start]
  have hbuckets := buckets_pushRecord (a := a) ht
  rw [ha.start] at hbuckets
  cases htracked : tracked? record with
  | none =>
    rw [htracked] at hbuckets
    exact ha.of_same hstart hbuckets fun time htime => values_concat_untracked h htracked htime
  | some point =>
    rw [htracked] at hbuckets
    exact ha.update h htracked rfl hstart hbuckets

/-- A line that has a time is pushed as its record. -/
theorem pushLine_of_timed (h : timed? line = some (record, t)) (a : Aggregator) :
    a.pushLine line = a.pushRecord record ∧ record.instant? = some t := by
  unfold timed? at h
  split_ifs at h with hblank
  obtain ⟨record', hrecord, hmap⟩ := Option.bind_eq_some_iff.1 h
  obtain ⟨t', ht, hpair⟩ := Option.map_eq_some_iff.1 hmap
  obtain ⟨rfl, rfl⟩ := Prod.mk.inj hpair
  exact ⟨pushLine_of_read (by simpa using hblank) hrecord, (instant?_eq_time? _).trans ht⟩

theorem Tallies.pushLine (ha : a.Tallies lines) (line : List Char) :
    (a.pushLine line).Tallies (lines ++ [line]) := by
  cases h : timed? line with
  | none => exact ha.pushLine_untimed h
  | some timed =>
    obtain ⟨hpush, ht⟩ := pushLine_of_timed h a
    rw [hpush]
    exact ha.pushRecord h ht

theorem pushLines_concat (lines : List (List Char)) (line : List Char) (a : Aggregator) :
    a.pushLines (lines ++ [line]) = (a.pushLines lines).pushLine line := by
  rw [pushLines, List.foldl_append]
  rfl

theorem tallies_pushLines (lines : List (List Char)) :
    (Aggregator.empty.pushLines lines).Tallies lines := by
  induction lines using List.reverseRecOn with
  | nil => exact tallies_empty
  | append_singleton lines line ih =>
    rw [pushLines_concat]
    exact ih.pushLine line

end Aggregator

/-! ## Series -/

/-- A point at every full second that has values, in ascending order, and no other point. -/
structure IsSeries (points : List ChartPoint) (values : ℤ → List Binary64)
    (combine : List Binary64 → Binary64) : Prop where
  ascending : (points.map ChartPoint.time).Pairwise (· < ·)
  mem_iff : ∀ p : ChartPoint,
    p ∈ points ↔ 1000 ∣ p.time ∧ values p.time ≠ [] ∧ p.value = combine (values p.time)

namespace Aggregator

open Batch

variable {a : Aggregator} {lines : List (List Char)}

theorem mem_points {f : Bucket → Option Binary64} {buckets : Buckets} {p : ChartPoint} :
    p ∈ points f buckets ↔ ∃ b, (p.time, b) ∈ buckets ∧ f b = some p.value := by
  simp only [points, List.mem_filterMap, Option.map_eq_some_iff]
  constructor
  · rintro ⟨⟨time, b⟩, hb, value, hvalue, rfl⟩
    exact ⟨b, hb, hvalue⟩
  · rintro ⟨b, hb, hvalue⟩
    exact ⟨(p.time, b), hb, p.value, hvalue, rfl⟩

theorem times_points_sublist (f : Bucket → Option Binary64) (buckets : Buckets) :
    ((points f buckets).map ChartPoint.time).Sublist buckets.times := by
  induction buckets with
  | nil => exact List.Sublist.slnil
  | cons entry rest ih =>
    obtain ⟨time, b⟩ := entry
    cases hvalue : f b with
    | none =>
      have hpoints : points f ((time, b) :: rest) = points f rest := by simp [points, hvalue]
      rw [hpoints]
      exact ih.cons time
    | some value =>
      have hpoints : points f ((time, b) :: rest) = ⟨time, value⟩ :: points f rest := by
        simp [points, hvalue]
      rw [hpoints]
      exact ih.cons_cons time

theorem Tallies.isSeries (ha : a.Tallies lines) {f : Bucket → Option Binary64}
    {combine : List Binary64 → Binary64} {signal : Signal}
    (hf : ∀ b values, Bucket.Holds b values → f b = combined combine (values signal)) :
    IsSeries (points f a.buckets) (fun time => values lines time signal) combine where
  ascending := ha.ascending.sublist (times_points_sublist f a.buckets)
  mem_iff p := by
    rw [mem_points]
    constructor
    · rintro ⟨b, hb, hvalue⟩
      obtain ⟨hdvd, hholds⟩ := ha.holds p.time b hb
      rw [hf b _ hholds, combined] at hvalue
      split_ifs at hvalue with hnil
      exact ⟨hdvd, hnil, (Option.some.inj hvalue).symm⟩
    · rintro ⟨hdvd, hnil, hvalue⟩
      have hmem : p.time ∈ a.buckets.times := by
        by_contra hmem
        exact hnil (ha.complete p.time hdvd hmem signal)
      obtain ⟨b, hb⟩ := Buckets.mem_times.1 hmem
      refine ⟨b, hb, ?_⟩
      rw [hf b _ (ha.holds p.time b hb).2, combined, if_neg hnil, hvalue]

theorem Tallies.durations (ha : a.Tallies lines) :
    IsSeries a.finish.requestDuration (fun time => values lines time .requestDuration) mean :=
  ha.isSeries fun _ _ hb => hb.durationMean?_eq

theorem Tallies.requests (ha : a.Tallies lines) :
    IsSeries a.finish.requests (fun time => values lines time .requests) total :=
  ha.isSeries fun _ _ hb => hb.requests

theorem Tallies.vus (ha : a.Tallies lines) :
    IsSeries a.finish.vus (fun time => values lines time .vus) largest :=
  ha.isSeries fun _ _ hb => hb.vusMax

/-- The series after any lines are those of the lines as a whole: durations are averaged, requests
added up, and of the VUs the most counts. -/
theorem finish_pushLines (lines : List (List Char)) :
    IsSeries (Aggregator.empty.pushLines lines).finish.requestDuration
        (fun time => values lines time .requestDuration) mean ∧
      IsSeries (Aggregator.empty.pushLines lines).finish.requests
        (fun time => values lines time .requests) total ∧
      IsSeries (Aggregator.empty.pushLines lines).finish.vus
        (fun time => values lines time .vus) largest :=
  have ha := tallies_pushLines lines
  ⟨ha.durations, ha.requests, ha.vus⟩

/-- A point as it is streamed, with its time outside of its data, inside, at both places or at
none. -/
def pointAt (metric : String) (outside inside : Option String) (value : String) : List Char :=
  let member : Option String → String
    | some time => "\"time\":\"" ++ time ++ "\","
    | none => ""
  ("\x7b\"type\":\"Point\",\"metric\":\"" ++ metric ++ "\"," ++ member outside ++
    "\"data\":\x7b" ++ member inside ++ "\"value\":" ++ value ++ "\x7d\x7d").toList

/-- Times at each place and at both, and one outside that cannot be read. -/
def timesAtBothPlaces : List (List Char) := [
  pointAt "http_reqs" (some "2024-05-01T10:00:00Z") none "1",
  pointAt "http_reqs" none (some "2024-05-01T10:00:01.5Z") "2",
  pointAt "http_reqs" (some "2024-05-01T10:00:01.9Z") (some "2024-05-01T10:00:07Z") "4",
  pointAt "http_reqs" (some "soon") (some "2024-05-01T10:00:01Z") "8"]

/-- The second point is in the second of the third, whose own time decides, and the fourth is in
none. -/
theorem finish_pushLines_timesAtBothPlaces :
    start? timesAtBothPlaces = some ⟨739372, 36000, 0⟩ ∧
      ⟨0, .ofNat 1⟩ ∈ (Aggregator.empty.pushLines timesAtBothPlaces).finish.requests ∧
      ⟨1000, .ofNat 6⟩ ∈ (Aggregator.empty.pushLines timesAtBothPlaces).finish.requests ∧
      ∀ p ∈ (Aggregator.empty.pushLines timesAtBothPlaces).finish.requests, p.time ≠ 7000 := by
  have hseries := (finish_pushLines timesAtBothPlaces).2.1
  obtain ⟨hstart, hfirst, hnext, hlast⟩ :
      start? timesAtBothPlaces = some ⟨739372, 36000, 0⟩ ∧
        values timesAtBothPlaces 0 .requests = [.ofNat 1] ∧
        values timesAtBothPlaces 1000 .requests = [.ofNat 2, .ofNat 4] ∧
        values timesAtBothPlaces 7000 .requests = [] := by
    decide +kernel
  have hone : Binary64.ofNat 1 = total [.ofNat 1] := by decide +kernel
  have hsix : Binary64.ofNat 6 = total [.ofNat 2, .ofNat 4] := by decide +kernel
  refine ⟨hstart, ?_, ?_, ?_⟩
  · exact (hseries.mem_iff _).2 ⟨by decide, by simp [hfirst], by simpa only [hfirst] using hone⟩
  · exact (hseries.mem_iff _).2 ⟨by decide, by simp [hnext], by simpa only [hnext] using hsix⟩
  · intro p hp htime
    have hne := ((hseries.mem_iff p).1 hp).2.1
    rw [htime] at hne
    exact hne hlast

end Aggregator

end LoadTest
