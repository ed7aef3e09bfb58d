import LoadTest.Proofs.Series.Arrival

/-!
# What one line changes

A line changes at most one of the three series, and there it adds one point or gives one point
another value; every other point stays where it is (`Aggregator.changesOne_pushLine`). A start that
is set stays. What cannot be read is counted as skipped and changes nothing else.

All signals share the buckets. A value that is put into a bucket leaves what the bucket says of the
other signals alone, also when the bucket is new (`Bucket.point?_add_of_ne`), so that their points
stay (`points_update_of_same`). For its own signal a bucket that has a point keeps one
(`changesOne_points_update`).
-/

namespace LoadTest

/-- The series of a signal. -/
def TimeSeries.points (signal : Signal) (s : TimeSeries) : List ChartPoint :=
  match signal with
  | .requestDuration => s.requestDuration
  | .requests => s.requests
  | .vus => s.vus

/-- How a series may differ from what it was before. -/
inductive ChangesOne : List ChartPoint → List ChartPoint → Prop
  | same (points : List ChartPoint) : ChangesOne points points
  | added (before behind : List ChartPoint) (p : ChartPoint)
      (hnew : ∀ q ∈ before ++ behind, q.time ≠ p.time) :
      ChangesOne (before ++ behind) (before ++ p :: behind)
  | changed (before behind : List ChartPoint) (time : ℤ) (value value' : Binary64) :
      ChangesOne (before ++ ⟨time, value⟩ :: behind) (before ++ ⟨time, value'⟩ :: behind)

/-- A point that stands in front of both. -/
theorem ChangesOne.cons {points points' : List ChartPoint} (h : ChangesOne points points')
    {p : ChartPoint} (hfirst : ∀ q ∈ points', p.time < q.time) :
    ChangesOne (p :: points) (p :: points') := by
  cases h with
  | same => exact .same _
  | added before behind q hnew =>
    refine .added (p :: before) behind q (List.forall_mem_cons.2 ⟨?_, hnew⟩)
    exact (hfirst q (by simp)).ne
  | changed before behind time value value' =>
    exact .changed (p :: before) behind time value value'

namespace Bucket

/-- What a bucket says of a signal. -/
def point? : Signal → Bucket → Option Binary64
  | .requestDuration => durationMean?
  | .requests => requests
  | .vus => vusMax

variable (signal : Signal) (value : Binary64) (b : Bucket)

theorem point?_empty : point? signal .empty = none := by
  cases signal <;> rfl

theorem exists_point?_add : ∃ v, point? signal (b.add signal value) = some v := by
  cases signal
  case requestDuration =>
    refine ⟨(b.durationSum.add value).div (.ofNat (b.durationCount + 1)), ?_⟩
    simp [point?, add, durationMean?]
  all_goals exact ⟨_, rfl⟩

variable {signal} in
theorem point?_add_of_ne {other : Signal} (h : other ≠ signal) :
    point? other (b.add signal value) = point? other b := by
  cases signal <;> cases other <;> first | exact absurd rfl h | rfl

end Bucket

namespace Aggregator

open Batch

theorem points_finish (signal : Signal) (a : Aggregator) :
    a.finish.points signal = points (Bucket.point? signal) a.buckets := by
  cases signal <;> rfl

section Buckets

variable {f : Bucket → Option Binary64} {g : Bucket → Bucket} {time t : ℤ} {b : Bucket}
  {buckets : Buckets}

theorem points_cons_of_none (h : f b = none) :
    points f ((t, b) :: buckets) = points f buckets := by
  simp [points, h]

theorem points_cons_of_some {value : Binary64} (h : f b = some value) :
    points f ((t, b) :: buckets) = ⟨t, value⟩ :: points f buckets := by
  simp [points, h]

theorem points_update_of_same (h : ∀ b, f (g b) = f b) (hempty : f .empty = none) (time : ℤ)
    (buckets : Buckets) : points f (buckets.update time g) = points f buckets := by
  have hnew : f (g .empty) = none := by rw [h, hempty]
  induction buckets with
  | nil => exact points_cons_of_none hnew
  | cons entry rest ih =>
    obtain ⟨t, b⟩ := entry
    rw [Buckets.update]
    split_ifs
    · exact points_cons_of_none hnew
    · simp only [points, List.filterMap_cons, h]
    · simp only [points, List.filterMap_cons] at ih ⊢
      rw [ih]

theorem lt_of_mem_points (h : ∀ t ∈ buckets.times, time < t) :
    ∀ p ∈ points f buckets, time < p.time := by
  intro p hp
  obtain ⟨b, hb, -⟩ := mem_points.1 hp
  exact h p.time (Buckets.mem_times.2 ⟨b, hb⟩)

theorem changesOne_points_update (hg : ∀ b, ∃ value, f (g b) = some value)
    (h : buckets.Ascending) (time : ℤ) :
    ChangesOne (points f buckets) (points f (buckets.update time g)) := by
  obtain ⟨new, hnew⟩ := hg .empty
  induction buckets with
  | nil =>
    rw [Buckets.update, points_cons_of_some hnew]
    exact .added [] [] ⟨time, new⟩ (by simp)
  | cons entry rest ih =>
    obtain ⟨t, b⟩ := entry
    obtain ⟨ht, hrest⟩ := Buckets.ascending_cons.1 h
    rw [Buckets.update]
    split_ifs with hlt heq
    · have hfirst : ∀ s ∈ Buckets.times ((t, b) :: rest), time < s :=
        List.forall_mem_cons.2 ⟨hlt, fun s hs => hlt.trans (ht s hs)⟩
      rw [points_cons_of_some hnew]
      exact .added [] _ ⟨time, new⟩ fun q hq => (lt_of_mem_points hfirst q hq).ne'
    · obtain ⟨value', hvalue'⟩ := hg b
      rw [points_cons_of_some hvalue']
      cases hvalue : f b with
      | none =>
        rw [points_cons_of_none hvalue]
        exact .added [] _ ⟨t, value'⟩ fun q hq => (lt_of_mem_points ht q hq).ne'
      | some value =>
        rw [points_cons_of_some hvalue]
        exact .changed [] (points f rest) t value value'
    · have hbehind : ∀ s ∈ Buckets.times (Buckets.update time g rest), t < s := by
        intro s hs
        rcases Buckets.mem_times_update.1 hs with rfl | hs
        · omega
        · exact ht s hs
      cases hvalue : f b with
      | none =>
        rw [points_cons_of_none hvalue, points_cons_of_none hvalue]
        exact ih hrest
      | some value =>
        rw [points_cons_of_some hvalue, points_cons_of_some hvalue]
        exact (ih hrest).cons (lt_of_mem_points hbehind)

end Buckets

/-! ## One line -/

section Line

variable {a : Aggregator}

/-- What becomes of the series and the start. -/
structure Changes (a a' : Aggregator) : Prop where
  series : ∃ signal, ChangesOne (a.finish.points signal) (a'.finish.points signal) ∧
    ∀ other, other ≠ signal → a'.finish.points other = a.finish.points other
  start : ∀ t, a.start = some t → a'.start = some t

theorem Changes.of_same {a' : Aggregator} (hstart : ∀ t, a.start = some t → a'.start = some t)
    (hbuckets : a'.buckets = a.buckets) : Changes a a' := by
  have hpoints : ∀ signal, a'.finish.points signal = a.finish.points signal := by
    intro signal
    rw [points_finish, points_finish, hbuckets]
  refine ⟨⟨.vus, ?_, fun other _ => hpoints other⟩, hstart⟩
  rw [hpoints]
  exact .same _

theorem Changes.of_update {a' : Aggregator} (ha : a.buckets.Ascending)
    (hstart : ∀ t, a.start = some t → a'.start = some t) {signal : Signal} {value : Binary64}
    {time : ℤ} (hbuckets : a'.buckets = a.buckets.update time (·.add signal value)) :
    Changes a a' := by
  refine ⟨⟨signal, ?_, fun other hother => ?_⟩, hstart⟩
  · rw [points_finish, points_finish, hbuckets]
    exact changesOne_points_update (fun b => b.exists_point?_add signal value) ha time
  · rw [points_finish, points_finish, hbuckets]
    exact points_update_of_same (fun b => b.point?_add_of_ne value hother)
      (Bucket.point?_empty other) time a.buckets

theorem changes_pushRecord (ha : a.buckets.Ascending) (record : StreamLine) :
    Changes a (a.pushRecord record) := by
  cases ht : record.instant? with
  | none =>
    have hsame : a.pushRecord record = a := by rw [pushRecord, ht]
    rw [hsame]
    exact .of_same (fun _ => id) rfl
  | some t =>
    have hstart : ∀ s, a.start = some s → (a.pushRecord record).start = some s := by
      intro s hs
      rw [start_pushRecord ht, hs]
      rfl
    have hbuckets := buckets_pushRecord (a := a) ht
    cases htracked : tracked? record with
    | none =>
      rw [htracked] at hbuckets
      exact .of_same hstart hbuckets
    | some point =>
      rw [htracked] at hbuckets
      exact .of_update ha hstart hbuckets

theorem changes_pushLine (line : List Char) (ha : a.buckets.Ascending) :
    Changes a (a.pushLine line) := by
  by_cases hblank : trimChars line = []
  · rw [pushLine_of_blank hblank]
    exact .of_same (fun _ => id) rfl
  · cases hread : StreamLine.ofChars? (trimChars line) with
    | none =>
      rw [pushLine_of_unread hblank hread]
      exact .of_same (fun _ => id) rfl
    | some record =>
      rw [pushLine_of_read hblank hread]
      exact changes_pushRecord ha record

end Line

/-- After any lines, one line more changes at most one point of one series, and the start stays once
it is set. A line is counted as skipped exactly if there is something in it that is not a record,
and then it changes nothing else. -/
theorem changesOne_pushLine (lines : List (List Char)) (line : List Char) :
    let a := Aggregator.empty.pushLines lines
    let a' := a.pushLine line
    let unread := trimChars line ≠ [] ∧ StreamLine.ofChars? (trimChars line) = none
    (∃ signal, ChangesOne (a.finish.points signal) (a'.finish.points signal) ∧
        ∀ other, other ≠ signal → a'.finish.points other = a.finish.points other) ∧
      (∀ t, a.start = some t → a'.start = some t) ∧
      (unread → a'.skipped = a.skipped + 1 ∧ a'.start = a.start ∧ a'.finish = a.finish) ∧
      (¬ unread → a'.skipped = a.skipped) := by
  intro a a' unread
  have hchanges : Changes a a' := changes_pushLine line (tallies_pushLines lines).ascending
  refine ⟨hchanges.series, hchanges.start, fun h => ?_, fun h => ?_⟩
  · have hpush : a' = { a with skipped := a.skipped + 1 } := pushLine_of_unread h.1 h.2
    rw [hpush]
    exact ⟨rfl, rfl, rfl⟩
  · have hread : unreadable line = false := by
      rw [Bool.eq_false_iff]
      simpa [unreadable, unread] using h
    rw [skipped_pushLine, hread]
    rfl

end Aggregator

end LoadTest
