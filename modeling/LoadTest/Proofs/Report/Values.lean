import LoadTest.Proofs.Number.Numeral
import LoadTest.Proofs.Report.Layout
import LoadTest.Proofs.Report.Scan
import LoadTest.Proofs.Text.White
import Mathlib.Tactic.SplitIfs

/-!
# Values of the newer layout

Every scan takes the values of its kind as they are written and stops behind them
(`takes_counter` and the others), and the texts it takes are read as the numbers they stand for.
-/

namespace LoadTest.Report.Layout

open Scan

/-! ## Classes of characters -/

theorem isScriptDigit_of_isDigit {c : Char} (h : c.isDigit = true) : isScriptDigit c = true := by
  simp [isScriptDigit, h]

theorem isReportDigit_of_isDigit {c : Char} (h : c.isDigit = true) :
    Duration.isReportDigit c = true := by
  simp [Duration.isReportDigit, isScriptDigit, h]

section Stops

variable {p : Char → Bool}

theorem Count.stops (hp : ∀ c, c.isDigit = true → p c = false) (n : Count) (rest : List Char) :
    Stops p (n.digits ++ rest) :=
  stops_append n.ne_nil fun c hc => hp c (n.isDigit c hc)

theorem Amount.stops (hp : ∀ c, c.isDigit = true → p c = false) (x : Amount) (rest : List Char) :
    Stops p (x.chars ++ rest) := by
  rw [Amount.chars, List.append_assoc]
  exact stops_append x.ne_nil fun c hc => hp c (x.isDigit c (List.mem_append_left _ hc))

end Stops

theorem Amount.isReportDigit_chars (x : Amount) :
    ∀ c ∈ x.chars, Duration.isReportDigit c = true := by
  intro c hc
  rw [chars, List.mem_append] at hc
  rcases hc with hc | hc
  · exact isReportDigit_of_isDigit (x.isDigit c (List.mem_append_left _ hc))
  · split_ifs at hc
    · cases hc
    · rcases List.mem_cons.1 hc with rfl | hc
      · decide
      · exact isReportDigit_of_isDigit (x.isDigit c (List.mem_append_right _ hc))

theorem Amount.chars_ne_nil (x : Amount) : x.chars ≠ [] := by
  rw [chars]
  exact List.append_ne_nil_of_left_ne_nil x.ne_nil _

/-! ## What is taken -/

section Takes

variable {rest : List Char}

theorem takes_count (n : Count) (hr : Stops isScriptDigit rest) :
    Takes Scan.count n.digits n.digits rest :=
  takes_run n.ne_nil (fun c hc => isScriptDigit_of_isDigit (n.isDigit c hc)) hr

theorem takes_amount (x : Amount) (hr : Stops Duration.isReportDigit rest) :
    Takes Scan.amount x.chars x.chars rest :=
  takes_run x.chars_ne_nil x.isReportDigit_chars hr

theorem mem_gap {n : ℕ} {c : Char} (hc : c ∈ gap n) : c = ' ' :=
  (List.mem_replicate.1 hc).2

theorem takes_white (n : ℕ) (hr : Stops isWhite rest) : Takes white (gap n) (gap n) rest :=
  takes_run (by simp [gap]) (fun c hc => by rw [mem_gap hc]; decide) hr

theorem takes_duration (t : Timing) (rest : List Char) :
    Takes Scan.duration t.chars t.chars rest := by
  unfold Scan.duration Timing.chars
  refine .bind (takes_amount t.amount ?_) ?_
  · split_ifs <;> exact rfl
  · split_ifs <;> rfl

theorem takes_labelled (label : String) (t : Timing) (rest : List Char) :
    Takes (Scan.labelled label) (t.labelled label) t.chars rest :=
  .bind (takes_exactly _ _) (takes_duration t rest)

theorem takes_labelledCount (label : String) {c : Char} {cs : List Char}
    (hlabel : label.toList = c :: cs) (hc : isWhite c = false) (blanks : ℕ) (n : Count)
    (hr : Stops isScriptDigit rest) :
    Takes (Scan.labelledCount label) (n.labelled label blanks) n.digits rest := by
  refine .bind (takes_white blanks ?_) (.bind (takes_exactly _ _) (takes_count n hr))
  rw [hlabel]
  exact hc

theorem takes_bytes (q : Quantity) (rest : List Char) :
    Takes Scan.bytes q.chars q.chars rest := by
  obtain ⟨amount, blanks, scale, hscale⟩ := q
  have hmem : scale = none ∨ ∃ c ∈ ['k', 'K', 'M', 'G', 'T'], scale = some c := by
    rcases scale with _ | c
    · exact .inl rfl
    · exact .inr ⟨c, hscale c rfl, rfl⟩
  simp only [List.mem_cons, List.not_mem_nil, or_false, exists_eq_or_imp, exists_eq_left] at hmem
  refine .bind (takes_amount amount rfl) (.bind (takes_white blanks ?_) ?_)
  · rcases hmem with rfl | rfl | rfl | rfl | rfl | rfl <;> exact rfl
  · show Takes _ _ (amount.chars ++ (gap blanks ++ (scale.toList ++ ['B']))) _
    rw [← List.append_assoc amount.chars]
    rcases hmem with rfl | rfl | rfl | rfl | rfl | rfl <;> rfl

variable (rest)

theorem takes_counter (v : CounterValues) :
    Takes Scan.counter v.chars (v.total.digits, v.rate.chars) rest := by
  unfold Scan.counter CounterValues.chars
  refine .bind (takes_count _ (by exact rfl)) (.bind (takes_white _ ?_) ?_)
  · rw [List.append_assoc]
    exact v.rate.stops (fun _ => not_isWhite_of_isDigit) _
  · exact .bind (takes_amount _ (by exact rfl)) ((takes_exactly _ _).bind_pure _)

theorem takes_share (v : ShareValues) (hr : Stops isScriptDigit rest) :
    Takes Scan.share v.chars (v.percentage.chars, v.part.digits, v.total.digits) rest := by
  unfold Scan.share ShareValues.chars
  refine .bind (takes_amount _ rfl) (.bind (takes_exactly _ _) (.bind (takes_white _ ?_) ?_))
  · rw [List.append_assoc]
    exact v.part.stops (fun _ => not_isWhite_of_isDigit) _
  refine .bind (takes_count _ (by exact rfl)) (.bind (takes_white _ rfl) ?_)
  refine .bind (takes_exactly _ _) (.bind (takes_white _ ?_) ((takes_count _ hr).bind_pure _))
  exact v.total.stops (fun _ => not_isWhite_of_isDigit) _

theorem takes_gauge (v : GaugeValues) (hr : Stops isScriptDigit rest) :
    Takes Scan.gauge v.chars (v.value.digits, v.min.digits, v.max.digits) rest := by
  unfold Scan.gauge GaugeValues.chars
  refine .bind (takes_count _ (by exact rfl)) (.bind (takes_labelledCount _ rfl
    (by decide) _ _ (by exact rfl)) ?_)
  exact (takes_labelledCount _ rfl (by decide) _ _ hr).bind_pure _

theorem takes_trend (v : TrendValues) :
    Takes Scan.trend v.chars [v.avg.chars, v.min.chars, v.med.chars, v.max.chars, v.p90.chars,
      v.p95.chars] rest := by
  unfold Scan.trend TrendValues.chars
  refine .bind (takes_labelled _ _ _) (.bind (takes_white _ rfl) ?_)
  refine .bind (takes_labelled _ _ _) (.bind (takes_white _ rfl) ?_)
  refine .bind (takes_labelled _ _ _) (.bind (takes_white _ rfl) ?_)
  refine .bind (takes_labelled _ _ _) (.bind (takes_white _ rfl) ?_)
  refine .bind (takes_labelled _ _ _) (.bind (takes_white _ rfl) ?_)
  exact (takes_labelled _ _ _).bind_pure _

theorem takes_transfer (v : TransferValues) :
    Takes Scan.transfer v.chars (v.total.chars, v.rate.chars) rest := by
  unfold Scan.transfer TransferValues.chars
  refine .bind (takes_bytes _ _) (.bind (takes_white _ ?_) ?_)
  · rw [Quantity.chars]
    simp only [List.append_assoc]
    exact v.rate.amount.stops (fun _ => not_isWhite_of_isDigit) _
  · exact .bind (takes_bytes _ _) ((takes_exactly _ _).bind_pure _)

end Takes

/-! ## What it stands for -/

theorem count?_digits (n : Count) : count? n.digits = some n.value := by
  have hread : naturalBelow? (2 ^ 64) n.digits = some (Nat.ofDigitChars 10 n.digits 0) :=
    naturalBelow?_eq_some.2 ⟨n.lt, n.digits, ⟨n.ne_nil, n.isDigit, rfl⟩, .inl rfl⟩
  rw [count?, hread]
  rfl

theorem amount?_chars (x : Amount) : amount? x.chars = some x.value :=
  Binary64.ofChars?_numeral x.ne_nil x.isDigit

theorem reported?_chars (t : Timing) : Duration.reported? t.chars = some t.milliseconds := by
  have hread : Binary64.ofChars? t.amount.chars = some t.amount.value := amount?_chars _
  have hempty : t.amount.chars.isEmpty = false := List.isEmpty_eq_false_iff.2 t.amount.chars_ne_nil
  unfold Duration.reported? Timing.chars Timing.milliseconds
  cases t.inSeconds with
  | true =>
    rw [if_pos rfl, if_pos rfl, takeWhile_append_stops t.amount.isReportDigit_chars (by exact rfl),
      dropWhile_append_stops t.amount.isReportDigit_chars (by exact rfl)]
    simp [hempty, Duration.Unit.ofChars?, hread]
  | false =>
    rw [if_neg Bool.false_ne_true, if_neg Bool.false_ne_true,
      takeWhile_append_stops t.amount.isReportDigit_chars (by exact rfl),
      dropWhile_append_stops t.amount.isReportDigit_chars (by exact rfl)]
    simp [hempty, Duration.Unit.ofChars?, hread]

end LoadTest.Report.Layout
