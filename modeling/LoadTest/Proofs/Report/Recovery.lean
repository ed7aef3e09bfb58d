import LoadTest.Proofs.Report.Checks

/-!
# What a report in the newer layout gives

Each metric is looked for under its own name, and its texts are read as its numbers. The older
layout is only asked where the newer one has no row, and then has none either. So a report gives
what its lines say (`summary_lines`), as long as no check is named like a section with values.
-/

namespace LoadTest.Report.Layout

variable {lines : List Line}

/-! ## The rows of a metric -/

/-- What a scan takes from the values of a counter. -/
def CounterValues.texts (v : CounterValues) : List Char × List Char :=
  (v.total.digits, v.rate.chars)

/-- What a scan takes from the values of a share. -/
def ShareValues.texts (v : ShareValues) : List Char × List Char × List Char :=
  (v.percentage.chars, v.part.digits, v.total.digits)

/-- What a scan takes from the times. -/
def TrendValues.texts (v : TrendValues) : List (List Char) :=
  [v.avg.chars, v.min.chars, v.med.chars, v.max.chars, v.p90.chars, v.p95.chars]

/-- What a scan takes from the values of a gauge. -/
def GaugeValues.texts (v : GaugeValues) : List Char × List Char × List Char :=
  (v.value.digits, v.min.digits, v.max.digits)

/-- What a scan takes from the amounts. -/
def TransferValues.texts (v : TransferValues) : List Char × List Char :=
  (v.total.chars, v.rate.chars)

theorem reads_counter (which : CounterName) (e : Entry) :
    Reads which.text Scan.counter (Entry.counter? which) CounterValues.texts e := by
  cases e with
  | counter w v =>
    by_cases h : w = which
    · exact .own v (h ▸ rfl) (if_pos h) fun rest => takes_counter _ v
    · refine .other (fun hname => h ?_) (if_neg h)
      revert hname
      cases w <;> cases which <;> simp
  | share w v | trend w v | gauge w v | transfer w v =>
    refine .other ?_ rfl
    cases w <;> cases which <;> simp

theorem reads_share (which : ShareName) (e : Entry) :
    Reads which.text Scan.share (Entry.share? which) ShareValues.texts e := by
  cases e with
  | share w v =>
    by_cases h : w = which
    · exact .own v (h ▸ rfl) (if_pos h) fun rest => takes_share _ v rfl
    · refine .other (fun hname => h ?_) (if_neg h)
      revert hname
      cases w <;> cases which <;> simp
  | counter w v | trend w v | gauge w v | transfer w v =>
    refine .other ?_ rfl
    cases w <;> cases which <;> simp

theorem reads_trend (which : TrendName) (e : Entry) :
    Reads which.text Scan.trend (Entry.trend? which) TrendValues.texts e := by
  cases e with
  | trend w v =>
    by_cases h : w = which
    · exact .own v (h ▸ rfl) (if_pos h) fun rest => takes_trend _ v
    · refine .other (fun hname => h ?_) (if_neg h)
      revert hname
      cases w <;> cases which <;> simp
  | counter w v | share w v | gauge w v | transfer w v =>
    refine .other ?_ rfl
    cases w <;> cases which <;> simp

theorem reads_gauge (which : GaugeName) (e : Entry) :
    Reads which.text Scan.gauge (Entry.gauge? which) GaugeValues.texts e := by
  cases e with
  | gauge w v =>
    by_cases h : w = which
    · exact .own v (h ▸ rfl) (if_pos h) fun rest => takes_gauge _ v rfl
    · refine .other (fun hname => h ?_) (if_neg h)
      revert hname
      cases w <;> cases which <;> simp
  | counter w v | share w v | trend w v | transfer w v =>
    refine .other ?_ rfl
    cases w <;> cases which <;> simp

theorem reads_transfer (which : TransferName) (e : Entry) :
    Reads which.text Scan.transfer (Entry.transfer? which) TransferValues.texts e := by
  cases e with
  | transfer w v =>
    by_cases h : w = which
    · exact .own v (h ▸ rfl) (if_pos h) fun rest => takes_transfer _ v
    · refine .other (fun hname => h ?_) (if_neg h)
      revert hname
      cases w <;> cases which <;> simp
  | counter w v | share w v | trend w v | gauge w v =>
    refine .other ?_ rfl
    cases w <;> cases which <;> simp

/-! ## Reading the texts -/

section Bare

variable (hbare : ∀ line ∈ lines, line.isBare = true)
include hbare

theorem checksTotal_lines :
    ((find "checks_total" .counter (lines.flatMap Line.chars)).bind fun c => count? c.1) =
      ((entries lines).findSome? (Entry.counter? .checksTotal)).map fun v => v.total.value := by
  have hfind := find_lines (searched_counter .checksTotal) hbare
    fun e _ => reads_counter .checksTotal e
  rw [CounterName.text] at hfind
  rw [hfind]
  cases (entries lines).findSome? (Entry.counter? .checksTotal) with
  | none => rfl
  | some v => exact count?_digits v.total

theorem counter?_lines (which : CounterName) :
    counter? which.text (lines.flatMap Line.chars) =
      ((entries lines).findSome? (Entry.counter? which)).map CounterValues.counter := by
  unfold counter?
  rw [find_lines (searched_counter which) hbare fun e _ => reads_counter which e]
  cases (entries lines).findSome? (Entry.counter? which) with
  | none => rfl
  | some v => simp [CounterValues.texts, count?_digits, amount?_chars, CounterValues.counter]

theorem trend?_lines (which : TrendName) :
    trend? which.text (lines.flatMap Line.chars) =
      ((entries lines).findSome? (Entry.trend? which)).map TrendValues.stats := by
  unfold trend?
  rw [find_lines (searched_trend which) hbare fun e _ => reads_trend which e]
  cases (entries lines).findSome? (Entry.trend? which) with
  | none => rfl
  | some v => simp [TrendValues.texts, reported?_chars, TrendValues.stats]

theorem gauge?_lines (which : GaugeName) :
    gauge? which.text (lines.flatMap Line.chars) =
      ((entries lines).findSome? (Entry.gauge? which)).map
        fun v => (v.value.value, v.min.value, v.max.value) := by
  unfold gauge?
  rw [find_lines (searched_gauge which) hbare fun e _ => reads_gauge which e]
  cases (entries lines).findSome? (Entry.gauge? which) with
  | none => rfl
  | some v => simp [GaugeValues.texts, count?_digits]

theorem transfer?_lines (which : TransferName) :
    transfer? which.text (lines.flatMap Line.chars) =
      ((entries lines).findSome? (Entry.transfer? which)).map TransferValues.transfer := by
  unfold transfer?
  rw [find_lines (searched_transfer which) hbare fun e _ => reads_transfer which e]
  cases (entries lines).findSome? (Entry.transfer? which) with
  | none => rfl
  | some v => rfl

/-! ## The two layouts of shares -/

theorem find_markedShare {name : String} (hname : name ∈ ["checks", "http_req_failed"])
    (hnone : ∀ e ∈ entries lines, e.name ≠ name) :
    find name .markedShare (lines.flatMap Line.chars) = none := by
  have hreads : ∀ e ∈ entries lines,
      Reads name Scan.markedShare (fun _ => none) (fun v : Empty => nomatch v) e :=
    fun e he => .other (hnone e he) rfl
  rw [find_lines (searched_markedShare hname) hbare hreads]
  simp

theorem checksShare?_lines :
    checksShare? (lines.flatMap Line.chars) =
      ((entries lines).findSome? (Entry.share? .checksSucceeded)).map
        fun v => (v.percentage.value, v.total.value) := by
  have hfind := find_lines (searched_share .checksSucceeded) hbare
    fun e _ => reads_share .checksSucceeded e
  rw [ShareName.text] at hfind
  unfold checksShare?
  rw [hfind]
  cases (entries lines).findSome? (Entry.share? .checksSucceeded) with
  | none =>
    have hmarked : find "checks" .markedShare (lines.flatMap Line.chars) = none := by
      refine find_markedShare hbare (by decide) fun e _ => ?_
      rcases e with ⟨w, v⟩ | ⟨w, v⟩ | ⟨w, v⟩ | ⟨w, v⟩ | ⟨w, v⟩ <;> cases w <;> simp
    simp [hmarked]
  | some v => simp [ShareValues.texts, count?_digits, amount?_chars]

theorem failureRate?_lines :
    failureRate? (lines.flatMap Line.chars) =
      ((entries lines).findSome? (Entry.share? .requestsFailed)).map ShareValues.failureRate := by
  have hfind := find_lines (searched_share .requestsFailed) hbare
    fun e _ => reads_share .requestsFailed e
  rw [ShareName.text] at hfind
  unfold failureRate?
  rw [hfind]
  cases hrow : (entries lines).findSome? (Entry.share? .requestsFailed) with
  | none =>
    have hmarked : find "http_req_failed" .markedShare (lines.flatMap Line.chars) = none := by
      refine find_markedShare hbare (by decide) fun e he hname => ?_
      rcases reads_share .requestsFailed e with ⟨hother, -⟩ | ⟨v, -, hpick, -⟩
      · exact hother hname
      · rw [List.findSome?_eq_none_iff.1 hrow e he] at hpick
        cases hpick
    simp [hmarked]
  | some v => simp [ShareValues.texts, count?_digits, amount?_chars, ShareValues.failureRate]

end Bare

/-! ## The whole report -/

/-- The share of checks that passed, unless it is a share of nothing. -/
def checksShareOfSome? (raw : List Char) : Option Binary64 :=
  ((checksShare? raw).filter fun share => share.2 != 0).map Prod.fst

theorem checksShareOfSome?_of_some {raw : List Char} {percentage : Binary64} {total : UInt64}
    (h : checksShare? raw = some (percentage, total)) :
    checksShareOfSome? raw = if total = 0 then none else some percentage := by
  rw [checksShareOfSome?, h, Option.filter_some]
  by_cases htotal : total = 0 <;> simp [htotal]

theorem checksShareOfSome?_of_none {raw : List Char} (h : checksShare? raw = none) :
    checksShareOfSome? raw = none := by
  rw [checksShareOfSome?, h]
  rfl

/-- No section touches the fields of another. -/
theorem fillAll_sections (raw : List Char) :
    fillAll raw .empty sections =
      { checksTotal := (find "checks_total" .counter raw).bind fun c => count? c.1
        checksSucceeded := checksShareOfSome? raw
        checksFailed := (checksShareOfSome? raw).map complement
        individualChecks := individualChecks raw
        httpReqDuration := trend? "http_req_duration" raw
        httpReqFailed := (failureRate? raw).filter fun rate => rate.total != 0
        httpReqs := counter? "http_reqs" raw
        iterationDuration := trend? "iteration_duration" raw
        iterations := counter? "iterations" raw
        vus := (gauge? "vus" raw).map fun g => ⟨g.1, g.2.1, g.2.2⟩
        vusMax := (gauge? "vus_max" raw).map fun g => ⟨g.1, g.2.1, g.2.2⟩
        dataReceived := transfer? "data_received" raw
        dataSent := transfer? "data_sent" raw } := by
  unfold fillAll sections checksShareOfSome?
  simp only [List.foldl_cons, List.foldl_nil]
  rcases checksShare? raw with _ | ⟨percentage, total⟩
  · rfl
  · by_cases htotal : total = 0
    · simp [htotal, Metrics.empty, Option.filter]
    · simp [htotal, Option.filter]

theorem checksShareOfSome?_lines (hbare : ∀ line ∈ lines, line.isBare = true) :
    checksShareOfSome? (lines.flatMap Line.chars) =
      ((entries lines).findSome? (Entry.share? .checksSucceeded)).map
        fun v => v.percentage.value := by
  unfold checksShareOfSome?
  rw [checksShare?_lines hbare]
  rcases (entries lines).findSome? (Entry.share? .checksSucceeded) with _ | v
  · rfl
  · simp [v.total_ne_zero]

theorem failureRate?_filter_lines (hbare : ∀ line ∈ lines, line.isBare = true) :
    ((failureRate? (lines.flatMap Line.chars)).filter fun rate => rate.total != 0) =
      ((entries lines).findSome? (Entry.share? .requestsFailed)).map ShareValues.failureRate := by
  rw [failureRate?_lines hbare]
  rcases (entries lines).findSome? (Entry.share? .requestsFailed) with _ | v
  · rfl
  · simp [ShareValues.failureRate, v.total_ne_zero]

theorem fillAll_lines (hbare : ∀ line ∈ lines, line.isBare = true) :
    fillAll (lines.flatMap Line.chars) .empty sections = recovered lines := by
  have hcounter := counter?_lines hbare
  have htrend := trend?_lines hbare
  have hgauge := gauge?_lines hbare
  have htransfer := transfer?_lines hbare
  have hvus : ((gauge? "vus" (lines.flatMap Line.chars)).map fun g => ⟨g.1, g.2.1, g.2.2⟩) =
      ((entries lines).findSome? (Entry.gauge? .vus)).map GaugeValues.vus := by
    rw [show gauge? "vus" _ = _ from hgauge .vus, Option.map_map]
    rfl
  have hvusMax : ((gauge? "vus_max" (lines.flatMap Line.chars)).map
      fun g => ⟨g.1, g.2.1, g.2.2⟩) =
      ((entries lines).findSome? (Entry.gauge? .vusMax)).map GaugeValues.vusMax := by
    rw [show gauge? "vus_max" _ = _ from hgauge .vusMax, Option.map_map]
    rfl
  rw [fillAll_sections, checksTotal_lines hbare, checksShareOfSome?_lines hbare,
    individualChecks_lines, failureRate?_filter_lines hbare, hvus, hvusMax,
    show counter? "http_reqs" _ = _ from hcounter .requests,
    show counter? "iterations" _ = _ from hcounter .iterations,
    show trend? "http_req_duration" _ = _ from htrend .requestDuration,
    show trend? "iteration_duration" _ = _ from htrend .iterationDuration,
    show transfer? "data_received" _ = _ from htransfer .received,
    show transfer? "data_sent" _ = _ from htransfer .sent, Option.map_map]
  simp only [recovered, Function.comp_def]

/-- A report of blank lines only. -/
theorem recovered_of_white (h : ∀ c ∈ lines.flatMap Line.chars, isWhite c = true) :
    recovered lines = .empty := by
  have hblank : ∀ line ∈ lines, line.entry? = none ∧ line.check? = none := by
    intro line hline
    have hwhite : ∀ c ∈ line.chars, isWhite c = true := fun c hc =>
      h c (List.mem_flatMap.2 ⟨line, hline, hc⟩)
    cases line with
    | blank margin hmargin => exact ⟨rfl, rfl⟩
    | row r =>
      obtain ⟨⟨c, hc, hhead⟩, -⟩ := r.entry.isName
      have hmem : c ∈ r.chars :=
        List.mem_append_right _ (List.mem_append_left _ (List.mem_of_mem_head? hhead))
      have hc' := hwhite c (List.mem_append_left _ hmem)
      have hinitials : ∀ d ∈ initials, isWhite d = false := by decide
      rw [hinitials c hc] at hc'
      cases hc'
    | check c =>
      have hmark := hwhite (if c.passed then '✓' else '✗')
        (by simp [Line.chars, CheckLines.chars, CheckLines.opening])
      split_ifs at hmark <;> exact absurd hmark (by decide)
  have hentries : entries lines = [] :=
    List.filterMap_eq_nil_iff.2 fun line hline => (hblank line hline).1
  have hchecks : lines.filterMap Line.check? = [] :=
    List.filterMap_eq_nil_iff.2 fun line hline => (hblank line hline).2
  simp [recovered, hentries, hchecks, Metrics.empty]

/-- A report says what its lines say. -/
theorem summary_lines (hbare : ∀ line ∈ lines, line.isBare = true) :
    summary (String.ofList (lines.flatMap Line.chars)) = recovered lines := by
  unfold summary isWhiteText
  rw [String.toList_ofList]
  split_ifs with hwhite
  · exact (recovered_of_white (List.all_eq_true.1 hwhite)).symm
  · exact fillAll_lines hbare

def one : Count :=
  ⟨['1'], by decide, by decide, by decide⟩

/-- A check that passed once. -/
def checkNamed (name : String) (hne : name.toList ≠ [])
    (htrimmed : trimChars name.toList = name.toList) (hline : '\n' ∉ name.toList) : Line :=
  .check
    { margin := [], isBlank_margin := by decide, passed := true
      name := name, name_ne := hne, trimmed_name := htrimmed, lineFeed_name := hline
      detailMargin := [' ', ' '], isBlank_detailMargin := by decide
      percentage := ⟨['1', '0', '0'], [], by decide, by decide⟩
      passes := one
      fails := ⟨['0'], by decide, by decide, by decide⟩
      blanks := (0, 0, 0, 0, 0, 0, 0, 0) }

/-- A check whose name holds no section. -/
def statusCheck : Line :=
  checkNamed "status is 200" (by decide) (by decide) (by decide)

/-- A row of a gauge. -/
def gaugeRow : Line :=
  .row
    { margin := [' '], isBlank_margin := by decide
      entry := .gauge .vus ⟨one, one, one, (0, 0)⟩
      separator := ['.', ':', ' '], separator_ne_nil := by decide, mem_separator := by decide }

theorem summary_lines_statusCheck :
    (∀ line ∈ [statusCheck, gaugeRow], line.isBare = true) ∧
      summary (String.ofList ([statusCheck, gaugeRow].flatMap Line.chars)) =
        recovered [statusCheck, gaugeRow] :=
  ⟨by decide +kernel, summary_lines (by decide +kernel)⟩

/-- A check that is named like a row. -/
def gaugeCheck : Line :=
  checkNamed "vus: 1 min=1 max=1" (by decide) (by decide) (by decide)

/-- The name of a check is taken for a row. -/
theorem summary_gaugeCheck :
    String.ofList ([gaugeCheck].flatMap Line.chars) =
        "✓ vus: 1 min=1 max=1\n  ↳ 100% — ✓ 1 / ✗ 0\n" ∧
      summary (String.ofList ([gaugeCheck].flatMap Line.chars)) ≠ recovered [gaugeCheck] := by
  refine ⟨by decide +kernel, fun h => ?_⟩
  have hvus := congrArg Metrics.vus h
  rw [summary, if_neg (by decide +kernel), fillAll_sections, String.toList_ofList] at hvus
  exact absurd hvus (by decide +kernel)

end LoadTest.Report.Layout
