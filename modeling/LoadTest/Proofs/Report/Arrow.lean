import LoadTest.Proofs.Report.Scan
import LoadTest.Report.Check

/-!
# Scans in front of an arrow

The second line of a check starts with blanks and an arrow. White space that a scan takes may reach
up to the arrow, and no scan of values goes on with it. So what such a scan takes in front of that
line it also takes without it (`Local`).
-/

namespace LoadTest.Report

/-- The end of a line, and one that starts with an arrow. -/
def AtArrow (cs : List Char) : Prop :=
  ∃ margin more, (∀ c ∈ margin, isBlank c = true) ∧ cs = '\n' :: (margin ++ '↳' :: more)

theorem eq_of_isBlank {c : Char} (h : isBlank c = true) : c = ' ' ∨ c = '\t' := by
  simpa [isBlank] using h

theorem isWhite_of_isBlank {c : Char} (h : isBlank c = true) : isWhite c = true := by
  rcases eq_of_isBlank h with rfl | rfl <;> decide

theorem AtArrow.stops {p : Char → Bool} {cs : List Char} (h : AtArrow cs) (hp : p '\n' = false) :
    Stops p cs := by
  obtain ⟨margin, more, -, rfl⟩ := h
  exact hp

/-- A text without line feeds ends before one. -/
theorem AtArrow.prefix_left {s cs behind : List Char} (h : AtArrow behind) (hs : '\n' ∉ s)
    (hstart : s <+: cs ++ behind) : s <+: cs := by
  obtain ⟨margin, more, -, rfl⟩ := h
  obtain ⟨t, ht⟩ := hstart
  rcases List.append_eq_append_iff.1 ht with ⟨as, hcs, -⟩ | ⟨bs, hbs, hmore⟩
  · exact ⟨as, hcs.symm⟩
  · rcases bs with _ | ⟨c, bs⟩
    · exact ⟨[], by rw [hbs, List.append_nil, List.append_nil]⟩
    · have hc := (List.cons.inj hmore).1
      exact absurd (by rw [hbs, ← hc]; simp) hs

namespace Scan

variable {α β : Type}

/-- What the scan takes in front of a line that starts with an arrow, it takes without it. -/
def Local (scan : Scan α) : Prop :=
  ∀ cs behind, AtArrow behind → ∀ a rest, scan (cs ++ behind) = some (a, rest) →
    ∃ within, rest = within ++ behind ∧ scan cs = some (a, within)

theorem Local.pure (a : α) : Local (pure a) := by
  intro cs behind _ b rest h
  obtain ⟨rfl, rfl⟩ := Prod.mk.inj (Option.some.inj h)
  exact ⟨cs, rfl, rfl⟩

theorem Local.bind {scan : Scan α} {next : α → Scan β} (hs : Local scan)
    (hn : ∀ a, Local (next a)) : Local (scan >>= next) := by
  intro cs behind hbehind b rest h
  obtain ⟨a, mid, hfirst, hnext⟩ := bind_eq_some.1 h
  obtain ⟨within, rfl, hfirst'⟩ := hs cs behind hbehind a mid hfirst
  obtain ⟨within', rfl, hnext'⟩ := hn a within behind hbehind b rest hnext
  exact ⟨within', rfl, bind_eq_some.2 ⟨a, within, hfirst', hnext'⟩⟩

theorem Local.run {p : Char → Bool} (hp : p '\n' = false) : Local (run p) := by
  intro cs behind hbehind a rest h
  have hstops := hbehind.stops hp
  obtain ⟨hne, ha, hrest⟩ := run_eq_some.1 h
  rw [takeWhile_append_of_stops cs hstops] at ha
  rw [dropWhile_append_of_stops cs hstops] at hrest
  exact ⟨cs.dropWhile p, hrest, run_eq_some.2 ⟨hne, ha, rfl⟩⟩

theorem Local.exactly {s : List Char} (hs : '\n' ∉ s) : Local (exactly s) := by
  intro cs behind hbehind a rest h
  have hstart : s <+: cs ++ behind := ⟨rest, (exactly_eq_some.1 h).symm⟩
  obtain ⟨more, rfl⟩ := hbehind.prefix_left hs hstart
  rw [exactly_eq_some, List.append_assoc, List.append_cancel_left_eq] at h
  exact ⟨more, h.symm, exactly_eq_some.2 rfl⟩

theorem Local.picks {texts : List (List Char)} {scan : Scan (List Char)} (h : Picks texts scan)
    (hline : ∀ u ∈ texts, '\n' ∉ u) : Local scan := by
  intro cs behind hbehind u rest hsome
  obtain ⟨hu, hcs⟩ := (h _ _ _).1 hsome
  obtain ⟨within, rfl⟩ := hbehind.prefix_left (hline u hu) ⟨rest, hcs.symm⟩
  rw [List.append_assoc, List.append_cancel_left_eq] at hcs
  exact ⟨within, hcs.symm, (h _ _ _).2 ⟨hu, rfl⟩⟩

/-- White space may cross the end of the line, but then the arrow is next. -/
theorem Local.white_bind {next : List Char → Scan β} (hn : ∀ a, Local (next a))
    (harrow : ∀ a, Refuses (next a) '↳') : Local (white >>= next) := by
  intro cs behind hbehind b rest h
  obtain ⟨ws, mid, hwhite, hnext⟩ := bind_eq_some.1 h
  obtain ⟨hne, rfl, rfl⟩ := run_eq_some.1 hwhite
  by_cases hend : cs.dropWhile isWhite = []
  · obtain ⟨margin, more, hmargin, rfl⟩ := hbehind
    have hall : ∀ c ∈ cs ++ '\n' :: margin, isWhite c = true := by
      intro c hc
      rcases List.mem_append.1 hc with hc | hc
      · exact List.dropWhile_eq_nil_iff.1 hend c hc
      · rcases List.mem_cons.1 hc with rfl | hc
        · decide
        · exact isWhite_of_isBlank (hmargin c hc)
    have harrow' : Stops isWhite ('↳' :: more) := rfl
    have hdrop := dropWhile_append_stops hall harrow'
    rw [List.append_assoc, List.cons_append] at hdrop
    rw [hdrop, harrow] at hnext
    cases hnext
  · have hstops : Stops isWhite (cs.dropWhile isWhite ++ behind) :=
      (stops_dropWhile cs).append hend
    have hrun : ∀ c ∈ cs.takeWhile isWhite, isWhite c = true := fun c => List.mem_takeWhile_imp
    have hsplit : cs ++ behind = cs.takeWhile isWhite ++ (cs.dropWhile isWhite ++ behind) := by
      rw [← List.append_assoc, List.takeWhile_append_dropWhile]
    rw [hsplit, takeWhile_append_stops hrun hstops] at hne hnext
    rw [dropWhile_append_stops hrun hstops] at hnext
    obtain ⟨within, rfl, hnext'⟩ := hn _ _ behind hbehind b rest hnext
    exact ⟨within, rfl, bind_eq_some.2 ⟨_, _, run_eq_some.2 ⟨hne, rfl, rfl⟩, hnext'⟩⟩

/-! ## The scans of values -/

/-- Values neither start with a blank nor with an arrow, and end in front of a line that starts with
an arrow. -/
structure EndsAtArrow (values : Scan α) : Prop where
  isLocal : Local values
  refuses : ∀ c, isBlank c = true ∨ c = '↳' → Refuses values c

theorem not_isReportDigit {c : Char} (h : isBlank c = true ∨ c = '↳') :
    Duration.isReportDigit c = false := by
  rcases h with h | rfl
  · rcases eq_of_isBlank h with rfl | rfl <;> decide
  · decide

theorem not_isScriptDigit {c : Char} (h : isBlank c = true ∨ c = '↳') :
    isScriptDigit c = false := by
  have hreport := not_isReportDigit h
  rw [Duration.isReportDigit, Bool.or_eq_false_iff] at hreport
  exact hreport.1

theorem local_count : Local count :=
  .run (by decide)

theorem local_amount : Local amount :=
  .run (by decide)

theorem refuses_count {c : Char} (h : isBlank c = true ∨ c = '↳') : Refuses count c :=
  refuses_run (not_isScriptDigit h)

theorem refuses_amount {c : Char} (h : isBlank c = true ∨ c = '↳') : Refuses amount c :=
  refuses_run (not_isReportDigit h)

theorem local_duration : Local duration := by
  rw [duration_eq]
  exact .bind local_amount fun number => .bind (.picks picks_durationUnit (by decide)) fun unit =>
    .pure _

theorem local_labelled {label : String} (h : '\n' ∉ label.toList) : Local (labelled label) :=
  .bind (.exactly h) fun _ => local_duration

theorem refuses_labelled {label : String} {c d : Char} {s : List Char}
    (h : label.toList = d :: s) (hd : d ≠ c) : Refuses (labelled label) c := by
  unfold labelled
  rw [h]
  exact (refuses_exactly hd).bind

theorem local_labelledCount {label : String} {d : Char} {s : List Char}
    (h : label.toList = d :: s) (hd : d ≠ '↳') (hline : '\n' ∉ label.toList) :
    Local (labelledCount label) := by
  unfold labelledCount
  rw [h] at hline ⊢
  exact .white_bind (fun _ => .bind (.exactly hline) fun _ => local_count)
    fun _ => (refuses_exactly hd).bind

theorem local_bytes : Local bytes := by
  rw [bytes_eq]
  exact .bind local_amount fun number => .white_bind
    (fun blanks => .bind (.picks picks_bytesUnit (by decide)) fun unit => .pure _)
    fun blanks => (refuses_picks picks_bytesUnit (by decide)).bind

theorem refuses_amount_arrow {next : List Char → Scan β} : Refuses (amount >>= next) '↳' :=
  (refuses_amount (.inr rfl)).bind

theorem refuses_count_arrow {next : List Char → Scan β} : Refuses (count >>= next) '↳' :=
  (refuses_count (.inr rfl)).bind

theorem endsAtArrow_counter : EndsAtArrow counter where
  isLocal := by
    refine .bind local_count fun total => .white_bind (fun _ => ?_) fun _ => refuses_amount_arrow
    exact .bind local_amount fun rate => .bind (.exactly (by decide)) fun _ => .pure _
  refuses _ h := (refuses_count h).bind

theorem endsAtArrow_gauge : EndsAtArrow gauge where
  isLocal := by
    refine .bind local_count fun value => ?_
    refine .bind (local_labelledCount rfl (by decide) (by decide)) fun min => ?_
    exact .bind (local_labelledCount rfl (by decide) (by decide)) fun max => .pure _
  refuses _ h := (refuses_count h).bind

theorem endsAtArrow_share : EndsAtArrow share where
  isLocal := by
    refine .bind local_amount fun percentage => .bind (.exactly (by decide)) fun _ => ?_
    refine .white_bind (fun _ => .bind local_count fun part => ?_) fun _ => refuses_count_arrow
    refine .white_bind (fun _ => .bind (.exactly (by decide)) fun _ => ?_)
      fun _ => (refuses_exactly (by decide)).bind
    exact .white_bind (fun _ => .bind local_count fun total => .pure _)
      fun _ => refuses_count_arrow
  refuses _ h := (refuses_amount h).bind

theorem endsAtArrow_markedShare : EndsAtArrow markedShare where
  isLocal := by
    refine .bind local_amount fun percentage => .bind (.exactly (by decide)) fun _ => ?_
    refine .white_bind (fun _ => .bind (.exactly (by decide)) fun _ => ?_)
      fun _ => (refuses_exactly (by decide)).bind
    refine .white_bind (fun _ => .bind local_count fun marked => ?_) fun _ => refuses_count_arrow
    refine .white_bind (fun _ => .bind (.exactly (by decide)) fun _ => ?_)
      fun _ => (refuses_exactly (by decide)).bind
    exact .white_bind (fun _ => .bind local_count fun unmarked => .pure _)
      fun _ => refuses_count_arrow
  refuses _ h := (refuses_amount h).bind

/-- A label behind white space. -/
theorem local_white_labelled {label : String} {c : Char} {s : List Char}
    {next : List Char → Scan β} (h : label.toList = c :: s) (hc : c ≠ '↳')
    (hline : '\n' ∉ label.toList) (hn : ∀ t, Local (next t)) :
    Local (white >>= fun _ => labelled label >>= next) :=
  .white_bind (fun _ => .bind (local_labelled hline) hn) fun _ => (refuses_labelled h hc).bind

theorem endsAtArrow_trend : EndsAtArrow trend where
  isLocal := by
    refine .bind (local_labelled (by decide)) fun avg => ?_
    refine local_white_labelled rfl (by decide) (by decide) fun min => ?_
    refine local_white_labelled rfl (by decide) (by decide) fun med => ?_
    refine local_white_labelled rfl (by decide) (by decide) fun max => ?_
    refine local_white_labelled rfl (by decide) (by decide) fun p90 => ?_
    exact local_white_labelled rfl (by decide) (by decide) fun p95 => .pure _
  refuses c h := by
    refine (refuses_labelled rfl ?_).bind
    rintro rfl
    rcases h with h | h <;> exact absurd h (by decide)

theorem endsAtArrow_transfer : EndsAtArrow transfer where
  isLocal := by
    refine .bind local_bytes fun total => .white_bind (fun _ => ?_)
      fun _ => (refuses_amount_arrow).bind
    exact .bind local_bytes fun rate => .bind (.exactly (by decide)) fun _ => .pure _
  refuses _ h := ((refuses_amount h).bind).bind

end Scan

end LoadTest.Report
