import LoadTest.Proofs.Report.Find
import LoadTest.Proofs.Report.Values

/-!
# Sections of the newer layout

Values are made of plain characters and of labels (`Composed`), in which no name starts. So a search
for a name passes over a row with another name and over a check, and finds the values of a row with
that name. The first such row of a report counts (`find_lines`).
-/

namespace LoadTest.Report.Layout

variable {α : Type} {name : List Char}

/-! ## What values are made of -/

/-- The characters of values outside of labels. -/
def isPlain (c : Char) : Bool :=
  c.isDigit || [' ', '.', '%', '/', '(', ')', '=', 's', 'm', 'p', 'o', 'u', 't', 'f', 'B', 'k', 'K',
    'M', 'G', 'T'].contains c

theorem isPlain_of_isDigit {c : Char} (h : c.isDigit = true) : isPlain c = true := by
  simp [isPlain, h]

/-- Values are made of plain characters and labels. -/
inductive Composed : List Char → Prop
  | plain {xs : List Char} : (∀ c ∈ xs, isPlain c = true) → Composed xs
  | label {s : String} : s ∈ ["avg=", "min=", "med=", "max="] → Composed s.toList
  | append {xs ys : List Char} : Composed xs → Composed ys → Composed (xs ++ ys)

theorem composed_count (n : Count) : Composed n.digits :=
  .plain fun c hc => isPlain_of_isDigit (n.isDigit c hc)

theorem composed_gap (n : ℕ) : Composed (gap n) :=
  .plain fun c hc => by rw [mem_gap hc]; decide

theorem composed_amount (x : Amount) : Composed x.chars := by
  refine .append (.plain fun c hc => ?_) ?_
  · exact isPlain_of_isDigit (x.isDigit c (List.mem_append_left _ hc))
  · split_ifs
    · exact .plain (by simp)
    · refine .plain fun c hc => ?_
      rcases List.mem_cons.1 hc with rfl | hc
      · decide
      · exact isPlain_of_isDigit (x.isDigit c (List.mem_append_right _ hc))

theorem composed_labelled {label : String} (h : Composed label.toList) (t : Timing) :
    Composed (t.labelled label) := by
  refine h.append ((composed_amount t.amount).append (.plain ?_))
  split_ifs <;> decide

theorem composed_labelledCount {label : String} (h : Composed label.toList) (blanks : ℕ)
    (n : Count) : Composed (n.labelled label blanks) :=
  (composed_gap blanks).append (h.append (composed_count n))

theorem composed_quantity (q : Quantity) : Composed q.chars := by
  refine (composed_amount q.amount).append ((composed_gap q.blanks).append (.append ?_ ?_))
  · refine .plain fun c hc => ?_
    have hplain : ∀ d ∈ ['k', 'K', 'M', 'G', 'T'], isPlain d = true := by decide
    exact hplain c (q.scale_mem c (Option.mem_toList.1 hc))
  · exact .plain (by decide)

theorem composed_values (e : Entry) : Composed e.valuesChars := by
  cases e with
  | counter which v =>
    exact (composed_count v.total).append ((composed_gap _).append
      ((composed_amount v.rate).append (.plain (by decide))))
  | share which v =>
    exact (composed_amount v.percentage).append (.append (.plain (by decide))
      ((composed_gap _).append ((composed_count v.part).append ((composed_gap _).append
        (.append (.plain (by decide)) ((composed_gap _).append (composed_count v.total)))))))
  | trend which v =>
    exact (composed_labelled (.label (by decide)) v.avg).append ((composed_gap _).append
      ((composed_labelled (.label (by decide)) v.min).append ((composed_gap _).append
        ((composed_labelled (.label (by decide)) v.med).append ((composed_gap _).append
          ((composed_labelled (.label (by decide)) v.max).append ((composed_gap _).append
            ((composed_labelled (.plain (by decide)) v.p90).append ((composed_gap _).append
              (composed_labelled (.plain (by decide)) v.p95))))))))))
  | gauge which v =>
    exact (composed_count v.value).append
      ((composed_labelledCount (.label (by decide)) _ v.min).append
        (composed_labelledCount (.label (by decide)) _ v.max))
  | transfer which v =>
    exact (composed_quantity v.total).append ((composed_gap _).append
      ((composed_quantity v.rate).append (.plain (by decide))))

theorem not_initial_of_isPlain {c : Char} (h : isPlain c = true) : c ∉ initials := by
  have hinitials : ∀ d ∈ initials, isPlain d = false := by decide
  intro hc
  rw [hinitials c hc] at h
  cases h

theorem eq_of_isMark {c : Char} (h : isMark c = true) : c = '✓' ∨ c = '✗' := by
  simpa [isMark] using h

theorem not_isMark_of_isPlain {c : Char} (h : isPlain c = true) : isMark c = false := by
  by_contra hc
  rw [Bool.not_eq_false] at hc
  rcases eq_of_isMark hc with rfl | rfl <;> exact absurd h (by decide)

/-- Where a label has the initial of a name, it is inside a word. -/
theorem Composed.passedOver {xs : List Char} (hname : IsName name) (h : Composed xs) :
    PassedOver name xs := by
  have hlabel : ∀ c d e : Char, c ∉ initials → (∀ x ∈ [c, d, e], isWordChar x = true) →
      PassedOver name ([c, d, e] ++ ['=']) := fun c d e hc hword =>
    (passedOver_word hname hc hword).append (passedOver_of_forall hname (by decide))
  induction h with
  | plain h => exact passedOver_of_forall hname fun c hc => not_initial_of_isPlain (h c hc)
  | label h =>
    simp only [List.mem_cons, List.not_mem_nil, or_false] at h
    rcases h with rfl | rfl | rfl | rfl
    · exact hlabel 'a' 'v' 'g' (by decide) (by decide)
    · exact hlabel 'm' 'i' 'n' (by decide) (by decide)
    · exact hlabel 'm' 'e' 'd' (by decide) (by decide)
    · exact hlabel 'm' 'a' 'x' (by decide) (by decide)
  | append _ _ hxs hys => exact hxs.append hys

theorem Composed.not_isMark {xs : List Char} (h : Composed xs) : ∀ c ∈ xs, isMark c = false := by
  induction h with
  | plain h => exact fun c hc => not_isMark_of_isPlain (h c hc)
  | label h =>
    simp only [List.mem_cons, List.not_mem_nil, or_false] at h
    rcases h with rfl | rfl | rfl | rfl <;> decide
  | append _ _ hxs hys =>
    intro c hc
    rcases List.mem_append.1 hc with hc | hc
    · exact hxs c hc
    · exact hys c hc

/-! ## Names of the layout -/

theorem CounterName.isName (which : CounterName) : IsName which.text.toList := by
  cases which <;> decide

theorem ShareName.isName (which : ShareName) : IsName which.text.toList := by
  cases which <;> decide

theorem TrendName.isName (which : TrendName) : IsName which.text.toList := by
  cases which <;> decide

theorem GaugeName.isName (which : GaugeName) : IsName which.text.toList := by
  cases which <;> decide

theorem TransferName.isName (which : TransferName) : IsName which.text.toList := by
  cases which <;> decide

theorem Entry.isName (e : Entry) : IsName e.name.toList := by
  cases e with
  | counter which v => exact which.isName
  | share which v => exact which.isName
  | trend which v => exact which.isName
  | gauge which v => exact which.isName
  | transfer which v => exact which.isName

/-- A name that is looked for, and the scan of its values. -/
structure Searched (name : String) (values : Scan α) : Prop where
  isName : IsName name.toList
  endsAtArrow : values.EndsAtArrow
  absent : ∀ cs, holdsSection cs = false → find name values cs = none

/-- What a text without sections lacks. -/
structure Bare (cs : List Char) : Prop where
  counter : ∀ which : CounterName, find which.text .counter cs = none
  share : ∀ which : ShareName, find which.text .share cs = none
  markedShare : ∀ name ∈ ["checks", "http_req_failed"], find name .markedShare cs = none
  trend : ∀ which : TrendName, find which.text .trend cs = none
  gauge : ∀ which : GaugeName, find which.text .gauge cs = none
  transfer : ∀ which : TransferName, find which.text .transfer cs = none

theorem bare_of_holdsSection {cs : List Char} (h : holdsSection cs = false) : Bare cs := by
  simp only [holdsSection, Bool.or_eq_false_iff, List.any_cons, List.any_nil,
    Option.isSome_eq_false_iff, Option.isNone_iff_eq_none] at h
  obtain ⟨⟨⟨⟨⟨hcounter, hshare⟩, hmarked⟩, htrend⟩, hgauge⟩, htransfer⟩ := h
  refine ⟨?_, ?_, ?_, ?_, ?_, ?_⟩
  · rintro (_ | _ | _)
    exacts [hcounter.1, hcounter.2.1, hcounter.2.2.1]
  · rintro (_ | _)
    exacts [hshare.1, hshare.2.1]
  · simpa using hmarked
  · rintro (_ | _)
    exacts [htrend.1, htrend.2.1]
  · rintro (_ | _)
    exacts [hgauge.1, hgauge.2.1]
  · rintro (_ | _)
    exacts [htransfer.1, htransfer.2.1]

/-- A text without the names of metrics. -/
theorem holdsSection_of_absent {cs : List Char}
    (h : ∀ name ∈ ["checks", "checks_total", "checks_succeeded", "http_reqs", "http_req_failed",
      "http_req_duration", "iterations", "iteration_duration", "vus", "vus_max", "data_received",
      "data_sent"], ¬ name.toList <:+: cs) : holdsSection cs = false := by
  simp only [List.forall_mem_cons, List.not_mem_nil, false_implies, implies_true, and_true] at h
  simp only [holdsSection, find, findSection_of_absent, h, List.any_cons, List.any_nil,
    not_false_eq_true, Option.isSome_none, Bool.or_self]

theorem searched_counter (which : CounterName) : Searched which.text Scan.counter where
  isName := which.isName
  endsAtArrow := Scan.endsAtArrow_counter
  absent _ h := (bare_of_holdsSection h).counter which

theorem searched_share (which : ShareName) : Searched which.text Scan.share where
  isName := which.isName
  endsAtArrow := Scan.endsAtArrow_share
  absent _ h := (bare_of_holdsSection h).share which

theorem searched_markedShare {name : String} (h : name ∈ ["checks", "http_req_failed"]) :
    Searched name Scan.markedShare where
  isName := by
    simp only [List.mem_cons, List.not_mem_nil, or_false] at h
    rcases h with rfl | rfl <;> decide
  endsAtArrow := Scan.endsAtArrow_markedShare
  absent _ hcs := (bare_of_holdsSection hcs).markedShare name h

theorem searched_trend (which : TrendName) : Searched which.text Scan.trend where
  isName := which.isName
  endsAtArrow := Scan.endsAtArrow_trend
  absent _ h := (bare_of_holdsSection h).trend which

theorem searched_gauge (which : GaugeName) : Searched which.text Scan.gauge where
  isName := which.isName
  endsAtArrow := Scan.endsAtArrow_gauge
  absent _ h := (bare_of_holdsSection h).gauge which

theorem searched_transfer (which : TransferName) : Searched which.text Scan.transfer where
  isName := which.isName
  endsAtArrow := Scan.endsAtArrow_transfer
  absent _ h := (bare_of_holdsSection h).transfer which

/-! ## Lines -/

theorem Entry.stops_values (e : Entry) (rest : List Char) :
    Stops isSeparator (e.valuesChars ++ rest) := by
  have hdigit : ∀ c, c.isDigit = true → isSeparator c = false := by
    intro c hc
    have hdot : c ≠ '.' := by
      rintro rfl
      exact absurd hc (by decide)
    have hcolon : c ≠ ':' := by
      rintro rfl
      exact absurd hc (by decide)
    simp [isSeparator, hdot, hcolon, not_isWhite_of_isDigit hc]
  cases e with
  | counter which v =>
    simp only [valuesChars, CounterValues.chars, List.append_assoc]
    exact v.total.stops hdigit _
  | share which v =>
    simp only [valuesChars, ShareValues.chars, List.append_assoc]
    exact v.percentage.stops hdigit _
  | trend which v => rfl
  | gauge which v =>
    simp only [valuesChars, GaugeValues.chars, List.append_assoc]
    exact v.value.stops hdigit _
  | transfer which v =>
    simp only [valuesChars, TransferValues.chars, Quantity.chars, List.append_assoc]
    exact v.total.amount.stops hdigit _

theorem not_isWordChar_of_isBlank {c : Char} (h : isBlank c = true) : isWordChar c = false := by
  rcases eq_of_isBlank h with rfl | rfl <;> decide +kernel

theorem startsWord_getLast? {xs : List Char} {before : Option Char}
    (hxs : ∀ c ∈ xs, isWordChar c = false) (hbefore : startsWord before = true) :
    startsWord (xs.getLast?.or before) = true := by
  rcases hlast : xs.getLast? with _ | c
  · exact hbefore
  · show (!isWordChar c) = true
    rw [hxs c (List.mem_of_getLast? hlast)]
    rfl

theorem Row.not_isWordChar_separator (r : Row) : ∀ c ∈ r.separator, isWordChar c = false := by
  intro c hc
  rcases r.mem_separator c hc with rfl | rfl | rfl <;> decide +kernel

section Lines

variable {name : String} {values : Scan α} {before : Option Char} {rest : List Char}

theorem passedOver_margin {margin : List Char} (hname : IsName name.toList)
    (h : ∀ c ∈ margin, isBlank c = true) : PassedOver name.toList margin := by
  refine passedOver_of_forall hname fun c hc => ?_
  rcases eq_of_isBlank (h c hc) with rfl | rfl <;> decide

theorem findSection_lineFeed (hname : IsName name.toList) (rest : List Char) :
    findSection name.toList values before ('\n' :: rest) =
      findSection name.toList values (some '\n') rest :=
  findSection_cons_of_none (sectionAt_initial hname (by decide))

theorem passedOver_sign {c : Char} (hname : IsName name.toList) (hc : c ∉ initials) :
    PassedOver name.toList [c] :=
  passedOver_of_forall hname (by simpa using hc)

theorem passedOver_detail (hname : IsName name.toList) (c : CheckLines) :
    PassedOver name.toList c.detail := by
  have hgap : ∀ n, PassedOver name.toList (gap n) := fun n => (composed_gap n).passedOver hname
  refine (passedOver_margin hname c.isBlank_detailMargin).append ?_
  refine (passedOver_sign hname (by decide)).append ((hgap _).append ?_)
  refine ((composed_amount c.percentage).passedOver hname).append ?_
  refine (passedOver_sign hname (by decide)).append ((hgap _).append ?_)
  refine (passedOver_sign hname (by decide)).append ((hgap _).append ?_)
  refine (passedOver_sign hname (by decide)).append ((hgap _).append ?_)
  refine ((composed_count c.passes).passedOver hname).append ((hgap _).append ?_)
  refine (passedOver_sign hname (by decide)).append ((hgap _).append ?_)
  refine (passedOver_sign hname (by decide)).append ((hgap _).append ?_)
  exact (composed_count c.fails).passedOver hname

theorem mem_opening {c : CheckLines} {d : Char} (hd : d ∈ c.opening) :
    d = '✓' ∨ d = '✗' ∨ d = ' ' := by
  rcases List.mem_cons.1 hd with rfl | hd
  · split_ifs
    · exact .inl rfl
    · exact .inr (.inl rfl)
  · exact .inr (.inr (mem_gap hd))

theorem atArrow_detail (c : CheckLines) (rest : List Char) :
    AtArrow ('\n' :: (c.detail ++ rest)) := by
  unfold CheckLines.detail
  simp only [List.append_assoc, List.singleton_append]
  exact ⟨c.detailMargin, _, c.isBlank_detailMargin, rfl⟩

theorem findSection_blank (hname : IsName name.toList) {margin : List Char}
    (h : ∀ c ∈ margin, isBlank c = true) :
    findSection name.toList values before ((Line.blank margin h).chars ++ rest) =
      findSection name.toList values (some '\n') rest := by
  unfold Line.chars
  rw [List.append_assoc, passedOver_margin hname h, List.singleton_append,
    findSection_lineFeed hname]

theorem findSection_check (c : CheckLines) (h : Searched name values)
    (hbare : (Line.check c).isBare = true) (hbefore : startsWord before = true) :
    findSection name.toList values before ((Line.check c).chars ++ rest) =
      findSection name.toList values (some '\n') rest := by
  have hopening : PassedOver name.toList c.opening := by
    refine passedOver_of_forall h.isName fun d hd => ?_
    rcases mem_opening hd with rfl | rfl | rfl <;> decide
  have hstarts : startsWord (c.opening.getLast?.or (c.margin.getLast?.or before)) = true := by
    refine startsWord_getLast? (fun d hd => ?_) (startsWord_getLast?
      (fun d hd => not_isWordChar_of_isBlank (c.isBlank_margin d hd)) hbefore)
    rcases mem_opening hd with rfl | rfl | rfl <;> decide +kernel
  have habsent := h.absent c.name.toList (by simpa [Line.isBare] using hbare)
  rw [find, findSection_congr (show startsWord none = _ from hstarts.symm)] at habsent
  unfold Line.chars CheckLines.chars
  simp only [List.append_assoc, List.cons_append, List.nil_append]
  rw [passedOver_margin h.isName c.isBlank_margin, hopening, findSection_append_atArrow h.isName
    h.endsAtArrow (atArrow_detail c _) habsent, findSection_lineFeed h.isName,
    passedOver_detail h.isName, findSection_lineFeed h.isName]

theorem findSection_row_own (r : Row) {a : α} (hr : r.entry.name = name)
    (hbefore : startsWord before = true)
    (h : Scan.Takes values r.entry.valuesChars a ('\n' :: rest)) :
    findSection name.toList values before ((Line.row r).chars ++ rest) = some a := by
  have hname := r.entry.isName
  rw [hr] at hname
  have hstarts : startsWord (r.margin.getLast?.or before) = true := startsWord_getLast?
    (fun c hc => not_isWordChar_of_isBlank (r.isBlank_margin c hc)) hbefore
  have hseparator : ∀ c ∈ r.separator, isSeparator c = true := by
    intro c hc
    rcases r.mem_separator c hc with rfl | rfl | rfl <;> decide
  unfold Line.chars Row.chars
  simp only [List.append_assoc, List.singleton_append]
  rw [passedOver_margin hname r.isBlank_margin, hr]
  exact findSection_own hname hstarts r.separator_ne_nil hseparator
    (r.entry.stops_values _) h

theorem findSection_row_other (r : Row) (hname : IsName name.toList) (hr : r.entry.name ≠ name) :
    findSection name.toList values before ((Line.row r).chars ++ rest) =
      findSection name.toList values (some '\n') rest := by
  have hseparator : PassedOver name.toList r.separator := by
    refine passedOver_of_forall hname fun c hc => ?_
    rcases r.mem_separator c hc with rfl | rfl | rfl <;> decide
  have hstops : ∀ cs, Stops isWordChar (r.separator ++ cs) := fun cs =>
    stops_append r.separator_ne_nil r.not_isWordChar_separator
  unfold Line.chars Row.chars
  simp only [List.append_assoc]
  rw [passedOver_margin hname r.isBlank_margin, findSection_other hname r.entry.isName
    (fun h => hr (String.ext h)) (hstops _), hseparator, (composed_values r.entry).passedOver hname,
    List.singleton_append, findSection_lineFeed hname]

/-- What a search makes of a metric: nothing, or the texts of its values. -/
inductive Reads {β : Type} (name : String) (values : Scan α) (pick : Entry → Option β)
    (texts : β → α) (e : Entry) : Prop
  | other : e.name ≠ name → pick e = none → Reads name values pick texts e
  | own (v : β) : e.name = name → pick e = some v →
      (∀ rest, Scan.Takes values e.valuesChars (texts v) ('\n' :: rest)) →
      Reads name values pick texts e

variable {β : Type} {pick : Entry → Option β} {texts : β → α} {lines : List Line}

theorem findSection_lines (h : Searched name values)
    (hbare : ∀ line ∈ lines, line.isBare = true)
    (hreads : ∀ e ∈ entries lines, Reads name values pick texts e)
    (hbefore : startsWord before = true) :
    findSection name.toList values before (lines.flatMap Line.chars) =
      ((entries lines).findSome? pick).map texts := by
  induction lines generalizing before with
  | nil => rfl
  | cons line lines ih =>
    have hlineFeed : startsWord (some '\n') = true := by decide +kernel
    have ih := fun h => ih (fun l hl => hbare l (List.mem_cons_of_mem line hl)) h hlineFeed
    rw [List.flatMap_cons]
    cases line with
    | blank margin hmargin =>
      rw [findSection_blank h.isName]
      exact ih hreads
    | check c =>
      rw [findSection_check c h (hbare _ List.mem_cons_self) hbefore]
      exact ih hreads
    | row r =>
      have hentries : entries (.row r :: lines) = r.entry :: entries lines := rfl
      rw [hentries] at hreads ⊢
      rcases hreads r.entry List.mem_cons_self with ⟨hother, hpick⟩ | ⟨v, hown, hpick, htakes⟩
      · rw [findSection_row_other r h.isName hother, List.findSome?_cons, hpick,
          ih fun e he => hreads e (List.mem_cons_of_mem _ he)]
      · rw [findSection_row_own r hown hbefore (htakes _), List.findSome?_cons, hpick]
        rfl

theorem find_lines (h : Searched name values) (hbare : ∀ line ∈ lines, line.isBare = true)
    (hreads : ∀ e ∈ entries lines, Reads name values pick texts e) :
    find name values (lines.flatMap Line.chars) = ((entries lines).findSome? pick).map texts :=
  findSection_lines h hbare hreads rfl

end Lines

end LoadTest.Report.Layout
