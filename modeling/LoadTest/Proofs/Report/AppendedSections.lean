import LoadTest.Proofs.Report.Sections
import LoadTest.Proofs.Report.Spared

/-!
# Sections of a report that goes on

A section that a text holds up to the end of a line holds the same values when the text goes on, as
its values end before that line does and no longer separator comes up (`KeepsSeparator`). A section
that would start further in front and only be complete with what follows would have to go over the
name of the section that was found, and each name has a letter that no values go over
(`sectionAt_in_front`). So the section that was found stays the first one
(`findSection_append_of_some`), and what a report says in the sections with one layout it says
whatever comes behind it (`sectionsKept_summary_append`).
-/

namespace LoadTest

namespace Report

variable {α β : Type} {name cs : List Char} {a : α}

namespace Scan

variable {barrier : Char} {values : Scan α}

/-! ## Separators -/

/-- Where values are found and none behind a longer separator, there are none behind a longer
separator either when the text goes on. -/
def KeepsSeparator (values : Scan α) : Prop :=
  ∀ cs a rest, values cs = some (a, rest) → behindSeparator values cs = none →
    ∀ more, behindSeparator values (cs ++ more) = none

/-- Where no separator starts the values, there is only one separator for them. -/
theorem EndsWithin.keepsSeparator (hvalues : EndsWithin barrier values)
    (h : ∀ c, isSeparator c = true → values.Refuses c) : KeepsSeparator values := by
  intro cs a rest hsome _ more
  obtain ⟨used, c, -, hcs⟩ := hvalues.exists_last cs a rest hsome
  rcases cs with _ | ⟨d, cs⟩
  · simp at hcs
  · refine behindSeparator_of_not (Bool.eq_false_iff.2 fun hd => ?_) (cs ++ more)
    rw [h d hd] at hsome
    cases hsome

theorem not_isScriptDigit_of_isSeparator {c : Char} (h : isSeparator c = true) :
    isScriptDigit c = false := by
  simp only [isSeparator, Bool.or_eq_true, decide_eq_true_eq] at h
  rcases h with (rfl | rfl) | h
  · decide
  · decide
  · refine Bool.eq_false_iff.2 fun hdigit => ?_
    rw [not_isWhite_of_isScriptDigit hdigit] at h
    cases h

theorem keepsSeparator_counter : KeepsSeparator counter :=
  endsWithin_counter.keepsSeparator fun _ hc =>
    (refuses_run (not_isScriptDigit_of_isSeparator hc)).bind

theorem keepsSeparator_gauge : KeepsSeparator gauge :=
  endsWithin_gauge.keepsSeparator fun _ hc =>
    (refuses_run (not_isScriptDigit_of_isSeparator hc)).bind

theorem keepsSeparator_trend : KeepsSeparator trend := by
  refine endsWithin_trend.keepsSeparator fun c hc => (refuses_labelled rfl ?_).bind
  rintro rfl
  exact absurd hc (by decide)

section Bytes

variable {c : Char} {rest text : List Char}

/-- An amount of bytes whose number starts one character later. -/
theorem bytes_of_cons (hc : Duration.isReportDigit c = true)
    (hcs : cs.takeWhile Duration.isReportDigit ≠ []) (h : bytes (c :: cs) = some (text, rest)) :
    ∃ text', bytes cs = some (text', rest) := by
  obtain ⟨number, mid, hnumber, hnext⟩ := bind_eq_some.1 h
  obtain ⟨-, -, rfl⟩ := run_eq_some.1 hnumber
  rw [List.dropWhile_cons_of_pos hc] at hnext
  obtain ⟨blanks, behind, hblanks, hnext⟩ := bind_eq_some.1 hnext
  obtain ⟨unit, rest', hunit, hpure⟩ := bind_eq_some.1 hnext
  obtain ⟨-, rfl⟩ := Prod.mk.inj (Option.some.inj hpure)
  exact ⟨_, bind_eq_some.2 ⟨_, _, run_eq_some.2 ⟨hcs, rfl, rfl⟩,
    bind_eq_some.2 ⟨blanks, behind, hblanks, bind_eq_some.2 ⟨unit, _, hunit, rfl⟩⟩⟩⟩

/-- Behind a number of one character no number starts up to the unit. -/
theorem exists_unit_of_bytes (hc : Duration.isReportDigit c = true)
    (hcs : cs.takeWhile Duration.isReportDigit = []) (h : bytes (c :: cs) = some (text, rest)) :
    ∃ xs u tail, cs = xs ++ u :: tail ∧ isSeparator u = false ∧
      ∀ d ∈ xs ++ [u], Duration.isReportDigit d = false := by
  obtain ⟨number, mid, hnumber, hnext⟩ := bind_eq_some.1 h
  obtain ⟨-, -, rfl⟩ := run_eq_some.1 hnumber
  have hdrop : cs.dropWhile Duration.isReportDigit = cs := by
    have := List.takeWhile_append_dropWhile (p := Duration.isReportDigit) (l := cs)
    rwa [hcs, List.nil_append] at this
  rw [List.dropWhile_cons_of_pos hc, hdrop] at hnext
  obtain ⟨blanks, behind, hblanks, hnext⟩ := bind_eq_some.1 hnext
  obtain ⟨-, -, rfl⟩ := run_eq_some.1 hblanks
  obtain ⟨unit, rest', hunit, -⟩ := bind_eq_some.1 hnext
  have hblank : ∀ d ∈ cs.takeWhile isWhite, Duration.isReportDigit d = false := fun d hd =>
    not_isReportDigit_of_isWhite (List.mem_takeWhile_imp hd)
  obtain ⟨hmem, hbehind⟩ := (picks_bytesUnit _ _ _).1 hunit
  obtain ⟨u, tail, rfl, hseparator, hdigit⟩ : ∃ u tail, unit = u :: tail ∧
      isSeparator u = false ∧ Duration.isReportDigit u = false := by
    simp only [bytesUnits, List.mem_cons, List.not_mem_nil, or_false] at hmem
    rcases hmem with rfl | rfl | rfl | rfl | rfl | rfl <;> exact ⟨_, _, rfl, by decide, by decide⟩
  refine ⟨cs.takeWhile isWhite, u, tail ++ rest', ?_, hseparator, ?_⟩
  · rw [← List.cons_append, ← hbehind, List.takeWhile_append_dropWhile]
  · exact List.forall_mem_append.2 ⟨hblank, List.forall_mem_singleton.2 hdigit⟩

end Bytes

theorem keepsSeparator_transfer : KeepsSeparator transfer := by
  intro cs a rest hsome hnone more
  have hrefuses : ∀ c, Duration.isReportDigit c = false → transfer.Refuses c := fun c hc =>
    (refuses_run hc).bind.bind
  obtain ⟨total, mid, hbytes, hnext⟩ := bind_eq_some.1 hsome
  rcases cs with _ | ⟨c, cs⟩
  · cases hbytes
  by_cases hseparator : isSeparator c = false
  · exact behindSeparator_of_not hseparator _
  rw [Bool.not_eq_false] at hseparator
  have hc : Duration.isReportDigit c = true := by
    refine Bool.of_not_eq_false fun hc => ?_
    rw [hrefuses c hc] at hsome
    cases hsome
  obtain ⟨-, hlater⟩ := (behindSeparator_cons_eq_none hseparator).1 hnone
  by_cases hcs : cs.takeWhile Duration.isReportDigit = []
  · obtain ⟨xs, u, tail, rfl, hu, hdigit⟩ := exists_unit_of_bytes hc hcs hbytes
    rw [List.cons_append, List.append_assoc]
    exact behindSeparator_of_refuses (fun d hd => hrefuses d (hdigit d hd)) hu (tail ++ more)
  · -- a longer separator leaves a shorter number in front of the same unit
    obtain ⟨total', hbytes'⟩ := bytes_of_cons hc hcs hbytes
    obtain ⟨blanks, behind, hblanks, hnext⟩ := bind_eq_some.1 hnext
    obtain ⟨rate, behind', hrate, hnext⟩ := bind_eq_some.1 hnext
    obtain ⟨_, rest', hper, hpure⟩ := bind_eq_some.1 hnext
    have hsome' : transfer cs = some ((total', rate), rest') :=
      bind_eq_some.2 ⟨total', mid, hbytes', bind_eq_some.2 ⟨blanks, behind, hblanks,
        bind_eq_some.2 ⟨rate, behind', hrate, bind_eq_some.2 ⟨_, _, hper, rfl⟩⟩⟩⟩
    rw [hlater] at hsome'
    cases hsome'

end Scan

/-! ## Searching a text that goes on -/

section Search

variable {values : Scan α} {before : Option Char} {barrier : Char}

/-- In front of the character, the values behind a separator do not depend on what stands behind
it. -/
theorem behindSeparator_in_front (hvalues : Scan.Spares barrier values)
    (hbarrier : isSeparator barrier = false) {xs ys : List Char}
    (h : behindSeparator values (xs ++ barrier :: ys) = none) (ys' : List Char) :
    behindSeparator values (xs ++ barrier :: ys') = none := by
  induction xs with
  | nil => exact behindSeparator_of_not hbarrier ys'
  | cons c xs ih =>
    by_cases hc : isSeparator c = true
    · obtain ⟨hlater, hhere⟩ := (behindSeparator_cons_eq_none hc).1 h
      exact (behindSeparator_cons_eq_none hc).2 ⟨ih hlater, hvalues.eq_none hhere ys'⟩
    · exact behindSeparator_of_not (by simpa using hc) _

theorem startsWord_in_word {c : Char} {xs : List Char} (h : ∀ d ∈ c :: xs, isWordChar d = true) :
    startsWord (xs.getLast?.or (some c)) = false := by
  rcases hlast : xs.getLast? with _ | d
  · show (!isWordChar c) = false
    rw [h c List.mem_cons_self]
    rfl
  · show (!isWordChar d) = false
    rw [h d (List.mem_cons_of_mem c (List.mem_of_getLast? hlast))]
    rfl

/-- A section further in front would go over the name of the one that was found. -/
theorem sectionAt_in_front (hvalues : Scan.Spares barrier values) (hname : IsName name)
    (hbarrier : barrier ∈ name) {c : Char}
    (hhere : sectionAt name values before (c :: cs) = none)
    (h : findSection name values (some c) cs = some a) (more : List Char) :
    sectionAt name values before (c :: cs ++ more) = none := by
  obtain ⟨xs, behind, rfl, hword, -⟩ := exists_name_of_findSection h
  by_cases hstart : name <+: c :: (xs ++ (name ++ behind)) ++ more
  · obtain ⟨tail, htail⟩ := hstart
    have hsplit : (c :: xs) ++ (name ++ (behind ++ more)) = name ++ tail := by
      simpa using htail.symm
    rcases List.append_eq_append_iff.1 hsplit with ⟨zs, hzs, -⟩ | ⟨zs, hzs, -⟩
    · -- the two names would overlap, but the second one starts a word
      refine absurd hword (Bool.eq_false_iff.1 (startsWord_in_word fun d hd => ?_))
      exact (hname.2 d (by rw [hzs]; exact List.mem_append_left _ hd)).1
    · -- the values would have to go over the second name
      have hfront : ∀ t, c :: (xs ++ t) = name ++ (zs ++ t) := fun t => by
        rw [← List.cons_append, hzs, List.append_assoc]
      obtain ⟨ys, ys', hys⟩ := List.append_of_mem hbarrier
      have hinside : ∀ t, zs ++ (name ++ t) = zs ++ ys ++ barrier :: (ys' ++ t) := fun t => by
        simp [hys]
      rw [hfront, sectionAt_append_name, hinside] at hhere
      rw [List.cons_append, List.append_assoc, List.append_assoc, hfront, sectionAt_append_name,
        hinside]
      split_ifs at hhere ⊢
      · exact behindSeparator_in_front hvalues (hname.2 barrier hbarrier).2 hhere _
      · rfl
  · exact sectionAt_elsewhere hstart

theorem getLast?_of_append (xs : List Char) {d : Char} (h : (xs ++ cs).getLast? = some d)
    (hne : cs ≠ []) : cs.getLast? = some d := by
  rwa [List.getLast?_append, Option.or_of_isSome (by simpa using hne)] at h

section AtLineEnd

variable (hvalues : values.EndsWithin barrier) (hkeeps : values.KeepsSeparator)
  (hline : cs.getLast? = some '\n')
include hvalues hkeeps hline

theorem behindSeparator_append_of_some (h : behindSeparator values cs = some a)
    (more : List Char) : behindSeparator values (cs ++ more) = some a := by
  induction cs with
  | nil => cases h
  | cons c cs ih =>
    have hc : isSeparator c = true := by
      by_contra hc
      rw [behindSeparator_of_not (by simpa using hc)] at h
      cases h
    rw [List.cons_append, behindSeparator, if_pos hc]
    rw [behindSeparator, if_pos hc] at h
    cases hlater : behindSeparator values cs with
    | some b =>
      have hne : cs ≠ [] := by
        rintro rfl
        cases hlater
      rw [hlater] at h ih
      rw [ih (getLast?_of_append [c] hline hne) h]
    | none =>
      rw [hlater] at h
      obtain ⟨⟨b, rest⟩, hhere, rfl⟩ := Option.map_eq_some_iff.1 h
      obtain ⟨used, d, hd, hcs⟩ := hvalues.exists_last cs b rest hhere
      have hne : rest ≠ [] := by
        rintro rfl
        have hlast := getLast?_of_append [c] hline (by simp [hcs])
        rw [hcs, List.getLast?_concat] at hlast
        exact hd (Option.some.inj hlast)
      rw [hkeeps cs b rest hhere hlater more, hvalues.spares.extend hhere hne more]
      rfl

theorem sectionAt_append_of_some (h : sectionAt name values before cs = some a)
    (more : List Char) : sectionAt name values before (cs ++ more) = some a := by
  obtain ⟨tail, rfl⟩ : name <+: cs := by
    by_contra hstart
    rw [sectionAt_elsewhere hstart] at h
    cases h
  rw [sectionAt_append_name] at h
  rw [List.append_assoc, sectionAt_append_name]
  split_ifs at h ⊢ with hbefore
  have hne : tail ≠ [] := by
    rintro rfl
    cases h
  exact behindSeparator_append_of_some hvalues hkeeps (getLast?_of_append name hline hne) h more

/-- The first section stays the first one. -/
theorem findSection_append_of_some (hname : IsName name) (hbarrier : barrier ∈ name)
    (h : findSection name values before cs = some a) (more : List Char) :
    findSection name values before (cs ++ more) = some a := by
  induction cs generalizing before with
  | nil => cases h
  | cons c cs ih =>
    cases hhere : sectionAt name values before (c :: cs) with
    | some b =>
      rw [findSection, hhere] at h
      have hhere' := sectionAt_append_of_some hvalues hkeeps hline hhere more
      rw [List.cons_append] at hhere' ⊢
      rw [findSection, hhere']
      exact h
    | none =>
      rw [findSection_cons_of_none hhere] at h
      have hhere' := sectionAt_in_front hvalues.spares hname hbarrier hhere h more
      have hne : cs ≠ [] := by
        rintro rfl
        cases h
      rw [List.cons_append] at hhere' ⊢
      rw [findSection_cons_of_none hhere', ih (getLast?_of_append [c] hline hne) h]

/-- What is read from a section that a report holds up to the end of a line. -/
theorem bind_find_append {name : String} {read : α → Option β} {b : β}
    (hname : IsName name.toList) (hbarrier : barrier ∈ name.toList)
    (h : (find name values cs).bind read = some b) (more : List Char) :
    (find name values (cs ++ more)).bind read = some b := by
  obtain ⟨a, hfind, hread⟩ := Option.bind_eq_some_iff.1 h
  exact Option.bind_eq_some_iff.2
    ⟨a, findSection_append_of_some hvalues hkeeps hline hname hbarrier hfind more, hread⟩

end AtLineEnd

end Search

end Report

/-- Whatever the first metrics report of a section with one layout, the second report too. -/
structure Metrics.SectionsKept (m m' : Metrics) : Prop where
  checksTotal : ∀ v, m.checksTotal = some v → m'.checksTotal = some v
  httpReqDuration : ∀ v, m.httpReqDuration = some v → m'.httpReqDuration = some v
  httpReqs : ∀ v, m.httpReqs = some v → m'.httpReqs = some v
  iterationDuration : ∀ v, m.iterationDuration = some v → m'.iterationDuration = some v
  iterations : ∀ v, m.iterations = some v → m'.iterations = some v
  vus : ∀ v, m.vus = some v → m'.vus = some v
  vusMax : ∀ v, m.vusMax = some v → m'.vusMax = some v
  dataReceived : ∀ v, m.dataReceived = some v → m'.dataReceived = some v
  dataSent : ∀ v, m.dataSent = some v → m'.dataSent = some v

namespace Report

section Append

variable {β : Type} {raw : List Char}

theorem bind_counter_append (hline : raw.getLast? = some '\n') (which : Layout.CounterName)
    {read : List Char × List Char → Option β} {b : β} (more : List Char)
    (h : (find which.text .counter raw).bind read = some b) :
    (find which.text .counter (raw ++ more)).bind read = some b :=
  bind_find_append Scan.endsWithin_counter Scan.keepsSeparator_counter hline which.isName
    (by cases which <;> decide) h more

theorem trend?_append (hline : raw.getLast? = some '\n') (which : Layout.TrendName)
    {stats : DurationStats} (more : List Char) (h : trend? which.text raw = some stats) :
    trend? which.text (raw ++ more) = some stats :=
  bind_find_append Scan.endsWithin_trend Scan.keepsSeparator_trend hline which.isName
    (by cases which <;> decide) h more

theorem gauge?_append (hline : raw.getLast? = some '\n') (which : Layout.GaugeName)
    {gauge : UInt64 × UInt64 × UInt64} (more : List Char)
    (h : gauge? which.text raw = some gauge) : gauge? which.text (raw ++ more) = some gauge :=
  bind_find_append Scan.endsWithin_gauge Scan.keepsSeparator_gauge hline which.isName
    (by cases which <;> decide) h more

theorem transfer?_append (hline : raw.getLast? = some '\n') (which : Layout.TransferName)
    {amounts : DataTransfer} (more : List Char) (h : transfer? which.text raw = some amounts) :
    transfer? which.text (raw ++ more) = some amounts :=
  bind_find_append Scan.endsWithin_transfer Scan.keepsSeparator_transfer hline which.isName
    (by cases which <;> decide) h more

theorem map_gauge?_append (hline : raw.getLast? = some '\n') (which : Layout.GaugeName)
    {read : UInt64 × UInt64 × UInt64 → β} {b : β} (more : List Char)
    (h : (gauge? which.text raw).map read = some b) :
    (gauge? which.text (raw ++ more)).map read = some b := by
  obtain ⟨gauge, hgauge, rfl⟩ := Option.map_eq_some_iff.1 h
  exact Option.map_eq_some_iff.2 ⟨gauge, gauge?_append hline which more hgauge, rfl⟩

end Append

/-- What a report says in these sections up to the end of a line it says whatever follows. -/
theorem sectionsKept_summary_append {first second : String}
    (hfirst : first.toList.getLast? = some '\n') :
    (summary first).SectionsKept (summary (first ++ second)) := by
  rw [summary_eq_fillAll, summary_eq_fillAll, Layout.fillAll_sections, Layout.fillAll_sections,
    String.toList_append]
  exact {
    checksTotal := fun _ => bind_counter_append hfirst .checksTotal _
    httpReqDuration := fun _ => trend?_append hfirst .requestDuration _
    httpReqs := fun _ => bind_counter_append hfirst .requests _
    iterationDuration := fun _ => trend?_append hfirst .iterationDuration _
    iterations := fun _ => bind_counter_append hfirst .iterations _
    vus := fun _ => map_gauge?_append hfirst .vus _
    vusMax := fun _ => map_gauge?_append hfirst .vusMax _
    dataReceived := fun _ => transfer?_append hfirst .received _
    dataSent := fun _ => transfer?_append hfirst .sent _ }

/-- Other values of the same section come behind it. -/
theorem sectionsKept_summary_append_gauges :
    "vus: 1 min=1 max=3\n".toList.getLast? = some '\n' ∧
      (summary "vus: 1 min=1 max=3\n").vus = some ⟨1, 1, 3⟩ ∧
      (summary ("vus: 1 min=1 max=3\n" ++ "0 max=4\nvus: 2 min=2 max=2")).vus =
        some ⟨1, 1, 3⟩ := by
  have hline : "vus: 1 min=1 max=3\n".toList.getLast? = some '\n' := by decide
  have hvus : (summary "vus: 1 min=1 max=3\n").vus = some ⟨1, 1, 3⟩ := by
    rw [summary_eq_fillAll, Layout.fillAll_sections]
    decide +kernel
  exact ⟨hline, hvus, (sectionsKept_summary_append hline).vus _ hvus⟩

end Report

end LoadTest
