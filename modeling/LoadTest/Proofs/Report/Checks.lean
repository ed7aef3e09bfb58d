import LoadTest.Proofs.Report.Rows

/-!
# Checks of the newer layout

Marks only stand in the lines of checks, so everything else is passed over (`rawChecks_append`). A
check is read from its first mark to its last count, whatever its name is made of
(`checkBehindMark_chars`), and so the checks of a report are those of its lines
(`individualChecks_lines`).
-/

namespace LoadTest.Report.Layout

open Scan

/-! ## Trimmed names -/

section Trimmed

variable {cs : List Char}

theorem dropWhile_of_trimmed (h : trimChars cs = cs) :
    cs.dropWhile isWhite = cs ∧ cs.reverse.dropWhile isWhite = cs.reverse := by
  have hfront := List.dropWhile_sublist (l := cs) isWhite
  have hback := List.dropWhile_sublist (l := (cs.dropWhile isWhite).reverse) isWhite
  have hlength := congrArg List.length h
  have hbackLength := hback.length_le
  rw [trimChars, List.length_reverse] at hlength
  rw [List.length_reverse] at hbackLength
  have hdrop : cs.dropWhile isWhite = cs := hfront.eq_of_length_le (by omega)
  rw [trimChars, hdrop] at h
  exact ⟨hdrop, List.reverse_eq_iff.1 h⟩

theorem stops_of_trimmed (h : trimChars cs = cs) : Stops isWhite cs := by
  have := stops_dropWhile (p := isWhite) cs
  rwa [(dropWhile_of_trimmed h).1] at this

theorem getLast?_of_trimmed (h : trimChars cs = cs) : cs.getLast? ≠ some '\r' := by
  intro hlast
  have hstops := stops_dropWhile (p := isWhite) cs.reverse
  rw [(dropWhile_of_trimmed h).2] at hstops
  obtain ⟨front, rfl⟩ := List.getLast?_eq_some_iff.1 hlast
  rw [List.reverse_append] at hstops
  exact absurd (show isWhite '\r' = false from hstops) (by decide)

theorem checkName?_of_trimmed (blanks : List Char) (hne : cs ≠ []) (h : trimChars cs = cs) :
    checkName? blanks cs = some cs := by
  unfold checkName?
  split
  · exact absurd rfl hne
  · rfl
  · rw [if_neg (getLast?_of_trimmed h)]

end Trimmed

theorem not_isBlank_of_isWhite {c : Char} (h : isWhite c = false) : isBlank c = false := by
  by_contra hc
  rw [Bool.not_eq_false] at hc
  rw [isWhite_of_isBlank hc] at h
  cases h

theorem isBlank_gap {n : ℕ} : ∀ c ∈ gap n, isBlank c = true := fun c hc => by
  rw [mem_gap hc]
  decide

theorem takes_detail (c : CheckLines) {rest : List Char} (hr : Stops isScriptDigit rest) :
    Takes checkDetail c.detail (c.percentage.chars, c.passes.digits, c.fails.digits) rest := by
  have hdigit : ∀ d, d.isDigit = true → isBlank d = false := fun d hd =>
    not_isBlank_of_isWhite (not_isWhite_of_isDigit hd)
  unfold checkDetail CheckLines.detail
  refine .bind (takes_runOrNothing c.isBlank_detailMargin rfl) (.bind (takes_exactly _ _) ?_)
  refine .bind (takes_runOrNothing isBlank_gap ?_) (.bind (takes_amount _ rfl) ?_)
  · rw [List.append_assoc]
    exact c.percentage.stops hdigit _
  refine .bind (takes_exactly _ _) (.bind (takes_run (by simp [gap]) isBlank_gap rfl) ?_)
  refine .bind (takes_exactly _ _) (.bind (takes_run (by simp [gap]) isBlank_gap rfl) ?_)
  refine .bind (takes_exactly _ _) (.bind (takes_runOrNothing isBlank_gap ?_) ?_)
  · rw [List.append_assoc]
    exact c.passes.stops hdigit _
  refine .bind (takes_count _ (by exact rfl)) (.bind (takes_runOrNothing isBlank_gap rfl) ?_)
  refine .bind (takes_exactly _ _) (.bind (takes_runOrNothing isBlank_gap rfl) ?_)
  refine .bind (takes_exactly _ _) (.bind (takes_runOrNothing isBlank_gap ?_) ?_)
  · exact c.fails.stops hdigit _
  · exact (takes_count _ hr).bind_pure _

/-! ## The checks of a report -/

theorem rawChecks_cons_of_not_isMark {c : Char} (hc : isMark c = false) (cs : List Char) :
    rawChecks (c :: cs) = rawChecks cs := by
  rw [rawChecks, if_neg (by simp [hc])]

theorem rawChecks_append {xs : List Char} (h : ∀ c ∈ xs, isMark c = false) (rest : List Char) :
    rawChecks (xs ++ rest) = rawChecks rest := by
  induction xs with
  | nil => rfl
  | cons c xs ih =>
    rw [List.cons_append, rawChecks_cons_of_not_isMark (h c List.mem_cons_self),
      ih fun d hd => h d (List.mem_cons_of_mem c hd)]

theorem individualChecks_eq_nil {xs : List Char} (h : ∀ c ∈ xs, isMark c = false) :
    individualChecks xs = [] := by
  have hraw := rawChecks_append h []
  rw [List.append_nil, rawChecks] at hraw
  rw [individualChecks, hraw, List.filterMap_nil]

theorem rawChecks_of_checkBehindMark {c : Char} {cs rest : List Char} {check : RawCheck}
    (hc : isMark c = true) (h : checkBehindMark cs = some (check, rest)) :
    rawChecks (c :: cs) = check :: rawChecks rest := by
  rw [rawChecks, if_pos hc]
  split
  · rename_i heq
    obtain ⟨rfl, rfl⟩ := Prod.mk.inj (Option.some.inj (h.symm.trans heq))
    rfl
  · rename_i heq
    rw [h] at heq
    cases heq

theorem rawChecks_of_checkBehindMark_eq_none {c : Char} {cs : List Char}
    (h : checkBehindMark cs = none) : rawChecks (c :: cs) = rawChecks cs := by
  rw [rawChecks]
  split_ifs
  · split
    · rename_i heq
      rw [h] at heq
      cases heq
    · rfl
  · rfl

/-- The texts of a check. -/
def CheckLines.raw (c : CheckLines) : RawCheck :=
  ⟨c.name.toList, c.percentage.chars, c.passes.digits, c.fails.digits⟩

theorem checkBehindMark_chars (c : CheckLines) {rest : List Char} (hr : Stops isScriptDigit rest) :
    checkBehindMark (gap c.blanks.1 ++ (c.name.toList ++ '\n' :: (c.detail ++ rest))) =
      some (c.raw, rest) := by
  have hname : Stops isBlank (c.name.toList ++ '\n' :: (c.detail ++ rest)) := by
    refine Stops.append c.name_ne ?_
    have hwhite := stops_of_trimmed c.trimmed_name
    rcases hcs : c.name.toList with _ | ⟨d, cs⟩
    · trivial
    · rw [hcs] at hwhite
      exact not_isBlank_of_isWhite hwhite
  have hline : ∀ d ∈ c.name.toList, (d != '\n') = true := by
    rintro d hd
    rw [bne_iff_ne]
    rintro rfl
    exact c.lineFeed_name hd
  have hend : Stops (· != '\n') ('\n' :: (c.detail ++ rest)) := by
    simp [Stops]
  have hdetail := takes_detail c hr
  unfold Takes at hdetail
  unfold checkBehindMark
  rw [takeWhile_append_stops isBlank_gap hname, dropWhile_append_stops isBlank_gap hname]
  dsimp only
  rw [takeWhile_append_stops hline hend, dropWhile_append_stops hline hend]
  simp only [checkName?_of_trimmed _ c.name_ne c.trimmed_name, hdetail]
  rfl

theorem read?_raw (c : CheckLines) : c.raw.read? = some c.check := by
  unfold RawCheck.read? CheckLines.raw CheckLines.check
  simp only [amount?_chars, count?_digits, c.trimmed_name]
  simp

theorem not_isMark_of_isBlank {c : Char} (h : isBlank c = true) : isMark c = false := by
  rcases eq_of_isBlank h with rfl | rfl <;> decide

theorem Row.not_isMark (r : Row) : ∀ c ∈ r.chars, isMark c = false := by
  intro c hc
  simp only [chars, List.mem_append] at hc
  rcases hc with hc | hc | hc | hc
  · exact not_isMark_of_isBlank (r.isBlank_margin c hc)
  · have hword := (r.entry.isName.2 c hc).1
    by_contra hmark
    rw [Bool.not_eq_false] at hmark
    rcases eq_of_isMark hmark with rfl | rfl <;> exact absurd hword (by decide +kernel)
  · rcases r.mem_separator c hc with rfl | rfl | rfl <;> decide
  · exact (composed_values r.entry).not_isMark c hc

theorem rawChecks_check (c : CheckLines) {rest : List Char} (hr : Stops isScriptDigit rest) :
    rawChecks (c.chars ++ rest) = c.raw :: rawChecks rest := by
  have hmark : isMark (if c.passed then '✓' else '✗') = true := by
    split <;> decide
  unfold CheckLines.chars CheckLines.opening
  simp only [List.append_assoc, List.cons_append]
  rw [rawChecks_append fun d hd => not_isMark_of_isBlank (c.isBlank_margin d hd)]
  exact rawChecks_of_checkBehindMark hmark (checkBehindMark_chars c hr)

theorem individualChecks_lines (lines : List Line) :
    individualChecks (lines.flatMap Line.chars) = lines.filterMap Line.check? := by
  unfold individualChecks
  induction lines with
  | nil =>
    rw [List.flatMap_nil, rawChecks]
    rfl
  | cons line lines ih =>
    have hlineFeed : ∀ rest, rawChecks ('\n' :: rest) = rawChecks rest :=
      rawChecks_cons_of_not_isMark (by decide)
    rw [List.flatMap_cons]
    cases line with
    | blank margin hmargin =>
      rw [Line.chars, List.append_assoc,
        rawChecks_append fun c hc => not_isMark_of_isBlank (hmargin c hc),
        List.singleton_append, hlineFeed, ih]
      rfl
    | row r =>
      rw [Line.chars, List.append_assoc, rawChecks_append r.not_isMark,
        List.singleton_append, hlineFeed, ih]
      rfl
    | check c =>
      rw [Line.chars, List.append_assoc, List.singleton_append, rawChecks_check c (by exact rfl),
        hlineFeed, List.filterMap_cons, read?_raw, ih]
      rfl

end LoadTest.Report.Layout
