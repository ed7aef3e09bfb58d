import LoadTest.Proofs.Report.Sections
import LoadTest.Proofs.Report.Spared

/-!
# Checks of two reports in one text

A check does not go over the end of its second line. So behind a mark, the text up to the end of a
line decides alone whether a check is there and where it ends, as long as the next line does not
start with an arrow (`checkBehindMark_line`). The search for checks then comes to the end of the
line with the same checks, whatever follows (`rawChecks_line`), and the checks of two texts are put
together (`individualChecks_summary_append`).
-/

namespace LoadTest.Report

variable {more : List Char}

/-- The text starts with an arrow, blanks aside, as the second line of a check does. -/
def StartsAtArrow (cs : List Char) : Prop :=
  ∃ blanks rest, (∀ c ∈ blanks, isBlank c = true) ∧ cs = blanks ++ '↳' :: rest

theorem not_startsAtArrow_nil : ¬ StartsAtArrow [] := by
  rintro ⟨blanks, rest, -, h⟩
  simp at h

theorem startsAtArrow_of_checkDetail {cs rest : List Char}
    {texts : List Char × List Char × List Char}
    (h : checkDetail cs = some (texts, rest)) : StartsAtArrow cs := by
  obtain ⟨_, _, hblanks, hnext⟩ := Scan.bind_eq_some.1 h
  obtain ⟨_, behind, harrow, -⟩ := Scan.bind_eq_some.1 hnext
  obtain ⟨rfl, rfl⟩ := Prod.mk.inj (Option.some.inj hblanks)
  refine ⟨cs.takeWhile isBlank, behind, fun c => List.mem_takeWhile_imp, ?_⟩
  rw [← List.singleton_append, ← Scan.exactly_eq_some.1 harrow, List.takeWhile_append_dropWhile]

theorem checkDetail_eq_none (h : ¬ StartsAtArrow more) : checkDetail more = none :=
  Option.eq_none_iff_forall_ne_some.2 fun _ hsome => h (startsAtArrow_of_checkDetail hsome)

theorem checkDetail_line (xs : List Char) :
    ∃ found : Option ((List Char × List Char × List Char) × List Char), ∀ more,
      checkDetail (xs ++ '\n' :: more) = found.map fun r => (r.1, r.2 ++ '\n' :: more) := by
  have hspares := Scan.spares_checkDetail
  rcases h : checkDetail (xs ++ ['\n']) with _ | ⟨texts, rest⟩
  · exact ⟨none, hspares.eq_none h⟩
  · obtain ⟨zs, -, hagain⟩ := hspares.in_front h
    exact ⟨some (texts, zs), hagain⟩

/-- A check behind a mark is told by the text up to the end of a line. -/
theorem checkBehindMark_line (xs : List Char) :
    ∃ found : Option (RawCheck × List Char), ∀ more, ¬ StartsAtArrow more →
      checkBehindMark (xs ++ '\n' :: more) = found.map fun r => (r.1, r.2 ++ '\n' :: more) := by
  have hblank : ∀ more, Stops isBlank ('\n' :: more) := fun _ => rfl
  have hline : ∀ more, Stops (· != '\n') ('\n' :: more) := fun _ => rfl
  unfold checkBehindMark
  simp only [takeWhile_append_of_stops _ (hblank _), dropWhile_append_of_stops _ (hblank _),
    takeWhile_append_of_stops _ (hline _), dropWhile_append_of_stops _ (hline _)]
  split_ifs with hnoBlank
  · exact ⟨none, fun _ _ => rfl⟩
  cases hbehind : (xs.dropWhile isBlank).dropWhile (· != '\n') with
  | nil =>
    -- the mark stands in the last line
    refine ⟨none, fun more hmore => ?_⟩
    simp only [List.nil_append, checkDetail_eq_none hmore]
    rcases checkName? _ _ with _ | _ <;> rfl
  | cons c ys =>
    obtain ⟨detail, hdetail⟩ := checkDetail_line ys
    simp only [List.cons_append, hdetail]
    rcases checkName? _ _ with _ | name
    · exact ⟨none, fun _ _ => rfl⟩
    · rcases detail with _ | ⟨⟨percentage, passes, fails⟩, zs⟩
      · exact ⟨none, fun _ _ => rfl⟩
      · exact ⟨some (⟨name, percentage, passes, fails⟩, zs), fun _ _ => rfl⟩

theorem rawChecks_line (xs : List Char) :
    ∃ checks, ∀ more, ¬ StartsAtArrow more →
      rawChecks (xs ++ '\n' :: more) = checks ++ rawChecks more := by
  match xs with
  | [] => exact ⟨[], fun more _ => Layout.rawChecks_cons_of_not_isMark (by decide) more⟩
  | c :: xs =>
    obtain ⟨later, hlater⟩ := rawChecks_line xs
    by_cases hc : isMark c = true
    · obtain ⟨found, hfound⟩ := checkBehindMark_line xs
      rcases found with _ | ⟨check, zs⟩
      · refine ⟨later, fun more hmore => ?_⟩
        rw [List.cons_append, Layout.rawChecks_of_checkBehindMark_eq_none (hfound more hmore),
          hlater more hmore]
      · have hshorter : zs.length ≤ xs.length := by
          simpa using length_checkBehindMark_le (hfound [] not_startsAtArrow_nil)
        obtain ⟨checks, hchecks⟩ := rawChecks_line zs
        refine ⟨check :: checks, fun more hmore => ?_⟩
        rw [List.cons_append, Layout.rawChecks_of_checkBehindMark hc (hfound more hmore),
          hchecks more hmore, List.cons_append]
    · refine ⟨later, fun more hmore => ?_⟩
      rw [List.cons_append, Layout.rawChecks_cons_of_not_isMark (by simpa using hc),
        hlater more hmore]
termination_by xs.length

theorem individualChecks_summary (raw : String) :
    (summary raw).individualChecks = individualChecks raw.toList := by
  rw [summary_eq_fillAll, Layout.fillAll_sections]

/-- The checks of two reports in one text are those of the first and then those of the second, where
the first ends with its last line and the second does not go on with a check. -/
theorem individualChecks_summary_append {first second : String}
    (hfirst : first.toList.getLast? = some '\n') (hsecond : ¬ StartsAtArrow second.toList) :
    (summary (first ++ second)).individualChecks =
      (summary first).individualChecks ++ (summary second).individualChecks := by
  obtain ⟨xs, hxs⟩ := List.getLast?_eq_some_iff.1 hfirst
  obtain ⟨checks, hchecks⟩ := rawChecks_line xs
  have halone : rawChecks first.toList = checks := by
    rw [hxs, hchecks [] not_startsAtArrow_nil, rawChecks, List.append_nil]
  have hboth : rawChecks (first ++ second).toList = checks ++ rawChecks second.toList := by
    rw [String.toList_append, hxs, List.append_assoc]
    exact hchecks _ hsecond
  simp only [individualChecks_summary, individualChecks, halone, hboth, List.filterMap_append]

/-- A mark in the last line of the first report is no check, and a name may hold a mark. -/
theorem individualChecks_summary_append_marks :
    "✓ up\n  ↳ 50% — ✓ 1 / ✗ 1\n✓ down\n".toList.getLast? = some '\n' ∧
      ¬ StartsAtArrow "✗ ✓ left\n↳ 0% — ✓ 0 / ✗ 2".toList ∧
      (summary ("✓ up\n  ↳ 50% — ✓ 1 / ✗ 1\n✓ down\n" ++
          "✗ ✓ left\n↳ 0% — ✓ 0 / ✗ 2")).individualChecks =
        (summary "✓ up\n  ↳ 50% — ✓ 1 / ✗ 1\n✓ down\n").individualChecks ++
          (summary "✗ ✓ left\n↳ 0% — ✓ 0 / ✗ 2").individualChecks := by
  have hline : "✓ up\n  ↳ 50% — ✓ 1 / ✗ 1\n✓ down\n".toList.getLast? = some '\n' := by decide
  have hmark : ¬ StartsAtArrow "✗ ✓ left\n↳ 0% — ✓ 0 / ✗ 2".toList := by
    rintro ⟨blanks, rest, hblanks, h⟩
    rcases blanks with _ | ⟨c, blanks⟩
    · exact absurd (List.cons.inj h).1 (by decide)
    · have hc := hblanks c List.mem_cons_self
      rw [← (List.cons.inj h).1] at hc
      exact absurd hc (by decide)
  exact ⟨hline, hmark, individualChecks_summary_append hline hmark⟩

end LoadTest.Report
