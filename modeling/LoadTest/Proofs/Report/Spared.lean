import LoadTest.Proofs.Report.Scan
import LoadTest.Report.Check

/-!
# What stands behind a scan

No scan of a report looks further than one character behind what it takes. So a character that a
scan never takes (`Spares`) cuts the text in two: what the scan takes in front of it does not depend
on what stands behind it (`Spares.in_front`). And what a scan takes of a text whose end it does not
reach, it also takes when the text goes on (`Spares.extend`).

The scans of values end in front of the end of a line (`EndsWithin`), even though the white space
between values may cross one.
-/

namespace LoadTest.Report.Scan

variable {α β : Type} {barrier : Char} {scan : Scan α}

/-- The scan takes a part without the character, and would take the same part in front of any text
that starts like the rest. -/
def Spares (barrier : Char) (scan : Scan α) : Prop :=
  ∀ cs a rest, scan cs = some (a, rest) → ∃ used, barrier ∉ used ∧ cs = used ++ rest ∧
    ∀ rest', rest'.head? = rest.head? → Takes scan used a rest'

/-! ## Steps -/

theorem Spares.pure (a : α) : Spares barrier (pure a) := by
  intro cs b rest h
  obtain ⟨rfl, rfl⟩ := Prod.mk.inj (Option.some.inj h)
  exact ⟨[], by simp, rfl, fun _ _ => rfl⟩

theorem Spares.bind {next : α → Scan β} (hs : Spares barrier scan)
    (hn : ∀ a, Spares barrier (next a)) : Spares barrier (scan >>= next) := by
  intro cs b rest h
  obtain ⟨a, mid, hfirst, hsecond⟩ := bind_eq_some.1 h
  obtain ⟨used, hused, rfl, hagain⟩ := hs cs a mid hfirst
  obtain ⟨used', hused', rfl, hagain'⟩ := hn a mid b rest hsecond
  refine ⟨used ++ used', ?_, (List.append_assoc _ _ _).symm, fun rest' hrest' => ?_⟩
  · simp [hused, hused']
  · refine Takes.bind (hagain _ ?_) (hagain' rest' hrest')
    rw [List.head?_append, List.head?_append, hrest']

theorem Spares.runOrNothing {p : Char → Bool} (hp : p barrier = false) :
    Spares barrier (runOrNothing p) := by
  intro cs a rest h
  obtain ⟨rfl, rfl⟩ := Prod.mk.inj (Option.some.inj h)
  have hrun : ∀ c ∈ cs.takeWhile p, p c = true := fun c => List.mem_takeWhile_imp
  refine ⟨cs.takeWhile p, fun hmem => ?_, List.takeWhile_append_dropWhile.symm, fun rest' hrest' =>
    takes_runOrNothing hrun ((stops_dropWhile cs).of_head? hrest')⟩
  rw [hrun barrier hmem] at hp
  cases hp

theorem Spares.run {p : Char → Bool} (hp : p barrier = false) : Spares barrier (run p) := by
  intro cs a rest h
  obtain ⟨hne, rfl, rfl⟩ := run_eq_some.1 h
  have hrun : ∀ c ∈ cs.takeWhile p, p c = true := fun c => List.mem_takeWhile_imp
  refine ⟨cs.takeWhile p, fun hmem => ?_, List.takeWhile_append_dropWhile.symm, fun rest' hrest' =>
    takes_run hne hrun ((stops_dropWhile cs).of_head? hrest')⟩
  rw [hrun barrier hmem] at hp
  cases hp

theorem Spares.exactly {s : List Char} (hs : barrier ∉ s) : Spares barrier (exactly s) := by
  intro cs a rest h
  exact ⟨s, hs, exactly_eq_some.1 h, fun rest' _ => takes_exactly s rest'⟩

theorem Spares.picks {texts : List (List Char)} {scan : Scan (List Char)} (h : Picks texts scan)
    (hbarrier : ∀ u ∈ texts, barrier ∉ u) : Spares barrier scan := by
  intro cs u rest hsome
  obtain ⟨hu, hcs⟩ := (h _ _ _).1 hsome
  exact ⟨u, hbarrier u hu, hcs, fun rest' _ => (h _ _ _).2 ⟨hu, rfl⟩⟩

/-! ## What stands behind -/

/-- What is taken in front of the character does not depend on what stands behind it. -/
theorem Spares.in_front {xs ys rest : List Char} {a : α} (hs : Spares barrier scan)
    (h : scan (xs ++ barrier :: ys) = some (a, rest)) :
    ∃ zs, rest = zs ++ barrier :: ys ∧
      ∀ ys', scan (xs ++ barrier :: ys') = some (a, zs ++ barrier :: ys') := by
  obtain ⟨used, hused, hsplit, hagain⟩ := hs _ a rest h
  rcases List.append_eq_append_iff.1 hsplit with ⟨bs, rfl, hrest⟩ | ⟨zs, rfl, hrest⟩
  · rcases bs with _ | ⟨c, bs⟩
    · refine ⟨[], hrest.symm, fun ys' => ?_⟩
      rw [List.append_nil] at hagain
      rw [List.nil_append] at hrest
      exact hagain _ (by rw [← hrest]; rfl)
    · obtain ⟨rfl, -⟩ := List.cons.inj hrest
      exact absurd (List.mem_append_right xs List.mem_cons_self) hused
  · refine ⟨zs, hrest, fun ys' => ?_⟩
    rw [List.append_assoc]
    refine hagain _ ?_
    rw [hrest, List.head?_append, List.head?_append]
    rfl

theorem Spares.eq_none {xs ys : List Char} (hs : Spares barrier scan)
    (h : scan (xs ++ barrier :: ys) = none) (ys' : List Char) :
    scan (xs ++ barrier :: ys') = none := by
  refine Option.eq_none_iff_forall_ne_some.2 fun ⟨a, rest⟩ hsome => ?_
  obtain ⟨zs, -, hagain⟩ := hs.in_front hsome
  rw [hagain ys] at h
  cases h

/-- A scan that does not reach the end takes the same of a text that goes on. -/
theorem Spares.extend {cs rest : List Char} {a : α} (hs : Spares barrier scan)
    (h : scan cs = some (a, rest)) (hne : rest ≠ []) (more : List Char) :
    scan (cs ++ more) = some (a, rest ++ more) := by
  obtain ⟨used, -, rfl, hagain⟩ := hs cs a rest h
  rw [List.append_assoc]
  refine hagain _ ?_
  rw [List.head?_append, Option.or_of_isSome (by simpa using hne)]

/-- The second line of a check does not go over its end. -/
theorem spares_checkDetail : Spares '\n' checkDetail := by
  have hblanks : Spares '\n' (runOrNothing isBlank) := .runOrNothing (by decide)
  have hblank : Spares '\n' (Scan.run isBlank) := .run (by decide)
  have hcount : Spares '\n' count := .run (by decide)
  unfold checkDetail
  refine .bind hblanks fun _ => .bind (.exactly (by decide)) fun _ => .bind hblanks fun _ => ?_
  refine .bind (.run (by decide)) fun _ => .bind (.exactly (by decide)) fun _ => ?_
  refine .bind hblank fun _ => .bind (.exactly (by decide)) fun _ => .bind hblank fun _ => ?_
  refine .bind (.exactly (by decide)) fun _ => .bind hblanks fun _ => .bind hcount fun _ => ?_
  refine .bind hblanks fun _ => .bind (.exactly (by decide)) fun _ => .bind hblanks fun _ => ?_
  exact .bind (.exactly (by decide)) fun _ => .bind hblanks fun _ => .bind hcount fun _ => .pure _

/-! ## Values end within their line -/

/-- The scan never takes the character, and the last one it takes is not the end of a line. -/
structure EndsWithin (barrier : Char) (scan : Scan α) : Prop where
  spares : Spares barrier scan
  exists_last : ∀ cs a rest, scan cs = some (a, rest) →
    ∃ used c, c ≠ '\n' ∧ cs = used ++ c :: rest

theorem EndsWithin.bind {next : α → Scan β} (hs : Spares barrier scan)
    (hn : ∀ a, EndsWithin barrier (next a)) : EndsWithin barrier (scan >>= next) where
  spares := .bind hs fun a => (hn a).spares
  exists_last cs b rest h := by
    obtain ⟨a, mid, hfirst, hsecond⟩ := bind_eq_some.1 h
    obtain ⟨used, -, rfl, -⟩ := hs cs a mid hfirst
    obtain ⟨used', c, hc, rfl⟩ := (hn a).exists_last mid b rest hsecond
    exact ⟨used ++ used', c, hc, (List.append_assoc _ _ _).symm⟩

theorem EndsWithin.bind_pure (hs : EndsWithin barrier scan) (f : α → β) :
    EndsWithin barrier (scan >>= fun a => pure (f a)) where
  spares := .bind hs.spares fun _ => .pure _
  exists_last cs b rest h := by
    obtain ⟨a, mid, hfirst, hsecond⟩ := bind_eq_some.1 h
    obtain ⟨rfl, rfl⟩ := Prod.mk.inj (Option.some.inj hsecond)
    exact hs.exists_last cs a mid hfirst

theorem EndsWithin.run {p : Char → Bool} (hp : p barrier = false) (hline : p '\n' = false) :
    EndsWithin barrier (run p) where
  spares := .run hp
  exists_last cs a rest h := by
    obtain ⟨hne, rfl, rfl⟩ := run_eq_some.1 h
    have hlast := List.mem_takeWhile_imp (List.getLast_mem hne)
    refine ⟨(cs.takeWhile p).dropLast, (cs.takeWhile p).getLast hne, ne_of_class hlast hline, ?_⟩
    rw [← List.singleton_append, ← List.append_assoc, List.dropLast_concat_getLast,
      List.takeWhile_append_dropWhile]

theorem endsWithin_perSecond (h : barrier ∉ ['/', 's']) :
    EndsWithin barrier (exactly ['/', 's']) where
  spares := .exactly h
  exists_last cs _ rest h := by
    have hcs : cs = ['/', 's'] ++ rest := exactly_eq_some.1 h
    exact ⟨['/'], 's', by decide, hcs⟩

theorem EndsWithin.picks {texts : List (List Char)} {scan : Scan (List Char)}
    (h : Picks texts scan) (hbarrier : ∀ u ∈ texts, barrier ∉ u)
    (hline : ∀ u ∈ texts, u ≠ [] ∧ '\n' ∉ u) : EndsWithin barrier scan where
  spares := .picks h hbarrier
  exists_last cs u rest hsome := by
    obtain ⟨hu, rfl⟩ := (h _ _ _).1 hsome
    obtain ⟨hne, hline⟩ := hline u hu
    refine ⟨u.dropLast, u.getLast hne, fun hlast => hline (hlast ▸ List.getLast_mem hne), ?_⟩
    rw [← List.singleton_append, ← List.append_assoc, List.dropLast_concat_getLast]

/-! ## The scans of values -/

theorem endsWithin_labelled {label : String} (hlabel : barrier ∉ label.toList)
    (hdigit : Duration.isReportDigit barrier = false) (hunit : ∀ u ∈ durationUnits, barrier ∉ u) :
    EndsWithin barrier (labelled label) := by
  unfold labelled
  rw [duration_eq]
  exact .bind (.exactly hlabel) fun _ => .bind (.run hdigit) fun number =>
    .bind_pure (.picks picks_durationUnit hunit (by decide)) _

theorem endsWithin_labelledCount {label : String} (hwhite : isWhite barrier = false)
    (hlabel : barrier ∉ label.toList) (hdigit : isScriptDigit barrier = false) :
    EndsWithin barrier (labelledCount label) :=
  .bind (.run hwhite) fun _ => .bind (.exactly hlabel) fun _ => .run hdigit (by decide)

theorem spares_bytes (hdigit : Duration.isReportDigit barrier = false)
    (hwhite : isWhite barrier = false) (hunit : ∀ u ∈ bytesUnits, barrier ∉ u) :
    Spares barrier bytes := by
  rw [bytes_eq]
  exact .bind (.run hdigit) fun number => .bind (.run hwhite) fun blanks =>
    .bind (.picks picks_bytesUnit hunit) fun unit => .pure _

theorem endsWithin_counter : EndsWithin 't' counter :=
  .bind (.run (by decide)) fun _ => .bind (.run (by decide)) fun _ =>
    .bind (.run (by decide)) fun _ => .bind_pure (endsWithin_perSecond (by decide)) _

theorem endsWithin_gauge : EndsWithin 'u' gauge := by
  have hlabelled : ∀ label : String, 'u' ∉ label.toList → EndsWithin 'u' (labelledCount label) :=
    fun _ hlabel => endsWithin_labelledCount (by decide) hlabel (by decide)
  exact .bind (.run (by decide)) fun _ => .bind (hlabelled _ (by decide)).spares fun _ =>
    .bind_pure (hlabelled _ (by decide)) _

theorem endsWithin_trend : EndsWithin 't' trend := by
  have hlabelled : ∀ label : String, 't' ∉ label.toList → EndsWithin 't' (labelled label) :=
    fun _ hlabel => endsWithin_labelled hlabel (by decide) (by decide)
  have hwhite : Spares 't' white := .run (by decide)
  exact .bind (hlabelled _ (by decide)).spares fun _ => .bind hwhite fun _ =>
    .bind (hlabelled _ (by decide)).spares fun _ => .bind hwhite fun _ =>
    .bind (hlabelled _ (by decide)).spares fun _ => .bind hwhite fun _ =>
    .bind (hlabelled _ (by decide)).spares fun _ => .bind hwhite fun _ =>
    .bind (hlabelled _ (by decide)).spares fun _ => .bind hwhite fun _ =>
    .bind_pure (hlabelled _ (by decide)) _

theorem endsWithin_transfer : EndsWithin 't' transfer := by
  have hbytes : Spares 't' bytes := spares_bytes (by decide) (by decide) (by decide)
  exact .bind hbytes fun _ => .bind (.run (by decide)) fun _ => .bind hbytes fun _ =>
    .bind_pure (endsWithin_perSecond (by decide)) _

end LoadTest.Report.Scan
