import LoadTest.Proofs.Number.Numeral
import LoadTest.Proofs.Number.Order

/-!
# Durations of schedules

A literal is a numeral with a unit behind it (`split?_eq_some`). Its digits may be those of any
script, but only those of ASCII have a value. So a literal that is accepted can be converted exactly
where it has no other digits (`milliseconds_eq_ok_iff`). With other digits it is accepted and has no
milliseconds (`milliseconds_arabicDigit`).

A report prints durations in two of the units only. A literal with one of these that can be
converted is read as a duration of a report too, and the milliseconds are the same
(`reported?_of_milliseconds`).
-/

namespace LoadTest.Duration

/-- A numeral in digits of any script, and a unit. -/
structure Parts (cs number : List Char) (unit : Unit) (whole fraction letters : List Char) :
    Prop where
  eq_append : cs = number ++ letters
  eq_numeral : number = numeral whole fraction
  ne_nil : whole ≠ []
  isScriptDigit : ∀ c ∈ whole ++ fraction, isScriptDigit c = true
  ofChars? : Unit.ofChars? letters = some unit

variable {cs number whole fraction letters : List Char} {unit : Unit}

theorem split?_eq_some (h : split? cs = some (number, unit)) :
    ∃ whole fraction letters, Parts cs number unit whole fraction letters := by
  have hdigits : ∀ ds : List Char, ∀ c ∈ ds.takeWhile isScriptDigit, isScriptDigit c = true :=
    fun _ _ => List.mem_takeWhile_imp
  unfold split? at h
  simp only [] at h
  split at h
  · cases h
  rename_i hwhole
  rw [List.isEmpty_iff] at hwhole
  split at h
  · rename_i more hrest
    split at h
    · cases h
    rename_i hfraction
    obtain ⟨_, hunit, hparts⟩ := Option.map_eq_some_iff.1 h
    obtain ⟨rfl, rfl⟩ := Prod.mk.inj hparts
    refine ⟨_, more.takeWhile isScriptDigit, _, ?_, ?_, hwhole, ?_, hunit⟩
    · rw [List.append_assoc, List.cons_append, List.takeWhile_append_dropWhile, ← hrest,
        List.takeWhile_append_dropWhile]
    · rw [numeral, if_neg hfraction]
    · exact List.forall_mem_append.2 ⟨hdigits cs, hdigits more⟩
  · obtain ⟨_, hunit, hparts⟩ := Option.map_eq_some_iff.1 h
    obtain ⟨rfl, rfl⟩ := Prod.mk.inj hparts
    refine ⟨_, [], _, List.takeWhile_append_dropWhile.symm, ?_, hwhole, ?_, hunit⟩
    · rw [numeral, List.isEmpty_nil, if_pos rfl, List.append_nil]
    · rw [List.append_nil]
      exact hdigits cs

theorem not_digit_of_unit (h : Unit.ofChars? letters = some unit) :
    ∀ c ∈ letters, isWhite c = false ∧ isScriptDigit c = false := by
  unfold Unit.ofChars? at h
  split at h
  case h_5 => cases h
  all_goals decide

namespace Parts

theorem isReportDigit_number (h : Parts cs number unit whole fraction letters) :
    ∀ c ∈ number, isReportDigit c = true := by
  intro c hc
  rw [h.eq_numeral] at hc
  rcases mem_numeral.1 hc with hc | ⟨rfl, -⟩
  · rw [isReportDigit, h.isScriptDigit c hc, Bool.true_or]
  · decide

/-- The numeral is read where its digits are those of ASCII. -/
theorem exists_ofChars?_iff (h : Parts cs number unit whole fraction letters) :
    (∃ x, Binary64.ofChars? number = some x) ↔
      ∀ c ∈ cs, LoadTest.isScriptDigit c = true → c.isDigit = true := by
  rw [h.eq_append]
  constructor
  · rintro ⟨x, hx⟩ c hc hdigit
    obtain ⟨d, hd, -⟩ := Binary64.ofChars?_eq_some h.isReportDigit_number hx
    obtain ⟨whole', fraction', hnumber, hascii, -⟩ :=
      Decimal.ofChars?_eq_some h.isReportDigit_number hd
    rw [List.forall_mem_append] at hascii
    rcases List.mem_append.1 hc with hc | hc
    · rcases hnumber with rfl | rfl
      · exact hascii.1 c hc
      · rcases List.mem_append.1 hc with hc | hc
        · exact hascii.1 c hc
        · rcases List.mem_cons.1 hc with rfl | hc
          · exact absurd hdigit (by decide)
          · exact hascii.2 c hc
    · rw [(not_digit_of_unit h.ofChars? c hc).2] at hdigit
      cases hdigit
  · intro hascii
    refine ⟨_, h.eq_numeral ▸ Binary64.ofChars?_numeral h.ne_nil fun c hc => ?_⟩
    have hmem : c ∈ number := h.eq_numeral ▸ mem_numeral.2 (.inl hc)
    exact hascii c (List.mem_append_left _ hmem) (h.isScriptDigit c hc)

end Parts

/-- A text can be converted where it is accepted and has no digits but those of ASCII. Any other
text is refused by its name. -/
theorem milliseconds_eq_ok_iff (literal : String) :
    ((∃ x, milliseconds literal = .ok x) ↔ isLiteral literal = true ∧
      ∀ c ∈ literal.toList, isScriptDigit c = true → c.isDigit = true) ∧
    ((∀ x, milliseconds literal ≠ .ok x) →
      milliseconds literal = .error (.invalidDuration literal)) := by
  unfold milliseconds isLiteral
  cases hsplit : split? literal.toList with
  | none => simp
  | some parts =>
    obtain ⟨number, unit⟩ := parts
    obtain ⟨whole, fraction, letters, hparts⟩ := split?_eq_some hsplit
    rw [← hparts.exists_ofChars?_iff]
    cases hread : Binary64.ofChars? number <;> simp [hread]

/-- A digit of another script. -/
theorem milliseconds_arabicDigit :
    isLiteral "٣s" = true ∧ milliseconds "٣s" = .error (.invalidDuration "٣s") :=
  ⟨by decide +kernel, rfl⟩

/-! ## Durations of reports -/

/-- The unit of a literal. -/
def unit? (literal : String) : Option Unit :=
  (split? literal.toList).map Prod.snd

/-- The digits and points at the front of a literal are its numeral, which the unit ends. -/
theorem Parts.reported?_eq (h : Parts cs number unit whole fraction letters) :
    reported? cs =
      if unit = .millisecond then Binary64.ofChars? number
      else if unit = .second then (Binary64.ofChars? number).map fun x => x.mul (.ofNat 1000)
      else none := by
  have hletters : Stops isReportDigit letters := by
    have hread := h.ofChars?
    unfold Unit.ofChars? at hread
    split at hread
    case h_5 => cases hread
    all_goals rfl
  have hne : number.isEmpty = false := by
    rw [h.eq_numeral, numeral, List.isEmpty_eq_false_iff]
    exact List.append_ne_nil_of_left_ne_nil h.ne_nil _
  unfold reported?
  rw [h.eq_append, takeWhile_append_stops h.isReportDigit_number hletters,
    dropWhile_append_stops h.isReportDigit_number hletters, h.ofChars?]
  simp only [hne, Bool.false_eq_true, if_false]
  cases unit <;> rfl

/-- A literal in milliseconds or seconds that can be converted is the same duration in a report. In
the other units no report has a duration. -/
theorem reported?_of_milliseconds {literal : String} {x : Binary64}
    (h : milliseconds literal = .ok x) :
    (unit? literal = some .millisecond ∨ unit? literal = some .second →
      reported? literal.toList = some x) ∧
    (unit? literal = some .minute ∨ unit? literal = some .hour →
      reported? literal.toList = none) := by
  unfold milliseconds at h
  unfold unit?
  cases hsplit : split? literal.toList with
  | none =>
    rw [hsplit] at h
    cases h
  | some parts =>
    obtain ⟨number, unit⟩ := parts
    obtain ⟨whole, fraction, letters, hparts⟩ := split?_eq_some hsplit
    rw [hsplit] at h
    rw [hparts.reported?_eq]
    cases hread : Binary64.ofChars? number with
    | none => simp [hread] at h
    | some y =>
      simp only [hread, Except.ok.injEq] at h
      -- a report does not multiply milliseconds by one
      cases unit <;> simp [← h, Unit.milliseconds, Binary64.mul_ofNat_one]

theorem reported?_of_milliseconds_fraction :
    unit? "1.5s" = some .second ∧ milliseconds "1.5s" = .ok (.ofNat 1500) ∧
      reported? "1.5s".toList = some (.ofNat 1500) := by
  have hsplit : split? "1.5s".toList = some (['1', '.', '5'], .second) := by decide +kernel
  have hproduct : (Binary64.ofChars? ['1', '.', '5']).map (fun x => x.mul (.ofNat 1000)) =
      some (.ofNat 1500) := by
    decide +kernel
  have hunit : unit? "1.5s" = some .second := by
    rw [unit?, hsplit]
    rfl
  have hmilliseconds : milliseconds "1.5s" = .ok (.ofNat 1500) := by
    obtain ⟨x, hx, hx'⟩ := Option.map_eq_some_iff.1 hproduct
    simp only [milliseconds, hsplit, hx, Unit.milliseconds, hx']
  exact ⟨hunit, hmilliseconds, (reported?_of_milliseconds hmilliseconds).1 (.inr hunit)⟩

end LoadTest.Duration
