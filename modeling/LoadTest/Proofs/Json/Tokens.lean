import LoadTest.Proofs.Json.Grammar
import LoadTest.Proofs.Json.Text

/-!
# Texts and numbers of a document

What is read behind an opening quotation mark is what is spelled in front of the closing one, and
nothing else (`readText_eq_some_iff`). A number that is spelled is read in front of anything that
can follow a number (`readNumber_spelled`), and whatever is read as a number spells it
(`exists_of_readNumber`).

A text is read unit by unit. `Draft.CompletedBy` says of a draft how the rest of the text completes
it, so that a first half of a surrogate pair is followed by a second one.
-/

namespace LoadTest.Json

/-! ## Texts -/

section Texts

variable {s cs next : List Char}

theorem isLead_eq_false_of_isTrail {n : ℕ} (h : Surrogate.isTrail n = true) :
    Surrogate.isLead n = false := by
  simp only [Surrogate.isTrail, Surrogate.isLead, Bool.and_eq_true, Bool.and_eq_false_iff,
    decide_eq_true_eq, decide_eq_false_iff_not] at h ⊢
  omega

theorem readText_unit {n : ℕ} {unit : List Char} (h : UnitSpelledAs n unit) (d : Draft)
    (rest : List Char) : readText d (unit ++ rest) = readText (d.pushUnit n) rest := by
  obtain ⟨hn⟩ := h
  simp only [List.cons_append, List.nil_append, readText, hn]

theorem readText_escape {e c : Char} (he : unescaped? e = some c) (d : Draft) (rest : List Char) :
    readText d ('\\' :: e :: rest) = readText (d.push c) rest := by
  have hunit : e ≠ 'u' := by
    rintro rfl
    cases (by decide : unescaped? 'u' = none).symm.trans he
  rw [readText.eq_2 _ _ _ (by simp [hunit]), he]

theorem readText_spelled (h : CharsSpelledAs s cs) (acc rest : List Char) :
    readText ⟨acc, none, false⟩ (cs ++ '"' :: rest) =
      some (some (String.ofList (acc.reverse ++ s)), rest) := by
  induction h generalizing acc with
  | nil => simp [readText, Draft.text?]
  | plain hquote hslash hc _ ih =>
    rw [List.cons_append, readText_plain hquote hslash hc]
    exact (ih _).trans (by simp)
  | escape he _ ih =>
    rw [List.cons_append, List.cons_append, readText_escape he]
    exact (ih _).trans (by simp)
  | unit hn hlead htrail _ ih =>
    rw [List.append_assoc, readText_unit hn, Draft.pushUnit, hlead, htrail]
    exact (ih _).trans (by simp)
  | pair hm hlead hn htrail _ ih =>
    rw [List.append_assoc, List.append_assoc, readText_unit hm, readText_unit hn]
    simp only [Draft.pushUnit, hlead, htrail, isLead_eq_false_of_isTrail htrail, if_true,
      Bool.false_eq_true, if_false, Bool.or_false, Option.isSome_none]
    exact (ih _).trans (by simp)

/-- The draft is completed to the text by what stands in front of the closing quotation mark. Behind
the first half of a pair the second one has to come first. -/
def Draft.CompletedBy (d : Draft) (s : String) (cs next : List Char) : Prop :=
  d.flawed = false ∧ ∃ more inner, CharsSpelledAs more inner ∧
    match d.lead with
    | none => cs = inner ++ '"' :: next ∧ s = String.ofList (d.chars.reverse ++ more)
    | some lead => ∃ trail unit, UnitSpelledAs trail unit ∧ Surrogate.isTrail trail = true ∧
        cs = unit ++ (inner ++ '"' :: next) ∧
        s = String.ofList (d.chars.reverse ++ Surrogate.pair lead trail :: more)

theorem Draft.CompletedBy.push {d : Draft} {c : Char} {s : String} (more : List Char)
    (h : (d.push c).CompletedBy s cs next)
    (hc : ∀ {s cs}, CharsSpelledAs s cs → CharsSpelledAs (c :: s) (more ++ cs)) :
    d.CompletedBy s (more ++ cs) next := by
  obtain ⟨hflawed, s', inner, hinner, rfl, rfl⟩ := h
  obtain ⟨hd, hlead⟩ := Bool.or_eq_false_iff.1 hflawed
  have hnone : d.lead = none := by simpa using hlead
  refine ⟨hd, c :: s', more ++ inner, hc hinner, ?_⟩
  rw [hnone]
  exact ⟨by simp, by simp [Draft.push]⟩

theorem Draft.CompletedBy.pushUnit {d : Draft} {n : ℕ} {s : String} {unit : List Char}
    (hn : UnitSpelledAs n unit) (h : (d.pushUnit n).CompletedBy s cs next) :
    d.CompletedBy s (unit ++ cs) next := by
  unfold Draft.pushUnit at h
  split_ifs at h with hlead htrail
  · obtain ⟨hflawed, s', inner, hinner, trail, unit', hunit', htrail', rfl, rfl⟩ := h
    obtain ⟨hd, hlead'⟩ := Bool.or_eq_false_iff.1 hflawed
    have hnone : d.lead = none := by simpa using hlead'
    refine ⟨hd, _, _, .pair hn hlead hunit' htrail' hinner, ?_⟩
    rw [hnone]
    exact ⟨by simp, rfl⟩
  · cases hd : d.lead with
    | none =>
      rw [hd] at h
      cases h.1
    | some lead =>
      rw [hd] at h
      obtain ⟨hflawed, s', inner, hinner, rfl, rfl⟩ := h
      refine ⟨hflawed, s', inner, hinner, ?_⟩
      rw [hd]
      exact ⟨n, unit, hn, htrail, rfl, by simp⟩
  · exact h.push unit fun h => .unit hn (by simpa using hlead) (by simpa using htrail) h

theorem completedBy_of_readText {d : Draft} {s : String}
    (h : readText d cs = some (some s, next)) : d.CompletedBy s cs next := by
  fun_induction readText d cs with
  | case1 d a b c e rest n hn ih => exact (ih h).pushUnit (.mk hn)
  | case2 => cases h
  | case3 d e rest hunit c hc ih =>
    exact (ih h).push ['\\', e] fun h => .escape hc h
  | case4 => cases h
  | case5 d rest =>
    obtain ⟨hs, rfl⟩ := Prod.mk.inj (Option.some.inj h)
    unfold Draft.text? at hs
    split_ifs at hs with hflaw
    obtain ⟨hflawed, hlead⟩ := Bool.or_eq_false_iff.1 (Bool.not_eq_true _ ▸ hflaw)
    have hnone : d.lead = none := by simpa using hlead
    refine ⟨hflawed, [], [], .nil, ?_⟩
    rw [hnone]
    exact ⟨rfl, by simpa using (Option.some.inj hs).symm⟩
  | case6 => cases h
  | case7 d c rest hescape hunit hquote hplain ih =>
    rw [not_or, Nat.not_lt] at hplain
    exact (ih h).push [c] fun h => .plain hquote hplain.1 hplain.2 h
  | case8 => cases h

/-- What is read behind an opening quotation mark is what the text in front of the closing one
spells. -/
theorem readText_eq_some_iff {s : String} : readText .empty cs = some (some s, next) ↔
    ∃ inner, CharsSpelledAs s.toList inner ∧ cs = inner ++ '"' :: next := by
  constructor
  · intro h
    obtain ⟨-, more, inner, hinner, hcs, rfl⟩ := completedBy_of_readText h
    exact ⟨inner, by simpa [Draft.empty] using hinner, hcs⟩
  · rintro ⟨inner, hinner, rfl⟩
    simpa [Draft.empty] using readText_spelled hinner [] next

end Texts

/-! ## Numbers -/

/-- The sign of an exponent. -/
def exponentSign : List Char → Bool × List Char
  | '-' :: rest => (true, rest)
  | '+' :: rest => (false, rest)
  | rest => (false, rest)

/-- The digits behind a point, none if there is no point. -/
def readFraction (cs : List Char) : Option (List Char × List Char) :=
  match cs with
  | '.' :: more =>
    if (more.takeWhile Char.isDigit).isEmpty then none
    else some (more.takeWhile Char.isDigit, more.dropWhile Char.isDigit)
  | _ => some ([], cs)

/-- A number behind its digits, with its exponent if it has one. -/
def readTail (negative : Bool) (whole fraction : List Char) :
    List Char → Option (Option Number × List Char)
  | c :: more =>
    if c = 'e' ∨ c = 'E' then
      match readExponent more with
      | some (exponent, rest) => some (Number.ofParts negative whole fraction exponent, rest)
      | none => none
    else if fraction.isEmpty then some (Number.ofDigits negative whole, c :: more)
    else some (Number.ofParts negative whole fraction 0, c :: more)
  | [] =>
    if fraction.isEmpty then some (Number.ofDigits negative whole, [])
    else some (Number.ofParts negative whole fraction 0, [])

theorem readUnsigned_eq (negative : Bool) (cs : List Char) : readUnsigned negative cs =
    if (cs.takeWhile Char.isDigit).isEmpty ||
        ((cs.takeWhile Char.isDigit).head? == some '0' &&
          1 < (cs.takeWhile Char.isDigit).length) then none
    else (readFraction (cs.dropWhile Char.isDigit)).bind fun found =>
      readTail negative (cs.takeWhile Char.isDigit) found.1 found.2 := by
  unfold readUnsigned
  simp only []
  generalize cs.takeWhile Char.isDigit = whole
  split_ifs
  · rfl
  split <;> rename_i hfraction
  · rw [show readFraction _ = none from hfraction]
    rfl
  · rw [show readFraction _ = some (_, _) from hfraction]
    rfl
  · rw [show readFraction _ = some (_, _) from hfraction]
    rfl

/-- The number of an exponent, by its sign and its digits. -/
def exponentOf (below : Bool) (ds : List Char) : ℤ :=
  if below then -(Nat.ofDigitChars 10 ds 0 : ℤ) else (Nat.ofDigitChars 10 ds 0 : ℤ)

theorem readExponent_eq (cs : List Char) : readExponent cs =
    if ((exponentSign cs).2.takeWhile Char.isDigit).isEmpty then none
    else some (exponentOf (exponentSign cs).1 ((exponentSign cs).2.takeWhile Char.isDigit),
      (exponentSign cs).2.dropWhile Char.isDigit) := rfl

section Numbers

variable {cs rest : List Char} {exponent : ℤ} {negative : Bool} {n : Number}

theorem exponentSign_of_isDigit (h : ∀ c ∈ cs, c.isDigit = true) (hne : cs ≠ [])
    (rest : List Char) : exponentSign (cs ++ rest) = (false, cs ++ rest) := by
  cases cs with
  | nil => exact absurd rfl hne
  | cons c cs =>
    have hc := h c List.mem_cons_self
    have hminus : c ≠ '-' := ne_of_class hc (by decide)
    have hplus : c ≠ '+' := ne_of_class hc (by decide)
    simp [exponentSign, hminus, hplus]

theorem readExponent_of_sign {ds : List Char} (below : Bool) (hds : ∀ c ∈ ds, c.isDigit = true)
    (hne : ds ≠ []) (hr : EndsNumber rest) (hsign : exponentSign cs = (below, ds ++ rest)) :
    readExponent cs = some (exponentOf below ds, rest) := by
  have hempty : ds.isEmpty = false := by simpa using hne
  rw [readExponent_eq, hsign]
  simp only [takeWhile_append_stops hds hr.stops, dropWhile_append_stops hds hr.stops, hempty,
    Bool.false_eq_true, if_false]

theorem readExponent_spelled (h : ExponentSpelledAs exponent cs) (hr : EndsNumber rest) :
    readExponent (cs ++ rest) = some (exponent, rest) := by
  cases h with
  | unsigned hds hne =>
    exact readExponent_of_sign false hds hne hr (exponentSign_of_isDigit hds hne rest)
  | positive hds hne => exact readExponent_of_sign false hds hne hr rfl
  | negative hds hne => exact readExponent_of_sign true hds hne hr rfl

/-- The sign stands in front of the digits. -/
theorem exists_sign (cs : List Char) : ∃ sign, cs = sign ++ (exponentSign cs).2 ∧
    ∀ ds : List Char, (∀ c ∈ ds, c.isDigit = true) → ds ≠ [] →
      ExponentSpelledAs (exponentOf (exponentSign cs).1 ds) (sign ++ ds) := by
  unfold exponentSign
  split
  · exact ⟨['-'], rfl, fun ds hds hne => .negative hds hne⟩
  · exact ⟨['+'], rfl, fun ds hds hne => .positive hds hne⟩
  · exact ⟨[], rfl, fun ds hds hne => .unsigned hds hne⟩

theorem exists_of_readExponent (h : readExponent cs = some (exponent, rest)) :
    ∃ text, ExponentSpelledAs exponent text ∧ cs = text ++ rest := by
  rw [readExponent_eq] at h
  split_ifs at h with hempty
  obtain ⟨rfl, rfl⟩ := Prod.mk.inj (Option.some.inj h)
  obtain ⟨sign, hcs, hspelled⟩ := exists_sign cs
  refine ⟨_, hspelled _ (fun c hc => List.mem_takeWhile_imp hc) (by simpa using hempty), ?_⟩
  rw [List.append_assoc, List.takeWhile_append_dropWhile, ← hcs]

theorem readNumber_spelled (h : n.SpelledAs cs) (hr : EndsNumber rest) :
    readNumber (cs ++ rest) = some (some n, rest) := by
  obtain @⟨negative, n, cs, h⟩ := h
  rw [List.append_assoc]
  apply readNumber_sign
  cases h with
  | whole hw hn => rw [readUnsigned_whole negative hw hr, hn]
  | fraction hw hf hne hn =>
    rw [List.append_assoc, List.cons_append, readUnsigned_fraction negative hw hf hne hr, hn]
  | exponent hw hf hmark he hn =>
    rw [List.append_assoc, List.append_assoc, List.cons_append,
      readUnsigned_exponent negative hw hf hmark (readExponent_spelled he hr), hn]

theorem eq_of_readFraction {fraction more : List Char}
    (h : readFraction cs = some (fraction, more)) :
    (∀ c ∈ fraction, c.isDigit = true) ∧ cs = pointed fraction ++ more := by
  unfold readFraction at h
  split at h
  · split_ifs at h with hempty
    obtain ⟨rfl, rfl⟩ := Prod.mk.inj (Option.some.inj h)
    refine ⟨fun c hc => List.mem_takeWhile_imp hc, ?_⟩
    rw [pointed, if_neg hempty, List.cons_append, List.takeWhile_append_dropWhile]
  · obtain ⟨rfl, rfl⟩ := Prod.mk.inj (Option.some.inj h)
    exact ⟨by simp, rfl⟩

theorem exists_of_readTail {whole fraction : List Char} (hw : IsWhole whole)
    (hf : ∀ c ∈ fraction, c.isDigit = true)
    (h : readTail negative whole fraction cs = some (some n, rest)) :
    ∃ text, UnsignedSpelledAs negative n (whole ++ (pointed fraction ++ text)) ∧
      cs = text ++ rest := by
  -- no exponent follows
  have hshort : (if fraction.isEmpty then some (Number.ofDigits negative whole, cs)
      else some (Number.ofParts negative whole fraction 0, cs)) = some (some n, rest) →
      ∃ text, UnsignedSpelledAs negative n (whole ++ (pointed fraction ++ text)) ∧
        cs = text ++ rest := by
    intro h
    refine ⟨[], ?_, ?_⟩
    · rw [List.append_nil]
      split_ifs at h with hempty
      · obtain ⟨hn, -⟩ := Prod.mk.inj (Option.some.inj h)
        rw [pointed, if_pos hempty, List.append_nil]
        exact .whole hw hn
      · obtain ⟨hn, -⟩ := Prod.mk.inj (Option.some.inj h)
        rw [pointed, if_neg hempty]
        exact .fraction hw hf (by simpa using hempty) hn
    · split_ifs at h <;> exact (Prod.mk.inj (Option.some.inj h)).2
  unfold readTail at h
  split at h
  · split_ifs at h with hmark hempty
    · split at h
      · rename_i hexponent
        obtain ⟨hn, rfl⟩ := Prod.mk.inj (Option.some.inj h)
        obtain ⟨ds, hds, rfl⟩ := exists_of_readExponent hexponent
        exact ⟨_, .exponent hw hf hmark hds hn, rfl⟩
      · cases h
    · exact hshort ((if_pos hempty).trans h)
    · exact hshort ((if_neg hempty).trans h)
  · exact hshort h

theorem exists_of_readUnsigned (h : readUnsigned negative cs = some (some n, rest)) :
    ∃ text, UnsignedSpelledAs negative n text ∧ cs = text ++ rest := by
  rw [readUnsigned_eq] at h
  split_ifs at h with hrefused
  obtain ⟨⟨fraction, more⟩, hfraction, htail⟩ := Option.bind_eq_some_iff.1 h
  have hwhole : IsWhole (cs.takeWhile Char.isDigit) := by
    simp only [Bool.or_eq_true, Bool.and_eq_true, beq_iff_eq, decide_eq_true_eq, not_or, not_and,
      Nat.not_lt, List.isEmpty_iff] at hrefused
    exact ⟨fun c hc => List.mem_takeWhile_imp hc, hrefused.1, hrefused.2⟩
  obtain ⟨hdigits, hmore⟩ := eq_of_readFraction hfraction
  obtain ⟨text, htext, rfl⟩ := exists_of_readTail hwhole hdigits htail
  refine ⟨_, htext, ?_⟩
  rw [List.append_assoc, List.append_assoc, ← hmore, List.takeWhile_append_dropWhile]

theorem exists_of_readNumber (h : readNumber cs = some (some n, rest)) :
    ∃ text, n.SpelledAs text ∧ cs = text ++ rest := by
  unfold readNumber at h
  split at h
  · obtain ⟨text, htext, rfl⟩ := exists_of_readUnsigned h
    exact ⟨_, .mk htext, rfl⟩
  · obtain ⟨text, htext, rfl⟩ := exists_of_readUnsigned h
    exact ⟨_, .mk htext, rfl⟩

end Numbers

end LoadTest.Json
