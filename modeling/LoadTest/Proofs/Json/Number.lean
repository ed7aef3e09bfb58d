import LoadTest.Json.Reader
import LoadTest.Json.Writer
import LoadTest.Proofs.Number.Plain

/-!
# Numbers in documents read back

A number is read as far as digits, a point and an exponent go, so it reads back in front of anything
that can follow a number (`readNumber_chars`). Whole numbers keep their kind, since only a real
number has a point or an exponent.
-/

namespace LoadTest.Json

/-- The digits before the point: no zero leads others. -/
structure IsWhole (ds : List Char) : Prop where
  digits : ∀ c ∈ ds, c.isDigit = true
  nonempty : ds ≠ []
  leading : ds.head? = some '0' → ds.length ≤ 1

/-- The text cannot be taken for the rest of a number. -/
def EndsNumber : List Char → Prop
  | [] => True
  | c :: _ => c.isDigit = false ∧ c ≠ '.' ∧ c ≠ 'e' ∧ c ≠ 'E'

theorem EndsNumber.stops {rest : List Char} (h : EndsNumber rest) : Stops Char.isDigit rest := by
  cases rest with
  | nil => trivial
  | cons c cs => exact h.1

theorem isWhole_toDigits (n : ℕ) : IsWhole (Nat.toDigits 10 n) where
  digits := isDigit_toDigits n
  nonempty := Nat.toDigits_ne_nil
  leading h := by
    rcases Nat.eq_zero_or_pos n with rfl | hn
    · simp
    · exact absurd h (head_toDigits_ne_zero hn)

section Unsigned

variable (negative : Bool) {whole rest : List Char}

theorem IsWhole.accepted (hw : IsWhole whole) :
    (whole.isEmpty || (whole.head? == some '0' && decide (1 < whole.length))) = false := by
  have hne : whole.isEmpty = false := by simpa using hw.nonempty
  rw [hne, Bool.false_or, Bool.and_eq_false_iff]
  by_cases h : whole.head? = some '0'
  · exact Or.inr (by simpa using hw.leading h)
  · exact Or.inl (by simpa using h)

theorem readUnsigned_whole (hw : IsWhole whole) (hr : EndsNumber rest) :
    readUnsigned negative (whole ++ rest) = some (Number.ofDigits negative whole, rest) := by
  unfold readUnsigned
  simp only [takeWhile_append_stops hw.digits hr.stops, dropWhile_append_stops hw.digits hr.stops,
    hw.accepted, Bool.false_eq_true, if_false]
  cases rest with
  | nil => simp
  | cons c cs =>
    obtain ⟨-, hpoint, he, hE⟩ := hr
    split
    · simp_all
    · simp_all
    · simp_all

theorem readUnsigned_fraction {fraction : List Char} (hw : IsWhole whole)
    (hf : ∀ c ∈ fraction, c.isDigit = true) (hne : fraction ≠ []) (hr : EndsNumber rest) :
    readUnsigned negative (whole ++ '.' :: (fraction ++ rest)) =
      some (Number.ofParts negative whole fraction 0, rest) := by
  have hpoint : Stops Char.isDigit ('.' :: (fraction ++ rest)) := rfl
  unfold readUnsigned
  simp only [takeWhile_append_stops hw.digits hpoint, dropWhile_append_stops hw.digits hpoint,
    hw.accepted, takeWhile_append_stops hf hr.stops, dropWhile_append_stops hf hr.stops]
  cases rest with
  | nil => simp [hne]
  | cons c cs =>
    obtain ⟨-, -, he, hE⟩ := hr
    simp [hne, he, hE]

/-- A point and the digits behind it, where there are any. -/
def pointed (fraction : List Char) : List Char :=
  if fraction.isEmpty then [] else '.' :: fraction

theorem readExponent_signed (below : Bool) (n : ℕ) (hr : EndsNumber rest) :
    readExponent ((if below then '-' else '+') :: (Nat.toDigits 10 n ++ rest)) =
      some (if below then -(n : ℤ) else n, rest) := by
  have hne : (Nat.toDigits 10 n).isEmpty = false := by simp
  cases below <;>
    simp [readExponent, takeWhile_append_stops (isDigit_toDigits n) hr.stops,
      dropWhile_append_stops (isDigit_toDigits n) hr.stops, Nat.ofDigitChars_ten_toDigits, hne]

theorem readUnsigned_exponent {fraction tail : List Char} {mark : Char} {exponent : ℤ}
    (hw : IsWhole whole) (hf : ∀ c ∈ fraction, c.isDigit = true) (hmark : mark = 'e' ∨ mark = 'E')
    (ht : readExponent tail = some (exponent, rest)) :
    readUnsigned negative (whole ++ (pointed fraction ++ mark :: tail)) =
      some (Number.ofParts negative whole fraction exponent, rest) := by
  have he : Stops Char.isDigit (mark :: tail) := by rcases hmark with rfl | rfl <;> rfl
  have hpoint : mark ≠ '.' := by rcases hmark with rfl | rfl <;> decide
  unfold readUnsigned pointed
  by_cases hne : fraction = []
  · subst hne
    simp [takeWhile_append_stops hw.digits he, dropWhile_append_stops hw.digits he, hw.accepted, ht,
      hmark, hpoint]
  · have hempty : fraction.isEmpty = false := by simpa using hne
    have hstop : Stops Char.isDigit ('.' :: (fraction ++ mark :: tail)) := rfl
    simp [hempty, takeWhile_append_stops hw.digits hstop, dropWhile_append_stops hw.digits hstop,
      takeWhile_append_stops hf he, dropWhile_append_stops hf he, hw.accepted, ht, hmark]

end Unsigned

section Real

variable {d : Decimal} {x : Finite} {whole fraction rest : List Char}

theorem isWhole_of_isPlain (h : d.IsPlain whole fraction) : IsWhole whole where
  digits := (List.forall_mem_append.1 h.isDigit).1
  nonempty := h.ne_nil
  leading := h.leading

theorem ofParts_of_nearest {exponent : ℤ} (hx : d.nearest = .finite x)
    (h : (Decimal.ofParts d.negative whole fraction exponent).nearest = d.nearest) :
    Number.ofParts d.negative whole fraction exponent = some (.real x) := by
  simp [Number.ofParts, h, hx]

theorem readUnsigned_plain_whole (hd : d.digits ≠ 0) (hx : d.nearest = .finite x)
    (he : 0 ≤ d.exponent) (hr : EndsNumber rest) :
    readUnsigned d.negative (d.plainChars ++ '.' :: '0' :: rest) =
      some (some (.real x), rest) := by
  obtain ⟨whole, fraction, hplain⟩ := Decimal.exists_isPlain hd
  have hfraction : fraction = [] := by simpa [he] using hplain.isEmpty_fraction
  subst hfraction
  have hread := readUnsigned_fraction d.negative (isWhole_of_isPlain hplain)
    (by decide : ∀ c ∈ ['0'], c.isDigit = true) (by decide) hr
  have hchars : d.plainChars = whole := by
    rw [hplain.eq_numeral, numeral, List.isEmpty_nil, if_pos rfl, List.append_nil]
  rw [hchars, ← List.singleton_append (l := rest), hread,
    ofParts_of_nearest hx ((Decimal.nearest_ofParts_zero _ _).trans hplain.nearest_eq)]

theorem readUnsigned_plain_point (hd : d.digits ≠ 0) (hx : d.nearest = .finite x)
    (he : d.exponent < 0) (hr : EndsNumber rest) :
    readUnsigned d.negative (d.plainChars ++ rest) = some (some (.real x), rest) := by
  obtain ⟨whole, fraction, hplain⟩ := Decimal.exists_isPlain hd
  have hfraction : fraction.isEmpty = false := by
    rw [hplain.isEmpty_fraction, decide_eq_false (not_le.2 he)]
  have hread := readUnsigned_fraction d.negative (isWhole_of_isPlain hplain)
    (List.forall_mem_append.1 hplain.isDigit).2 (List.isEmpty_eq_false_iff.1 hfraction) hr
  rw [hplain.eq_numeral, numeral, hfraction, if_neg Bool.false_ne_true, List.append_assoc,
    List.cons_append, hread, ofParts_of_nearest hx hplain.nearest_eq]

theorem readUnsigned_scientific (hx : d.nearest = .finite x) (hr : EndsNumber rest) :
    readUnsigned d.negative (d.scientificChars ++ rest) = some (some (.real x), rest) := by
  have hvalue := Nat.ofDigitChars_ten_toDigits (n := d.digits)
  have hposition : d.pointPosition = (Nat.toDigits 10 d.digits).length + d.exponent := rfl
  have hdigit := isDigit_toDigits d.digits
  obtain ⟨first, tail, hdigits⟩ := List.exists_cons_of_ne_nil
    (Nat.toDigits_ne_nil (n := d.digits) (b := 10))
  rw [hdigits] at hvalue hposition hdigit
  have hchars : d.scientificChars ++ rest = [first] ++ (pointed tail ++ 'e' ::
      (if d.pointPosition - 1 < 0 then '-' else '+') ::
        (Nat.toDigits 10 (d.pointPosition - 1).natAbs ++ rest)) := by
    rw [Decimal.scientificChars, hdigits]
    cases tail <;> simp [pointed]
  have hwhole : IsWhole [first] :=
    ⟨fun c hc => hdigit c (List.mem_of_mem_head? (by simp_all)), by simp, by simp⟩
  have hexponent := readExponent_signed (d.pointPosition - 1 < 0) (d.pointPosition - 1).natAbs hr
  simp only [decide_eq_true_eq] at hexponent
  have hread := readUnsigned_exponent d.negative hwhole
    (fun c hc => hdigit c (List.mem_cons_of_mem _ hc)) (.inl rfl) hexponent
  rw [hchars, hread, ofParts_of_nearest hx (congrArg _ (Decimal.ofParts_of_digits ?_ ?_))]
  · rw [List.singleton_append, hvalue]
  · rw [List.length_cons] at hposition
    split_ifs <;> omega

end Real

theorem readNumber_sign {negative : Bool} {cs : List Char} {n : Option Number × List Char}
    (h : readUnsigned negative cs = some n) : readNumber (signChars negative ++ cs) = some n := by
  cases negative with
  | true => exact h
  | false =>
    rw [signChars, if_neg Bool.false_ne_true, List.nil_append]
    unfold readNumber
    split
    · simp [readUnsigned] at h
    · exact h

/-- A real number reads back, in front of anything that can follow a number. -/
theorem readNumber_documentChars (x : Finite) {rest : List Char} (hr : EndsNumber rest) :
    readNumber (x.documentChars ++ rest) = some (some (.real x), rest) := by
  have hx := Finite.nearest_shortest .even x
  have hsign := Finite.negative_shortest .even x
  rw [Finite.documentChars, List.append_assoc]
  apply readNumber_sign
  split_ifs with hzero hplain hwhole
  · have hread := readUnsigned_fraction x.negative (isWhole_toDigits 0)
      (by decide : ∀ c ∈ ['0'], c.isDigit = true) (by decide) hr
    rw [Nat.toDigits_zero] at hread
    have hvalue : (Decimal.ofParts x.negative ['0'] ['0'] 0).nearest = .finite x :=
      Decimal.nearest_of_rank (beq_iff_eq.1 hzero).symm
    have hparts : Number.ofParts x.negative ['0'] ['0'] 0 = some (.real x) := by
      simp [Number.ofParts, hvalue]
    rw [← hparts]
    exact hread
  all_goals have hdigits := Finite.digits_shortest_ne_zero .even (Bool.eq_false_iff.2 hzero)
  · rw [List.append_assoc, ← hsign]
    exact readUnsigned_plain_whole hdigits hx hwhole hr
  · rw [← hsign]
    exact readUnsigned_plain_point hdigits hx (not_le.1 hwhole) hr
  · rw [← hsign]
    exact readUnsigned_scientific hx hr

theorem ofDigits_natural (n : UInt64) :
    Number.ofDigits false (Nat.toDigits 10 n.toNat) = some (.natural n) := by
  simp [Number.ofDigits, Nat.ofDigitChars_ten_toDigits, n.toNat_lt]

theorem ofDigits_negative (below : Fin (2 ^ 63)) :
    Number.ofDigits true (Nat.toDigits 10 (below.val + 1)) = some (.negative below) := by
  have hlt := below.isLt
  simp only [Number.ofDigits, Nat.ofDigitChars_ten_toDigits, Bool.not_true, Bool.false_and,
    Bool.false_eq_true, if_false]
  rw [dif_pos ⟨trivial, by omega, by omega⟩]
  rfl

/-- Every number reads back as what it is, a whole number as a whole one. -/
theorem readNumber_chars (n : Number) {rest : List Char} (hr : EndsNumber rest) :
    readNumber (n.chars ++ rest) = some (some n, rest) := by
  cases n with
  | natural n =>
    have hread := readUnsigned_whole false (isWhole_toDigits n.toNat) hr
    rw [ofDigits_natural] at hread
    exact readNumber_sign hread
  | negative below =>
    have hread := readUnsigned_whole true (isWhole_toDigits (below.val + 1)) hr
    rw [ofDigits_negative] at hread
    exact readNumber_sign hread
  | real x => exact readNumber_documentChars x hr

/-! ## Characters -/

theorem le_toNat_of_isDigit {c : Char} (h : c.isDigit = true) : 32 ≤ c.toNat := by
  have hbounds := toNat_of_isDigit h
  omega

theorem le_toNat_toDigits (n : ℕ) : ∀ c ∈ Nat.toDigits 10 n, 32 ≤ c.toNat :=
  fun c hc => le_toNat_of_isDigit (isDigit_toDigits n c hc)

theorem le_toNat_signChars (negative : Bool) : ∀ c ∈ signChars negative, 32 ≤ c.toNat := by
  cases negative <;> decide

theorem le_toNat_plainChars (d : Decimal) : ∀ c ∈ d.plainChars, 32 ≤ c.toNat := by
  have hdigits := le_toNat_toDigits d.digits
  have hzeros : ∀ k, ∀ c ∈ List.replicate k '0', 32 ≤ c.toNat :=
    fun k c hc => le_toNat_of_isDigit (isDigit_zeros k c hc)
  unfold Decimal.plainChars
  simp only []
  split_ifs
  · exact List.forall_mem_append.2 ⟨hdigits, hzeros _⟩
  · exact List.forall_mem_append.2 ⟨fun c hc => hdigits c (List.mem_of_mem_take hc),
      List.forall_mem_cons.2 ⟨by decide, fun c hc => hdigits c (List.mem_of_mem_drop hc)⟩⟩
  · exact List.forall_mem_cons.2 ⟨by decide, List.forall_mem_cons.2 ⟨by decide,
      List.forall_mem_append.2 ⟨hzeros _, hdigits⟩⟩⟩

theorem le_toNat_scientificChars (d : Decimal) : ∀ c ∈ d.scientificChars, 32 ≤ c.toNat := by
  have hdigits := le_toNat_toDigits d.digits
  unfold Decimal.scientificChars
  simp only []
  refine List.forall_mem_append.2 ⟨?_, List.forall_mem_cons.2 ⟨by decide,
    List.forall_mem_cons.2 ⟨by split_ifs <;> decide, le_toNat_toDigits _⟩⟩⟩
  split
  · rename_i first second rest heq
    rw [heq, List.forall_mem_cons] at hdigits
    exact List.forall_mem_cons.2 ⟨hdigits.1, List.forall_mem_cons.2 ⟨by decide, hdigits.2⟩⟩
  · exact hdigits

/-- A number has no control characters. -/
theorem le_toNat_numberChars (n : Number) : ∀ c ∈ n.chars, 32 ≤ c.toNat := by
  cases n with
  | natural n => exact le_toNat_toDigits n.toNat
  | negative below => exact List.forall_mem_cons.2 ⟨by decide, le_toNat_toDigits _⟩
  | real x =>
    refine List.forall_mem_append.2 ⟨le_toNat_signChars x.negative, ?_⟩
    split_ifs
    · decide
    · exact List.forall_mem_append.2 ⟨le_toNat_plainChars _, by decide⟩
    · exact le_toNat_plainChars _
    · exact le_toNat_scientificChars _

end LoadTest.Json
