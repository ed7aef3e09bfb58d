import LoadTest.Proofs.Number.Order
import LoadTest.Proofs.Report.Checks

/-!
# How large the numbers of a report are

Numbers have no limit in a report, and a double has one. But a number is taken from the text as it
stands there (`Scan.Ensures`, `find_ensures`, `isNumeral_of_mem_rawChecks`), so where no run of
digits is longer than some size, a number has at most so many digits before its point, and lies
below that power of ten (`IsNumeral.within`).
-/

namespace LoadTest.Report

variable {α β : Type} {size : ℕ} {cs t : List Char}

/-- No run of digits is longer than that. -/
def RunsWithin (size : ℕ) (cs : List Char) : Prop :=
  ∀ digits, digits <:+: cs → (∀ c ∈ digits, c.isDigit = true) → digits.length ≤ size

theorem RunsWithin.of_isInfix (h : RunsWithin size cs) (ht : t <:+: cs) : RunsWithin size t :=
  fun digits hdigits => h digits (hdigits.trans ht)

theorem runsWithin_of_length_le (h : cs.length ≤ size) : RunsWithin size cs :=
  fun _ hdigits _ => hdigits.length_le.trans h

/-! ## Numerals -/

/-- Digits and points, as they are taken from such a text. -/
def IsNumeral (size : ℕ) (t : List Char) : Prop :=
  RunsWithin size t ∧ ∀ c ∈ t, Duration.isReportDigit c = true

/-- A text of digits denotes a number below the power of ten of its length. -/
theorem ofDigitChars_lt_pow (h : ∀ c ∈ cs, c.isDigit = true) (init : ℕ) :
    Nat.ofDigitChars 10 cs init < (init + 1) * 10 ^ cs.length := by
  induction cs generalizing init with
  | nil => simp
  | cons c cs ih =>
    have hdigit : c.toNat - '0'.toNat ≤ 9 := by
      have hbounds := toNat_of_isDigit (h c List.mem_cons_self)
      have hzero : '0'.toNat = 48 := rfl
      omega
    rw [Nat.ofDigitChars_cons, List.length_cons, Nat.pow_succ, Nat.mul_comm (10 ^ cs.length),
      ← Nat.mul_assoc]
    refine (ih (fun d hd => h d (List.mem_cons_of_mem c hd)) _).trans_le ?_
    exact Nat.mul_le_mul_right _ (by omega)

section Numeral

variable {limit : ℕ} {x : Binary64}

theorem IsNumeral.within (ht : IsNumeral size t) (hl : Binary64.IsMagnitude limit)
    (hsize : 10 ^ size * Binary64.one ≤ limit) (h : amount? t = some x) :
    x.Within limit ∧ x.isNegative = false := by
  obtain ⟨hruns, hdigit⟩ := ht
  obtain ⟨d, hd, rfl⟩ := Binary64.ofChars?_eq_some hdigit h
  obtain ⟨whole, fraction, hparts, hdigits, rfl⟩ := Decimal.ofChars?_eq_some hdigit hd
  have hwhole : whole <:+: t := by
    rcases hparts with rfl | rfl
    · exact List.infix_rfl
    · exact (List.prefix_append _ _).isInfix
  refine ⟨Decimal.within_nearest hl (by simp [Decimal.ofParts]) ?_, Decimal.isNegative_nearest _⟩
  have hlength := hruns whole hwhole fun c hc => hdigits c (List.mem_append_left _ hc)
  have hlt := ofDigitChars_lt_pow hdigits 0
  rw [Nat.zero_add, Nat.one_mul, List.length_append, Nat.pow_add] at hlt
  simp only [Decimal.ofParts, zero_sub, Int.natAbs_neg, Int.natAbs_natCast]
  calc Nat.ofDigitChars 10 (whole ++ fraction) 0 * Binary64.one
      ≤ 10 ^ size * 10 ^ fraction.length * Binary64.one := by
        refine Nat.mul_le_mul_right _ (hlt.le.trans (Nat.mul_le_mul_right _ ?_))
        exact Nat.pow_le_pow_right (by decide) hlength
    _ = 10 ^ size * Binary64.one * 10 ^ fraction.length := by ring
    _ ≤ limit * 10 ^ fraction.length := Nat.mul_le_mul_right _ hsize

end Numeral

/-! ## Scans -/

namespace Scan

/-- From such a text the scan takes something from the front, and makes of it what is said. -/
def Ensures (size : ℕ) (scan : Scan α) (post : α → Prop) : Prop :=
  ∀ cs, RunsWithin size cs → ∀ a rest, scan cs = some (a, rest) → rest <:+ cs ∧ post a

section Ensures

variable {post : α → Prop} {post' : β → Prop}

theorem ensures_pure {a : α} (h : post a) : Ensures size (pure a) post := by
  intro cs _ b rest hscan
  obtain ⟨rfl, rfl⟩ := Prod.mk.inj (Option.some.inj hscan)
  exact ⟨List.suffix_refl _, h⟩

theorem Ensures.bind {scan : Scan α} {next : α → Scan β} (h : Ensures size scan post)
    (hnext : ∀ a, post a → Ensures size (next a) post') : Ensures size (scan >>= next) post' := by
  intro cs hcs b rest hscan
  obtain ⟨a, mid, ha, hb⟩ := bind_eq_some.1 hscan
  obtain ⟨hmid, hpost⟩ := h cs hcs a mid ha
  obtain ⟨hrest, hpost'⟩ := hnext a hpost mid (hcs.of_isInfix hmid.isInfix) b rest hb
  exact ⟨hrest.trans hmid, hpost'⟩

/-- A step whose outcome does not matter. -/
theorem Ensures.andThen {scan : Scan α} {next : α → Scan β} (h : Ensures size scan post)
    (hnext : ∀ a, Ensures size (next a) post') : Ensures size (scan >>= next) post' :=
  h.bind fun a _ => hnext a

theorem ensures_run (p : Char → Bool) :
    Ensures size (run p) fun xs => RunsWithin size xs ∧ ∀ c ∈ xs, p c = true := by
  intro cs hcs xs rest hscan
  obtain ⟨-, rfl, rfl⟩ := run_eq_some.1 hscan
  exact ⟨List.dropWhile_suffix p, hcs.of_isInfix (List.takeWhile_prefix p).isInfix,
    fun _ => List.mem_takeWhile_imp⟩

theorem ensures_runOrNothing (p : Char → Bool) :
    Ensures size (runOrNothing p) fun _ => True := by
  intro cs _ xs rest hscan
  obtain ⟨-, rfl⟩ := Prod.mk.inj (Option.some.inj hscan)
  exact ⟨List.dropWhile_suffix p, trivial⟩

theorem ensures_exactly (xs : List Char) : Ensures size (exactly xs) fun _ => True := by
  intro cs _ _ rest hscan
  exact ⟨⟨xs, (exactly_eq_some.1 hscan).symm⟩, trivial⟩

theorem ensures_amount : Ensures size amount (IsNumeral size) :=
  ensures_run _

end Ensures

/-- A numeral and the unit of a report. -/
def IsDuration (size : ℕ) (t : List Char) : Prop :=
  ∃ number unit, IsNumeral size number ∧ unit ∈ [['m', 's'], ['s']] ∧ t = number ++ unit

theorem ensures_labelled (label : String) : Ensures size (labelled label) (IsDuration size) := by
  unfold labelled
  rw [duration_eq]
  refine (ensures_exactly _).andThen fun _ => ensures_amount.bind fun number hnumber => ?_
  refine Ensures.bind (show Ensures size durationUnit fun unit => unit ∈ durationUnits from ?_)
    fun unit hunit => ensures_pure ⟨number, unit, hnumber, hunit, rfl⟩
  intro cs _ unit rest hscan
  obtain ⟨hunit, hcs⟩ := (picks_durationUnit _ _ _).1 hscan
  exact ⟨⟨unit, hcs.symm⟩, hunit⟩

theorem ensures_counter : Ensures size counter fun texts => IsNumeral size texts.2 :=
  (ensures_run _).andThen fun _ => (ensures_run _).andThen fun _ =>
    ensures_amount.bind fun _ hrate => (ensures_exactly _).andThen fun _ => ensures_pure hrate

theorem ensures_share : Ensures size share fun texts => IsNumeral size texts.1 :=
  ensures_amount.bind fun _ hpercentage =>
    (ensures_exactly _).andThen fun _ => (ensures_run _).andThen fun _ =>
    (ensures_run _).andThen fun _ => (ensures_run _).andThen fun _ =>
    (ensures_exactly _).andThen fun _ => (ensures_run _).andThen fun _ =>
    (ensures_run _).andThen fun _ => ensures_pure hpercentage

theorem ensures_markedShare : Ensures size markedShare fun texts => IsNumeral size texts.1 :=
  ensures_amount.bind fun _ hpercentage =>
    (ensures_exactly _).andThen fun _ => (ensures_run _).andThen fun _ =>
    (ensures_exactly _).andThen fun _ => (ensures_run _).andThen fun _ =>
    (ensures_run _).andThen fun _ => (ensures_run _).andThen fun _ =>
    (ensures_exactly _).andThen fun _ => (ensures_run _).andThen fun _ =>
    (ensures_run _).andThen fun _ => ensures_pure hpercentage

theorem ensures_trend : Ensures size trend fun texts => ∀ t ∈ texts, IsDuration size t :=
  (ensures_labelled _).bind fun _ havg => (ensures_run _).andThen fun _ =>
    (ensures_labelled _).bind fun _ hmin => (ensures_run _).andThen fun _ =>
    (ensures_labelled _).bind fun _ hmed => (ensures_run _).andThen fun _ =>
    (ensures_labelled _).bind fun _ hmax => (ensures_run _).andThen fun _ =>
    (ensures_labelled _).bind fun _ hp90 => (ensures_run _).andThen fun _ =>
    (ensures_labelled _).bind fun _ hp95 => ensures_pure <| by
      simp [havg, hmin, hmed, hmax, hp90, hp95]

theorem ensures_checkDetail : Ensures size checkDetail fun texts => IsNumeral size texts.1 :=
  (ensures_runOrNothing _).andThen fun _ => (ensures_exactly _).andThen fun _ =>
    (ensures_runOrNothing _).andThen fun _ => ensures_amount.bind fun _ hpercentage =>
    (ensures_exactly _).andThen fun _ => (ensures_run _).andThen fun _ =>
    (ensures_exactly _).andThen fun _ => (ensures_run _).andThen fun _ =>
    (ensures_exactly _).andThen fun _ => (ensures_runOrNothing _).andThen fun _ =>
    (ensures_run _).andThen fun _ => (ensures_runOrNothing _).andThen fun _ =>
    (ensures_exactly _).andThen fun _ => (ensures_runOrNothing _).andThen fun _ =>
    (ensures_exactly _).andThen fun _ => (ensures_runOrNothing _).andThen fun _ =>
    (ensures_run _).andThen fun _ => ensures_pure hpercentage

end Scan

/-! ## Texts taken from a report -/

section Find

variable {values : Scan α} {post : α → Prop} {a : α} {raw : List Char}

theorem exists_of_behindSeparator (h : behindSeparator values cs = some a) :
    ∃ mid rest, mid <:+ cs ∧ values mid = some (a, rest) := by
  induction cs with
  | nil => cases h
  | cons c cs ih =>
    rw [behindSeparator] at h
    split at h
    · split at h
      · rename_i hlater
        obtain ⟨mid, rest, hmid, hvalues⟩ := ih (hlater.trans h)
        exact ⟨mid, rest, hmid.trans (List.suffix_cons c cs), hvalues⟩
      · obtain ⟨⟨b, rest⟩, hvalues, rfl⟩ := Option.map_eq_some_iff.1 h
        exact ⟨cs, rest, List.suffix_cons c cs, hvalues⟩
    · cases h

theorem exists_of_findSection {name : List Char} {before : Option Char}
    (h : findSection name values before cs = some a) :
    ∃ mid rest, mid <:+ cs ∧ values mid = some (a, rest) := by
  obtain ⟨xs, behind, rfl, -, hbehind⟩ := exists_name_of_findSection h
  obtain ⟨mid, rest, hmid, hvalues⟩ := exists_of_behindSeparator hbehind
  refine ⟨mid, rest, hmid.trans ?_, hvalues⟩
  rw [← List.append_assoc]
  exact List.suffix_append _ _

theorem find_ensures {name : String} (hvalues : values.Ensures size post)
    (hraw : RunsWithin size raw) (h : find name values raw = some a) : post a := by
  obtain ⟨mid, rest, hmid, hscan⟩ := exists_of_findSection h
  exact (hvalues mid (hraw.of_isInfix hmid.isInfix) a rest hscan).2

end Find

theorem ensures_checkBehindMark :
    Scan.Ensures size checkBehindMark fun check => IsNumeral size check.percentage := by
  intro cs hcs check rest h
  unfold checkBehindMark at h
  simp only [] at h
  split at h
  · cases h
  split at h
  · rename_i c nextLine hline
    have hsuffix : nextLine <:+ cs :=
      (List.suffix_cons c nextLine).trans
        (hline ▸ (List.dropWhile_suffix _).trans (List.dropWhile_suffix _))
    split at h
    · rename_i hdetail
      obtain ⟨hrest, hpercentage⟩ :=
        Scan.ensures_checkDetail nextLine (hcs.of_isInfix hsuffix.isInfix) _ _ hdetail
      obtain ⟨rfl, rfl⟩ := Prod.mk.inj (Option.some.inj h)
      exact ⟨hrest.trans hsuffix, hpercentage⟩
    · cases h
  · cases h

theorem isNumeral_of_mem_rawChecks (hcs : RunsWithin size cs) :
    ∀ check ∈ rawChecks cs, IsNumeral size check.percentage := by
  induction cs using rawChecks.induct with
  | case1 => simp [rawChecks]
  | case2 c cs hc check rest hcheck ih =>
    obtain ⟨hrest, hpercentage⟩ := ensures_checkBehindMark cs
      (hcs.of_isInfix (List.suffix_cons c cs).isInfix) check rest hcheck
    rw [Layout.rawChecks_of_checkBehindMark hc hcheck, List.forall_mem_cons]
    exact ⟨hpercentage, ih (hcs.of_isInfix (hrest.trans (List.suffix_cons c cs)).isInfix)⟩
  | case3 c cs hc hcheck ih =>
    rw [Layout.rawChecks_of_checkBehindMark_eq_none hcheck]
    exact ih (hcs.of_isInfix (List.suffix_cons c cs).isInfix)
  | case4 c cs hc ih =>
    rw [Layout.rawChecks_cons_of_not_isMark (by simpa using hc)]
    exact ih (hcs.of_isInfix (List.suffix_cons c cs).isInfix)

end LoadTest.Report
