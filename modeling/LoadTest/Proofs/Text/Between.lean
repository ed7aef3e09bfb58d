import LoadTest.Proofs.Text.Runs
import Mathlib.Data.List.Infix

/-!
# Text between two marks

`between?` takes what stands behind the first place of one mark and in front of the next place of
another. A mark is first found where it was put if it starts nowhere before (`cutAt?_append`).

Most marks here go over the end of a line. How the lines of a text start, behind their margins, is
a property of its parts (`linesStart_append`), and such a mark is not found among lines that start
in another way than its own (`cutAt?_of_linesStart`).
-/

namespace LoadTest

/-- What stands in front of the first place of a mark, and what stands behind it. -/
def cutAt? (mark : List Char) : List Char → Option (List Char × List Char)
  | [] => if mark.isEmpty then some ([], []) else none
  | c :: rest =>
    if mark <+: c :: rest then some ([], (c :: rest).drop mark.length)
    else (cutAt? mark rest).map fun parts => (c :: parts.1, parts.2)

/-- What stands behind the first place of `opening`, up to the first place of `closing` there. -/
def between? (opening closing text : String) : Option String := do
  let (_, rest) ← cutAt? opening.toList text.toList
  let (inside, _) ← cutAt? closing.toList rest
  return String.ofList inside

theorem cutAt?_append {mark before behind : List Char}
    (h : ∀ tail, tail <:+ before → tail ≠ [] → ¬ mark <+: tail ++ (mark ++ behind)) :
    cutAt? mark (before ++ (mark ++ behind)) = some (before, behind) := by
  induction before with
  | nil =>
    rw [List.nil_append]
    cases hall : mark ++ behind with
    | nil =>
      obtain ⟨rfl, rfl⟩ := List.append_eq_nil_iff.1 hall
      rfl
    | cons c rest => rw [cutAt?, ← hall, if_pos (List.prefix_append mark behind), List.drop_left]
  | cons c before ih =>
    have hhere : ¬ mark <+: c :: (before ++ (mark ++ behind)) :=
      h (c :: before) (List.suffix_refl _) (List.cons_ne_nil _ _)
    have hlater := ih fun tail htail => h tail (htail.trans (List.suffix_cons c before))
    rw [List.cons_append, cutAt?, if_neg hhere, hlater]
    rfl

/-- A mark is not found in front of its place if no end of the text before it can start one. -/
theorem cutAt?_append_of_tails {mark before : List Char}
    (h : ∀ tail ∈ before.tails, tail ≠ [] → mark.isPrefixOf (tail ++ mark) = false)
    (behind : List Char) : cutAt? mark (before ++ (mark ++ behind)) = some (before, behind) := by
  refine cutAt?_append fun tail htail hne hmark => ?_
  have hwithin : mark <+: tail ++ mark := by
    rw [← List.append_assoc] at hmark
    exact List.prefix_of_prefix_length_le hmark (List.prefix_append _ _) (by simp)
  have hno := h tail ((List.mem_tails tail before).2 htail) hne
  rw [List.isPrefixOf_iff_prefix.2 hwithin] at hno
  cases hno

theorem between?_eq_some {opening closing : String} {before inside rest behind : List Char}
    {text : String} (hopening : cutAt? opening.toList text.toList = some (before, rest))
    (hclosing : cutAt? closing.toList rest = some (inside, behind)) :
    between? opening closing text = some (String.ofList inside) := by
  simp only [between?, hopening, hclosing, Option.bind_eq_bind, Option.bind_some, pure]

/-! ## How lines start -/

/-- Behind spaces the text goes on with such a character. -/
def startsWith (p : Char → Bool) (cs : List Char) : Bool :=
  (cs.find? (· != ' ')).any p

/-- Every line but the first starts with such a character, behind spaces. -/
def linesStart (p : Char → Bool) : List Char → Bool
  | [] => true
  | c :: rest => (c != '\n' || startsWith p rest) && linesStart p rest

section Lines

variable {p q : Char → Bool} {xs ys : List Char}

theorem startsWith_append (h : startsWith p xs = true) : startsWith p (xs ++ ys) = true := by
  obtain ⟨c, hc, hp⟩ := (Option.any_eq_true _ _).1 h
  rw [startsWith, List.find?_append, hc, Option.some_or, Option.any_some, hp]

theorem linesStart_append (hxs : linesStart p xs = true) (hys : linesStart p ys = true) :
    linesStart p (xs ++ ys) = true := by
  induction xs with
  | nil => exact hys
  | cons c xs ih =>
    rw [linesStart, Bool.and_eq_true, Bool.or_eq_true] at hxs
    rw [List.cons_append, linesStart, Bool.and_eq_true, Bool.or_eq_true]
    exact ⟨hxs.1.imp_right startsWith_append, ih hxs.2⟩

theorem linesStart_right (h : linesStart p (xs ++ ys) = true) : linesStart p ys = true := by
  induction xs with
  | nil => exact h
  | cons c xs ih =>
    rw [List.cons_append, linesStart, Bool.and_eq_true] at h
    exact ih h.2

/-- A text whose lines start with something does not end with a line end. -/
theorem getLast?_of_linesStart (h : linesStart p xs = true) : xs.getLast? ≠ some '\n' := by
  intro hlast
  obtain ⟨before, rfl⟩ := List.getLast?_eq_some_iff.1 hlast
  exact absurd (linesStart_right h) (by simp [linesStart, startsWith])

theorem linesStart_of_notMem (h : '\n' ∉ xs) : linesStart p xs = true := by
  induction xs with
  | nil => rfl
  | cons c xs ih =>
    rw [List.mem_cons, not_or] at h
    rw [linesStart, ih h.2]
    simp [Ne.symm h.1]

theorem linesStart_mono (hpq : ∀ c, p c = true → q c = true) (h : linesStart p xs = true) :
    linesStart q xs = true := by
  induction xs with
  | nil => rfl
  | cons c xs ih =>
    rw [linesStart, Bool.and_eq_true, Bool.or_eq_true] at h ⊢
    refine ⟨h.1.imp_right fun hstart => ?_, ih h.2⟩
    obtain ⟨d, hd, hp⟩ := (Option.any_eq_true _ _).1 hstart
    exact (Option.any_eq_true _ _).2 ⟨d, hd, hpq d hp⟩

theorem linesStart_ne {c : Char} (hc : p c = false) (h : linesStart p xs = true) :
    linesStart (· != c) xs = true :=
  linesStart_mono (fun _ hd => bne_iff_ne.2 (ne_of_class hd hc)) h

/-- The first line of a text is determined by the text. -/
theorem append_lineFeed_inj {line other rest more : List Char} (hline : '\n' ∉ line)
    (hother : '\n' ∉ other) (h : line ++ '\n' :: rest = other ++ '\n' :: more) :
    line = other ∧ rest = more := by
  have hrun : ∀ cs : List Char, '\n' ∉ cs → ∀ c ∈ cs, (c != '\n') = true := by
    intro cs hcs c hc
    rw [bne_iff_ne]
    rintro rfl
    exact hcs hc
  have hstop : ∀ cs, Stops (· != '\n') ('\n' :: cs) := fun _ => rfl
  have hfirst := congrArg (List.takeWhile (· != '\n')) h
  rw [takeWhile_append_stops (hrun line hline) (hstop rest),
    takeWhile_append_stops (hrun other hother) (hstop more)] at hfirst
  subst hfirst
  exact ⟨rfl, (List.cons.inj (List.append_cancel_left h)).2⟩

/-- A mark over the end of a line is found where it was put if the lines before start otherwise. -/
theorem cutAt?_of_linesStart {front next before behind : List Char} {c : Char}
    (hfront : '\n' ∉ front) (hnext : next.find? (· != ' ') = some c) (hc : p c = false)
    (h : linesStart p (before ++ front) = true) :
    cutAt? (front ++ '\n' :: next) (before ++ (front ++ '\n' :: next ++ behind)) =
      some (before, behind) := by
  refine cutAt?_append fun tail htail hne hmark => ?_
  obtain ⟨more, hmore⟩ := hmark
  simp only [List.append_assoc, List.cons_append] at hmore
  by_cases hbreak : '\n' ∈ tail
  · -- the mark would go over a line end of the text before its place
    obtain ⟨line, rest, rfl, hline⟩ := List.eq_append_cons_of_mem hbreak
    simp only [List.append_assoc, List.cons_append] at hmore
    obtain ⟨-, hrest⟩ := append_lineFeed_inj hfront hline hmore
    obtain ⟨earlier, rfl⟩ := htail
    have hstart : startsWith p (rest ++ front) = true := by
      simp only [List.append_assoc, List.cons_append] at h
      have hlast := linesStart_right (linesStart_right h)
      rw [linesStart, Bool.and_eq_true, Bool.or_eq_true] at hlast
      exact hlast.1.resolve_left (by simp)
    have hsame : startsWith p (rest ++ front ++ '\n' :: (next ++ behind)) = true :=
      startsWith_append hstart
    rw [List.append_assoc, ← hrest, startsWith, List.find?_append, hnext, Option.some_or,
      Option.any_some, hc] at hsame
    cases hsame
  · -- the line of the mark would be longer than it is
    rw [← List.append_assoc] at hmore
    have hshort : '\n' ∉ tail ++ front := by simp [hbreak, hfront]
    obtain ⟨hlonger, -⟩ := append_lineFeed_inj hfront hshort hmore
    exact hne (List.append_left_eq_self.1 hlonger.symm)

end Lines

end LoadTest
