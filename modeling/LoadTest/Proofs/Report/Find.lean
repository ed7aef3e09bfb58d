import LoadTest.Proofs.Report.Arrow

/-!
# Looking for a section

The names of sections are words, and start with one of five letters (`IsName`). A search passes over
a text in which these letters start no word (`PassedOver`), and over another name
(`findSection_other`). At its own name it finds the values behind the separator
(`findSection_own`).

A text that holds no section holds none either when a line that starts with an arrow comes behind it
(`findSection_append`).
-/

namespace LoadTest.Report

variable {α : Type} {name : List Char} {values : Scan α}

/-- The letters that the names of sections start with. -/
def initials : List Char :=
  ['c', 'h', 'i', 'v', 'd']

/-- Such a letter, and word characters that separate nothing. -/
def IsName (name : List Char) : Prop :=
  (∃ c ∈ initials, name.head? = some c) ∧
    ∀ c ∈ name, isWordChar c = true ∧ isSeparator c = false

instance : Decidable (IsName name) :=
  inferInstanceAs (Decidable (_ ∧ _))

theorem IsName.ne_nil (h : IsName name) : name ≠ [] := by
  rintro rfl
  obtain ⟨⟨c, -, hc⟩, -⟩ := h
  cases hc

theorem IsName.not_lineFeed (h : IsName name) : '\n' ∉ name := fun hline =>
  absurd (h.2 _ hline).2 (by decide)

/-! ## One place -/

theorem sectionAt_congr {before before' : Option Char} (h : startsWord before = startsWord before')
    (cs : List Char) : sectionAt name values before cs = sectionAt name values before' cs := by
  unfold sectionAt
  rw [h]

theorem sectionAt_append_name (before : Option Char) (cs : List Char) :
    sectionAt name values before (name ++ cs) =
      if startsWord before = true then behindSeparator values cs else none := by
  unfold sectionAt
  rw [List.drop_left]
  simp

theorem sectionAt_elsewhere {before : Option Char} {cs : List Char} (h : ¬ name <+: cs) :
    sectionAt name values before cs = none := by
  unfold sectionAt
  rw [if_neg]
  simp [List.isPrefixOf_iff_prefix, h]

theorem sectionAt_in_word {before : Option Char} (h : startsWord before = false) (cs : List Char) :
    sectionAt name values before cs = none := by
  unfold sectionAt
  rw [if_neg (by simp [h])]

theorem sectionAt_initial {before : Option Char} {c : Char} {cs : List Char} (hname : IsName name)
    (hc : c ∉ initials) : sectionAt name values before (c :: cs) = none := by
  refine sectionAt_elsewhere ?_
  rintro ⟨more, hmore⟩
  obtain ⟨⟨d, hd, hhead⟩, -⟩ := hname
  rcases name with _ | ⟨e, name⟩
  · cases hhead
  · obtain ⟨rfl, -⟩ := List.cons.inj hmore
    exact hc (Option.some.inj hhead ▸ hd)

theorem findSection_cons_of_none {before : Option Char} {c : Char} {cs : List Char}
    (h : sectionAt name values before (c :: cs) = none) :
    findSection name values before (c :: cs) = findSection name values (some c) cs := by
  rw [findSection, h]

theorem findSection_congr {before before' : Option Char}
    (h : startsWord before = startsWord before') (cs : List Char) :
    findSection name values before cs = findSection name values before' cs := by
  cases cs with
  | nil => rfl
  | cons c cs => rw [findSection, findSection, sectionAt_congr h]

/-- Where a section is found: its name stands at the start of a word, and its values stand behind
the name. -/
theorem exists_name_of_findSection {before : Option Char} {cs : List Char} {a : α}
    (h : findSection name values before cs = some a) :
    ∃ xs behind, cs = xs ++ (name ++ behind) ∧ startsWord (xs.getLast?.or before) = true ∧
      behindSeparator values behind = some a := by
  induction cs generalizing before with
  | nil => cases h
  | cons c cs ih =>
    cases hhere : sectionAt name values before (c :: cs) with
    | none =>
      rw [findSection_cons_of_none hhere] at h
      obtain ⟨xs, behind, rfl, hword, hvalues⟩ := ih h
      refine ⟨c :: xs, behind, rfl, ?_, hvalues⟩
      rw [List.getLast?_cons]
      rcases hlast : xs.getLast? with _ | d <;> rw [hlast] at hword <;> exact hword
    | some b =>
      rw [findSection, hhere] at h
      obtain rfl := Option.some.inj h
      unfold sectionAt at hhere
      split_ifs at hhere with hstart
      rw [Bool.and_eq_true, List.isPrefixOf_iff_prefix] at hstart
      obtain ⟨⟨behind, hbehind⟩, hword⟩ := hstart
      rw [← hbehind, List.drop_left] at hhere
      exact ⟨[], behind, hbehind.symm, hword, hhere⟩

/-! ## Texts without the section -/

/-- A search for the name finds nothing that starts in the text. -/
def PassedOver (name xs : List Char) : Prop :=
  ∀ (α : Type) (values : Scan α) (before : Option Char) (rest : List Char),
    findSection name values before (xs ++ rest) =
      findSection name values (xs.getLast?.or before) rest

theorem PassedOver.append {xs ys : List Char} (hxs : PassedOver name xs)
    (hys : PassedOver name ys) : PassedOver name (xs ++ ys) := by
  intro α values before rest
  rw [List.append_assoc, hxs, hys, List.getLast?_append, Option.or_assoc]

theorem passedOver_of_forall {xs : List Char} (hname : IsName name) (h : ∀ c ∈ xs, c ∉ initials) :
    PassedOver name xs := by
  induction xs with
  | nil => exact fun _ _ _ _ => rfl
  | cons c xs ih =>
    rw [← List.singleton_append]
    refine .append ?_ (ih fun d hd => h d (List.mem_cons_of_mem c hd))
    exact fun _ _ _ _ =>
      findSection_cons_of_none (sectionAt_initial hname (h c List.mem_cons_self))

/-- No word starts behind a character of a word. -/
theorem findSection_in_word {c : Char} {word : List Char}
    (hword : ∀ d ∈ c :: word, isWordChar d = true) (rest : List Char) :
    findSection name values (some c) (word ++ rest) =
      findSection name values (c :: word).getLast? rest := by
  induction word generalizing c with
  | nil => rfl
  | cons d word ih =>
    have hc : startsWord (some c) = false := by
      simp [startsWord, hword c List.mem_cons_self]
    rw [List.cons_append, findSection_cons_of_none (sectionAt_in_word hc _),
      ih fun e he => hword e (List.mem_cons_of_mem c he), List.getLast?_cons_cons]

theorem passedOver_word {c : Char} {word : List Char} (hname : IsName name) (hc : c ∉ initials)
    (hword : ∀ d ∈ c :: word, isWordChar d = true) : PassedOver name (c :: word) := by
  intro α values before rest
  rw [List.cons_append, findSection_cons_of_none (sectionAt_initial hname hc),
    findSection_in_word hword, List.getLast?_cons, Option.some_or]

theorem findSection_of_absent {cs : List Char} (h : ¬ name <:+: cs) (before : Option Char) :
    findSection name values before cs = none := by
  induction cs generalizing before with
  | nil => rfl
  | cons c cs ih =>
    have hstart : ¬ name <+: c :: cs := fun hstart => h hstart.isInfix
    have hlater : ¬ name <:+: cs := fun hlater => h (hlater.trans (List.suffix_cons c cs).isInfix)
    rw [findSection_cons_of_none (sectionAt_elsewhere hstart), ih hlater]

/-! ## Separators -/

theorem behindSeparator_of_not {c : Char} (hc : isSeparator c = false) (cs : List Char) :
    behindSeparator values (c :: cs) = none :=
  if_neg (by simp [hc])

theorem behindSeparator_cons_eq_none {c : Char} {cs : List Char} (hc : isSeparator c = true) :
    behindSeparator values (c :: cs) = none ↔
      behindSeparator values cs = none ∧ values cs = none := by
  rw [behindSeparator, if_pos hc]
  cases behindSeparator values cs <;> simp

/-- Up to the end of the separators, no character starts values. -/
theorem behindSeparator_of_refuses {xs : List Char} {c d : Char}
    (hxs : ∀ e ∈ xs ++ [d], values.Refuses e) (hd : isSeparator d = false) (cs : List Char) :
    behindSeparator values (c :: (xs ++ d :: cs)) = none := by
  induction xs generalizing c with
  | nil =>
    by_cases hc : isSeparator c = true
    · exact (behindSeparator_cons_eq_none hc).2
        ⟨behindSeparator_of_not hd cs, hxs d List.mem_cons_self cs⟩
    · exact behindSeparator_of_not (by simpa using hc) _
  | cons e xs ih =>
    by_cases hc : isSeparator c = true
    · exact (behindSeparator_cons_eq_none hc).2
        ⟨ih fun e' he' => hxs e' (List.mem_cons_of_mem e he'), hxs e List.mem_cons_self _⟩
    · exact behindSeparator_of_not (by simpa using hc) _

theorem behindSeparator_append {separator cs rest : List Char} {a : α}
    (hne : separator ≠ []) (hseparator : ∀ c ∈ separator, isSeparator c = true)
    (hstops : Stops isSeparator cs) (hvalues : values cs = some (a, rest)) :
    behindSeparator values (separator ++ cs) = some a := by
  have hcs : behindSeparator values cs = none := by
    cases cs with
    | nil => rfl
    | cons c cs => exact behindSeparator_of_not hstops cs
  induction separator with
  | nil => exact absurd rfl hne
  | cons c separator ih =>
    rw [List.cons_append, behindSeparator, if_pos (hseparator c List.mem_cons_self)]
    rcases separator with _ | ⟨d, separator⟩
    · rw [List.nil_append, hcs, hvalues]
      rfl
    · rw [ih (List.cons_ne_nil _ _) fun e he => hseparator e (List.mem_cons_of_mem c he)]

/-! ## Names -/

theorem findSection_own {before : Option Char} {separator cs rest : List Char} {a : α}
    (hname : IsName name) (hbefore : startsWord before = true)
    (hne : separator ≠ []) (hseparator : ∀ c ∈ separator, isSeparator c = true)
    (hstops : Stops isSeparator cs) (hvalues : values cs = some (a, rest)) :
    findSection name values before (name ++ (separator ++ cs)) = some a := by
  have hsection : sectionAt name values before (name ++ (separator ++ cs)) = some a := by
    rw [sectionAt_append_name, if_pos hbefore,
      behindSeparator_append hne hseparator hstops hvalues]
  rcases name with _ | ⟨c, name⟩
  · exact absurd rfl hname.ne_nil
  · rw [List.cons_append] at hsection ⊢
    rw [findSection, hsection]

/-- Two names are told apart by their ends, as no separator stands in a name. -/
theorem findSection_other {before : Option Char} {other cs : List Char} (hname : IsName name)
    (hother : IsName other) (hne : other ≠ name) (hstops : Stops isWordChar cs) :
    findSection name values before (other ++ cs) =
      findSection name values other.getLast? cs := by
  have hsection : sectionAt name values before (other ++ cs) = none := by
    by_cases hstart : name <+: other ++ cs
    · obtain ⟨t, ht⟩ := hstart
      rcases List.append_eq_append_iff.1 ht with ⟨as, rfl, ht⟩ | ⟨bs, hbs, hcs⟩
      · rcases as with _ | ⟨c, as⟩
        · exact absurd (List.append_nil name) hne
        · have hc := (hother.2 c (by simp)).2
          have hnone : behindSeparator values (c :: (as ++ cs)) = none :=
            behindSeparator_of_not hc _
          rw [List.append_assoc, sectionAt_append_name, List.cons_append, hnone, ite_self]
      · rcases bs with _ | ⟨c, bs⟩
        · exact absurd (hbs.trans (List.append_nil other)).symm hne
        · have hc := (hname.2 c (by simp [hbs])).1
          rw [hcs, List.cons_append] at hstops
          exact absurd hc (by simpa [Stops] using hstops)
    · exact sectionAt_elsewhere hstart
  rcases other with _ | ⟨c, other⟩
  · exact absurd rfl hother.ne_nil
  · rw [List.cons_append] at hsection ⊢
    rw [findSection_cons_of_none hsection, findSection_in_word fun d hd => (hother.2 d hd).1]

/-! ## Texts in front of an arrow -/

theorem findSection_cons_eq_none {before : Option Char} {c : Char} {cs : List Char} :
    findSection name values before (c :: cs) = none ↔
      sectionAt name values before (c :: cs) = none ∧
        findSection name values (some c) cs = none := by
  rw [findSection]
  cases sectionAt name values before (c :: cs) <;> simp

section AtArrow

variable {cs behind : List Char}

/-- The separator may cross the end of the line and the blanks behind it, but there are no values
there. -/
theorem behindSeparator_atArrow (hvalues : values.EndsAtArrow) (hbehind : AtArrow behind) :
    behindSeparator values behind = none := by
  obtain ⟨margin, more, hmargin, rfl⟩ := hbehind
  refine behindSeparator_of_refuses (fun c hc => hvalues.refuses c ?_) (by decide) more
  exact (List.mem_append.1 hc).imp (hmargin c) List.mem_singleton.1

theorem behindSeparator_append_atArrow (hvalues : values.EndsAtArrow) (hbehind : AtArrow behind)
    (h : behindSeparator values cs = none) : behindSeparator values (cs ++ behind) = none := by
  induction cs with
  | nil => exact behindSeparator_atArrow hvalues hbehind
  | cons c cs ih =>
    by_cases hc : isSeparator c = true
    · obtain ⟨hlater, hhere⟩ := (behindSeparator_cons_eq_none hc).1 h
      refine (behindSeparator_cons_eq_none hc).2 ⟨ih hlater, ?_⟩
      refine Option.eq_none_iff_forall_ne_some.2 fun ⟨a, rest⟩ hsome => ?_
      obtain ⟨within, -, hwithin⟩ := hvalues.isLocal cs behind hbehind a rest hsome
      rw [hhere] at hwithin
      cases hwithin
    · exact behindSeparator_of_not (by simpa using hc) _

theorem sectionAt_append_atArrow {before : Option Char} (hname : IsName name)
    (hvalues : values.EndsAtArrow) (hbehind : AtArrow behind)
    (h : sectionAt name values before cs = none) :
    sectionAt name values before (cs ++ behind) = none := by
  by_cases hstart : name <+: cs ++ behind
  · obtain ⟨more, rfl⟩ := hbehind.prefix_left hname.not_lineFeed hstart
    rw [sectionAt_append_name] at h
    rw [List.append_assoc, sectionAt_append_name]
    split_ifs at h ⊢
    · exact behindSeparator_append_atArrow hvalues hbehind h
    · rfl
  · exact sectionAt_elsewhere hstart

theorem findSection_append_atArrow {before : Option Char} (hname : IsName name)
    (hvalues : values.EndsAtArrow) (hbehind : AtArrow behind)
    (h : findSection name values before cs = none) :
    findSection name values before (cs ++ behind) =
      findSection name values (cs.getLast?.or before) behind := by
  induction cs generalizing before with
  | nil => rfl
  | cons c cs ih =>
    obtain ⟨hhere, hlater⟩ := findSection_cons_eq_none.1 h
    have hhere' := sectionAt_append_atArrow hname hvalues hbehind hhere
    rw [List.cons_append] at hhere' ⊢
    rw [findSection_cons_of_none hhere', ih hlater, List.getLast?_cons]
    cases cs.getLast? <;> rfl

end AtArrow

end LoadTest.Report
