import LoadTest.Proofs.Report.Find

/-!
# The first section of a name

Where a section stands can be said without searching for it: its name starts a word there, and
behind the name come a separator and values, the separator being the longest that has values behind
it (`Stands`). A search finds the first place where the section stands, and what it finds there are
those values (`find_eq_some_iff`).
-/

namespace LoadTest.Report

variable {α : Type} {values : Scan α} {Form : List Char → α → Prop}

/-- One or more characters of a class. -/
def IsRun (p : Char → Bool) (xs : List Char) : Prop :=
  xs ≠ [] ∧ ∀ c ∈ xs, p c = true

/-- Values of the form stand behind a separator. -/
def Follows (Form : List Char → α → Prop) (cs : List Char) (a : α) : Prop :=
  ∃ separator later, cs = separator ++ later ∧ IsRun isSeparator separator ∧ Form later a

/-- Values of the form stand behind a separator, and none behind a longer one. -/
def FollowsLongest (Form : List Char → α → Prop) (cs : List Char) (a : α) : Prop :=
  ∃ separator later, cs = separator ++ later ∧ IsRun isSeparator separator ∧ Form later a ∧
    ∀ b, ¬ Follows Form later b

/-- A section of the name stands at the front of `text`, behind the characters `before`. -/
structure Stands (name : List Char) (Form : List Char → α → Prop) (before text : List Char)
    (a : α) : Prop where
  startsWord : startsWord before.getLast? = true
  follows : ∃ behind, text = name ++ behind ∧ FollowsLongest Form behind a

/-- A section of the name stands in the text, and none further in front. -/
def IsFirst (name : List Char) (Form : List Char → α → Prop) (raw : List Char) (a : α) : Prop :=
  ∃ i, Stands name Form (raw.take i) (raw.drop i) a ∧
    ∀ j < i, ∀ b, ¬ Stands name Form (raw.take j) (raw.drop j) b

/-- The scan takes what has the form, whatever stands behind it. -/
def Scan.TakesForm (values : Scan α) (Form : List Char → α → Prop) : Prop :=
  ∀ cs a, Form cs a ↔ ∃ rest, values cs = some (a, rest)

/-! ## Separators -/

section Separators

variable {c : Char} {cs : List Char} {a : α}

theorem not_follows_nil : ¬ Follows Form [] a := by
  rintro ⟨separator, later, hcs, hrun, -⟩
  exact hrun.1 (List.append_eq_nil_iff.1 hcs.symm).1

theorem follows_cons :
    Follows Form (c :: cs) a ↔ isSeparator c = true ∧ (Form cs a ∨ Follows Form cs a) := by
  constructor
  · rintro ⟨_ | ⟨d, separator⟩, later, hcs, ⟨hne, hrun⟩, hform⟩
    · exact absurd rfl hne
    · obtain ⟨rfl, rfl⟩ := List.cons.inj hcs
      rw [List.forall_mem_cons] at hrun
      rcases separator with _ | ⟨d, separator⟩
      · exact ⟨hrun.1, .inl hform⟩
      · exact ⟨hrun.1, .inr ⟨_, later, rfl, ⟨List.cons_ne_nil _ _, hrun.2⟩, hform⟩⟩
  · rintro ⟨hc, hform | ⟨separator, later, rfl, hrun, hform⟩⟩
    · exact ⟨[c], cs, rfl, ⟨List.cons_ne_nil _ _, by simpa using hc⟩, hform⟩
    · exact ⟨c :: separator, later, rfl,
        ⟨List.cons_ne_nil _ _, List.forall_mem_cons.2 ⟨hc, hrun.2⟩⟩, hform⟩

theorem FollowsLongest.follows (h : FollowsLongest Form cs a) : Follows Form cs a := by
  obtain ⟨separator, later, hcs, hrun, hform, -⟩ := h
  exact ⟨separator, later, hcs, hrun, hform⟩

theorem followsLongest_cons :
    FollowsLongest Form (c :: cs) a ↔ isSeparator c = true ∧
      (FollowsLongest Form cs a ∨ Form cs a ∧ ∀ b, ¬ Follows Form cs b) := by
  constructor
  · rintro ⟨_ | ⟨d, separator⟩, later, hcs, ⟨hne, hrun⟩, hform, hnone⟩
    · exact absurd rfl hne
    · obtain ⟨rfl, rfl⟩ := List.cons.inj hcs
      rw [List.forall_mem_cons] at hrun
      rcases separator with _ | ⟨d, separator⟩
      · exact ⟨hrun.1, .inr ⟨hform, hnone⟩⟩
      · exact ⟨hrun.1, .inl ⟨_, later, rfl, ⟨List.cons_ne_nil _ _, hrun.2⟩, hform, hnone⟩⟩
  · rintro ⟨hc, ⟨separator, later, rfl, hrun, hform, hnone⟩ | ⟨hform, hnone⟩⟩
    · exact ⟨c :: separator, later, rfl,
        ⟨List.cons_ne_nil _ _, List.forall_mem_cons.2 ⟨hc, hrun.2⟩⟩, hform, hnone⟩
    · exact ⟨[c], cs, rfl, ⟨List.cons_ne_nil _ _, by simpa using hc⟩, hform, hnone⟩

end Separators

section Search

variable (hvalues : values.TakesForm Form)
include hvalues

theorem Scan.TakesForm.eq_none_iff {cs : List Char} : values cs = none ↔ ∀ a, ¬ Form cs a := by
  simp only [hvalues cs, not_exists]
  constructor
  · intro h a rest
    rw [h]
    exact nofun
  · exact fun h => Option.eq_none_iff_forall_ne_some.2 fun parts => h parts.1 parts.2

theorem behindSeparator_eq_none_iff {cs : List Char} :
    behindSeparator values cs = none ↔ ∀ a, ¬ Follows Form cs a := by
  induction cs with
  | nil => exact iff_of_true rfl fun _ => not_follows_nil
  | cons c cs ih =>
    simp only [follows_cons]
    by_cases hc : isSeparator c = true
    · rw [behindSeparator_cons_eq_none hc, ih, hvalues.eq_none_iff]
      simp only [hc, true_and, not_or, forall_and]
      exact And.comm
    · exact iff_of_true (behindSeparator_of_not (by simpa using hc) cs) fun _ h => hc h.1

theorem behindSeparator_eq_some_iff {cs : List Char} {a : α} :
    behindSeparator values cs = some a ↔ FollowsLongest Form cs a := by
  induction cs with
  | nil => exact iff_of_false nofun fun h => not_follows_nil h.follows
  | cons c cs ih =>
    rw [followsLongest_cons, ← ih, ← behindSeparator_eq_none_iff hvalues, hvalues, behindSeparator]
    by_cases hc : isSeparator c = true
    · rw [if_pos hc]
      cases behindSeparator values cs with
      | some b => simp [hc]
      | none => simp [hc]
    · simp [hc]

variable {name : List Char}

theorem sectionAt_eq_some_iff {before text : List Char} {a : α} :
    sectionAt name values before.getLast? text = some a ↔ Stands name Form before text a := by
  by_cases hstart : name <+: text
  · obtain ⟨behind, rfl⟩ := hstart
    rw [sectionAt_append_name]
    constructor
    · intro h
      split_ifs at h with hword
      exact ⟨hword, behind, rfl, (behindSeparator_eq_some_iff hvalues).1 h⟩
    · rintro ⟨hword, behind', hbehind, hfollows⟩
      rw [if_pos hword, List.append_cancel_left hbehind]
      exact (behindSeparator_eq_some_iff hvalues).2 hfollows
  · rw [sectionAt_elsewhere hstart]
    refine iff_of_false nofun ?_
    rintro ⟨-, behind, rfl, -⟩
    exact hstart (List.prefix_append name behind)

/-- What is found in a text behind the characters `seen`. -/
theorem findSection_eq_some_iff {seen cs : List Char} {a : α} :
    findSection name values seen.getLast? cs = some a ↔
      ∃ i, Stands name Form (seen ++ cs.take i) (cs.drop i) a ∧
        ∀ j < i, ∀ b, ¬ Stands name Form (seen ++ cs.take j) (cs.drop j) b := by
  induction cs generalizing seen with
  | nil =>
    refine iff_of_false nofun ?_
    rintro ⟨i, ⟨-, behind, hbehind, hfollows⟩, -⟩
    rw [List.drop_nil] at hbehind
    rw [(List.append_eq_nil_iff.1 hbehind.symm).2] at hfollows
    exact not_follows_nil hfollows.follows
  | cons c cs ih =>
    have hhere : ∀ b, sectionAt name values seen.getLast? (c :: cs) = some b ↔
        Stands name Form (seen ++ (c :: cs).take 0) ((c :: cs).drop 0) b := by
      intro b
      rw [List.take_zero, List.append_nil]
      exact sectionAt_eq_some_iff hvalues
    have hlater : ∀ i b,
        Stands name Form (seen ++ (c :: cs).take (i + 1)) ((c :: cs).drop (i + 1)) b ↔
          Stands name Form ((seen ++ [c]) ++ cs.take i) (cs.drop i) b := by
      intro i b
      rw [List.take_succ_cons, List.drop_succ_cons, List.append_assoc, List.singleton_append]
    cases hsection : sectionAt name values seen.getLast? (c :: cs) with
    | some b =>
      have hb := (hhere b).1 hsection
      rw [findSection, hsection]
      constructor
      · intro h
        obtain rfl := Option.some.inj h
        exact ⟨0, hb, fun j hj => absurd hj (Nat.not_lt_zero j)⟩
      · rintro ⟨i, ha, hnone⟩
        cases i with
        | zero => exact hsection.symm.trans ((hhere a).2 ha)
        | succ i => exact absurd hb (hnone 0 (Nat.succ_pos i) b)
    | none =>
      have hnone : ∀ b, ¬ Stands name Form (seen ++ (c :: cs).take 0) ((c :: cs).drop 0) b := by
        intro b hb
        rw [← hhere b, hsection] at hb
        cases hb
      have hseen : some c = (seen ++ [c]).getLast? := List.getLast?_concat.symm
      rw [findSection_cons_of_none hsection, hseen, ih]
      constructor
      · rintro ⟨i, ha, hfront⟩
        refine ⟨i + 1, (hlater i a).2 ha, fun j hj b => ?_⟩
        cases j with
        | zero => exact hnone b
        | succ j => exact fun hb => hfront j (Nat.lt_of_succ_lt_succ hj) b ((hlater j b).1 hb)
      · rintro ⟨i, ha, hfront⟩
        cases i with
        | zero => exact absurd ha (hnone a)
        | succ i =>
          exact ⟨i, (hlater i a).1 ha, fun j hj b hb =>
            hfront (j + 1) (Nat.succ_lt_succ hj) b ((hlater j b).2 hb)⟩

/-- A search finds the values of the first section of the name. -/
theorem find_eq_some_iff {name : String} {raw : List Char} {a : α} :
    find name values raw = some a ↔ IsFirst name.toList Form raw a := by
  rw [find, ← List.getLast?_nil, findSection_eq_some_iff hvalues]
  rfl

end Search

end LoadTest.Report
