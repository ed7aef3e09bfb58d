import Mathlib.Data.List.TakeWhile

/-!
# Runs of characters

A run of characters of one class ends where the next one is of another class, so what stands behind
a run decides nothing but its end.
-/

namespace LoadTest

-- a list of characters is looked through, not all the characters there are
instance (priority := 2000) decidableForallMem {q : Char → Prop} [DecidablePred q]
    (cs : List Char) : Decidable (∀ c ∈ cs, q c) :=
  List.decidableBAll q cs

instance (priority := 2000) decidableExistsMem {q : Char → Prop} [DecidablePred q]
    (cs : List Char) : Decidable (∃ c ∈ cs, q c) :=
  List.decidableBEx q cs

/-- The text does not go on with such a character. -/
def Stops (p : Char → Bool) : List Char → Prop
  | [] => True
  | c :: _ => p c = false

variable {p : Char → Bool} {run rest : List Char}

theorem ne_of_class {c d : Char} (hc : p c = true) (hd : p d = false) : c ≠ d := by
  rintro rfl
  cases hc.symm.trans hd

theorem takeWhile_append_stops (hrun : ∀ c ∈ run, p c = true) (hrest : Stops p rest) :
    (run ++ rest).takeWhile p = run := by
  rw [List.takeWhile_append_of_pos hrun]
  cases rest with
  | nil => simp
  | cons c cs => rw [List.takeWhile_cons_of_neg (by simpa [Stops] using hrest), List.append_nil]

theorem dropWhile_append_stops (hrun : ∀ c ∈ run, p c = true) (hrest : Stops p rest) :
    (run ++ rest).dropWhile p = rest := by
  rw [List.dropWhile_append_of_pos hrun]
  cases rest with
  | nil => simp
  | cons c cs => rw [List.dropWhile_cons_of_neg (by simpa [Stops] using hrest)]

theorem stops_append (hne : run ≠ []) (h : ∀ c ∈ run, p c = false) : Stops p (run ++ rest) := by
  cases run with
  | nil => exact absurd rfl hne
  | cons c cs => exact h c List.mem_cons_self

theorem Stops.append (hne : run ≠ []) (h : Stops p run) : Stops p (run ++ rest) := by
  cases run with
  | nil => exact absurd rfl hne
  | cons c cs => exact h

/-- Only the next character counts. -/
theorem Stops.of_head? {rest' : List Char} (h : Stops p rest) (hhead : rest'.head? = rest.head?) :
    Stops p rest' := by
  rcases rest with _ | ⟨c, cs⟩
  · rw [List.head?_eq_none_iff.1 hhead]
    trivial
  · obtain ⟨cs', rfl⟩ := List.head?_eq_some_iff.1 hhead
    exact h

theorem stops_dropWhile (cs : List Char) : Stops p (cs.dropWhile p) := by
  induction cs with
  | nil => trivial
  | cons c cs ih =>
    by_cases hc : p c = true
    · rwa [List.dropWhile_cons_of_pos hc]
    · rw [List.dropWhile_cons_of_neg hc]
      simpa [Stops] using hc

theorem takeWhile_append_of_stops (cs : List Char) (hrest : Stops p rest) :
    (cs ++ rest).takeWhile p = cs.takeWhile p := by
  induction cs with
  | nil => exact takeWhile_append_stops (by simp) hrest
  | cons c cs ih => rw [List.cons_append, List.takeWhile_cons, List.takeWhile_cons, ih]

theorem dropWhile_append_of_stops (cs : List Char) (hrest : Stops p rest) :
    (cs ++ rest).dropWhile p = cs.dropWhile p ++ rest := by
  induction cs with
  | nil => exact dropWhile_append_stops (by simp) hrest
  | cons c cs ih =>
    rw [List.cons_append, List.dropWhile_cons, List.dropWhile_cons, ih]
    split <;> rfl

end LoadTest
