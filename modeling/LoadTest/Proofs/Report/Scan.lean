import LoadTest.Proofs.Text.Runs
import LoadTest.Report.Values

/-!
# Scans step by step

What a scan takes from the front of a text is put together from what its steps take
(`Takes.bind`). A run goes as far as its characters go, and every other step takes exactly what it
stands for.

A scan that refuses a first character (`Refuses`) does so whatever follows that character. A unit is
one of a few texts (`Picks`).
-/

namespace LoadTest.Report.Scan

variable {α β : Type}

theorem bind_eq_some {scan : Scan α} {next : α → Scan β} {cs rest : List Char} {b : β} :
    (scan >>= next) cs = some (b, rest) ↔
      ∃ a mid, scan cs = some (a, mid) ∧ next a mid = some (b, rest) :=
  Option.bind_eq_some_iff.trans Prod.exists

theorem run_eq_some {p : Char → Bool} {cs xs rest : List Char} :
    run p cs = some (xs, rest) ↔ xs ≠ [] ∧ xs = cs.takeWhile p ∧ rest = cs.dropWhile p := by
  unfold run
  split
  · rename_i h
    rw [List.isEmpty_iff] at h
    refine iff_of_false (by simp) ?_
    rintro ⟨hne, hxs, -⟩
    exact hne (hxs.trans h)
  · rename_i h
    rw [List.isEmpty_iff] at h
    simp only [Option.some.injEq, Prod.mk.injEq]
    constructor
    · rintro ⟨rfl, rfl⟩
      exact ⟨h, rfl, rfl⟩
    · rintro ⟨-, rfl, rfl⟩
      exact ⟨rfl, rfl⟩

theorem exactly_eq_some {s cs rest : List Char} {u : Unit} :
    exactly s cs = some (u, rest) ↔ cs = s ++ rest := by
  unfold exactly
  split
  · rename_i h
    obtain ⟨more, rfl⟩ := List.isPrefixOf_iff_prefix.1 h
    simp [eq_comm]
  · rename_i h
    refine iff_of_false nofun ?_
    rintro rfl
    exact h (List.isPrefixOf_iff_prefix.2 (List.prefix_append s rest))

/-- In front of `rest` the scan takes exactly `xs`. -/
def Takes (scan : Scan α) (xs : List Char) (a : α) (rest : List Char) : Prop :=
  scan (xs ++ rest) = some (a, rest)

section Takes

variable {p : Char → Bool} {xs ys rest : List Char} {a : α} {b : β}

theorem Takes.bind {scan : Scan α} {next : α → Scan β} (h : Takes scan xs a (ys ++ rest))
    (hnext : Takes (next a) ys b rest) : Takes (scan >>= next) (xs ++ ys) b rest := by
  unfold Takes at h hnext ⊢
  rw [List.append_assoc]
  exact bind_eq_some.2 ⟨a, ys ++ rest, h, hnext⟩

/-- The last step of a scan, and what is made of it. -/
theorem Takes.bind_pure {scan : Scan α} (h : Takes scan xs a rest) (f : α → β) :
    Takes (scan >>= fun a => pure (f a)) xs (f a) rest :=
  bind_eq_some.2 ⟨a, rest, h, rfl⟩

theorem takes_run (hne : xs ≠ []) (hxs : ∀ c ∈ xs, p c = true) (hr : Stops p rest) :
    Takes (run p) xs xs rest := by
  refine run_eq_some.2 ⟨hne, ?_, ?_⟩
  · rw [takeWhile_append_stops hxs hr]
  · rw [dropWhile_append_stops hxs hr]

theorem takes_runOrNothing (hxs : ∀ c ∈ xs, p c = true) (hr : Stops p rest) :
    Takes (runOrNothing p) xs xs rest := by
  unfold Takes runOrNothing
  rw [takeWhile_append_stops hxs hr, dropWhile_append_stops hxs hr]

theorem takes_exactly (xs rest : List Char) : Takes (exactly xs) xs () rest :=
  exactly_eq_some.2 rfl

end Takes

/-- The scan does not take a text that starts with this character. -/
def Refuses (scan : Scan α) (c : Char) : Prop :=
  ∀ rest, scan (c :: rest) = none

section Refuses

variable {p : Char → Bool} {c : Char}

theorem Refuses.bind {scan : Scan α} {next : α → Scan β} (h : Refuses scan c) :
    Refuses (scan >>= next) c := by
  intro rest
  show (scan (c :: rest)).bind _ = none
  rw [h, Option.bind_none]

theorem refuses_run (h : p c = false) : Refuses (run p) c := by
  intro rest
  simp [run, h]

theorem refuses_exactly {d : Char} {s : List Char} (h : d ≠ c) : Refuses (exactly (d :: s)) c := by
  intro rest
  simp [exactly, List.isPrefixOf, h]

end Refuses

/-! ## Units -/

/-- The scan takes one of these texts, whatever stands behind it. -/
def Picks (texts : List (List Char)) (scan : Scan (List Char)) : Prop :=
  ∀ cs u rest, scan cs = some (u, rest) ↔ u ∈ texts ∧ cs = u ++ rest

/-- The units of times. -/
def durationUnits : List (List Char) :=
  [['m', 's'], ['s']]

/-- Takes a unit of times. -/
def durationUnit : Scan (List Char) := fun cs =>
  match cs with
  | 'm' :: 's' :: rest => some (['m', 's'], rest)
  | 's' :: rest => some (['s'], rest)
  | _ => none

theorem duration_eq : duration = do
    let number ← amount
    let unit ← durationUnit
    return number ++ unit :=
  rfl

theorem picks_durationUnit : Picks durationUnits durationUnit := by
  intro cs u rest
  constructor
  · intro h
    unfold durationUnit at h
    split at h
    · obtain ⟨rfl, rfl⟩ := Prod.mk.inj (Option.some.inj h)
      exact ⟨by decide, rfl⟩
    · obtain ⟨rfl, rfl⟩ := Prod.mk.inj (Option.some.inj h)
      exact ⟨by decide, rfl⟩
    · cases h
  · rintro ⟨hu, rfl⟩
    simp only [durationUnits, List.mem_cons, List.not_mem_nil, or_false] at hu
    rcases hu with rfl | rfl <;> rfl

/-- The units of amounts of bytes. -/
def bytesUnits : List (List Char) :=
  [['B'], ['k', 'B'], ['K', 'B'], ['M', 'B'], ['G', 'B'], ['T', 'B']]

/-- Takes a unit of amounts of bytes. -/
def bytesUnit : Scan (List Char) := fun cs =>
  match cs with
  | 'B' :: rest => some (['B'], rest)
  | c :: 'B' :: rest =>
    if c = 'k' ∨ c = 'K' ∨ c = 'M' ∨ c = 'G' ∨ c = 'T' then some ([c, 'B'], rest) else none
  | _ => none

theorem bytes_eq : bytes = do
    let number ← amount
    let blanks ← white
    let unit ← bytesUnit
    return number ++ blanks ++ unit :=
  rfl

theorem picks_bytesUnit : Picks bytesUnits bytesUnit := by
  intro cs u rest
  constructor
  · intro h
    unfold bytesUnit at h
    split at h
    · obtain ⟨rfl, rfl⟩ := Prod.mk.inj (Option.some.inj h)
      exact ⟨by decide, rfl⟩
    · split_ifs at h with hc
      obtain ⟨rfl, rfl⟩ := Prod.mk.inj (Option.some.inj h)
      refine ⟨?_, rfl⟩
      rcases hc with rfl | rfl | rfl | rfl | rfl <;> decide
    · cases h
  · rintro ⟨hu, rfl⟩
    simp only [bytesUnits, List.mem_cons, List.not_mem_nil, or_false] at hu
    rcases hu with rfl | rfl | rfl | rfl | rfl | rfl <;> rfl

theorem refuses_picks {texts : List (List Char)} {scan : Scan (List Char)} (h : Picks texts scan)
    {c : Char} (hc : ∀ u ∈ texts, u ≠ [] ∧ u.head? ≠ some c) : Refuses scan c := by
  intro rest
  refine Option.eq_none_iff_forall_ne_some.2 fun ⟨u, rest'⟩ hsome => ?_
  obtain ⟨hu, hcs⟩ := (h _ _ _).1 hsome
  obtain ⟨hne, hhead⟩ := hc u hu
  rcases u with _ | ⟨d, u⟩
  · exact hne rfl
  · exact hhead (congrArg some (List.cons.inj hcs).1.symm)

end LoadTest.Report.Scan
