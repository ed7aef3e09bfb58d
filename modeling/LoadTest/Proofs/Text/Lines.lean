import LoadTest.Text.Fields
import LoadTest.Text.Lines
import Mathlib.Data.List.TakeWhile
import Mathlib.Tactic.SplitIfs

/-!
# Lines of a text

A text that is put together from lines is cut into those lines again: by its line feeds
(`fields_lines`), and by the rules for line ends if no line ends with a carriage return
(`lines_joined`). Moving such a text to the right moves its lines (`indentRest_joined`).

Moving any text makes line feeds of its line ends and puts the margin behind each of them, and
nothing else changes (`indentRest_eq_shifted`); where no carriage return stands it only puts the
margin there (`indentRest_eq_flatMap`).

Lines behind the last one of a kind are told from that one and from those before it
(`append_cons_inj`).
-/

namespace LoadTest

section Fields

variable {separator : Char} {cs : List Char}

theorem fields_of_notMem (h : separator ∉ cs) : fields separator cs = [cs] := by
  induction cs with
  | nil => rfl
  | cons c cs ih =>
    rw [List.mem_cons, not_or] at h
    rw [fields, if_neg (Ne.symm h.1), ih h.2]

theorem fields_ne_nil (separator : Char) (cs : List Char) : fields separator cs ≠ [] := by
  induction cs with
  | nil => simp [fields]
  | cons c cs ih =>
    rw [fields]
    split_ifs
    · simp
    · split <;> simp

theorem fields_append (separator : Char) (cs rest : List Char) :
    fields separator (cs ++ separator :: rest) = fields separator cs ++ fields separator rest := by
  induction cs with
  | nil => simp [fields]
  | cons c cs ih =>
    rw [List.cons_append, fields, fields, ih]
    split_ifs with hc
    · rfl
    · cases hcs : fields separator cs with
      | nil => exact absurd hcs (fields_ne_nil separator cs)
      | cons field more => rfl

/-- Every line with the line feed behind it. -/
def ended (ls : List (List Char)) : List Char :=
  ls.flatMap fun line => line ++ ['\n']

theorem fields_lines {ls : List (List Char)} (h : ∀ line ∈ ls, '\n' ∉ line) (before : List Char) :
    fields '\n' (before ++ '\n' :: ended ls) = fields '\n' before ++ ls ++ [[]] := by
  rw [fields_append, List.append_assoc]
  congr 1
  induction ls with
  | nil => rfl
  | cons line ls ih =>
    have hline := fields_of_notMem (h line List.mem_cons_self)
    rw [ended, List.flatMap_cons, List.append_assoc, List.cons_append, List.nil_append,
      fields_append, hline]
    exact congrArg (line :: ·) (ih fun l hl => h l (List.mem_cons_of_mem _ hl))

end Fields

/-! ## Line ends -/

/-- Something that a line feed in front and the end of the text behind make a line. -/
structure IsLine (line : List Char) : Prop where
  ne_nil : line ≠ []
  lineFeed : '\n' ∉ line
  carriageReturn : line.getLast? ≠ some '\r'

/-- Every line with the line feed in front of it. -/
def joined (ls : List (List Char)) : List Char :=
  ls.flatMap fun line => '\n' :: line

theorem append_joined (first : List Char) (ls : List (List Char)) (rest : List Char) :
    first ++ (joined ls ++ '\n' :: rest) = ended (first :: ls) ++ rest := by
  induction ls generalizing first with
  | nil => simp [joined, ended]
  | cons line ls ih =>
    have hstep := ih line
    simp only [joined, ended, List.flatMap_cons, List.append_assoc, List.cons_append,
      List.nil_append] at hstep ⊢
    rw [hstep]

theorem linesFrom_append {line : List Char} (h : '\n' ∉ line) (start rest : List Char) :
    linesFrom start (line ++ rest) = linesFrom (line.reverse ++ start) rest := by
  induction line generalizing start with
  | nil => rfl
  | cons c line ih =>
    rw [List.mem_cons, not_or] at h
    rw [List.cons_append, linesFrom, if_neg (Ne.symm h.1), ih h.2, List.reverse_cons,
      List.append_assoc]
    rfl

theorem lines_lineFeed {line : List Char} (h : '\n' ∉ line) (rest : List Char) :
    lines (line ++ '\n' :: rest) = endedLine line.reverse :: lines rest := by
  rw [lines, linesFrom_append h, List.append_nil, linesFrom, if_pos rfl, lines]

theorem lines_of_notMem {line : List Char} (h : '\n' ∉ line) (hne : line ≠ []) :
    lines line = [line] := by
  have happend := linesFrom_append h [] []
  have hempty : line.reverse.isEmpty = false := by simpa using hne
  rw [List.append_nil, List.append_nil] at happend
  rw [lines, happend, linesFrom, hempty, if_neg Bool.false_ne_true, List.reverse_reverse]

theorem endedLine_reverse {line : List Char} (h : line.getLast? ≠ some '\r') :
    endedLine line.reverse = line := by
  unfold endedLine
  split
  case h_1 rest hline =>
    rw [← List.head?_reverse, hline] at h
    exact absurd rfl h
  case h_2 => exact List.reverse_reverse line

theorem lines_joined {first : List Char} {ls : List (List Char)} (hfirst : IsLine first)
    (h : ∀ line ∈ ls, IsLine line) : lines (first ++ joined ls) = first :: ls := by
  induction ls generalizing first with
  | nil =>
    rw [joined, List.flatMap_nil, List.append_nil, lines_of_notMem hfirst.lineFeed hfirst.ne_nil]
  | cons line ls ih =>
    rw [joined, List.flatMap_cons, List.cons_append, lines_lineFeed hfirst.lineFeed,
      endedLine_reverse hfirst.carriageReturn]
    exact congrArg (first :: ·)
      (ih (h line List.mem_cons_self) fun l hl => h l (List.mem_cons_of_mem _ hl))

theorem indentRest_joined {first : List Char} {ls : List (List Char)} (hfirst : IsLine first)
    (h : ∀ line ∈ ls, IsLine line) (margin : List Char) :
    indentRest margin (first ++ joined ls) = first ++ joined (ls.map (margin ++ ·)) := by
  rw [indentRest, lines_joined hfirst h]
  simp only [joined, List.flatMap_map]

/-- A line feed takes the margin behind it. -/
def shifted (margin : List Char) (c : Char) : List Char :=
  if c = '\n' then '\n' :: margin else [c]

theorem flatMap_shifted_of_notMem {margin cs : List Char} (h : '\n' ∉ cs) :
    cs.flatMap (shifted margin) = cs := by
  induction cs with
  | nil => rfl
  | cons c cs ih =>
    rw [List.mem_cons, not_or] at h
    rw [List.flatMap_cons, ih h.2, shifted, if_neg (Ne.symm h.1), List.singleton_append]

/-- A carriage return in front of a line feed is left out. -/
def withLineFeeds : List Char → List Char
  | [] => []
  | '\r' :: '\n' :: rest => '\n' :: withLineFeeds rest
  | c :: rest => c :: withLineFeeds rest

theorem withLineFeeds_cons {c : Char} {cs : List Char} (h : c = '\r' → cs.head? ≠ some '\n') :
    withLineFeeds (c :: cs) = c :: withLineFeeds cs :=
  withLineFeeds.eq_3 c cs fun _ hc hcs => h hc (hcs ▸ rfl)

theorem withLineFeeds_append {line rest : List Char} (h : '\n' ∉ line)
    (hend : line.getLast? = some '\r' → rest.head? ≠ some '\n') :
    withLineFeeds (line ++ rest) = line ++ withLineFeeds rest := by
  induction line with
  | nil => rfl
  | cons c line ih =>
    rw [List.mem_cons, not_or] at h
    cases line with
    | nil => exact withLineFeeds_cons fun hc => hend (hc ▸ rfl)
    | cons d line =>
      have hnext : (d :: (line ++ rest)).head? ≠ some '\n' := fun heq =>
        h.2 (Option.some.inj heq ▸ List.mem_cons_self)
      rw [List.getLast?_cons_cons] at hend
      rw [List.cons_append, List.cons_append, withLineFeeds_cons fun _ => hnext]
      exact congrArg (c :: ·) (ih h.2 hend)

theorem withLineFeeds_of_notMem {cs : List Char} (h : '\r' ∉ cs) : withLineFeeds cs = cs := by
  induction cs with
  | nil => rfl
  | cons c cs ih =>
    rw [List.mem_cons, not_or] at h
    rw [withLineFeeds_cons fun hc => absurd hc.symm h.1, ih h.2]

theorem lineFeed_notMem_endedLine {line : List Char} (h : '\n' ∉ line) :
    '\n' ∉ endedLine line := by
  unfold endedLine
  split <;> simp_all

theorem withLineFeeds_lineFeed {line : List Char} (h : '\n' ∉ line) (rest : List Char) :
    withLineFeeds (line ++ '\n' :: rest) =
      endedLine line.reverse ++ '\n' :: withLineFeeds rest := by
  have hfeed : withLineFeeds ('\n' :: rest) = '\n' :: withLineFeeds rest :=
    withLineFeeds_cons fun hc => absurd hc (by decide)
  by_cases hreturn : line.getLast? = some '\r'
  · obtain ⟨start, rfl⟩ := List.getLast?_eq_some_iff.1 hreturn
    have hstart : '\n' ∉ start := fun hmem => h (List.mem_append_left _ hmem)
    rw [List.append_assoc, withLineFeeds_append hstart fun _ => by simp, List.reverse_append]
    simp [withLineFeeds, endedLine]
  · rw [withLineFeeds_append h fun hend => absurd hend hreturn, endedLine_reverse hreturn, hfeed]

/-- Line ends become line feeds, with the margin behind them. -/
theorem flatMap_lines (margin : List Char) {cs : List Char} (hne : cs ≠ [])
    (hlast : cs.getLast? ≠ some '\n') :
    (lines cs).flatMap (fun line => '\n' :: (margin ++ line)) =
      '\n' :: (margin ++ (withLineFeeds cs).flatMap (shifted margin)) := by
  induction hlength : cs.length using Nat.strong_induction_on generalizing cs with
  | _ n ih =>
    by_cases hfeed : '\n' ∈ cs
    · -- the first line, and what is behind it
      obtain ⟨line, rest, rfl, hline⟩ := List.eq_append_cons_of_mem hfeed
      have hended : '\n' ∉ endedLine line.reverse :=
        lineFeed_notMem_endedLine (by simpa using hline)
      have hrest : rest ≠ [] := by
        rintro rfl
        simp at hlast
      have hlast' : rest.getLast? ≠ some '\n' := by
        obtain ⟨c, more, rfl⟩ := List.exists_cons_of_ne_nil hrest
        simpa [List.getLast?_append] using hlast
      have hbehind := ih rest.length (by simp at hlength; omega) hrest hlast' rfl
      rw [lines_lineFeed hline, withLineFeeds_lineFeed hline, List.flatMap_cons, hbehind,
        List.flatMap_append, List.flatMap_cons, flatMap_shifted_of_notMem hended]
      simp [shifted]
    · have hfeeds : withLineFeeds (cs ++ []) = cs ++ withLineFeeds [] :=
        withLineFeeds_append hfeed fun _ => by simp
      rw [List.append_nil, withLineFeeds, List.append_nil] at hfeeds
      rw [lines_of_notMem hfeed hne, List.flatMap_singleton, hfeeds,
        flatMap_shifted_of_notMem hfeed]

theorem indentRest_eq_shifted (margin : List Char) {cs : List Char}
    (hlast : cs.getLast? ≠ some '\n') :
    indentRest margin cs = (withLineFeeds cs).flatMap (shifted margin) := by
  by_cases hne : cs = []
  · subst hne
    rfl
  · have hmoved := flatMap_lines margin hne hlast
    rw [indentRest]
    cases hlines : lines cs with
    | nil => simp [hlines] at hmoved
    | cons first rest =>
      rw [hlines, List.flatMap_cons, List.cons_append, List.append_assoc] at hmoved
      exact List.append_cancel_left (List.cons.inj hmoved).2

theorem indentRest_eq_flatMap (margin : List Char) {cs : List Char} (hcs : '\r' ∉ cs)
    (hlast : cs.getLast? ≠ some '\n') : indentRest margin cs = cs.flatMap (shifted margin) := by
  rw [indentRest_eq_shifted margin hlast, withLineFeeds_of_notMem hcs]

/-! ## The last line of a kind -/

theorem append_cons_inj {α : Type} {p : α → Bool} {xs ys before after : List α} {x y : α}
    (hxs : ∀ a ∈ xs, p a = true) (hys : ∀ a ∈ ys, p a = true) (hx : p x = false)
    (hy : p y = false) (h : before ++ x :: xs = after ++ y :: ys) :
    before = after ∧ x = y ∧ xs = ys := by
  have hrev := congrArg List.reverse h
  simp only [List.reverse_append, List.reverse_cons, List.append_assoc, List.cons_append,
    List.nil_append] at hrev
  have hxs' : ∀ a ∈ xs.reverse, p a = true := by simpa using hxs
  have hys' : ∀ a ∈ ys.reverse, p a = true := by simpa using hys
  have htake := congrArg (List.takeWhile p) hrev
  rw [List.takeWhile_append_of_pos hxs', List.takeWhile_append_of_pos hys',
    List.takeWhile_cons_of_neg (by simpa using hx), List.takeWhile_cons_of_neg (by simpa using hy),
    List.append_nil, List.append_nil, List.reverse_inj] at htake
  subst htake
  obtain ⟨hxy, hbefore⟩ := List.cons.inj (List.append_cancel_left hrev)
  exact ⟨List.reverse_inj.1 hbefore, hxy, rfl⟩

end LoadTest
