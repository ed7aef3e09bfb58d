import LoadTest.Proofs.Series.Change
import LoadTest.Proofs.Text.Lines
import LoadTest.Proofs.Text.White

/-!
# Streams line by line

The series of a text are those of its lines, pushed one after another, whichever of the two line
ends is used and whether or not the last line has one (`Aggregator.ofText_intercalate`).

A text is cut where its line feeds are, and a carriage return in front of one belongs to the line
end. An aggregator trims every line, so it makes no difference whether a carriage return is taken
for a part of the line (`pushLine_endedLine`), and blank lines do not count, so neither does the
empty text behind the last line end (`pushLines_lines_self`).
-/

namespace LoadTest

/-- What ends a line. -/
def lineEnds : List (List Char) :=
  [['\n'], ['\r', '\n']]

namespace Aggregator

variable {line ending : List Char} (a : Aggregator)

theorem pushLine_congr {other : List Char} (h : trimChars line = trimChars other) :
    a.pushLine line = a.pushLine other := by
  unfold pushLine
  rw [h]

theorem pushLine_append_white {behind : List Char} (h : ∀ c ∈ behind, isWhite c = true) :
    a.pushLine (line ++ behind) = a.pushLine line :=
  a.pushLine_congr (trimChars_append_white h)

/-- A carriage return that is taken off would have been trimmed. -/
theorem pushLine_endedLine (line : List Char) :
    a.pushLine (endedLine line.reverse) = a.pushLine line := by
  unfold endedLine
  split
  case h_1 start hline =>
    have hlast : line = start.reverse ++ ['\r'] := by
      rw [← List.reverse_cons, ← hline, List.reverse_reverse]
    rw [hlast, a.pushLine_append_white (by decide)]
  case h_2 => rw [List.reverse_reverse]

theorem pushLines_cons (line : List Char) (ls : List (List Char)) :
    a.pushLines (line :: ls) = (a.pushLine line).pushLines ls :=
  rfl

theorem pushLines_lines_self (h : '\n' ∉ line) : a.pushLines (lines line) = a.pushLine line := by
  by_cases hne : line = []
  · rw [hne, pushLine_of_blank rfl]
    rfl
  · rw [lines_of_notMem h hne]
    rfl

theorem pushLines_lines_lineFeed (h : '\n' ∉ line) (rest : List Char) :
    a.pushLines (lines (line ++ '\n' :: rest)) = (a.pushLine line).pushLines (lines rest) := by
  rw [lines_lineFeed h, pushLines_cons, pushLine_endedLine]

theorem pushLines_lines_append (h : '\n' ∉ line) (hending : ending ∈ lineEnds)
    (rest : List Char) :
    a.pushLines (lines (line ++ (ending ++ rest))) = (a.pushLine line).pushLines (lines rest) := by
  rcases List.mem_cons.1 hending with rfl | hending
  · exact a.pushLines_lines_lineFeed h rest
  · obtain rfl := List.mem_singleton.1 hending
    have hfeed : '\n' ∉ line ++ ['\r'] := by simpa using h
    have hpush := a.pushLines_lines_lineFeed hfeed rest
    rw [a.pushLine_append_white (by decide), List.append_assoc] at hpush
    exact hpush

/-- The last line stands in front of a text that goes on as if it were a line of its own. -/
theorem pushLines_lines_intercalate {ls : List (List Char)} (h : ∀ line ∈ ls, '\n' ∉ line)
    (hending : ending ∈ lineEnds) {behind : List Char} (hbehind : behind = [] ∨ behind = ending) :
    a.pushLines (lines (List.intercalate ending ls ++ behind)) = a.pushLines ls := by
  have hlast : ∀ (a : Aggregator) (line : List Char), '\n' ∉ line →
      a.pushLines (lines (line ++ behind)) = a.pushLine line := by
    intro a line hline
    rcases hbehind with rfl | rfl
    · rw [List.append_nil, a.pushLines_lines_self hline]
    · have hpush := a.pushLines_lines_append hline hending []
      rwa [List.append_nil] at hpush
  induction ls generalizing a with
  | nil => exact (hlast a [] (by simp)).trans (pushLine_of_blank rfl)
  | cons line ls ih =>
    obtain ⟨hline, hls⟩ := List.forall_mem_cons.1 h
    cases ls with
    | nil =>
      rw [List.intercalate_singleton, hlast a line hline]
      rfl
    | cons next ls =>
      rw [List.intercalate_cons_cons, List.append_assoc, List.append_assoc,
        a.pushLines_lines_append hline hending, ih _ hls]
      rfl

/-- A text gives the series of its lines, with or without a line end behind the last one. -/
theorem ofText_intercalate {ls : List (List Char)} (h : ∀ line ∈ ls, '\n' ∉ line)
    {ending : List Char} (hending : ending ∈ lineEnds) :
    TimeSeries.ofText (String.ofList (List.intercalate ending ls)) =
        (Aggregator.empty.pushLines ls).finish ∧
      TimeSeries.ofText (String.ofList (List.intercalate ending ls ++ ending)) =
        (Aggregator.empty.pushLines ls).finish := by
  have hwithout := Aggregator.empty.pushLines_lines_intercalate h hending (.inl rfl)
  have hwith := Aggregator.empty.pushLines_lines_intercalate h hending (.inr rfl)
  rw [List.append_nil] at hwithout
  rw [TimeSeries.ofText, TimeSeries.ofText, String.toList_ofList, String.toList_ofList, hwithout,
    hwith]
  exact ⟨rfl, rfl⟩

/-- A record with empty lines, blanks and carriage returns around it. -/
def spacedLines : List (List Char) :=
  [[], startLine ++ ['\r'], ['\r'], [' ', '\t'], []]

theorem ofText_intercalate_spacedLines :
    (∀ line ∈ spacedLines, '\n' ∉ line) ∧ ['\r', '\n'] ∈ lineEnds ∧
      TimeSeries.ofText (String.ofList (List.intercalate ['\r', '\n'] spacedLines)) =
        (Aggregator.empty.pushLines spacedLines).finish ∧
      (Aggregator.empty.pushLines spacedLines).finish.vus.map (fun p => (p.time, p.value)) =
        [(0, .ofNat 3)] := by
  have hlines : ∀ line ∈ spacedLines, '\n' ∉ line := by decide +kernel
  have hending : ['\r', '\n'] ∈ lineEnds := by decide
  exact ⟨hlines, hending, (ofText_intercalate hlines hending).1, by decide +kernel⟩

end Aggregator

end LoadTest
