import LoadTest.Duration
import LoadTest.Text.White
import LoadTest.Text.Word

/-!
# Finding a section in a report

A section is a name at the start of a word, a separator of points, colons and white space, and
values. Values are read from left to right, each as far as it goes. The separator goes as far as
the values behind it allow, since a point may end the one or start the other.
-/

namespace LoadTest.Report

/-- Reads from the front of a text. -/
abbrev Scan := StateT (List Char) Option

namespace Scan

/-- One or more such characters, as many as there are. -/
def run (p : Char → Bool) : Scan (List Char) := fun cs =>
  if (cs.takeWhile p).isEmpty then none else some (cs.takeWhile p, cs.dropWhile p)

/-- Any number of such characters. -/
def runOrNothing (p : Char → Bool) : Scan (List Char) := fun cs =>
  some (cs.takeWhile p, cs.dropWhile p)

/-- Exactly these characters. -/
def exactly (s : List Char) : Scan Unit := fun cs =>
  if s.isPrefixOf cs then some ((), cs.drop s.length) else none

/-- White space, as far as it goes. -/
def white : Scan (List Char) :=
  run isWhite

/-- A whole number, not yet read. -/
def count : Scan (List Char) :=
  run isScriptDigit

/-- A number with points, not yet read. -/
def amount : Scan (List Char) :=
  run Duration.isReportDigit

/-- Whether a scan only takes characters away. -/
def Shortens {α : Type} (scan : Scan α) : Prop :=
  ∀ cs a rest, scan cs = some (a, rest) → rest.length ≤ cs.length

theorem Shortens.run (p : Char → Bool) : Shortens (run p) := by
  intro cs a rest h
  simp only [Scan.run] at h
  split at h
  · simp at h
  · simp only [Option.some.injEq, Prod.mk.injEq] at h
    exact h.2 ▸ (List.dropWhile_sublist p).length_le

theorem Shortens.runOrNothing (p : Char → Bool) : Shortens (runOrNothing p) := by
  intro cs a rest h
  simp only [Scan.runOrNothing, Option.some.injEq, Prod.mk.injEq] at h
  exact h.2 ▸ (List.dropWhile_sublist p).length_le

theorem Shortens.exactly (s : List Char) : Shortens (exactly s) := by
  intro cs a rest h
  simp only [Scan.exactly] at h
  split at h
  · simp only [Option.some.injEq, Prod.mk.injEq] at h
    exact h.2 ▸ List.length_drop ▸ Nat.sub_le _ _
  · simp at h

theorem Shortens.pure {α : Type} (a : α) : Shortens (pure a : Scan α) := by
  intro cs b rest h
  have hrest := (Prod.mk.inj (Option.some.inj h)).2
  exact hrest ▸ Nat.le_refl _

theorem Shortens.bind {α β : Type} {scan : Scan α} {next : α → Scan β} (hs : Shortens scan)
    (hn : ∀ a, Shortens (next a)) : Shortens (scan >>= next) := by
  intro cs b rest h
  obtain ⟨⟨a, mid⟩, ha, hb⟩ := Option.bind_eq_some_iff.1 h
  exact Nat.le_trans (hn a mid b rest hb) (hs cs a mid ha)

end Scan

/-- The characters between the name of a section and its values. -/
def isSeparator (c : Char) : Bool :=
  c = '.' || c = ':' || isWhite c

/-- The values behind a separator at the front, for the longest separator that has any. -/
def behindSeparator {α : Type} (values : Scan α) : List Char → Option α
  | [] => none
  | c :: rest =>
    if isSeparator c then
      match behindSeparator values rest with
      | some a => some a
      | none => (values rest).map Prod.fst
    else none

/-- The values of a section whose name is at the front, behind the character `before`. -/
def sectionAt {α : Type} (name : List Char) (values : Scan α) (before : Option Char)
    (cs : List Char) : Option α :=
  if name.isPrefixOf cs && startsWord before then behindSeparator values (cs.drop name.length)
  else none

/-- The values of the first such section of a text. -/
def findSection {α : Type} (name : List Char) (values : Scan α) (before : Option Char) :
    List Char → Option α
  | [] => none
  | c :: rest =>
    match sectionAt name values before (c :: rest) with
    | some a => some a
    | none => findSection name values (some c) rest

/-- The values of the first such section of a report. -/
def find {α : Type} (name : String) (values : Scan α) (raw : List Char) : Option α :=
  findSection name.toList values none raw

end LoadTest.Report
