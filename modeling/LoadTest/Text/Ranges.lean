/-!
# Sets and tables of characters

A set of characters is a list of ranges of code points, both ends included. A table has something to
say about every range of numbers, which may be code points.
-/

namespace LoadTest

/-- Ranges of code points, by the first and the last of each. -/
abbrev CharRanges := List (Nat × Nat)

/-- Whether a character is in one of the ranges. -/
def CharRanges.contains (ranges : CharRanges) (c : Char) : Bool :=
  ranges.any fun range => range.1 ≤ c.toNat && c.toNat ≤ range.2

/-- Ranges of numbers, by the first and the last of each, and what is said about them. -/
abbrev RangeTable (α : Type) := List (Nat × Nat × α)

/-- The place of a number in its range, and what the table says about that range. -/
def RangeTable.entry? {α : Type} (table : RangeTable α) (n : Nat) : Option (Nat × α) :=
  match table.find? fun range => range.1 ≤ n && n ≤ range.2.1 with
  | some (first, _, a) => some (n - first, a)
  | none => none

/-- The character of a number, where the ranges hold texts with a character for each number. -/
def RangeTable.char? (table : RangeTable String) (n : Nat) : Option Char :=
  match table.entry? n with
  | some (place, text) => (text.toList.drop place).head?
  | none => none

end LoadTest
