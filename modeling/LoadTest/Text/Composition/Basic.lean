import LoadTest.Text.Composition.Class
import LoadTest.Text.Composition.Pairs

/-!
# Composed texts

One text can be written with letters and marks in different ways. Its composed form has the marks of
a letter in the order of their classes, and each letter made one with the marks that it can take,
so that texts that look the same are the same.
-/

namespace LoadTest

/-- A character with its combining class. -/
abbrev Classed := Char × Nat

/-- A character taken apart so many times; only its first part comes apart again. -/
def takenApart : Nat → Char → List Char
  | 0, c => [c]
  | depth + 1, c =>
    match parts? c with
    | some (first, second) => takenApart depth first ++ [second]
    | none => [c]

/-- No character comes apart more often than this. -/
def depthOfParts : Nat :=
  4

/-- Puts a mark in front of marks that do not belong before it. -/
def insertMark (c : Classed) : List Classed → List Classed
  | [] => [c]
  | d :: rest => if 0 < d.2 && d.2 < c.2 then d :: insertMark c rest else c :: d :: rest

/-- Brings the marks between two letters into the order of their classes. -/
def marksOrdered (cs : List Classed) : List Classed :=
  cs.foldr insertMark []

/-- Whether a mark of class `n` gets to the letter past the marks that stay, the last first. -/
def reaches (staying : List Classed) (n : Nat) : Bool :=
  match staying with
  | [] => true
  | (_, last) :: _ => last < n

/-- Makes a letter one with what follows, as far as it can be; marks that stay are kept behind it,
the last first. -/
def composedFrom (letter : Char) (staying : List Classed) : List Classed → List Char
  | [] => letter :: (staying.reverse.map Prod.fst)
  | (c, n) :: rest =>
    match if reaches staying n then composite? letter c else none with
    | some whole => composedFrom whole staying rest
    | none =>
      if n = 0 then letter :: (staying.reverse.map Prod.fst) ++ composedFrom c [] rest
      else composedFrom letter ((c, n) :: staying) rest

/-- Marks at the front have no letter. -/
def composedMarks : List Classed → List Char
  | [] => []
  | (c, n) :: rest => if n = 0 then composedFrom c [] rest else c :: composedMarks rest

/-- The composed form of a text. -/
def composed (cs : List Char) : List Char :=
  let apart := cs.flatMap (takenApart depthOfParts)
  composedMarks (marksOrdered (apart.map fun c => (c, combiningClass c)))

end LoadTest
