import LoadTest.Number.Decimal

/-!
# The shortest decimal of a double

`Finite.shortest` is the decimal with the fewest digits whose nearest double is the given one,
and of two such decimals the nearer. For each number of digits only the two neighbours of the
value on that decimal grid can qualify, so only they are tried.
-/

namespace LoadTest

/-- Which neighbour stands for a value halfway between two equally short decimals. -/
inductive Tie where
  | even
  | up

/-- Whether a value halfway above `low` stays at `low`. -/
def Tie.keeps (low : Nat) : Tie → Bool
  | .even => low % 2 == 0
  | .up => false

namespace Decimal

/-- The same number without trailing zeros among its digits. -/
def trim (negative : Bool) (digits : Nat) (exponent : Int) : Decimal :=
  if 0 < digits ∧ digits % 10 = 0 then trim negative (digits / 10) (exponent + 1)
  else ⟨negative, digits, exponent⟩
termination_by digits
decreasing_by omega

end Decimal

namespace Finite

/-- The `k` for which a value other than zero lies in `[10 ^ (k - 1), 10 ^ k)`. -/
def pointPosition (x : Finite) : Int :=
  (Nat.toDigits 10 (x.units * 10 ^ 330 / Binary64.one)).length - 330

/-- The magnitude over `10 ^ exponent`, as a numerator and a denominator. -/
def scaled (x : Finite) (exponent : Int) : Nat × Nat :=
  if 0 ≤ exponent then (x.units, Binary64.one * 10 ^ exponent.toNat)
  else (x.units * 10 ^ exponent.natAbs, Binary64.one)

/-- The neighbour on the grid of `10 ^ exponent` that reads back as `x`, if there is one, where
`x` stands at `num / den` on that grid. -/
def neighbour (tie : Tie) (x : Finite) (exponent : Int) (num den : Nat) : Option Decimal :=
  let low := num / den
  let rest := 2 * (num % den)
  let lowFits := Decimal.nearestRank low exponent == x.rank
  let highFits := Decimal.nearestRank (low + 1) exponent == x.rank
  let lowIsNearer := rest < den || (rest == den && tie.keeps low)
  if lowFits && (!highFits || lowIsNearer) then some (Decimal.trim x.negative low exponent)
  else if highFits then some (Decimal.trim x.negative (low + 1) exponent)
  else none

/-- The neighbour with `count` digits that reads back as `x`, if there is one. -/
def shortestOf (tie : Tie) (x : Finite) (count : Nat) : Option Decimal :=
  let exponent := x.pointPosition - count
  let point := x.scaled exponent
  x.neighbour tie exponent point.1 point.2

/-- All digits of the value. -/
def exact (x : Finite) : Decimal :=
  Decimal.trim x.negative (x.units * 5 ^ 1074) (-1074)

/-- The fewest digits that read back as `x`. -/
def shortest (tie : Tie) (x : Finite) : Decimal :=
  if x.isZero then ⟨x.negative, 0, 0⟩
  else ((List.range' 1 17).findSome? (x.shortestOf tie)).getD x.exact

end Finite

end LoadTest
