import LoadTest.Number.Power
import LoadTest.Number.Rounding

/-!
# Binary floating point of 64 bits

A finite double is a sign and a *rank*: how many magnitudes lie below its own. Ranks run through
the doubles without gaps, so that the rank is also the bit pattern without the sign. Magnitudes
are counted in units of `2 ^ -1074`, in which all of them are whole (`Finite.units`).

Every operation takes the exact value of its operands, computes with whole numbers and rounds
once, in `ofQuotient`.
-/

namespace LoadTest

/-- A finite double. -/
structure Finite where
  negative : Bool
  rank : Nat
  rank_lt : rank < 2047 * 2 ^ 52
deriving DecidableEq

namespace Finite

/-- The magnitude of a rank, in units of `2 ^ -1074`. -/
def unitsOfRank (rank : Nat) : Nat :=
  if rank < 2 ^ 52 then rank
  else (2 ^ 52 + rank % 2 ^ 52) * 2 ^ (rank / 2 ^ 52 - 1)

/-- The magnitude in units of `2 ^ -1074`. -/
def units (x : Finite) : Nat :=
  unitsOfRank x.rank

/-- The value in units of `2 ^ -1074`. -/
def signedUnits (x : Finite) : Int :=
  if x.negative then -(x.units : Int) else x.units

/-- The zero of that sign. -/
def zero (negative : Bool) : Finite :=
  ⟨negative, 0, by decide⟩

/-- Whether it is one of the two zeros. -/
def isZero (x : Finite) : Bool :=
  x.rank == 0

end Finite

/-- A double of 64 bits. -/
inductive Binary64 where
  | nan
  | infinite (negative : Bool)
  | finite (x : Finite)
deriving DecidableEq

namespace Binary64

/-- How many units make one. -/
def one : Nat := 2 ^ 1074

/-- The rank nearest to `num / den` units, which may lie beyond the last one. -/
def nearestRank (num den : Nat) : Nat :=
  let shift := (num / den).log2 - 52
  shift * 2 ^ 52 + roundHalfEven num (den * 2 ^ shift)

/-- The double nearest to `num / den` units, infinite from half a step above the largest. -/
def ofQuotient (negative : Bool) (num den : Nat) : Binary64 :=
  if h : nearestRank num den < 2047 * 2 ^ 52 then .finite ⟨negative, nearestRank num den, h⟩
  else .infinite negative

/-- The double nearest to a whole number. -/
def ofNat (n : Nat) : Binary64 :=
  ofQuotient false (n * one) 1

/-- The zero without a minus sign. -/
def zero : Binary64 :=
  .finite (.zero false)

/-- Whether it is one of the finite doubles. -/
def isFinite : Binary64 → Bool
  | .finite _ => true
  | _ => false

/-- Whether it has a minus sign, as one of the zeros has. -/
def isNegative : Binary64 → Bool
  | .nan => false
  | .infinite negative => negative
  | .finite x => x.negative

/-- Turns the sign round. -/
def neg : Binary64 → Binary64
  | .nan => .nan
  | .infinite negative => .infinite (!negative)
  | .finite x => .finite { x with negative := !x.negative }

/-- A sum that is exactly zero is positive unless both terms are negative. -/
def add : Binary64 → Binary64 → Binary64
  | .nan, _ => .nan
  | _, .nan => .nan
  | .infinite a, .infinite b => if a = b then .infinite a else .nan
  | .infinite a, .finite _ => .infinite a
  | .finite _, .infinite b => .infinite b
  | .finite x, .finite y =>
    let sum := x.signedUnits + y.signedUnits
    if sum = 0 then .finite (.zero (x.negative && y.negative))
    else ofQuotient (sum < 0) sum.natAbs 1

/-- The difference, as a sum with the opposite. -/
def sub (x y : Binary64) : Binary64 :=
  add x (neg y)

/-- The product. Zero times an infinity is no number. -/
def mul : Binary64 → Binary64 → Binary64
  | .nan, _ => .nan
  | _, .nan => .nan
  | .infinite a, .infinite b => .infinite (a != b)
  | .infinite a, .finite y => if y.isZero then .nan else .infinite (a != y.negative)
  | .finite x, .infinite b => if x.isZero then .nan else .infinite (x.negative != b)
  | .finite x, .finite y => ofQuotient (x.negative != y.negative) (x.units * y.units) one

/-- The quotient. Division by zero gives an infinity, unless zero is divided. -/
def div : Binary64 → Binary64 → Binary64
  | .nan, _ => .nan
  | _, .nan => .nan
  | .infinite _, .infinite _ => .nan
  | .infinite a, .finite y => .infinite (a != y.negative)
  | .finite x, .infinite b => .finite (.zero (x.negative != b))
  | .finite x, .finite y =>
    if y.isZero then
      if x.isZero then .nan else .infinite (x.negative != y.negative)
    else ofQuotient (x.negative != y.negative) (x.units * one) y.units

/-- To the nearest whole number, a half away from zero. -/
def round : Binary64 → Binary64
  | .finite x => ofQuotient x.negative (roundHalfAway x.units one * one) 1
  | x => x

/-- False as soon as one side is not a number. -/
def lt : Binary64 → Binary64 → Bool
  | .finite x, .finite y => x.signedUnits < y.signedUnits
  | .finite _, .infinite b => !b
  | .infinite a, .finite _ => a
  | .infinite a, .infinite b => a && !b
  | _, _ => false

/-- Equality of values: the two zeros are equal, and what is not a number equals nothing. -/
def same : Binary64 → Binary64 → Bool
  | .finite x, .finite y => x.signedUnits == y.signedUnits
  | .infinite a, .infinite b => a == b
  | _, _ => false

/-- The second of both if the first is less, else the first. -/
def max (x y : Binary64) : Binary64 :=
  if x.lt y then y else x

end Binary64

end LoadTest
