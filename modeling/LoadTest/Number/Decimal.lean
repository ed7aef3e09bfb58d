import LoadTest.Number.Binary64

/-!
# Decimal numbers and their nearest doubles

A decimal is a whole number of digits times a power of ten. `Decimal.nearest` rounds it once and
exactly: an exponent so large or so small that no digit matters is settled before any power is
computed.

`Binary64.ofChars?` reads the texts of a double: a sign, then digits with an optional point and
an optional exponent, or a name of infinity or of what is not a number, in either letter case.
-/

namespace LoadTest

/-- The number `digits * 10 ^ exponent`, with its sign. -/
structure Decimal where
  negative : Bool
  digits : Nat
  exponent : Int
deriving DecidableEq

namespace Decimal

/-- The rank nearest to the magnitude, which lies beyond the last one when the decimal is too
large for a double. -/
def nearestRank (digits : Nat) (exponent : Int) : Nat :=
  if digits = 0 then 0
  else if 400 ≤ exponent then 2047 * 2 ^ 52
  else if 0 ≤ exponent then Binary64.nearestRank (digits * 10 ^ exponent.toNat * Binary64.one) 1
  else if digits.log2 + 1100 ≤ exponent.natAbs then 0
  else Binary64.nearestRank (digits * Binary64.one) (10 ^ exponent.natAbs)

/-- The nearest double, infinite if the decimal is too large for one. -/
def nearest (d : Decimal) : Binary64 :=
  if h : nearestRank d.digits d.exponent < 2047 * 2 ^ 52 then
    .finite ⟨d.negative, nearestRank d.digits d.exponent, h⟩
  else .infinite d.negative

/-- The digits of `whole.fraction`, times ten to the `exponent`. -/
def ofParts (negative : Bool) (whole fraction : List Char) (exponent : Int) : Decimal :=
  ⟨negative, Nat.ofDigitChars 10 (whole ++ fraction) 0, exponent - fraction.length⟩

/-- The exponent after `e` or `E`, up to the end of the text: a sign is optional, a digit is
not. -/
def exponentOfChars? (cs : List Char) : Option Int :=
  let (negative, digits) := match cs with
    | '-' :: rest => (true, rest)
    | '+' :: rest => (false, rest)
    | rest => (false, rest)
  if digits.isEmpty || !digits.all Char.isDigit then none
  else
    let n := Nat.ofDigitChars 10 digits 0
    some (if negative then -(n : Int) else n)

/-- A text of digits with at most one point, at least one digit, and an optional exponent. -/
def ofChars? (negative : Bool) (cs : List Char) : Option Decimal := do
  let whole := cs.takeWhile Char.isDigit
  let afterWhole := cs.dropWhile Char.isDigit
  let (fraction, afterFraction) := match afterWhole with
    | '.' :: rest => (rest.takeWhile Char.isDigit, rest.dropWhile Char.isDigit)
    | rest => ([], rest)
  if whole.isEmpty && fraction.isEmpty then none
  else match afterFraction with
    | [] => some (ofParts negative whole fraction 0)
    | c :: rest =>
      if c = 'e' ∨ c = 'E' then do
        let exponent ← exponentOfChars? rest
        some (ofParts negative whole fraction exponent)
      else none

end Decimal

namespace Binary64

/-- The double of a text without its sign. -/
def ofUnsignedChars? (negative : Bool) (cs : List Char) : Option Binary64 :=
  match (Decimal.ofChars? negative cs) with
  | some d => some d.nearest
  | none =>
    let name := String.ofList (cs.map Char.toLower)
    if name = "inf" ∨ name = "infinity" then some (.infinite negative)
    else if name = "nan" then some .nan
    else none

/-- The double of a text. -/
def ofChars? : List Char → Option Binary64
  | '-' :: rest => ofUnsignedChars? true rest
  | '+' :: rest => ofUnsignedChars? false rest
  | cs => ofUnsignedChars? false cs

end Binary64

end LoadTest
