import LoadTest.Number.Power

/-!
# Punycode

The ASCII form of a label: the characters of ASCII it has, a hyphen, and digits that tell which
other characters go where. The numbers are written in base 36 with the smallest digit first, and
end with a digit below a threshold that adapts to the numbers before.
-/

namespace LoadTest.Url.Punycode

/-- The value of a digit. -/
def digit? (c : Char) : Option Nat :=
  if 'a' ≤ c ∧ c ≤ 'z' then some (c.toNat - 'a'.toNat)
  else if 'A' ≤ c ∧ c ≤ 'Z' then some (c.toNat - 'A'.toNat)
  else if '0' ≤ c ∧ c ≤ '9' then some (c.toNat - '0'.toNat + 26)
  else none

/-- The steps of `adapt`; a number shrinks with each. -/
def adaptFrom (k delta : Nat) : Nat :=
  if 455 < delta then adaptFrom (k + 36) (delta / 35) else k + 36 * delta / (delta + 38)
termination_by delta
decreasing_by omega

/-- The bias behind a number, from its size and how much was written before. -/
def adapt (delta size : Nat) (first : Bool) : Nat :=
  let delta := if first then delta / 700 else delta / 2
  adaptFrom 0 (delta + delta / size)

/-- What is written so far, and the character and place that come next. -/
structure State where
  output : List Char
  char : Nat
  index : Nat
  bias : Nat
  /-- The number being read: where it started, the weight of its next digit and its place. -/
  start : Nat
  weight : Nat
  place : Nat

/-- Where only the characters of ASCII are written. -/
def initial (basic : List Char) : State :=
  ⟨basic, 128, 0, 72, 0, 1, 36⟩

/-- The least digit that does not end a number. -/
def threshold (place bias : Nat) : Nat :=
  if place ≤ bias then 1 else if bias + 26 ≤ place then 26 else place - bias

/-- Whether it is the number of a character. -/
def isScalar (n : Nat) : Bool :=
  n < 0xD800 || (0xDFFF < n && n < 0x110000)

/-- Numbers above this are refused, and with them the label. -/
def greatest : Nat :=
  2 ^ 32 - 1

/-- Takes the next digit. The last one of a number writes a character. -/
def step (s : State) (c : Char) : Option State := do
  let digit ← digit? c
  let index := s.index + digit * s.weight
  let t := threshold s.place s.bias
  if greatest < index then none
  else if t ≤ digit then
    let weight := s.weight * (36 - t)
    if greatest < weight then none
    else some { s with index := index, weight := weight, place := s.place + 36 }
  else
    let size := s.output.length + 1
    let char := s.char + index / size
    if isScalar char then
      let position := index % size
      some {
        output := s.output.take position ++ Char.ofNat char :: s.output.drop position
        char := char
        index := position + 1
        bias := adapt (index - s.start) size (s.start == 0)
        start := position + 1
        weight := 1
        place := 36 }
    else none

/-- The part before the last hyphen and the part behind it. A hyphen with nothing before it does not
count, and is a digit that there is not. -/
def splitLastHyphen (cs : List Char) : List Char × List Char :=
  let behind := (cs.reverse.takeWhile (· != '-')).reverse
  let before := cs.take (cs.length - behind.length - 1)
  if before.isEmpty then ([], cs) else (before, behind)

/-- The label that a code stands for. -/
def decode? (cs : List Char) : Option (List Char) :=
  let (basic, digits) := splitLastHyphen cs
  match digits.foldlM step (initial basic) with
  | some s => if s.place = 36 then some s.output else none
  | none => none

end LoadTest.Url.Punycode
