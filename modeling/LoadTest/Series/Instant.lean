import LoadTest.Number.Power

/-!
# Instants

A point in time is a day, a second of the day and nanoseconds, all without offset. In a leap second
the nanoseconds go on past a whole second. `Instant.ofChars?` reads the usual text of a date, a time
and an offset; digits of the second beyond the ninth are dropped.
-/

namespace LoadTest

/-- A point in time. -/
structure Instant where
  day : Int
  second : Nat
  nano : Nat
deriving DecidableEq

namespace Instant

/-- Whether the year has a 29th of February. -/
def isLeapYear (year : Nat) : Bool :=
  year % 4 == 0 && (year % 100 != 0 || year % 400 == 0)

/-- How many days the month has, none if there is no such month. -/
def daysInMonth (year month : Nat) : Nat :=
  match month with
  | 1 | 3 | 5 | 7 | 8 | 10 | 12 => 31
  | 4 | 6 | 9 | 11 => 30
  | 2 => if isLeapYear year then 29 else 28
  | _ => 0

/-- The days from the start of the year 0. -/
def daysBeforeYear (year : Nat) : Nat :=
  365 * year + (year + 3) / 4 - (year + 99) / 100 + (year + 399) / 400

/-- The days of the year before this month. -/
def daysBeforeMonth (year month : Nat) : Nat :=
  ((List.range month).map (daysInMonth year)).foldl Nat.add 0

/-- The number of a day, if the calendar has it. -/
def day? (year month dayOfMonth : Nat) : Option Nat :=
  if 1 ≤ dayOfMonth ∧ dayOfMonth ≤ daysInMonth year month then
    some (daysBeforeYear year + daysBeforeMonth year month + (dayOfMonth - 1))
  else none

/-- The second of the day and the nanoseconds; the second 60 is a leap second. -/
def time? (hour minute second nano : Nat) : Option (Nat × Nat) :=
  if hour < 24 ∧ minute < 60 ∧ second < 60 then
    some (hour * 3600 + minute * 60 + second, nano)
  else if hour < 24 ∧ minute < 60 ∧ second = 60 then
    some (hour * 3600 + minute * 60 + 59, nano + 1000000000)
  else none

/-- Exactly that many digits. -/
def digits? (count : Nat) (cs : List Char) : Option (Nat × List Char) :=
  let digits := cs.take count
  if digits.length = count ∧ digits.all Char.isDigit then
    some (Nat.ofDigitChars 10 digits 0, cs.drop count)
  else none

/-- What follows a character of that kind. -/
def char? (p : Char → Bool) : List Char → Option (List Char)
  | c :: rest => if p c then some rest else none
  | [] => none

/-- The nanoseconds of a fraction, which may be absent. -/
def fraction? : List Char → Option (Nat × List Char)
  | '.' :: rest =>
    let digits := rest.takeWhile Char.isDigit
    if digits.isEmpty then none
    else
      let kept := digits.take 9
      some (Nat.ofDigitChars 10 kept 0 * 10 ^ (9 - kept.length), rest.dropWhile Char.isDigit)
  | rest => some (0, rest)

/-- The seconds of an offset at the end of a text. -/
def offset? : List Char → Option Int
  | ['Z'] => some 0
  | ['z'] => some 0
  | sign :: rest => do
    let (hours, rest) ← digits? 2 rest
    let rest ← char? (· = ':') rest
    let (minutes, rest) ← digits? 2 rest
    if hours < 24 ∧ minutes < 60 ∧ rest.isEmpty then
      let seconds : Int := (hours * 3600 + minutes * 60 : Nat)
      if sign = '+' then some seconds
      else if sign = '-' ∨ sign = '−' then some (-seconds)
      else none
    else none
  | [] => none

/-- The instant at which clocks that are `offset` seconds ahead show this time. -/
def ofLocal (day : Nat) (second nano : Nat) (offset : Int) : Instant :=
  let total : Int := day * 86400 + second - offset
  ⟨total / 86400, (total % 86400).toNat, nano⟩

/-- Reads the usual text of a date, a time and an offset. -/
def ofChars? (cs : List Char) : Option Instant := do
  let (year, cs) ← digits? 4 cs
  let cs ← char? (· = '-') cs
  let (month, cs) ← digits? 2 cs
  let cs ← char? (· = '-') cs
  let (dayOfMonth, cs) ← digits? 2 cs
  let cs ← char? (fun c => c = 'T' || c = 't' || c = ' ') cs
  let (hour, cs) ← digits? 2 cs
  let cs ← char? (· = ':') cs
  let (minute, cs) ← digits? 2 cs
  let cs ← char? (· = ':') cs
  let (second, cs) ← digits? 2 cs
  let (nano, cs) ← fraction? cs
  let offset ← offset? cs
  let day ← day? year month dayOfMonth
  let (second, nano) ← time? hour minute second nano
  some (ofLocal day second nano offset)

/-- The nanoseconds from `start` to `t`. A leap second between two times of the day counts if it
belongs to one of them. -/
def nanosSince (start t : Instant) : Int :=
  let leap : Int :=
    if start.second < t.second ∧ 1000000000 ≤ start.nano then 1
    else if t.second < start.second ∧ 1000000000 ≤ t.nano then -1
    else 0
  ((t.day - start.day) * 86400 + ((t.second : Int) - start.second) + leap) * 1000000000 +
    ((t.nano : Int) - start.nano)

/-- Whole milliseconds, cut off toward zero. -/
def millisSince (start t : Instant) : Int :=
  (nanosSince start t).tdiv 1000000

end Instant

end LoadTest
