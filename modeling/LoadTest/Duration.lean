import LoadTest.Error
import LoadTest.Number.Decimal
import LoadTest.Text.Digit

/-!
# Durations

Schedules write a duration as a decimal number and one of the units `ms`, `s`, `m` and `h`
(`Duration.isLiteral`, `Duration.milliseconds`). Reports only use `ms` and `s`, and their numbers
are runs of digits and points (`Duration.reported?`).
-/

namespace LoadTest.Duration

/-- A unit of time. -/
inductive Unit where
  | millisecond
  | second
  | minute
  | hour
deriving DecidableEq

namespace Unit

/-- The unit that a literal ends with. -/
def ofChars? : List Char → Option Unit
  | ['m', 's'] => some .millisecond
  | ['s'] => some .second
  | ['m'] => some .minute
  | ['h'] => some .hour
  | _ => none

/-- How many milliseconds the unit has. -/
def milliseconds : Unit → Nat
  | .millisecond => 1
  | .second => 1000
  | .minute => 60000
  | .hour => 3600000

end Unit

/-- The number and the unit of a literal. Digits may be those of any script. -/
def split? (cs : List Char) : Option (List Char × Unit) :=
  let whole := cs.takeWhile isScriptDigit
  let rest := cs.dropWhile isScriptDigit
  if whole.isEmpty then none
  else match rest with
    | '.' :: more =>
      let fraction := more.takeWhile isScriptDigit
      if fraction.isEmpty then none
      else (Unit.ofChars? (more.dropWhile isScriptDigit)).map
        fun unit => (whole ++ '.' :: fraction, unit)
    | _ => (Unit.ofChars? rest).map fun unit => (whole, unit)

/-- Whether a schedule may use the text as a duration. -/
def isLiteral (literal : String) : Bool :=
  (split? literal.toList).isSome

/-- Only the digits of ASCII have a value. -/
def milliseconds (literal : String) : Except Error Binary64 :=
  match split? literal.toList with
  | none => .error (.invalidDuration literal)
  | some (number, unit) =>
    match Binary64.ofChars? number with
    | none => .error (.invalidDuration literal)
    | some x => .ok (x.mul (.ofNat unit.milliseconds))

/-- The characters of a number in a report. -/
def isReportDigit (c : Char) : Bool :=
  isScriptDigit c || c = '.'

/-- The milliseconds of a duration as a report prints it. -/
def reported? (cs : List Char) : Option Binary64 :=
  let number := cs.takeWhile isReportDigit
  if number.isEmpty then none
  else match Unit.ofChars? (cs.dropWhile isReportDigit) with
    | some .millisecond => Binary64.ofChars? number
    | some .second => (Binary64.ofChars? number).map fun x => x.mul (.ofNat 1000)
    | _ => none

end LoadTest.Duration
