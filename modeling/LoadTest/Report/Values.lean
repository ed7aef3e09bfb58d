import LoadTest.Report.Metrics
import LoadTest.Report.Scan

/-!
# Values of the sections

Finding values and reading them are two steps: the first section whose values have the right form
counts, and it counts for nothing if its numbers cannot be read.
-/

namespace LoadTest.Report

/-- A whole number of 64 bits. -/
def count? (digits : List Char) : Option UInt64 :=
  (naturalBelow? (2 ^ 64) digits).map UInt64.ofNat

/-- A number that may have a point. -/
def amount? (cs : List Char) : Option Binary64 :=
  Binary64.ofChars? cs

namespace Scan

/-- A number and its unit, `ms` or `s`. -/
def duration : Scan (List Char) := do
  let number ← amount
  let unit ← fun cs =>
    match cs with
    | 'm' :: 's' :: rest => some (['m', 's'], rest)
    | 's' :: rest => some (['s'], rest)
    | _ => none
  return number ++ unit

/-- A duration behind its label. -/
def labelled (label : String) : Scan (List Char) := do
  exactly label.toList
  duration

/-- A count behind its label. -/
def labelledCount (label : String) : Scan (List Char) := do
  let _ ← white
  exactly label.toList
  count

/-- An amount of bytes, blanks between number and unit included. -/
def bytes : Scan (List Char) := do
  let number ← amount
  let blanks ← white
  let unit ← fun cs =>
    match cs with
    | 'B' :: rest => some (['B'], rest)
    | c :: 'B' :: rest =>
      if c = 'k' ∨ c = 'K' ∨ c = 'M' ∨ c = 'G' ∨ c = 'T' then some ([c, 'B'], rest) else none
    | _ => none
  return number ++ blanks ++ unit

/-- `10 1.5/s` -/
def counter : Scan (List Char × List Char) := do
  let total ← count
  let _ ← white
  let rate ← amount
  exactly ['/', 's']
  return (total, rate)

/-- `10 min=1 max=20` -/
def gauge : Scan (List Char × List Char × List Char) := do
  let value ← count
  let min ← labelledCount "min="
  let max ← labelledCount "max="
  return (value, min, max)

/-- `97.50% 39 out of 40` -/
def share : Scan (List Char × List Char × List Char) := do
  let percentage ← amount
  exactly ['%']
  let _ ← white
  let part ← count
  let _ ← white
  exactly "out of".toList
  let _ ← white
  let total ← count
  return (percentage, part, total)

/-- `97.50% ✓ 39 ✗ 1` -/
def markedShare : Scan (List Char × List Char × List Char) := do
  let percentage ← amount
  exactly ['%']
  let _ ← white
  exactly ['✓']
  let _ ← white
  let marked ← count
  let _ ← white
  exactly ['✗']
  let _ ← white
  let unmarked ← count
  return (percentage, marked, unmarked)

/-- `avg=1s min=1s med=1s max=1s p(90)=1s p(95)=1s` -/
def trend : Scan (List (List Char)) := do
  let avg ← labelled "avg="
  let _ ← white
  let min ← labelled "min="
  let _ ← white
  let med ← labelled "med="
  let _ ← white
  let max ← labelled "max="
  let _ ← white
  let p90 ← labelled "p(90)="
  let _ ← white
  let p95 ← labelled "p(95)="
  return [avg, min, med, max, p90, p95]

/-- `1.2 MB 340 kB/s` -/
def transfer : Scan (List Char × List Char) := do
  let total ← bytes
  let _ ← white
  let rate ← bytes
  exactly ['/', 's']
  return (total, rate)

end Scan

/-- The counter of that name. -/
def counter? (name : String) (raw : List Char) : Option Counter := do
  let (total, rate) ← find name .counter raw
  return ⟨← count? total, ← amount? rate⟩

/-- The statistics of that name. -/
def trend? (name : String) (raw : List Char) : Option DurationStats := do
  match (← find name .trend raw).mapM Duration.reported? with
  | some [avg, min, med, max, p90, p95] => some ⟨avg, min, med, max, p90, p95⟩
  | _ => none

/-- The amounts of bytes of that name, as the report prints them. -/
def transfer? (name : String) (raw : List Char) : Option DataTransfer := do
  let (total, rate) ← find name .transfer raw
  return ⟨String.ofList total, String.ofList (rate ++ ['/', 's'])⟩

/-- The gauge of that name: its value, its least and its greatest. -/
def gauge? (name : String) (raw : List Char) : Option (UInt64 × UInt64 × UInt64) := do
  let (value, min, max) ← find name .gauge raw
  return (← count? value, ← count? min, ← count? max)

end LoadTest.Report
