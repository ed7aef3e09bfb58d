import LoadTest.Report.Values

/-!
# Individual checks

A check takes two lines: a mark and its name, then an arrow, the percentage and the counts of
passes and fails. The name is the rest of its line. Checks do not overlap: the next one is looked
for behind the end of the last.
-/

namespace LoadTest.Report

/-- A check as it stands in a report. -/
structure RawCheck where
  name : List Char
  percentage : List Char
  passes : List Char
  fails : List Char

/-- The marks of a check that passed and of one that failed. -/
def isMark (c : Char) : Bool :=
  c = '✓' || c = '✗'

/-- The blanks inside the lines of a check. -/
def isBlank (c : Char) : Bool :=
  c = ' ' || c = '\t'

/-- The rest of a line as a name, without the carriage return before the line feed unless that
is all there is. When nothing is left, the last of several blanks before it is the name. -/
def checkName? (blanks line : List Char) : Option (List Char) :=
  match line with
  | [] => if 1 < blanks.length then blanks.getLast?.map fun c => [c] else none
  | [c] => some [c]
  | line => some (if line.getLast? = some '\r' then line.dropLast else line)

/-- The second line of a check. -/
def checkDetail : Scan (List Char × List Char × List Char) := do
  let _ ← Scan.runOrNothing isBlank
  Scan.exactly ['↳']
  let _ ← Scan.runOrNothing isBlank
  let percentage ← Scan.amount
  Scan.exactly ['%']
  let _ ← Scan.run isBlank
  Scan.exactly ['—']
  let _ ← Scan.run isBlank
  Scan.exactly ['✓']
  let _ ← Scan.runOrNothing isBlank
  let passes ← Scan.count
  let _ ← Scan.runOrNothing isBlank
  Scan.exactly ['/']
  let _ ← Scan.runOrNothing isBlank
  Scan.exactly ['✗']
  let _ ← Scan.runOrNothing isBlank
  let fails ← Scan.count
  return (percentage, passes, fails)

/-- A check behind its mark. -/
def checkBehindMark (cs : List Char) : Option (RawCheck × List Char) :=
  let blanks := cs.takeWhile isBlank
  let content := cs.dropWhile isBlank
  if blanks.isEmpty then none
  else match content.dropWhile (· != '\n') with
    | _ :: nextLine =>
      match checkName? blanks (content.takeWhile (· != '\n')), checkDetail nextLine with
      | some name, some ((percentage, passes, fails), rest) =>
        some (⟨name, percentage, passes, fails⟩, rest)
      | _, _ => none
    | [] => none

theorem shortens_checkDetail : Scan.Shortens checkDetail := by
  unfold checkDetail
  refine .bind (.runOrNothing _) fun _ => .bind (.exactly _) fun _ => ?_
  refine .bind (.runOrNothing _) fun _ => .bind (.run _) fun percentage => ?_
  refine .bind (.exactly _) fun _ => .bind (.run _) fun _ => .bind (.exactly _) fun _ => ?_
  refine .bind (.run _) fun _ => .bind (.exactly _) fun _ => .bind (.runOrNothing _) fun _ => ?_
  refine .bind (.run _) fun passes => .bind (.runOrNothing _) fun _ => ?_
  refine .bind (.exactly _) fun _ => .bind (.runOrNothing _) fun _ => ?_
  refine .bind (.exactly _) fun _ => .bind (.runOrNothing _) fun _ => ?_
  exact .bind (.run _) fun fails => .pure _

theorem length_checkBehindMark_le {cs rest : List Char} {check : RawCheck}
    (h : checkBehindMark cs = some (check, rest)) : rest.length ≤ cs.length := by
  simp only [checkBehindMark] at h
  split at h
  · simp at h
  split at h
  · rename_i line heq
    split at h
    · rename_i hdetail
      simp only [Option.some.injEq, Prod.mk.injEq] at h
      have hline := (List.dropWhile_sublist (l := cs.dropWhile isBlank) (· != '\n')).length_le
      have hblanks := (List.dropWhile_sublist (l := cs) isBlank).length_le
      have hrest := shortens_checkDetail _ _ _ hdetail
      rw [heq, List.length_cons] at hline
      rw [← h.2]
      omega
    · simp at h
  · simp at h

/-- The checks of a text, their numbers not yet read. -/
def rawChecks : List Char → List RawCheck
  | [] => []
  | c :: cs =>
    if isMark c then
      match _h : checkBehindMark cs with
      | some (check, rest) => check :: rawChecks rest
      | none => rawChecks cs
    else rawChecks cs
termination_by cs => cs.length
decreasing_by
  · exact Nat.lt_succ_of_le (length_checkBehindMark_le _h)
  · simp
  · simp

/-- The check with its numbers, if they can be read. -/
def RawCheck.read? (check : RawCheck) : Option IndividualCheck := do
  let percentage ← amount? check.percentage
  let passes ← count? check.passes
  let fails ← count? check.fails
  return ⟨String.ofList (trimChars check.name), passes, fails, percentage⟩

/-- A check whose numbers cannot be read is left out. -/
def individualChecks (raw : List Char) : List IndividualCheck :=
  (rawChecks raw).filterMap RawCheck.read?

end LoadTest.Report
