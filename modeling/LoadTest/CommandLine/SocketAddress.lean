import LoadTest.Text.Digit
import LoadTest.Text.Fields
import LoadTest.Url.Address

/-!
# Socket addresses

An address of four bytes or of eight groups in brackets, which may name a scope, and a port.
`SocketAddress.text` writes it in the usual short form.
-/

namespace LoadTest

/-- The address of a host and a port there. -/
structure SocketAddress where
  /-- Four bytes or eight groups. -/
  parts : List Nat
  scope : Nat
  port : Nat
deriving DecidableEq

namespace SocketAddress

/-- A number of the given base below a limit, with at most so many digits. -/
def number? (base limit maxDigits : Nat) (cs : List Char) : Option Nat :=
  let isDigit := if base = 16 then Url.isHexDigit else Char.isDigit
  if cs.isEmpty || maxDigits < cs.length || !cs.all isDigit then none
  else
    let n := Url.valueOfDigits base cs
    if n < limit then some n else none

/-- Four bytes with points between them. -/
def bytes? (cs : List Char) : Option (List Nat) :=
  if Url.isFourBytes cs then some ((fields '.' cs).map (Url.valueOfDigits 10)) else none

/-- Groups with colons between them; the last may be four bytes, which are two groups. -/
def groups? : List (List Char) → Option (List Nat)
  | [] => some []
  | [last] =>
    match number? 16 (2 ^ 16) 4 last with
    | some n => some [n]
    | none =>
      match bytes? last with
      | some [a, b, c, d] => some [a * 256 + b, c * 256 + d]
      | _ => none
  | group :: rest => do
    let n ← number? 16 (2 ^ 16) 4 group
    let ns ← groups? rest
    some (n :: ns)

/-- The groups on one side of two colons, where there may be none. -/
def groupsOfText? (cs : List Char) : Option (List Nat) :=
  if cs.isEmpty then some [] else groups? (fields ':' cs)

/-- The texts before and behind the first two colons in a row. -/
def splitColons? : List Char → Option (List Char × List Char)
  | ':' :: ':' :: rest => some ([], rest)
  | c :: rest => (splitColons? rest).map fun (before, behind) => (c :: before, behind)
  | [] => none

/-- Eight groups; two colons in a row stand for zeros. -/
def address? (cs : List Char) : Option (List Nat) :=
  match splitColons? cs with
  | some (before, behind) =>
    if before.contains '.' then none
    else
      match groupsOfText? before, groupsOfText? behind with
      | some head, some tail =>
        if head.length + tail.length < 8 then
          some (head ++ List.replicate (8 - head.length - tail.length) 0 ++ tail)
        else none
      | _, _ => none
  | none =>
    match groups? (fields ':' cs) with
    | some groups => if groups.length = 8 then some groups else none
    | none => none

/-- A port in decimal. -/
def port? (cs : List Char) : Option Nat :=
  number? 10 (2 ^ 16) cs.length cs

/-- What stands in the brackets and what follows them. -/
def ofBracketed? (cs : List Char) : Option SocketAddress :=
  let inner := cs.takeWhile (· != ']')
  let address := inner.takeWhile (· != '%')
  let scope? := match inner.dropWhile (· != '%') with
    | _ :: scope => number? 10 (2 ^ 32) scope.length scope
    | [] => some 0
  match cs.dropWhile (· != ']') with
  | ']' :: ':' :: port =>
    match address? address, scope?, port? port with
    | some parts, some scope, some port => some ⟨parts, scope, port⟩
    | _, _, _ => none
  | _ => none

/-- Reads an address and its port. Groups stand in brackets. -/
def ofChars? : List Char → Option SocketAddress
  | '[' :: rest => ofBracketed? rest
  | cs =>
    match cs.dropWhile (· != ':') with
    | _ :: port =>
      match bytes? (cs.takeWhile (· != ':')), port? port with
      | some parts, some port => some ⟨parts, 0, port⟩
      | _, _ => none
    | [] => none

/-- A number in decimal. -/
def decimalText (n : Nat) : String :=
  toString n

/-- Bytes with points between them. -/
def bytesText (bytes : List Nat) : String :=
  String.intercalate "." (bytes.map decimalText)

/-- Groups in hexadecimal, with colons between them. -/
def groupsText (groups : List Nat) : String :=
  String.intercalate ":" (groups.map fun n => String.ofList (Nat.toDigits 16 n))

/-- How many zeros stand at each place and behind it. -/
def zeroRuns : List Nat → List Nat
  | [] => []
  | n :: rest =>
    let runs := zeroRuns rest
    (if n = 0 then runs.head?.getD 0 + 1 else 0) :: runs

/-- The longest run of zeros, the first of them, is left out if it is longer than one. -/
def shortText (groups : List Nat) : String :=
  match groups with
  | [0, 0, 0, 0, 0, 0xffff, a, b] =>
    "::ffff:" ++ bytesText [a / 256, a % 256, b / 256, b % 256]
  | groups =>
    let runs := zeroRuns groups
    let longest := runs.foldl max 0
    if longest ≤ 1 then groupsText groups
    else
      let start := runs.idxOf longest
      groupsText (groups.take start) ++ "::" ++ groupsText (groups.drop (start + longest))

/-- The address and its port. Groups stand in brackets, with their scope. -/
def text (a : SocketAddress) : String :=
  if a.parts.length = 4 then bytesText a.parts ++ ":" ++ decimalText a.port
  else
    let scope := if a.scope = 0 then "" else "%" ++ decimalText a.scope
    "[" ++ shortText a.parts ++ scope ++ "]:" ++ decimalText a.port

end SocketAddress

end LoadTest
