import LoadTest.Number.Power
import LoadTest.Text.Fields

/-!
# Addresses

Numeric addresses of hosts: four bytes, written in up to four numbers of which the last fills what
is left, and eight groups of 16 bits, of which a run of zeros may be left out.
-/

namespace LoadTest.Url

def isHexDigit (c : Char) : Bool :=
  c.isDigit || ('a' ≤ c && c ≤ 'f') || ('A' ≤ c && c ≤ 'F')

def isOctalDigit (c : Char) : Bool :=
  '0' ≤ c && c ≤ '7'

def digitValue (c : Char) : Nat :=
  if c.isDigit then c.toNat - '0'.toNat
  else if 'a' ≤ c then c.toNat - 'a'.toNat + 10
  else c.toNat - 'A'.toNat + 10

/-- The number that digits of a base stand for. -/
def valueOfDigits (base : Nat) (cs : List Char) : Nat :=
  cs.foldl (fun n c => n * base + digitValue c) 0

/-- A number of an address, hexadecimal behind `0x` and octal behind another zero. -/
def addressNumber? : List Char → Option Nat
  | [] => none
  | '0' :: 'x' :: digits => ofDigits? 16 isHexDigit digits
  | '0' :: 'X' :: digits => ofDigits? 16 isHexDigit digits
  | '0' :: c :: digits => ofDigits? 8 isOctalDigit (c :: digits)
  | digits => ofDigits? 10 Char.isDigit digits
where
  ofDigits? (base : Nat) (isDigit : Char → Bool) (digits : List Char) : Option Nat :=
    if digits.all isDigit then some (valueOfDigits base digits) else none

/-- The fields of a host, without the empty one behind a last point. -/
def hostFields (host : List Char) : List (List Char) :=
  let all := fields '.' host
  if 1 < all.length ∧ all.getLast? = some [] then all.dropLast else all

/-- Whether the last field is a number, so that the host has to be an address. -/
def endsInNumber (host : List Char) : Bool :=
  match (hostFields host).getLast? with
  | some last => (!last.isEmpty && last.all Char.isDigit) || (addressNumber? last).isSome
  | none => false

/-- Whether the fields of a host are the numbers of an address. -/
def isFourByteAddress (host : List Char) : Bool :=
  let parts := hostFields host
  match parts.mapM addressNumber? with
  | some numbers =>
    match numbers.reverse with
    | last :: others =>
      numbers.length ≤ 4 && others.all (· < 256) && last < 256 ^ (5 - numbers.length)
    | [] => false
  | none => false

/-- A byte in decimal without leading zeros. -/
def isByte (cs : List Char) : Bool :=
  !cs.isEmpty && cs.all Char.isDigit && (cs.length == 1 || cs.head? != some '0') &&
    valueOfDigits 10 cs < 256

/-- Four bytes with points between them. -/
def isFourBytes (cs : List Char) : Bool :=
  let parts := fields '.' cs
  parts.length == 4 && parts.all isByte

/-- The groups from the `count`-th on; `shortened` tells whether zeros were left out before. -/
def groupsFit (count : Nat) (shortened : Bool) : List Char → Bool
  | [] => shortened || count == 8
  | c :: cs =>
    if count == 8 then false
    else if c = ':' then !shortened && groupsFit (count + 1) true cs
    else
      let digits := ((c :: cs).take 4).takeWhile isHexDigit
      match _h : (c :: cs).drop digits.length with
      | [] => groupsFit (count + 1) shortened []
      | '.' :: _ =>
        !digits.isEmpty && count ≤ 6 && isFourBytes (c :: cs) && (shortened || count == 6)
      | ':' :: rest => !rest.isEmpty && groupsFit (count + 1) shortened rest
      | _ => false
termination_by cs => cs.length
decreasing_by
  · simp
  · simp
  · have := congrArg List.length _h
    simp only [List.length_drop, List.length_cons] at this ⊢
    omega

/-- Whether a text between brackets is an address of eight groups. -/
def isGroupAddress : List Char → Bool
  | ':' :: ':' :: rest => groupsFit 1 true rest
  | ':' :: _ => false
  | [_] => false
  | [] => false
  | cs => groupsFit 0 false cs

end LoadTest.Url
