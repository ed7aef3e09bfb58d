import LoadTest.Url.Address
import LoadTest.Url.Domain.Basic

/-!
# Addresses of the web

Whether a text is an absolute URL of the scheme `http` or `https`. Blanks and control characters
around it do not count, nor do tabs and line ends inside, and a backslash counts as a slash.
-/

namespace LoadTest.Url

/-- What does not count around an address: spaces and control characters. -/
def isPadding (c : Char) : Bool :=
  c.toNat ≤ 0x20

/-- What does not count inside an address either. -/
def isDropped (c : Char) : Bool :=
  c = '\t' || c = '\n' || c = '\r'

/-- An address without what does not count. -/
def cleaned (cs : List Char) : List Char :=
  (((cs.dropWhile isPadding).reverse.dropWhile isPadding).reverse).filter (!isDropped ·)

/-- What follows the scheme and its colon, when the scheme is one of the two. -/
def behindScheme? (cs : List Char) : Option (List Char) :=
  match cs.dropWhile (· != ':') with
  | _ :: rest =>
    let scheme := String.ofList ((cs.takeWhile (· != ':')).map Char.toLower)
    if scheme = "http" ∨ scheme = "https" then some rest else none
  | [] => none

/-- A slash, or a backslash in its place. -/
def isSlash (c : Char) : Bool :=
  c = '/' || c = '\\'

/-- What the path, the query and the fragment start with. -/
def endsAuthority (c : Char) : Bool :=
  isSlash c || c = '?' || c = '#'

/-- What stands behind the last `@`. -/
def behindUser (cs : List Char) : List Char :=
  (cs.reverse.takeWhile (· != '@')).reverse

/-- The host and what follows it; a colon between brackets belongs to the host. -/
def splitHost (bracketed : Bool) : List Char → List Char × List Char
  | [] => ([], [])
  | c :: rest =>
    if c = ':' && !bracketed then ([], c :: rest)
    else
      let (host, more) := splitHost (if c = '[' then true else if c = ']' then false else bracketed)
        rest
      (c :: host, more)

/-- A port in decimal. It may be left out behind its colon. -/
def isPort (cs : List Char) : Bool :=
  cs.all Char.isDigit && valueOfDigits 10 cs < 65536

/-- The bytes that a host's percent signs stand for, and those of all else. -/
def percentDecoded : List Char → List UInt8
  | '%' :: a :: b :: rest =>
    if isHexDigit a && isHexDigit b then
      UInt8.ofNat (digitValue a * 16 + digitValue b) :: percentDecoded rest
    else 0x25 :: percentDecoded (a :: b :: rest)
  | c :: rest => (String.singleton c).toUTF8.toList ++ percentDecoded rest
  | [] => []
termination_by cs => cs.length

/-- Whether a host is a name that can be looked up, or an address of four bytes. -/
def isName (host : List Char) : Bool :=
  match String.fromUTF8? ⟨(percentDecoded host).toArray⟩ with
  | some decoded =>
    match Domain.lookup? decoded.toList with
    | some name => !endsInNumber name || isFourByteAddress name
    | none => false
  | none => false

/-- Whether it names a host, by an address in brackets or in some other way. -/
def isHost (host : List Char) : Bool :=
  match host with
  | [] => false
  | '[' :: rest => rest.getLast? == some ']' && isGroupAddress rest.dropLast
  | host => isName host

/-- A user may stand before the host and a port behind it. -/
def isAuthority (authority : List Char) : Bool :=
  let (host, rest) := splitHost false (behindUser authority)
  isHost host &&
    match rest with
    | _ :: port => isPort port
    | [] => true

/-- Whether a text is an address of one of the two schemes. -/
def isHttp (text : List Char) : Bool :=
  match behindScheme? (cleaned text) with
  | some rest => isAuthority ((rest.dropWhile isSlash).takeWhile (!endsAuthority ·))
  | none => false

end LoadTest.Url
