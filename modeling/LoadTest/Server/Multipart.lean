import LoadTest.Server.MediaType
import LoadTest.Text.Charset.Basic

/-!
# Uploads in parts

A body of several parts has a boundary before each part, and one with two hyphens behind it at the
end. A part starts with headers: one tells the name of the part and of the file it was, one may tell
the character set of its text. An empty line follows, and then the content.
-/

namespace LoadTest

/-- One part of an upload. -/
structure Part where
  name : Option String
  fileName : Option String
  charset : Charset
  content : List UInt8

namespace Part

/-- The content as a text of its character set. -/
def text (part : Part) : String :=
  part.charset.text part.content

end Part

namespace Multipart

/-- What is sent. -/
abbrev Bytes := List UInt8

/-- The bytes that a text is sent as. -/
def bytesOf (s : String) : Bytes :=
  s.toUTF8.data.toList

/-- A carriage return and a line feed. -/
def lineEnd : Bytes :=
  bytesOf "\r\n"

/-- The two hyphens before a boundary. -/
def hyphens : Bytes :=
  bytesOf "--"

/-- Goes on in search of `pattern`, with what was passed, the last first. -/
def cutFrom? (pattern passed : Bytes) : Bytes → Option (Bytes × Bytes)
  | [] => if pattern.isEmpty then some (passed.reverse, []) else none
  | b :: rest =>
    if pattern.isPrefixOf (b :: rest) then
      some (passed.reverse, (b :: rest).drop pattern.length)
    else cutFrom? pattern (b :: passed) rest

/-- What is before the first place where `pattern` stands, and what is behind it. -/
def cut? (pattern bytes : Bytes) : Option (Bytes × Bytes) :=
  cutFrom? pattern [] bytes

theorem length_cutFrom?_le {pattern bytes before behind : Bytes} {passed : Bytes}
    (h : cutFrom? pattern passed bytes = some (before, behind)) : behind.length ≤ bytes.length := by
  induction bytes generalizing passed with
  | nil =>
    simp only [cutFrom?] at h
    split at h <;> simp_all
  | cons b rest ih =>
    simp only [cutFrom?] at h
    split at h
    · simp only [Option.some.injEq, Prod.mk.injEq] at h
      rw [← h.2, List.length_drop]
      exact Nat.sub_le _ _
    · exact Nat.le_succ_of_le (ih h)

/-- A space or a tab. -/
def isBlank (b : UInt8) : Bool :=
  b = 0x20 || b = 0x09

/-- The bytes of the name of a header. -/
def isNameByte (b : UInt8) : Bool :=
  b < 0x80 && MediaType.isToken (Char.ofNat b.toNat)

/-- The bytes of the value of a header. -/
def isValueByte (b : UInt8) : Bool :=
  (0x20 ≤ b || b = 0x09) && b != 0x7F

/-- The small letter of a capital of ASCII. -/
def lower (b : UInt8) : UInt8 :=
  if 0x41 ≤ b && b ≤ 0x5A then b + 0x20 else b

/-- Bytes without the blanks around them. -/
def withoutBlanks (bytes : Bytes) : Bytes :=
  ((bytes.dropWhile isBlank).reverse.dropWhile isBlank).reverse

/-- The lines of a head; a line end is a line feed, and a carriage return may be before it. -/
def lines (line : Bytes) : Bytes → List Bytes
  | [] => [line.reverse]
  | 0x0A :: rest =>
    (match line with
      | 0x0D :: before => before.reverse
      | line => line.reverse) :: lines [] rest
  | b :: rest => lines (b :: line) rest

/-- The name of a header, in small letters, and its value. -/
def header? (line : Bytes) : Option (Bytes × Bytes) :=
  let name := line.takeWhile isNameByte
  match line.dropWhile isNameByte with
  | 0x3A :: value =>
    if !name.isEmpty && value.all isValueByte then some (name.map lower, withoutBlanks value)
    else none
  | _ => none

/-- More headers than this are refused. -/
def mostHeaders : Nat :=
  32

/-- The headers of a part, up to an empty line. -/
def headers? (head : Bytes) : Option (List (Bytes × Bytes)) :=
  match ((lines [] (head ++ lineEnd)).takeWhile (!·.isEmpty)).mapM header? with
  | some headers => if headers.length ≤ mostHeaders then some headers else none
  | none => none

/-- Of headers of one name the last counts. -/
def value? (name : String) (headers : List (Bytes × Bytes)) : Option Bytes :=
  headers.reverse.lookup (bytesOf name)

/-- The text up to a quotation mark that no backslash stands before. -/
def quoted? : Bytes → Option Bytes
  | 0x5C :: 0x22 :: rest => (quoted? rest).map (0x22 :: ·)
  | 0x22 :: _ => some []
  | b :: rest => (quoted? rest).map (b :: ·)
  | [] => none

/-- The value behind an equals sign, with or without quotation marks. -/
def attributeValue? (bytes : Bytes) : Option Bytes :=
  match bytes.dropWhile isBlank with
  | 0x22 :: rest => quoted? rest
  | rest => some (rest.takeWhile fun b => b != 0x3B && b != 0x20)

theorem length_dropBlanks_le (bytes : Bytes) : (bytes.dropWhile isBlank).length ≤ bytes.length :=
  (List.dropWhile_sublist _).length_le

/-- Goes on in search of an attribute; `opens` tells whether one may start here. The first place
where the name stands decides, whether a value follows or not. -/
def attributeFrom? (name : Bytes) (opens : Bool) : Bytes → Option Bytes
  | [] => none
  | b :: rest =>
    let behind := rest.drop (name.length - 1)
    if name.isPrefixOf (b :: rest) then
      if opens then
        match behind.dropWhile isBlank with
        | 0x3D :: value => attributeValue? value
        | _ => none
      else attributeFrom? name true behind
    else attributeFrom? name (isBlank b || b = 0x3B) rest
termination_by bytes => bytes.length
decreasing_by
  · simp only [List.length_drop, List.length_cons]
    omega
  · simp

/-- The value of an attribute of a header. -/
def attribute? (name : String) (value : Bytes) : Option String :=
  (attributeFrom? (bytesOf name) true value).bind fun bytes => String.fromUTF8? ⟨bytes.toArray⟩

/-- The character set that a part says it is in. -/
def charsetOf (headers : List (Bytes × Bytes)) : Charset :=
  let declared := do
    let value ← value? "content-type" headers
    let text ← if value.all (· < 0x80) then String.fromUTF8? ⟨value.toArray⟩ else none
    Charset.ofLabel? (← (← MediaType.ofText? text).parameter? "charset")
  declared.getD .utf8

/-- The part of that head and content. -/
def partOf (headers : List (Bytes × Bytes)) (content : Bytes) : Part :=
  let disposition := value? "content-disposition" headers
  ⟨disposition.bind (attribute? "name"), disposition.bind (attribute? "filename"),
    charsetOf headers, content⟩

/-- The part that stands behind a boundary, and what is behind the next boundary. -/
def part? (boundary bytes : Bytes) : Option (Part × Bytes) :=
  match bytes.dropWhile isBlank with
  | 0x0D :: 0x0A :: rest =>
    match cut? (lineEnd ++ lineEnd) rest with
    | some (head, body) =>
      match headers? head, cut? (lineEnd ++ hyphens ++ boundary) body with
      | some headers, some (content, behind) => some (partOf headers content, behind)
      | _, _ => none
    | none => none
  | _ => none

theorem length_part?_lt {boundary bytes behind : Bytes} {part : Part}
    (h : part? boundary bytes = some (part, behind)) : behind.length < bytes.length := by
  unfold part? at h
  have hle := length_dropBlanks_le bytes
  split at h
  · rename_i rest heq
    rw [heq] at hle
    simp only [List.length_cons] at hle
    split at h
    · rename_i head body hhead
      split at h
      · rename_i content behind' _ hbody
        simp only [Option.some.injEq, Prod.mk.injEq] at h
        have h₁ := length_cutFrom?_le hhead
        have h₂ := length_cutFrom?_le hbody
        rw [h.2] at h₂
        omega
      · simp at h
    · simp at h
  · simp at h

end Multipart

/-- The parts of a body, up to the first that is broken. -/
structure Upload where
  parts : List Part
  /-- Whether the body ends as it should. -/
  complete : Bool

namespace Upload

open Multipart

/-- The parts behind a boundary. -/
def ofRest (boundary bytes : Bytes) : Upload :=
  if hyphens.isPrefixOf bytes then ⟨[], true⟩
  else match _h : part? boundary bytes with
    | some (part, behind) =>
      let more := ofRest boundary behind
      ⟨part :: more.parts, more.complete⟩
    | none => ⟨[], false⟩
termination_by bytes.length
decreasing_by exact length_part?_lt _h

/-- What stands before the first boundary does not count. -/
def ofBytes (boundary bytes : Bytes) : Upload :=
  match cut? (hyphens ++ boundary) bytes with
  | some (_, rest) => ofRest boundary rest
  | none => ⟨[], false⟩

end Upload

end LoadTest
