/-!
# Media types

The type of a body, or of a part of one: a type, a subtype that may have a suffix, and parameters.
Capitals count as small letters, but for the values of parameters.
-/

namespace LoadTest

/-- The type of a body. -/
structure MediaType where
  type : List Char
  subtype : List Char
  suffix : List Char
  parameters : List (List Char × List Char)

namespace MediaType

/-- Characters of names. -/
def isToken (c : Char) : Bool :=
  c.isAlphanum || "!#$%&'*+-.^_|~\x60".toList.contains c

/-- Characters between quotation marks. -/
def isPrintable (c : Char) : Bool :=
  ' ' ≤ c && c < '\x7f'

/-- Where in the parameters a character stands. -/
inductive Place where
  | start
  | name
  | valueStart
  | value
  | quotedStart
  | quoted
  | behindQuoted
  | nowhere

namespace Place

/-- The place behind a token character, which `c` has to be. -/
def ifToken (c : Char) (place : Place) : Place :=
  if isToken c then place else .nowhere

/-- The place behind a printable character, which `c` has to be. -/
def ifPrintable (c : Char) (place : Place) : Place :=
  if isPrintable c then place else .nowhere

/-- The place behind `c`. A value in quotation marks has at least one character. -/
def next (place : Place) (c : Char) : Place :=
  match place with
  | .start => if c = ' ' then .start else .ifToken c .name
  | .name => if c = '=' then .valueStart else .ifToken c .name
  | .valueStart => if c = '"' then .quotedStart else .ifToken c .value
  | .value => if c = ';' then .start else .ifToken c .value
  | .quotedStart => .ifPrintable c .quoted
  | .quoted => if c = '"' then .behindQuoted else .ifPrintable c .quoted
  | .behindQuoted => if c = ' ' then .behindQuoted else if c = ';' then .start else .nowhere
  | .nowhere => .nowhere

/-- Whether a parameter has its value. -/
def endsParameter : Place → Bool
  | .valueStart | .value | .behindQuoted => true
  | .start | .name | .quotedStart | .quoted | .nowhere => false

end Place

/-- Parameters that are being read: where, the name and the value of the one that has begun, the
last character first, and those before it, the last first. -/
structure Reading where
  place : Place
  name : List Char
  value : List Char
  done : List (List Char × List Char)

namespace Reading

/-- Before the first parameter. -/
def empty : Reading :=
  ⟨.start, [], [], []⟩

/-- Completes the parameter that has begun. -/
def complete (r : Reading) : Reading :=
  if r.place.endsParameter then
    ⟨.start, [], [], (r.name.reverse.map Char.toLower, r.value.reverse) :: r.done⟩
  else r

/-- Takes the next character. -/
def push (r : Reading) (c : Char) : Reading :=
  match r.place.next c with
  | .start => r.complete
  | .name => { r with place := .name, name := c :: r.name }
  | .value => { r with place := .value, value := c :: r.value }
  | .quoted => { r with place := .quoted, value := c :: r.value }
  | place => { r with place := place }

/-- The parameters, if the text could end here. -/
def parameters? (r : Reading) : Option (List (List Char × List Char)) :=
  match r.complete with
  | ⟨.start, _, _, done⟩ => some done.reverse
  | _ => none

end Reading

/-- What stands behind the semicolon that ends the subtype. -/
def parameters? (cs : List Char) : Option (List (List Char × List Char)) :=
  (cs.foldl Reading.push .empty).parameters?

/-- A subtype without its suffix, and the suffix, which follows the last plus sign but for one at
the front. -/
def splitSuffix (subtype : List Char) : List Char × List Char :=
  let suffix := (subtype.reverse.takeWhile (· != '+')).reverse
  let stem := subtype.take (subtype.length - suffix.length - 1)
  if stem.isEmpty then (subtype, []) else (stem, suffix)

/-- The type that a header names. -/
def ofText? (text : String) : Option MediaType :=
  let type := text.toList.takeWhile (· != '/')
  let behindType := (text.toList.dropWhile (· != '/')).drop 1
  let subtype := behindType.takeWhile (· != ';')
  if !type.isEmpty && type.all isToken && !subtype.isEmpty && subtype.all isToken then
    let (stem, suffix) := splitSuffix (subtype.map Char.toLower)
    (parameters? ((behindType.dropWhile (· != ';')).drop 1)).map fun parameters =>
      ⟨type.map Char.toLower, stem, suffix, parameters⟩
  else none

/-- The value of the first parameter of that name. -/
def parameter? (m : MediaType) (name : String) : Option (List Char) :=
  m.parameters.lookup name.toList

/-- Whether a body of this type is a document. -/
def isJson (m : MediaType) : Bool :=
  m.type == "application".toList && (m.subtype == "json".toList || m.suffix == "json".toList)

/-- Whether a body of this type has parts. -/
def isFormData (m : MediaType) : Bool :=
  m.type == "multipart".toList && m.subtype == "form-data".toList

end MediaType

end LoadTest
