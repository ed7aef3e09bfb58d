import LoadTest.Json.Writer
import LoadTest.Text.Shown

/-!
# Why a document does not have the shape asked for

A fault is found at the first place, in the order of the text, that does not fit. Members that are
missing are noticed only at the end of their object.
-/

namespace LoadTest.Json

/-- What stood in the place of something else. -/
inductive Found where
  | null
  | bool (b : Bool)
  | number (n : Number)
  | text (s : String)
  | sequence
  | map

/-- How a message names what stood there. -/
def Found.description : Found → String
  | .null => "null"
  | .bool true => "boolean `true`"
  | .bool false => "boolean `false`"
  | .number (.real x) => "floating point `" ++ String.ofList x.documentChars ++ "`"
  | .number n => "integer `" ++ String.ofList n.chars ++ "`"
  | .text s => "string " ++ shownText s
  | .sequence => "sequence"
  | .map => "map"

/-- What does not fit. -/
inductive Fault where
  /-- The text is not JSON here, or holds something that cannot be kept. -/
  | malformed
  | missingMember (name : String)
  | repeatedMember (name : String)
  | wrongType (found : Found) (expected : String)
  | wrongValue (found : Found) (expected : String)
  | unknownVariant (name : String) (known : List String)
  /-- Neither the name of a variant nor an object around it. -/
  | notVariant (found : Found)
  /-- An object that should hold one variant and has another number of members. `refused` tells
  whether the first of them is no variant anyway. -/
  | notOneMember (refused : Bool)
  | tooFewItems (count : Nat) (title : String) (size : Nat)
  | tooManyItems (count : Nat)
deriving Inhabited

namespace Fault

/-- A name as messages quote it. -/
def quotedName (name : String) : String :=
  "`" ++ name ++ "`"

/-- The names that were expected. -/
def oneOf : List String → String
  | [] => "there are no variants"
  | [a] => "expected " ++ quotedName a
  | [a, b] => "expected " ++ quotedName a ++ " or " ++ quotedName b
  | names => "expected one of " ++ String.intercalate ", " (names.map quotedName)

/-- What is said of a fault, without its place. -/
def message : Fault → String
  | .malformed => "malformed"
  | .missingMember name => "missing field " ++ quotedName name
  | .repeatedMember name => "duplicate field " ++ quotedName name
  | .wrongType found expected =>
    "invalid type: " ++ found.description ++ ", expected " ++ expected
  | .wrongValue found expected =>
    "invalid value: " ++ found.description ++ ", expected " ++ expected
  | .unknownVariant name known =>
    "unknown variant " ++ quotedName name ++ ", " ++ oneOf known
  | .notVariant found =>
    "invalid type: " ++ found.description ++ ", expected string or map"
  | .notOneMember _ => "invalid value: map, expected map with a single key"
  | .tooFewItems count title size =>
    "invalid length " ++ toString count ++ ", expected " ++ title ++ " with " ++ toString size ++
      " elements"
  | .tooManyItems count =>
    "invalid length " ++ toString count ++ ", expected fewer elements in array"

/-- Whether a text is refused for this as no JSON rather than as the wrong JSON. -/
def spoilsText : Fault → Bool
  | .malformed => true
  | .notVariant _ => true
  | .notOneMember refused => !refused
  | .tooManyItems _ => true
  | _ => false

end Fault

end LoadTest.Json
