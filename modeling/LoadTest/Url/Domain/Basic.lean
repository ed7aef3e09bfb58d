import LoadTest.Text.Composition.Basic
import LoadTest.Url.Domain.Bidi
import LoadTest.Url.Domain.Joiner
import LoadTest.Url.Domain.Mapping
import LoadTest.Url.Punycode

/-!
# Domain names

A name is a sequence of labels with points between them. Labels may be in any script, or in the
ASCII form of one, which starts with `xn--`.
-/

namespace LoadTest.Url.Domain

/-- Characters of ASCII that no host name may have. -/
def isForbidden (c : Char) : Bool :=
  c.toNat ≤ 0x20 || c = '\x7f' || "%#/:<>?@[\\]^|".toList.contains c

/-- A character of ASCII. -/
def isAscii (c : Char) : Bool :=
  c.toNat < 0x80

/-- What `cs` is looked up as: every character as what stands for it, and the whole composed. -/
def mappedName? (cs : List Char) : Option (List Char) :=
  (cs.mapM mapped?).map fun parts =>
    let name := parts.flatten
    if name.all isAscii then name else composed name

/-- Whether a label is looked up as it stands. -/
def isMapped (label : List Char) : Bool :=
  label.all (fun c => mapped? c == some [c]) && composed label == label

/-- The label that a label stands for, if it is one. -/
def label? (label : List Char) : Option (List Char) :=
  match label with
  | 'x' :: 'n' :: '-' :: '-' :: code =>
    if code.all isAscii && code.length ≤ 2000 then
      match Punycode.decode? code with
      | some decoded =>
        if !decoded.all isAscii && isMapped decoded then some decoded else none
      | none => none
    else none
  | label => some label

/-- Whether a label may be looked up, its directions aside. -/
def labelOk (label : List Char) : Bool :=
  (label.all isAscii || label.length ≤ 1000) && !startsWithMark label && joinersFit [] label

/-- The name that is looked up for `cs`, unless that is no name. -/
def lookup? (cs : List Char) : Option (List Char) :=
  match mappedName? cs with
  | none => none
  | some name =>
    if name.isEmpty || name.any isForbidden then none
    else match (fields '.' name).mapM label? with
      | some labels => if labels.all labelOk && directionsOk labels then some name else none
      | none => none

end LoadTest.Url.Domain
