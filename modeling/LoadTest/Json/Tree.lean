import LoadTest.Json.Value
import LoadTest.Number.Decimal

/-!
# Documents as far as they can be read

A `Tree` is what a text holds, in the order of the text: repeated members stay, and what cannot be
kept is marked where it stands. Where the text stops being JSON the tree ends, and the containers
around that place are not `closed`.

A tree without such marks is a value (`Tree.value?`), and every value is a tree (`Value.tree`).
-/

namespace LoadTest.Json

/-- What a text holds, with marks where it cannot be kept. -/
inductive Tree where
  | null
  | bool (b : Bool)
  /-- Nothing for a number beyond the doubles. -/
  | number (n : Option Number)
  /-- Nothing for a text with half of a surrogate pair. -/
  | text (s : Option String)
  | array (items : List Tree) (closed : Bool)
  | object (members : List (Option String × Tree)) (closed : Bool)
  /-- A container inside as many others as may be kept. -/
  | tooDeep (closed : Bool)
  | broken

namespace Tree

/-- Whether the text goes on behind this tree, so that it may be passed over. -/
def intact : Tree → Bool
  | .array _ closed => closed
  | .object _ closed => closed
  | .tooDeep closed => closed
  | .broken => false
  | _ => true

mutual

/-- The value of a tree without marks. -/
def value? : Tree → Option Value
  | .null => some .null
  | .bool b => some (.bool b)
  | .number n => n.map .number
  | .text s => s.map .text
  | .array items true => (values? items).map .array
  | .object members true => (memberValues? members).map fun ms => .object (Entries.ofList ms)
  | _ => none

/-- The values of items without marks. -/
def values? : List Tree → Option (List Value)
  | [] => some []
  | item :: items =>
    match item.value?, values? items with
    | some v, some vs => some (v :: vs)
    | _, _ => none

/-- The values of members without marks. -/
def memberValues? : List (Option String × Tree) → Option (List (String × Value))
  | [] => some []
  | (name, t) :: members =>
    match name, t.value?, memberValues? members with
    | some name, some v, some ms => some ((name, v) :: ms)
    | _, _, _ => none

end

end Tree

mutual

/-- The tree of a value, which has no marks. -/
def Value.tree : Value → Tree
  | .null => .null
  | .bool b => .bool b
  | .number n => .number (some n)
  | .text s => .text (some s)
  | .array items => .array (itemTrees items) true
  | .object members => .object (memberTrees members) true

/-- The trees of items. -/
def itemTrees : List Value → List Tree
  | [] => []
  | item :: items => item.tree :: itemTrees items

/-- The trees of members. -/
def memberTrees : List (String × Value) → List (Option String × Tree)
  | [] => []
  | (name, v) :: members => (some name, v.tree) :: memberTrees members

end

end LoadTest.Json
