import LoadTest.Json.Value
import LoadTest.Number.Text

/-!
# Writing JSON

The two layouts differ in blanks alone: a compact text has none, and a spread text puts every
item and member on a line of its own, two spaces further in than its container. An empty container
is written without blanks in both.
-/

namespace LoadTest.Json

/-- The digit of a number below 16. -/
def hexDigit (n : Nat) : Char :=
  Nat.digitChar n

/-- Quotation marks, backslashes and control characters are escaped, and nothing else is. -/
def escapedChars (c : Char) : List Char :=
  if c = '"' then ['\\', '"']
  else if c = '\\' then ['\\', '\\']
  else if c = '\n' then ['\\', 'n']
  else if c = '\r' then ['\\', 'r']
  else if c = '\t' then ['\\', 't']
  else if c = '\x08' then ['\\', 'b']
  else if c = '\x0c' then ['\\', 'f']
  else if c.toNat < 0x20 then
    ['\\', 'u', '0', '0', hexDigit (c.toNat / 16), hexDigit (c.toNat % 16)]
  else [c]

/-- A text between quotation marks. -/
def quotedChars (s : String) : List Char :=
  '"' :: (s.toList.flatMap escapedChars ++ ['"'])

/-- The numeral of a number. Whole numbers have no point. -/
def Number.chars : Number → List Char
  | .natural n => Nat.toDigits 10 n.toNat
  | .negative below => '-' :: Nat.toDigits 10 (below.val + 1)
  | .real x => x.documentChars

/-- Where blanks stand. -/
structure Layout where
  /-- What starts a line that many containers deep. -/
  newline : Nat → List Char
  afterColon : List Char

namespace Layout

/-- No blanks at all. -/
def compact : Layout :=
  ⟨fun _ => [], []⟩

/-- Lines, each two spaces further in than its container. -/
def spread : Layout :=
  ⟨fun depth => '\n' :: List.replicate (2 * depth) ' ', [' ']⟩

end Layout

mutual

/-- What is written of a value inside that many containers. -/
def Value.chars (layout : Layout) (depth : Nat) : Value → List Char
  | .null => ['n', 'u', 'l', 'l']
  | .bool true => ['t', 'r', 'u', 'e']
  | .bool false => ['f', 'a', 'l', 's', 'e']
  | .number n => n.chars
  | .text s => quotedChars s
  | .array [] => ['[', ']']
  | .array (item :: items) =>
    '[' :: (layout.newline (depth + 1) ++ item.chars layout (depth + 1) ++
      itemsChars layout (depth + 1) items ++ layout.newline depth ++ [']'])
  | .object [] => ['{', '}']
  | .object ((name, value) :: members) =>
    '{' :: (layout.newline (depth + 1) ++ quotedChars name ++ ':' :: layout.afterColon ++
      value.chars layout (depth + 1) ++ membersChars layout (depth + 1) members ++
      layout.newline depth ++ ['}'])

/-- Every item with the comma before it. -/
def itemsChars (layout : Layout) (depth : Nat) : List Value → List Char
  | [] => []
  | item :: items =>
    ',' :: (layout.newline depth ++ item.chars layout depth ++ itemsChars layout depth items)

/-- Every member with the comma before it. -/
def membersChars (layout : Layout) (depth : Nat) : List (String × Value) → List Char
  | [] => []
  | (name, value) :: members =>
    ',' :: (layout.newline depth ++ quotedChars name ++ ':' :: layout.afterColon ++
      value.chars layout depth ++ membersChars layout depth members)

end

/-- The text of a value without blanks. -/
def Value.compact (v : Value) : String :=
  String.ofList (v.chars .compact 0)

/-- The text of a value over lines. -/
def Value.spread (v : Value) : String :=
  String.ofList (v.chars .spread 0)

end LoadTest.Json
