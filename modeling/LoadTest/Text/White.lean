import LoadTest.Text.Ranges

/-!
# White space

The characters with the property White_Space, and texts without them at either end.
-/

namespace LoadTest

def whiteRanges : CharRanges :=
  [(0x9, 0xd), (0x20, 0x20), (0x85, 0x85), (0xa0, 0xa0), (0x1680, 0x1680), (0x2000, 0x200a),
   (0x2028, 0x2029), (0x202f, 0x202f), (0x205f, 0x205f), (0x3000, 0x3000)]

def isWhite (c : Char) : Bool :=
  whiteRanges.contains c

/-- A text without the white space at its ends. -/
def trimChars (cs : List Char) : List Char :=
  ((cs.dropWhile isWhite).reverse.dropWhile isWhite).reverse

/-- A text without the white space at its ends. -/
def trimmed (s : String) : String :=
  String.ofList (trimChars s.toList)

/-- Whether there is nothing but white space. -/
def isWhiteText (s : String) : Bool :=
  s.toList.all isWhite

end LoadTest
