/-!
# Texts in scripts

A text stands between single quotation marks, with a backslash before marks and backslashes and
in place of line ends.
-/

namespace LoadTest.Script

/-- What stands for a character between quotation marks. -/
def escapedChars (c : Char) : List Char :=
  if c = '\\' then ['\\', '\\']
  else if c = '\'' then ['\\', '\'']
  else if c = '\n' then ['\\', 'n']
  else if c = '\r' then ['\\', 'r']
  else [c]

/-- The literal of a text. -/
def literal (s : String) : List Char :=
  '\'' :: (s.toList.flatMap escapedChars ++ ['\''])

end LoadTest.Script
