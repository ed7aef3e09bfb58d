/-!
# Lines

A line ends with a line feed, or with a carriage return and a line feed. The last line may do
without; a text that ends with a line feed has no empty line behind it.
-/

namespace LoadTest

/-- A line that is turned round, without the carriage return before its line feed. -/
def endedLine : List Char → List Char
  | '\r' :: line => line.reverse
  | line => line.reverse

/-- The lines of a text, where `line` is the start of the first one, turned round. -/
def linesFrom (line : List Char) : List Char → List (List Char)
  | [] => if line.isEmpty then [] else [line.reverse]
  | c :: rest =>
    if c = '\n' then endedLine line :: linesFrom [] rest else linesFrom (c :: line) rest

/-- The lines of a text, without their ends. -/
def lines (cs : List Char) : List (List Char) :=
  linesFrom [] cs

/-- Moves every line but the first to the right by `margin`. -/
def indentRest (margin cs : List Char) : List Char :=
  match lines cs with
  | [] => []
  | first :: rest => first ++ rest.flatMap fun line => '\n' :: (margin ++ line)

end LoadTest
