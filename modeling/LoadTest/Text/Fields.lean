/-!
# Fields

A text is cut at every separator, so that a text with none is one field.
-/

namespace LoadTest

/-- What stands before, between and behind the separators. -/
def fields (separator : Char) : List Char → List (List Char)
  | [] => [[]]
  | c :: rest =>
    if c = separator then [] :: fields separator rest
    else match fields separator rest with
      | field :: more => (c :: field) :: more
      | [] => [[c]]

end LoadTest
