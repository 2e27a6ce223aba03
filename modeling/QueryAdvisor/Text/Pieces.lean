/-!
# Pieces of a text

A text with separators falls into one piece more than it has separators;
pieces may be empty.
-/

namespace QueryAdvisor.Text

/-- The pieces of a text between separators. -/
def pieces (separator : Char) : List Char → List (List Char)
  | [] => [[]]
  | c :: rest =>
      match pieces separator rest with
      | [] => [[c]]
      | piece :: more => if c = separator then [] :: piece :: more else (c :: piece) :: more

end QueryAdvisor.Text
