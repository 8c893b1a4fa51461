/-! The splitting of text at a character. -/
namespace CartCriteria.Text

/-- The parts of a text between the occurrences of a separator: one more than there are of them. -/
def splitChars (separator : Char) : List Char → List (List Char)
  | [] => [[]]
  | c :: rest =>
    if c = separator then [] :: splitChars separator rest
    else
      match splitChars separator rest with
      | [] => [[c]]
      | part :: parts => (c :: part) :: parts

def split (separator : Char) (s : String) : List String :=
  (splitChars separator s.toList).map String.ofList

end CartCriteria.Text
