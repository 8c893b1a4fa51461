/-! Lists in running text. -/
namespace CartCriteria.Text

def commaListed : List (List Char) → List Char
  | [] => []
  | [last] => last
  | first :: next :: rest => first ++ ',' :: ' ' :: commaListed (next :: rest)

end CartCriteria.Text
