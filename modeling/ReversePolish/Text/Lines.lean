set_option autoImplicit false

namespace ReversePolish.Text

def extendLine (c : Char) : List (List Char) → List (List Char)
  | [] => [[c]]
  | line :: more => (c :: line) :: more

-- A line ends at a newline; one carriage return before it is no part of the line. The last line
-- may end with the text.
def lines : List Char → List (List Char)
  | [] => []
  | '\r' :: '\n' :: rest => [] :: lines rest
  | '\n' :: rest => [] :: lines rest
  | c :: rest => extendLine c (lines rest)

def linesOf (text : String) : List String := (lines text.toList).map String.ofList

end ReversePolish.Text
