import ReversePolish.Text.Spelling

set_option autoImplicit false

namespace ReversePolish

structure Vocabulary where
  -- Unary names of more than one character, in the order in which they are tried.
  names : List String
  symbols : List Char
  deriving DecidableEq, Repr

def Vocabulary.name? (v : Vocabulary) (text : List Char) : Option String :=
  Text.firstSpelled v.names text

end ReversePolish
