set_option autoImplicit false

namespace ReversePolish

structure Postfix where
  tokens : List String
  deriving DecidableEq, Repr

namespace Postfix

def length (p : Postfix) : Nat := p.tokens.length

def isEmpty (p : Postfix) : Bool := p.tokens.isEmpty

def text (p : Postfix) : String := " ".intercalate p.tokens

end Postfix

end ReversePolish
