set_option autoImplicit false

namespace ReversePolish

inductive Operator where
  | unary (function : Float → Float)
  | binary (function : Float → Float → Float)

def Operator.arity : Operator → Nat
  | .unary _ => 1
  | .binary _ => 2

def Operator.call? : Operator → List Float → Option Float
  | .unary function, [x] => some (function x)
  | .binary function, [left, right] => some (function left right)
  | _, _ => none

end ReversePolish
