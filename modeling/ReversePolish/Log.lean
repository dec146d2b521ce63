import ReversePolish.Calculator
import ReversePolish.Decimal.Written
import ReversePolish.Text.Quoted

set_option autoImplicit false

namespace ReversePolish

inductive Level where
  | debug
  | trace
  | info
  deriving DecidableEq, Repr

-- Stacks are listed from the bottom to the top.
inductive Record where
  | flattened (expression : String) (result : Postfix)
  | operands (token : String) (stack : List Float)
  | discarded (stack : List Float) (result : Postfix)
  deriving DecidableEq, Repr

namespace Record

def level : Record → Level
  | .flattened .. => .debug
  | .operands .. => .trace
  | .discarded .. => .info

def showStack (stack : List Float) : String :=
  "[" ++ ", ".intercalate (stack.map Decimal.Style.logged.write) ++ "]"

def alignRight (token : String) : String :=
  String.ofList (List.replicate (8 - token.length) ' ') ++ token

def message : Record → String
  | .flattened expression result =>
      "flattened " ++ Text.quote expression ++ " into '" ++ result.text ++ "'"
  | .operands token stack => alignRight token ++ " -> " ++ showStack stack
  | .discarded stack result =>
      "discarding leftover operands " ++ showStack stack ++ " of '" ++ result.text ++ "'"

end Record

def OperatorTable.records (ops : OperatorTable) : List String → List Float → List Record
  | [], _ => []
  | token :: rest, stack => match ops.step token stack with
    | .error _ => []
    | .ok after => .operands token after.reverse :: ops.records rest after

namespace Calculator

def discarded (c : Calculator) (p : Postfix) : List Float → List Record
  | _ :: x :: below => match c.leftover with
    | .discard => [.discarded (x :: below).reverse p]
    | .reject => []
  | _ => []

def evalLog (c : Calculator) (p : Postfix) : List Record :=
  c.operators.records p.tokens [] ++ match c.operators.run p.tokens [] with
    | .error _ => []
    | .ok stack => c.discarded p stack

def log (c : Calculator) (expression : String) : List Record :=
  match c.flatten expression with
  | .error _ => []
  | .ok p => .flattened expression p :: c.evalLog p

end Calculator

end ReversePolish
