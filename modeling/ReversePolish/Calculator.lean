import ReversePolish.Brackets
import ReversePolish.Evaluation

set_option autoImplicit false

namespace ReversePolish

inductive Leftover where
  | discard
  | reject
  deriving DecidableEq, Repr

inductive Failure where
  | brackets (error : BracketError)
  | evaluation (error : EvalError)
  deriving DecidableEq, Repr

def Failure.message : Failure → String
  | .brackets error => error.message
  | .evaluation error => error.message

structure Calculator where
  operators : OperatorTable
  leftover : Leftover

namespace Calculator

def lenient : Calculator := ⟨.standard, .discard⟩

def strict : Calculator := ⟨.standard, .reject⟩

def flatten (c : Calculator) (expression : String) : Except BracketError Postfix :=
  c.operators.vocabulary.flatten expression

def settle (c : Calculator) : List Float → Except EvalError Float
  | [] => .error .noResult
  | [result] => .ok result
  | top :: left => match c.leftover with
    | .discard => .ok top
    | .reject => .error (.leftoverOperands (left.length + 1))

def eval (c : Calculator) (p : Postfix) : Except EvalError Float :=
  match c.operators.run p.tokens [] with
  | .error e => .error e
  | .ok stack => c.settle stack

def evaluate (c : Calculator) (expression : String) : Except Failure Float :=
  match c.flatten expression with
  | .error e => .error (.brackets e)
  | .ok p => (c.eval p).mapError .evaluation

end Calculator

end ReversePolish
