import ReversePolish.Decimal.Numeral
import ReversePolish.OperatorTable
import ReversePolish.Postfix

set_option autoImplicit false

namespace ReversePolish

inductive Role where
  | number (value : Float)
  | unary (function : Float → Float)
  | binary (function : Float → Float → Float)
  | unknown

-- A numeral is a number even where its text is a registered name.
def OperatorTable.role (ops : OperatorTable) (token : String) : Role :=
  match Decimal.float? token with
  | some value => .number value
  | none => match ops.lookup token with
    | some (.unary function) => .unary function
    | some (.binary function) => .binary function
    | none => .unknown

theorem OperatorTable.role_number (ops : OperatorTable) (token : String) (value : Float)
    (number : Decimal.float? token = some value) : ops.role token = .number value := by
  unfold role
  rw [number]

inductive EvalError where
  | unknownToken (token : String)
  | missingOperand (token : String)
  -- After the last token the stack was empty.
  | noResult
  | leftoverOperands (count : Nat)
  deriving DecidableEq, Repr

def EvalError.message : EvalError → String
  | .unknownToken token => "invalid token: " ++ token
  | .missingOperand token => "not enough operands for '" ++ token ++ "'"
  | .noResult => "not enough operands for 'result'"
  | .leftoverOperands count => toString count ++ " operands left over on the stack"

namespace OperatorTable

-- One token on a stack whose top is its head. The right operand is above the left one.
def step (ops : OperatorTable) (token : String) (stack : List Float) : Except EvalError (List Float) :=
  match ops.role token with
  | .number value => .ok (value :: stack)
  | .unary function => match stack with
    | x :: below => .ok (function x :: below)
    | [] => .error (.missingOperand token)
  | .binary function => match stack with
    | right :: left :: below => .ok (function left right :: below)
    | _ => .error (.missingOperand token)
  | .unknown => .error (.unknownToken token)

theorem step_number (ops : OperatorTable) (token : String) (value : Float) (stack : List Float)
    (number : ops.role token = .number value) : ops.step token stack = .ok (value :: stack) := by
  unfold step
  rw [number]

theorem step_unary (ops : OperatorTable) (token : String) (function : Float → Float) (x : Float) (below : List Float)
    (known : ops.role token = .unary function) : ops.step token (x :: below) = .ok (function x :: below) := by
  unfold step
  rw [known]

theorem step_binary (ops : OperatorTable) (token : String) (function : Float → Float → Float) (left right : Float)
    (below : List Float) (known : ops.role token = .binary function) :
    ops.step token (right :: left :: below) = .ok (function left right :: below) := by
  unfold step
  rw [known]

theorem step_unknown (ops : OperatorTable) (token : String) (stack : List Float) (unknown : ops.role token = .unknown) :
    ops.step token stack = .error (.unknownToken token) := by
  unfold step
  rw [unknown]

def run (ops : OperatorTable) : List String → List Float → Except EvalError (List Float)
  | [], stack => .ok stack
  | token :: rest, stack => match ops.step token stack with
    | .error e => .error e
    | .ok after => ops.run rest after

theorem run_append (ops : OperatorTable) (first second : List String) (stack : List Float) :
    ops.run (first ++ second) stack = match ops.run first stack with
      | .error e => .error e
      | .ok middle => ops.run second middle := by
  induction first generalizing stack with
  | nil => rfl
  | cons token rest ih =>
      cases stepped : ops.step token stack with
      | error e => simp only [List.cons_append, run, stepped]
      | ok after => simpa only [List.cons_append, run, stepped] using ih after

end OperatorTable

end ReversePolish
