import ReversePolish.Calculator
import ReversePolish.Decimal.Written
import ReversePolish.Text.Blank

set_option autoImplicit false

namespace ReversePolish

structure Sample where
  expression : String
  expected : String
  deriving DecidableEq, Repr

inductive Command where
  | quit
  | samples
  | skip
  | evaluate (expression : String)
  deriving DecidableEq, Repr

def Command.ofLine (line : String) : Command :=
  let text := Text.trim line.toList
  if text = ['q'] ∨ text = ['Q'] then .quit
  else if text = ['r'] ∨ text = ['R'] then .samples
  else if text = [] then .skip
  else .evaluate (String.ofList text)

namespace Prompt

def firstSamples : List Sample :=
  [⟨"2 3 +", "5.0"⟩,
   ⟨"3 2 -", "1.0"⟩,
   ⟨"2 3 *", "6.0"⟩,
   ⟨"3 4 2 * 1 5 - 2 3 / +", "-3.33333"⟩,
   ⟨"3.141 2 3 + 1.571 sin *", "4.9999"⟩,
   ⟨"(3.141 (2 3 +) (1.571 sin) *)", "4.9999"⟩]

def moreSamples : List Sample :=
  [⟨"3.14159 cos", "-0.9999"⟩,
   ⟨"20 10 10 + - 5 *", "0.0"⟩,
   ⟨"10 5 /", "2.0"⟩,
   ⟨"1.57 cos 0.7854 tan *", "0.000796"⟩]

def showResult (x : Float) : String := Decimal.Style.result.write x

def showError (message : String) : String := "Eval error: " ++ message

def reportSample (c : Calculator) (s : Sample) : String :=
  "Input: " ++ s.expression ++ " | Expected result: " ++ s.expected ++ " | " ++
    (match c.evaluate s.expression with
      | .ok x => "Actual result: " ++ showResult x
      | .error e => showError e.message) ++ "\n"

def reportSamples (c : Calculator) (samples : List Sample) : String :=
  "\nRunning test cases...\n\n" ++ String.join (samples.map (reportSample c)) ++ "\n"

def greeting (c : Calculator) : String :=
  reportSamples c firstSamples ++ "'r' to run more testcases, 'q' to quit\n"

def answer (c : Calculator) : Command → String
  | .quit => ""
  | .skip => ""
  | .samples => reportSamples c moreSamples
  | .evaluate expression => match c.evaluate expression with
    | .ok x => "Result: " ++ showResult x ++ "\n"
    | .error e => showError e.message ++ "\n"

end Prompt

namespace Single

def answer (c : Calculator) (expression : String) : Except String String :=
  match c.flatten expression with
  | .error e => .error ("Parse error: " ++ e.message ++ "\n")
  | .ok p => match c.eval p with
    | .error e => .error (Prompt.showError e.message ++ "\n")
    | .ok x => .ok (p.text ++ " = " ++ Prompt.showResult x ++ "\n")

-- The exit code, and what is printed.
def report (c : Calculator) (expression : String) : UInt32 × String :=
  match answer c expression with
  | .ok text => (0, text)
  | .error text => (1, text)

end Single

end ReversePolish
