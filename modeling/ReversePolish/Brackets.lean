import ReversePolish.Lexeme
import ReversePolish.Postfix

set_option autoImplicit false

namespace ReversePolish

inductive BracketError where
  | missingOpening
  | missingClosing
  deriving DecidableEq, Repr

def BracketError.message : BracketError → String
  | .missingOpening => "missing opening paren"
  | .missingClosing => "missing closing paren"

inductive Waiting where
  | bracket
  | char (c : Char)
  deriving DecidableEq, Repr

namespace Waiting

def held : List Waiting → List Char
  | .char c :: rest => c :: held rest
  | _ => []

def outside : List Waiting → List Waiting
  | .char _ :: rest => outside rest
  | stack => stack

def finish : List Waiting → Except BracketError (List Char)
  | [] => .ok []
  | .char c :: rest => (finish rest).map (c :: ·)
  | .bracket :: _ => .error .missingClosing

end Waiting

-- The state between two lexemes. After a symbol the scan is gluing: the next plain character is
-- written at once and sticks to the symbol.
structure Scan where
  waiting : List Waiting
  gluing : Bool
  deriving DecidableEq, Repr

namespace Scan

def start : Scan := ⟨[], false⟩

def step (s : Scan) : Lexeme → Except BracketError (List Char × Scan)
  | .blank _ => .ok (Waiting.held s.waiting ++ [' '], ⟨Waiting.outside s.waiting, false⟩)
  | .opening => .ok ([], ⟨.bracket :: s.waiting, false⟩)
  | .closing => match Waiting.outside s.waiting with
    | .bracket :: outer => .ok (Waiting.held s.waiting, ⟨outer, false⟩)
    | _ => .error .missingOpening
  | .name word => .ok (Waiting.held s.waiting ++ word.toList, ⟨Waiting.outside s.waiting, false⟩)
  | .symbol c => .ok ([c], ⟨s.waiting, true⟩)
  | .plain c =>
      if s.gluing then .ok ([c], ⟨s.waiting, false⟩)
      else .ok (Waiting.held s.waiting, ⟨.char c :: Waiting.outside s.waiting, false⟩)

def resume (written : List Char) :
    Except BracketError (List Char × Scan) → Except BracketError (List Char × Scan)
  | .error e => .error e
  | .ok (more, last) => .ok (written ++ more, last)

def run (s : Scan) : List Lexeme → Except BracketError (List Char × Scan)
  | [] => .ok ([], s)
  | lexeme :: rest => match s.step lexeme with
    | .error e => .error e
    | .ok (written, after) => resume written (run after rest)

end Scan

namespace Vocabulary

def flatText (v : Vocabulary) (text : List Char) : Except BracketError (List Char) :=
  match Scan.start.run (v.lex text) with
  | .error e => .error e
  | .ok (written, last) => (Waiting.finish last.waiting).map (written ++ ·)

def flatten (v : Vocabulary) (expression : String) : Except BracketError Postfix :=
  (v.flatText expression.toList).map fun text => ⟨(Text.fields text).map String.ofList⟩

end Vocabulary

namespace Waiting

theorem held_outside (stack : List Waiting) : (held stack).map .char ++ outside stack = stack := by
  induction stack with
  | nil => rfl
  | cons top rest ih =>
      cases top with
      | bracket => rfl
      | char c => exact congrArg (.char c :: ·) ih

end Waiting

namespace Scan

theorem resume_nil (result : Except BracketError (List Char × Scan)) : resume [] result = result := by
  cases result <;> rfl

theorem resume_resume (first second : List Char) (result : Except BracketError (List Char × Scan)) :
    resume first (resume second result) = resume (first ++ second) result := by
  cases result with
  | error e => rfl
  | ok reached => simp [resume]

theorem run_append (s : Scan) (first second : List Lexeme) :
    s.run (first ++ second) = match s.run first with
      | .error e => .error e
      | .ok (written, middle) => resume written (middle.run second) := by
  induction first generalizing s with
  | nil => exact (resume_nil _).symm
  | cons lexeme rest ih =>
      cases stepped : s.step lexeme with
      | error e => simp [run, stepped]
      | ok result =>
          obtain ⟨written, after⟩ := result
          simp only [List.cons_append, run, stepped, ih after]
          cases after.run rest with
          | error e => rfl
          | ok reached => exact resume_resume written reached.1 _

end Scan

end ReversePolish
