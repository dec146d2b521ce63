import ReversePolish.History
import ReversePolish.LineEditor
import ReversePolish.Prompt

set_option autoImplicit false

namespace ReversePolish

inductive Stage where
  | reading
  | left
  | failed (problem : String)
  deriving DecidableEq, Repr

structure Session where
  history : History
  stage : Stage

namespace Session

def start (h : History) : Session := ⟨h, .reading⟩

-- What is printed, and the session afterwards. A line is remembered, whatever it asks for.
def enter (c : Calculator) (s : Session) : Reading → String × Session
  | .ended => ("", ⟨s.history, .left⟩)
  | .failed problem => ("", ⟨s.history, .failed problem⟩)
  | .line text =>
      let command := Command.ofLine text
      (Prompt.answer c command, ⟨s.history.add text, if command = .quit then .left else .reading⟩)

def run (c : Calculator) (s : Session) : List Reading → String × Session
  | [] => ("", s)
  | reading :: rest => match s.stage with
    | .reading =>
        let (printed, after) := s.enter c reading
        let (more, last) := after.run c rest
        (printed ++ more, last)
    | _ => ("", s)

-- A session over a whole input: once that is used up, an attempt to read finds its end.
def whole (editor : LineEditor) (c : Calculator) (h : History) (input : String) : String × Session :=
  (start h).run c (editor.readings input ++ [.ended])

-- Nothing is kept of a session that failed.
def kept? (s : Session) : Option String :=
  if s.history.changed && s.stage = .left then some s.history.save else none

def problem? (s : Session) : Option String :=
  match s.stage with
  | .failed problem => some ("Readline err: " ++ problem)
  | _ => none

end Session

namespace Prompt

def transcript (editor : LineEditor) (c : Calculator) (h : History) (input : String) : String :=
  greeting c ++ (Session.whole editor c h input).1

def loaded (editor : LineEditor) (saved : Option String) : History := saved.elim .empty (History.load editor.recover)

def keep (editor : LineEditor) (c : Calculator) (saved : Option String) (input : String) : Option String :=
  (Session.whole editor c (loaded editor saved) input).2.kept?

-- What the file of the history holds afterwards; `none` is no file.
def fileAfter (editor : LineEditor) (c : Calculator) (saved : Option String) (input : String) : Option String :=
  (keep editor c saved input).or saved

end Prompt

end ReversePolish
