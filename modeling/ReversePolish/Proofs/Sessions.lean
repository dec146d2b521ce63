import ReversePolish.Proofs.Lines
import ReversePolish.Session

set_option autoImplicit false

namespace ReversePolish

namespace Prompt

def Quits (line : String) : Prop := Text.trim line.toList = ['q'] ∨ Text.trim line.toList = ['Q']

instance (line : String) : Decidable (Quits line) :=
  inferInstanceAs (Decidable (_ ∨ _))

theorem of_line_quit_iff (line : String) : Command.ofLine line = .quit ↔ Quits line := by
  by_cases quits : Quits line
  · exact iff_of_true (if_pos quits) quits
  · refine iff_of_false (fun same => ?_) quits
    rw [Quits] at quits
    rw [Command.ofLine, if_neg quits] at same
    split at same
    · cases same
    · split at same <;> cases same

-- The lines that a session comes to: all up to the first that quits, and that one too.
def entered : List String → List String
  | [] => []
  | line :: rest => if Quits line then [line] else line :: entered rest

def answers (c : Calculator) (lines : List String) : String :=
  String.join (lines.map fun line => answer c (Command.ofLine line))

theorem entered_append (first second : List String) (goes : ∀ line ∈ first, ¬ Quits line) :
    entered (first ++ second) = first ++ entered second := by
  induction first with
  | nil => rfl
  | cons line rest ih =>
      have here := goes line List.mem_cons_self
      rw [List.cons_append, entered, if_neg here, ih fun other member => goes other (List.mem_cons_of_mem line member),
        List.cons_append]

theorem entered_all (lines : List String) (goes : ∀ line ∈ lines, ¬ Quits line) : entered lines = lines := by
  simpa [entered] using entered_append lines [] goes

theorem entered_quit (before after : List String) (line : String) (goes : ∀ other ∈ before, ¬ Quits other)
    (quits : Quits line) : entered (before ++ line :: after) = before ++ [line] := by
  rw [entered_append before _ goes, entered, if_pos quits]

theorem answers_append (c : Calculator) (first second : List String) :
    answers c (first ++ second) = answers c first ++ answers c second := by
  simp [answers]

theorem answer_quit (c : Calculator) (line : String) (quits : Quits line) : answer c (Command.ofLine line) = "" := by
  rw [(of_line_quit_iff line).mpr quits]
  rfl

end Prompt

namespace Session

open Prompt

theorem run_stopped (c : Calculator) (s : Session) (readings : List Reading) (stopped : s.stage ≠ .reading) :
    s.run c readings = ("", s) := by
  cases readings with
  | nil => rfl
  | cons reading rest =>
      obtain ⟨history, stage⟩ := s
      cases stage with
      | reading => exact absurd rfl stopped
      | left => rfl
      | failed problem => rfl

theorem enter_quit (c : Calculator) (h : History) (line : String) (quits : Quits line) :
    (start h).enter c (.line line) = ("", ⟨h.add line, .left⟩) := by
  rw [enter, answer_quit c line quits, if_pos ((of_line_quit_iff line).mpr quits)]
  rfl

theorem enter_other (c : Calculator) (h : History) (line : String) (goes : ¬ Quits line) :
    (start h).enter c (.line line) = (answer c (Command.ofLine line), start (h.add line)) := by
  rw [enter, if_neg fun quit => goes ((of_line_quit_iff line).mp quit)]
  rfl

theorem run_start (c : Calculator) (h : History) (reading : Reading) (rest : List Reading) :
    (start h).run c (reading :: rest) = (((start h).enter c reading).1 ++ (((start h).enter c reading).2.run c rest).1,
      (((start h).enter c reading).2.run c rest).2) := rfl

theorem run_lines (c : Calculator) (h : History) (lines : List String) (goes : ∀ line ∈ lines, ¬ Quits line) :
    (start h).run c (lines.map .line) = (answers c lines, start (h.addAll lines)) := by
  induction lines generalizing h with
  | nil => rfl
  | cons line rest ih =>
      have here := enter_other c h line (goes line List.mem_cons_self)
      have later := ih (h.add line) fun other member => goes other (List.mem_cons_of_mem line member)
      rw [List.map_cons, run_start, here, later]
      simp [answers, History.addAll]

theorem run_to_end (c : Calculator) (h : History) (lines : List String) :
    (start h).run c (lines.map .line ++ [.ended]) = (answers c (entered lines), ⟨h.addAll (entered lines), .left⟩) := by
  induction lines generalizing h with
  | nil => rfl
  | cons line rest ih =>
      rw [List.map_cons, List.cons_append, run_start]
      by_cases quits : Quits line
      · rw [enter_quit c h line quits, run_stopped c _ _ Stage.noConfusion, entered, if_pos quits]
        simp [answers, answer_quit c line quits, History.addAll]
      · rw [enter_other c h line quits, ih, entered, if_neg quits]
        simp [answers, History.addAll]

theorem whole_by_lines (editor : LineEditor) (c : Calculator) (h : History) (input : String) (lines : editor.ByLines input) :
    whole editor c h input =
      (answers c (entered (Text.linesOf input)), ⟨h.addAll (entered (Text.linesOf input)), .left⟩) := by
  rw [whole, lines, run_to_end]

end Session

-- What is printed for a text is printed line by line: whole lines before it, none of which quits, change
-- nothing in it, and neither does the history. A line that quits is the last to be remembered.
theorem transcript_by_lines (editor : LineEditor) (c : Calculator) (first second : String) (byFirst : editor.ByLines first)
    (bySecond : editor.ByLines second) (byBoth : editor.ByLines (first ++ second))
    (newline : first.toList.getLast? = some '\n') (goes : ∀ line ∈ Text.linesOf first, ¬ Prompt.Quits line) :
    (∃ answered, (∀ h, Prompt.transcript editor c h second = Prompt.greeting c ++ answered) ∧
      ∀ g h, Prompt.transcript editor c g (first ++ second) = Prompt.transcript editor c h first ++ answered) ∧
    (∀ h, Prompt.transcript editor c h first = Prompt.greeting c ++
      String.join ((Text.linesOf first).map fun line => Prompt.answer c (Command.ofLine line))) ∧
    (∀ h, (Session.start h).run c (editor.readings first) = (Prompt.answers c (Text.linesOf first),
      ⟨h.addAll (Text.linesOf first), .reading⟩)) ∧
    ∀ h before line after, Text.linesOf second = before ++ line :: after → (∀ other ∈ before, ¬ Prompt.Quits other) →
      Prompt.Quits line → Session.whole editor c h (first ++ second) = (Prompt.answers c (Text.linesOf first ++ before),
        ⟨h.addAll (Text.linesOf first ++ before ++ [line]), .left⟩) := by
  have lines := Text.lines_of_append first second (Text.ended_of_newline _ newline)
  have alone : ∀ h, Prompt.transcript editor c h first = Prompt.greeting c ++ Prompt.answers c (Text.linesOf first) := by
    intro h
    rw [Prompt.transcript, Session.whole_by_lines editor c h first byFirst, Prompt.entered_all _ goes]
  refine ⟨⟨Prompt.answers c (Prompt.entered (Text.linesOf second)), fun h => ?_, fun g h => ?_⟩, alone, fun h => ?_,
    fun h before line after split others quits => ?_⟩
  · rw [Prompt.transcript, Session.whole_by_lines editor c h second bySecond]
  · rw [Prompt.transcript, Session.whole_by_lines editor c g _ byBoth, lines, Prompt.entered_append _ _ goes,
      Prompt.answers_append, alone, String.append_assoc]
  · rw [byFirst]
    exact Session.run_lines c h _ goes
  · have calm : ∀ other ∈ Text.linesOf first ++ before, ¬ Prompt.Quits other := by
      intro other member
      exact (List.mem_append.mp member).elim (goes other) (others other)
    have silent : Prompt.answers c [line] = "" := by simp [Prompt.answers, Prompt.answer_quit c line quits]
    rw [Session.whole_by_lines editor c h _ byBoth, lines, split, ← List.append_assoc,
      Prompt.entered_quit _ after line calm quits, Prompt.answers_append, silent, String.append_empty]

theorem transcript_by_lines_malformed :
    Prompt.transcript .plain .strict .empty ("foo )\n((\r\n" ++ "1\n Q \n3\n") = Prompt.greeting .strict ++
        "Eval error: missing opening paren\nEval error: missing closing paren\nResult: 1\n" ∧
      (Session.whole .plain .strict .empty ("foo )\n((\r\n" ++ "1\n Q \n3\n")).2.history.entries =
        [" Q ", "1", "((", "foo )"] := by
  have newline : "foo )\n((\r\n".toList.getLast? = some '\n' := by decide +kernel
  have goes : ∀ line ∈ Text.linesOf "foo )\n((\r\n", ¬ Prompt.Quits line := by decide +kernel
  obtain ⟨_, _, _, quitting⟩ := transcript_by_lines .plain .strict _ "1\n Q \n3\n" (LineEditor.plain_by_lines _)
    (LineEditor.plain_by_lines _) (LineEditor.plain_by_lines _) newline goes
  have whole := quitting .empty ["1"] " Q " ["3"] (by decide +kernel) (by decide +kernel) (by decide +kernel)
  have printed : Prompt.answers .strict (Text.linesOf "foo )\n((\r\n" ++ ["1"]) =
      "Eval error: missing opening paren\nEval error: missing closing paren\nResult: 1\n" := by decide +kernel
  constructor
  · rw [Prompt.transcript, whole, printed]
  · rw [whole]
    decide +kernel

end ReversePolish
