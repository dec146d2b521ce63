import ReversePolish.Prompt
import ReversePolish.Proofs.BracketErrors
import ReversePolish.Proofs.Trimming

set_option autoImplicit false

namespace ReversePolish

theorem Command.of_line_evaluate (line : String)
    (asked : Text.trim line.toList ∉ [[], ['q'], ['Q'], ['r'], ['R']]) :
    Command.ofLine line = .evaluate (String.ofList (Text.trim line.toList)) := by
  simp only [List.mem_cons, List.not_mem_nil, or_false, not_or] at asked
  obtain ⟨filled, quit, bigQuit, samples, bigSamples⟩ := asked
  simp [Command.ofLine, filled, quit, bigQuit, samples, bigSamples]

namespace Calculator

theorem evaluate_trimmed (c : Calculator) (avoids : ∀ d, Text.isBlank d = true → c.operators.NamesAvoid d)
    (expression : String) : c.evaluate (String.ofList (Text.trim expression.toList)) = c.evaluate expression := by
  have same := c.operators.vocabulary.flatten_trimmed
    (fun d blank => c.operators.vocabulary_avoids d (avoids d blank)) expression
  simp only [evaluate, flatten, same]

end Calculator

namespace Prompt

theorem answer_line (c : Calculator) (avoids : ∀ d, Text.isBlank d = true → c.operators.NamesAvoid d) (line : String)
    (asked : Text.trim line.toList ∉ [[], ['q'], ['Q'], ['r'], ['R']]) :
    answer c (Command.ofLine line) = match c.evaluate line with
      | .ok x => "Result: " ++ showResult x ++ "\n"
      | .error failure => "Eval error: " ++ failure.message ++ "\n" := by
  rw [Command.of_line_evaluate line asked, answer, c.evaluate_trimmed avoids line]
  cases c.evaluate line <;> simp [showError]

end Prompt

namespace Single

theorem report_cases (c : Calculator) (opening : c.operators.NamesAvoid '(') (closing : c.operators.NamesAvoid ')')
    (expression : String) :
    (∃ p x, c.flatten expression = .ok p ∧ c.evaluate expression = .ok x ∧
      report c expression = (0, p.text ++ " = " ++ Prompt.showResult x ++ "\n")) ∨
    ∃ failure, c.evaluate expression = .error failure ∧ report c expression =
      (1, (if Balanced expression.toList then "Eval error: " else "Parse error: ") ++ failure.message ++ "\n") := by
  have verdict := c.operators.vocabulary.flatten_verdict (c.operators.vocabulary_avoids '(' opening)
    (c.operators.vocabulary_avoids ')' closing) expression
  have balanced : (∃ p, c.flatten expression = .ok p) ↔ Balanced expression.toList := by
    rw [ok_iff_map, ← verdict_ok_iff, ← verdict]
    rfl
  cases flat : c.flatten expression with
  | error e =>
      have unbalanced : ¬ Balanced expression.toList := by
        rw [← balanced, flat]
        simp
      exact Or.inr ⟨.brackets e, by rw [Calculator.evaluate, flat], by simp [report, answer, flat, unbalanced, Failure.message]⟩
  | ok p =>
      have whole := balanced.mp ⟨p, flat⟩
      cases valued : c.eval p with
      | ok x =>
          exact Or.inl ⟨p, x, rfl, by rw [c.evaluate_of_flatten expression p flat, valued]; rfl, by simp [report, answer, flat, valued]⟩
      | error e =>
          exact Or.inr ⟨.evaluation e, by rw [c.evaluate_of_flatten expression p flat, valued]; rfl,
            by simp [report, answer, flat, valued, whole, Failure.message, Prompt.showError]⟩

end Single

theorem result_apart (value message : String) : "Result: " ++ value ++ "\n" ≠ "Eval error: " ++ message ++ "\n" := by
  intro same
  have letters := congrArg String.toList same
  simp at letters

theorem labelled_inj (label first second : String) (same : label ++ first ++ "\n" = label ++ second ++ "\n") : first = second := by
  rwa [String.append_left_inj, String.append_right_inj] at same

-- Without the prompt an expression has the value or the error that it has as a line of the prompt; only an
-- error of its brackets is announced in another way.
theorem single_as_prompted (leftover : Leftover) (expression : String)
    (asked : Text.trim expression.toList ∉ [[], ['q'], ['Q'], ['r'], ['R']]) :
    let c := Calculator.mk .standard leftover
    let prompted := Prompt.answer c (Command.ofLine expression)
    let announced := if Balanced expression.toList then "Eval error: " else "Parse error: "
    (∀ value, prompted = "Result: " ++ value ++ "\n" ↔
      ∃ p, c.flatten expression = .ok p ∧ Single.report c expression = (0, p.text ++ " = " ++ value ++ "\n")) ∧
    (∀ message, prompted = "Eval error: " ++ message ++ "\n" ↔
      Single.report c expression = (1, announced ++ message ++ "\n")) ∧
    ((∃ x, c.evaluate expression = .ok x ∧ prompted = "Result: " ++ Prompt.showResult x ++ "\n") ∨
      ∃ failure, c.evaluate expression = .error failure ∧ prompted = "Eval error: " ++ failure.message ++ "\n") := by
  intro c prompted announced
  have breaks : ∀ d, Text.isBreak d = true → c.operators.NamesAvoid d := OperatorTable.standard_names_avoid
  have line := Prompt.answer_line c (fun d blank => breaks d (Text.break_of_blank d blank)) expression asked
  change prompted = _ at line
  rcases Single.report_cases c (breaks '(' rfl) (breaks ')' rfl) expression with ⟨p, x, flat, valued, reported⟩ |
    ⟨failure, failed, reported⟩
  · rw [valued] at line
    dsimp only at line
    rw [line, reported]
    refine ⟨fun value => ?_, fun message => ?_, Or.inl ⟨x, valued, rfl⟩⟩
    · constructor
      · intro same
        exact ⟨p, flat, by rw [labelled_inj _ _ _ same]⟩
      · rintro ⟨q, again, same⟩
        rw [flat] at again
        cases again
        rw [labelled_inj _ _ _ (Prod.mk.inj same).2]
    · exact iff_of_false (result_apart _ _) fun same => absurd (Prod.mk.inj same).1 (by decide)
  · rw [failed] at line
    dsimp only at line
    rw [line, reported]
    refine ⟨fun value => ?_, fun message => ?_, Or.inr ⟨failure, failed, rfl⟩⟩
    · refine iff_of_false (result_apart _ _).symm ?_
      rintro ⟨p, _, same⟩
      exact absurd (Prod.mk.inj same).1 (by decide)
    · constructor
      · intro same
        rw [labelled_inj _ _ _ same]
      · intro same
        rw [labelled_inj _ _ _ (Prod.mk.inj same).2]

theorem single_as_prompted_blanks :
    Prompt.answer .strict (Command.ofLine "\u3000(2 3 +)\t") = "Result: 5\n" ∧
      (∃ p, Calculator.strict.flatten "\u3000(2 3 +)\t" = .ok p ∧
        Single.report .strict "\u3000(2 3 +)\t" = (0, p.text ++ " = " ++ "5" ++ "\n")) ∧
      Prompt.answer .strict (Command.ofLine " (16^ 2\n") = "Eval error: missing closing paren\n" ∧
      Single.report .strict " (16^ 2\n" = (1, "Parse error: missing closing paren\n") := by
  have valued := (single_as_prompted .reject "\u3000(2 3 +)\t" (by decide +kernel)).1 "5"
  have failed := (single_as_prompted .reject " (16^ 2\n" (by decide +kernel)).2.1 "missing closing paren"
  have result : Prompt.answer .strict (Command.ofLine "\u3000(2 3 +)\t") = "Result: " ++ "5" ++ "\n" := by decide +kernel
  have refused : Prompt.answer .strict (Command.ofLine " (16^ 2\n") = "Eval error: " ++ "missing closing paren" ++ "\n" := by
    decide +kernel
  have unbalanced : ¬ Balanced " (16^ 2\n".toList := by decide +kernel
  rw [if_neg unbalanced] at failed
  exact ⟨result, valued.mp result, refused, failed.mp refused⟩

end ReversePolish
