import ReversePolish.Proofs.Forests
import ReversePolish.Proofs.Reflattening

set_option autoImplicit false

namespace ReversePolish

open Text

namespace Vocabulary

open Scan Waiting

theorem flat_hole (v : Vocabulary) (avoids : v.Avoids ' ') (front back : List Char) :
    ∃ around : Except BracketError (List Char × List Char), ∀ part out, v.flatText part = .ok out →
      v.flatText (front ++ ' ' :: (part ++ ' ' :: back)) =
        around.map fun (before, after) => before ++ ' ' :: (out ++ ' ' :: after) := by
  have cut : ∀ rest, v.lex (front ++ ' ' :: rest) = v.lex front ++ .blank ' ' :: v.lex rest := by
    intro rest
    rw [lex_append v front (' ' :: rest) (apart_cons v ' ' rest avoids), lex_blank v ' ' rest rfl]
  cases ran : start.run (v.lex front) with
  | error e =>
      refine ⟨.error e, fun part out flat => ?_⟩
      rw [flat_complete, cut, run_append, ran]
      rfl
  | ok reached =>
      obtain ⟨written, s⟩ := reached
      have closed := held_of_outside s.waiting
      refine ⟨(complete (Scan.run ⟨outside s.waiting, false⟩ (v.lex back))).map
        fun after => (written ++ held s.waiting, after), fun part out flat => ?_⟩
      rw [flat_complete, cut, run_append, ran]
      simp only [run, step, run_part v _ part back out ' ' rfl avoids closed flat, resume_resume, complete_resume]
      cases complete (Scan.run ⟨outside s.waiting, false⟩ (v.lex back)) with
      | error e => rfl
      | ok after => simp [Except.map]

theorem flatten_hole (v : Vocabulary) (avoids : v.Avoids ' ') (front back : String) :
    ∃ around : Except BracketError (List String × List String), ∀ part p, v.flatten part = .ok p →
      v.flatten (front ++ " " ++ part ++ " " ++ back) =
        around.map fun (before, after) => ⟨before ++ p.tokens ++ after⟩ := by
  obtain ⟨around, filled⟩ := v.flat_hole avoids front.toList back.toList
  refine ⟨around.map fun (before, after) => ((fields before).map String.ofList, (fields after).map String.ofList),
    fun part p flat => ?_⟩
  obtain ⟨out, flatOut, rfl⟩ := (v.flatten_ok_iff part p).mp flat
  have letters : (front ++ " " ++ part ++ " " ++ back).toList =
      front.toList ++ ' ' :: (part.toList ++ ' ' :: back.toList) := by
    simp
  rw [flatten, letters, filled part.toList out flatOut]
  cases around with
  | error e => rfl
  | ok texts =>
      obtain ⟨before, after⟩ := texts
      have words : fields (before ++ ' ' :: (out ++ ' ' :: after)) = fields before ++ fields out ++ fields after := by
        rw [fields_append before _ rfl, fields_blank ' ' _ rfl, fields_append out _ rfl, fields_blank ' ' _ rfl,
          List.append_assoc]
      simp [Except.map, words]

theorem flatten_group (v : Vocabulary) (avoids : v.Avoids ')') (inner : String) (p : Postfix)
    (flat : v.flatten inner = .ok p) : v.flatten ("(" ++ inner ++ ")") = .ok p := by
  obtain ⟨out, flatOut, rfl⟩ := (v.flatten_ok_iff inner p).mp flat
  have whole := v.flat_group inner.toList [] out avoids flatOut
  refine (v.flatten_ok_iff _ _).mpr ⟨out, ?_, rfl⟩
  rw [String.toList_append, String.toList_append]
  exact whole.trans (congrArg Except.ok (List.append_nil out))

theorem flatten_word (v : Vocabulary) (word : String) (filled : word ≠ "") (unbroken : ∀ c ∈ word.toList, isBreak c = false)
    (flat : v.flatText word.toList = .ok word.toList) : v.flatten word = .ok ⟨[word]⟩ :=
  (v.flatten_ok_iff _ _).mpr ⟨word.toList, flat, by rw [fields_word word filled unbroken]⟩

end Vocabulary

theorem numeral_char_unbroken (c : Char) (numeral : Decimal.isNumeralChar c = true) : isBreak c = false := by
  have range := Decimal.numeral_char_range c numeral
  rw [← Bool.not_eq_true]
  intro broken
  rcases break_cases c broken with blank | rfl | rfl
  · simp [isBlank] at blank
    omega
  · cases numeral
  · cases numeral

namespace OperatorTable

theorem flatten_numeral (ops : OperatorTable) (apart : ops.SymbolsApart) (literal : String) (value : Float)
    (number : Decimal.float? literal = some value) : ops.vocabulary.flatten literal = .ok ⟨[literal]⟩ := by
  have chars := Decimal.numeral_chars literal value number
  have unbroken : ∀ c ∈ literal.toList, isBreak c = false := fun c member => numeral_char_unbroken c (chars c member)
  have filled : literal ≠ "" := by
    rintro rfl
    rw [Decimal.float_of_empty] at number
    cases number
  have ordinary : ∀ c ∈ literal.toList, c ∉ ops.vocabulary.symbols := by
    intro c member symbol
    have numeral := chars c member
    rw [apart.numerals c symbol] at numeral
    cases numeral
  exact ops.vocabulary.flatten_word literal filled unbroken (ops.vocabulary.flat_in_order _ unbroken ordinary)

theorem run_above (ops : OperatorTable) (tokens : List String) (last below : List Float)
    (ran : ops.run tokens [] = .ok last) : ops.run tokens below = .ok (last ++ below) := by
  obtain ⟨grown, same⟩ := run_grows tokens [] last ran
  have forest : grown.reverse.flatMap Tree.postorder = tokens := same
  have alone := forest_run grown.reverse []
  rw [forest, ran, List.append_nil] at alone
  rw [← forest, forest_run, Except.ok.inj alone]

end OperatorTable

namespace Calculator

theorem evaluate_exchange (c : Calculator) (avoids : c.operators.NamesAvoid ' ') (first second : String) (p q : Postfix)
    (flatFirst : c.flatten first = .ok p) (flatSecond : c.flatten second = .ok q)
    (alike : ∀ stack, c.operators.run p.tokens stack = c.operators.run q.tokens stack) (front back : String) :
    c.evaluate (front ++ " " ++ first ++ " " ++ back) = c.evaluate (front ++ " " ++ second ++ " " ++ back) := by
  obtain ⟨around, filled⟩ := c.operators.vocabulary.flatten_hole (c.operators.vocabulary_avoids ' ' avoids) front back
  have one := filled first p flatFirst
  have two := filled second q flatSecond
  cases around with
  | error e =>
      rw [(c.evaluate_brackets_iff _ e).mpr one, (c.evaluate_brackets_iff _ e).mpr two]
  | ok tokens =>
      obtain ⟨before, after⟩ := tokens
      rw [c.evaluate_of_flatten _ _ one, c.evaluate_of_flatten _ _ two]
      have same : c.operators.run (before ++ p.tokens ++ after) [] = c.operators.run (before ++ q.tokens ++ after) [] := by
        rw [List.append_assoc, List.append_assoc, OperatorTable.run_append, OperatorTable.run_append c.operators before]
        cases c.operators.run before [] with
        | error e => rfl
        | ok middle =>
            dsimp only
            rw [OperatorTable.run_append, OperatorTable.run_append, alike middle]
      rw [eval, eval, same]

theorem strict_value (expression : String) (value : Float) (valued : strict.evaluate expression = .ok value) :
    ∃ p, OperatorTable.standard.vocabulary.flatten expression = .ok p ∧ OperatorTable.standard.run p.tokens [] = .ok [value] := by
  cases flat : strict.flatten expression with
  | error e => simp [evaluate, flat] at valued
  | ok p =>
      refine ⟨p, flat, ?_⟩
      rw [strict.evaluate_of_flatten expression p flat] at valued
      cases ran : OperatorTable.standard.run p.tokens [] with
      | error e =>
          rw [strict.eval_of_failure p e ran] at valued
          cases valued
      | ok stack =>
          rw [strict.eval_of_run p stack ran] at valued
          rcases stack with _ | ⟨top, _ | ⟨x, below⟩⟩
          · cases valued
          · cases valued
            rfl
          · cases valued

end Calculator

-- A group may be written as a numeral of its value, in any text at all.
theorem evaluate_group_value (leftover : Leftover) (group literal front back : String) (value : Float)
    (valued : Calculator.strict.evaluate group = .ok value) (number : Decimal.float? literal = some value) :
    (Calculator.mk .standard leftover).evaluate (front ++ " (" ++ group ++ ") " ++ back) =
      (Calculator.mk .standard leftover).evaluate (front ++ " " ++ literal ++ " " ++ back) := by
  have apart := OperatorTable.standard_symbols_apart
  obtain ⟨p, flat, ran⟩ := Calculator.strict_value group value valued
  have grouped := OperatorTable.standard.vocabulary.flatten_group
    (OperatorTable.standard.vocabulary_avoids ')' (apart.breaks ')' rfl)) group p flat
  have alike : ∀ stack, OperatorTable.standard.run p.tokens stack = OperatorTable.standard.run [literal] stack := by
    intro stack
    rw [OperatorTable.standard.run_above p.tokens [value] stack ran]
    simp [OperatorTable.run, OperatorTable.step_number _ literal value _ (OperatorTable.role_number _ literal value number)]
  have text : front ++ " (" ++ group ++ ") " ++ back = front ++ " " ++ ("(" ++ group ++ ")") ++ " " ++ back :=
    String.toList_inj.mp (by simp)
  rw [text]
  exact (Calculator.mk .standard leftover).evaluate_exchange (apart.breaks ' ' rfl) _ literal p ⟨[literal]⟩ grouped
    (OperatorTable.standard.flatten_numeral apart literal value number) alike front back

theorem evaluate_group_value_open :
    Calculator.strict.evaluate "2 (3 4 +) *" = .ok 14 ∧ Decimal.float? "1.4e1" = some 14 ∧
      Calculator.lenient.evaluate "(^5(100 (2 (3 4 +) *) -)+" = Calculator.lenient.evaluate "(^5(100 1.4e1 -)+" := by
  have valued : Calculator.strict.evaluate "2 (3 4 +) *" = .ok 14 := by decide +kernel
  have number : Decimal.float? "1.4e1" = some 14 := by decide +kernel
  have grouped : "(^5(100" ++ " (" ++ "2 (3 4 +) *" ++ ") " ++ "-)+" = "(^5(100 (2 (3 4 +) *) -)+" := by decide +kernel
  have written : "(^5(100" ++ " " ++ "1.4e1" ++ " " ++ "-)+" = "(^5(100 1.4e1 -)+" := by decide +kernel
  have same := evaluate_group_value .discard "2 (3 4 +) *" "1.4e1" "(^5(100" "-)+" 14 valued number
  rw [grouped, written] at same
  exact ⟨valued, number, same⟩

end ReversePolish
