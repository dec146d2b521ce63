import Mathlib.Data.List.Infix
import ReversePolish.Calculator
import ReversePolish.Proofs.Insertions

set_option autoImplicit false

namespace ReversePolish

namespace Vocabulary

theorem lexeme_congr (v other : Vocabulary) (c : Char) (rest : List Char)
    (names : v.name? (c :: rest) = other.name? (c :: rest)) (symbols : c ∈ v.symbols ↔ c ∈ other.symbols) :
    v.lexemeAt c rest = other.lexemeAt c rest := by
  simp only [lexemeAt, names, symbols]

-- The induction is over the characters, skipped ones included, so every place that is read is a suffix.
theorem lex_from_congr (v other : Vocabulary) (skip : Nat) (text : List Char)
    (names : ∀ part, part <:+ text → v.name? part = other.name? part)
    (symbols : ∀ c ∈ text, (c ∈ v.symbols ↔ c ∈ other.symbols)) : v.lexFrom skip text = other.lexFrom skip text := by
  induction text generalizing skip with
  | nil => cases skip <;> rfl
  | cons c rest ih =>
      have later : ∀ skip, v.lexFrom skip rest = other.lexFrom skip rest := fun skip =>
        ih skip (fun part within => names part (within.trans (List.suffix_cons c rest)))
          fun d member => symbols d (List.mem_cons_of_mem c member)
      cases skip with
      | succ skip => exact later skip
      | zero =>
          have here := lexeme_congr v other c rest (names _ List.suffix_rfl) (symbols c List.mem_cons_self)
          rw [lexFrom, lexFrom, here, later]

theorem flatten_congr (v other : Vocabulary) (expression : String)
    (names : ∀ part, part <:+ expression.toList → v.name? part = other.name? part)
    (symbols : ∀ c ∈ expression.toList, (c ∈ v.symbols ↔ c ∈ other.symbols)) :
    v.flatten expression = other.flatten expression := by
  have lexemes : v.lex expression.toList = other.lex expression.toList := lex_from_congr v other 0 _ names symbols
  rw [flatten, flatten, flatText, flatText, lexemes]

end Vocabulary

namespace OperatorTable

def SameUnaryIn (ops other : OperatorTable) (text : List Char) : Prop :=
  ∀ name : String, name.toList <:+: text → (ops.isUnary name = true ↔ other.isUnary name = true)

theorem spelled_congr (ops other : OperatorTable) (text part : List Char) (same : ops.SameUnaryIn other text)
    (within : part <:+ text) (name : String) : ops.Spelled part name ↔ other.Spelled part name := by
  have unary : name.toList <+: part → (ops.isUnary name = true ↔ other.isUnary name = true) :=
    fun begins => same name (begins.isInfix.trans within.isInfix)
  constructor
  · rintro ⟨known, several, begins⟩
    exact ⟨(unary begins).mp known, several, begins⟩
  · rintro ⟨known, several, begins⟩
    exact ⟨(unary begins).mpr known, several, begins⟩

theorem name_congr (ops other : OperatorTable) (text part : List Char) (same : ops.SameUnaryIn other text)
    (within : part <:+ text) : ops.vocabulary.name? part = other.vocabulary.name? part := by
  have spelled := ops.spelled_congr other text part same within
  have longest : ∀ name, ops.Longest part name ↔ other.Longest part name := by
    intro name
    simp only [Longest, spelled]
  refine Option.ext fun name => ?_
  rw [ops.name_iff_longest, other.name_iff_longest, longest]

theorem symbols_congr (ops other : OperatorTable) (text : List Char) (same : ops.SameUnaryIn other text) (c : Char)
    (member : c ∈ text) : c ∈ ops.symbols ↔ c ∈ other.symbols := by
  obtain ⟨front, back, split⟩ := List.append_of_mem member
  have part : (String.singleton c).toList <:+: text := ⟨front, back, by simp [split]⟩
  rw [ops.mem_symbols, other.mem_symbols]
  exact same (String.singleton c) part

theorem flatten_same_unary (ops other : OperatorTable) (expression : String)
    (same : ops.SameUnaryIn other expression.toList) :
    ops.vocabulary.flatten expression = other.vocabulary.flatten expression :=
  ops.vocabulary.flatten_congr other.vocabulary expression
    (fun part within => ops.name_congr other expression.toList part same within)
    fun c member => ops.symbols_congr other expression.toList same c member

theorem step_congr (ops other : OperatorTable) (token : String) (stack : List Float)
    (same : ops.lookup token = other.lookup token) : ops.step token stack = other.step token stack := by
  unfold step role
  rw [same]

theorem run_congr (ops other : OperatorTable) (tokens : List String) (stack : List Float)
    (same : ∀ token ∈ tokens, ops.lookup token = other.lookup token) : ops.run tokens stack = other.run tokens stack := by
  induction tokens generalizing stack with
  | nil => rfl
  | cons token rest ih =>
      have here := ops.step_congr other token stack (same token List.mem_cons_self)
      have later := fun after => ih after fun t member => same t (List.mem_cons_of_mem token member)
      simp only [run, here, later]

theorem insert_same_unary (ops : OperatorTable) (name : String) (op : Operator) (text : List Char)
    (absent : ¬ name.toList <:+: text) : (ops.insert name op).SameUnaryIn ops text := by
  intro asked within
  have different : asked ≠ name := fun same => absent (same ▸ within)
  simp only [isUnary, ops.lookup_insert name op asked, if_neg different]

end OperatorTable

theorem Calculator.evaluate_congr (ops other : OperatorTable) (leftover : Leftover) (expression : String)
    (flat : ops.vocabulary.flatten expression = other.vocabulary.flatten expression)
    (bound : ∀ p, other.vocabulary.flatten expression = .ok p → ∀ token ∈ p.tokens, ops.lookup token = other.lookup token) :
    (Calculator.mk ops leftover).evaluate expression = (Calculator.mk other leftover).evaluate expression := by
  simp only [evaluate, flatten, flat]
  cases read : other.vocabulary.flatten expression with
  | error e => rfl
  | ok p =>
      have ran := ops.run_congr other p.tokens [] (bound p read)
      simp only [eval, ran]
      rfl

-- A name that does not stand in an expression can be bound to anything without a change to its tokens, and
-- if it is none of the tokens, to its value or error. Only the unary names count for the tokens.
theorem insertion_unrelated (ops : OperatorTable) :
    (∀ (name : String) (op : Operator) (expression : String), ¬ name.toList <:+: expression.toList →
      (ops.insert name op).vocabulary.flatten expression = ops.vocabulary.flatten expression ∧
      ((∀ p, ops.vocabulary.flatten expression = .ok p → name ∉ p.tokens) → ∀ leftover,
        (Calculator.mk (ops.insert name op) leftover).evaluate expression = (Calculator.mk ops leftover).evaluate expression)) ∧
    ∀ other : OperatorTable, (∀ name, ops.isUnary name = true ↔ other.isUnary name = true) →
      ∀ expression, ops.vocabulary.flatten expression = other.vocabulary.flatten expression := by
  refine ⟨fun name op expression absent => ?_, fun other same expression => ?_⟩
  · have flat := (ops.insert name op).flatten_same_unary ops expression (ops.insert_same_unary name op _ absent)
    refine ⟨flat, fun none leftover => ?_⟩
    refine Calculator.evaluate_congr _ ops leftover expression flat fun p read token member => ?_
    have different : token ≠ name := fun same => none p read (same ▸ member)
    rw [ops.lookup_insert, if_neg different]
  · exact ops.flatten_same_unary other expression fun name _ => same name

-- `1^6` stands nowhere in `16^ 2`, but it is a token of it: the symbol moves. So its binding is not looked
-- up in the text, only among the tokens.
theorem insertion_unrelated_moved_symbol :
    (OperatorTable.standard.insert "1^6" (.unary Float.abs)).vocabulary.flatten "16^ 2" = .ok ⟨["1^6", "2"]⟩ ∧
      (Calculator.mk (OperatorTable.standard.insert "1^6" (.unary Float.abs)) .reject).evaluate "16^ 2" =
        .error (.evaluation (.missingOperand "1^6")) ∧
      (Calculator.mk (OperatorTable.standard.insert "sinh" (.unary Float.sinh)) .reject).evaluate "16^ 2" =
        .error (.evaluation (.unknownToken "1^6")) ∧
      (OperatorTable.standard.insert "+" (.binary Float.atan2)).vocabulary.flatten "1 2+" = .ok ⟨["1", "2+"]⟩ := by
  obtain ⟨unrelated, tokens⟩ := insertion_unrelated .standard
  have flat : OperatorTable.standard.vocabulary.flatten "16^ 2" = .ok ⟨["1^6", "2"]⟩ := by decide +kernel
  have moved := (unrelated "1^6" (.unary Float.abs) "16^ 2" (by decide +kernel)).1
  have apart := (unrelated "sinh" (.unary Float.sinh) "16^ 2" (by decide +kernel)).2
  have others := tokens (OperatorTable.standard.insert "+" (.binary Float.atan2))
  refine ⟨moved.trans flat, by decide +kernel, ?_, ?_⟩
  · rw [apart (fun p read => ?_) .reject]
    · decide +kernel
    · rw [flat] at read
      cases read
      decide
  · rw [← others fun name => ?_]
    · decide +kernel
    · by_cases plus : name = "+"
      · subst plus
        decide +kernel
      · simp only [OperatorTable.isUnary, OperatorTable.lookup_insert, if_neg plus]

end ReversePolish
