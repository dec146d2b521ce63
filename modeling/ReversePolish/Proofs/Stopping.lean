import Mathlib.Data.List.Forall2
import ReversePolish.Calculator

set_option autoImplicit false

namespace ReversePolish

namespace OperatorTable

def StopsAt (ops : OperatorTable) (tokens : List String) (stack : List Float) (index : Nat) (e : EvalError) : Prop :=
  ∃ token reached, tokens[index]? = some token ∧ ops.run (tokens.take index) stack = .ok reached ∧
    ops.step token reached = .error e

theorem stops_at_head (ops : OperatorTable) (token : String) (rest : List String) (stack : List Float) (e : EvalError) :
    ops.StopsAt (token :: rest) stack 0 e ↔ ops.step token stack = .error e := by
  constructor
  · rintro ⟨first, reached, here, before, failed⟩
    cases here
    cases before
    exact failed
  · intro failed
    exact ⟨token, stack, rfl, rfl, failed⟩

theorem stops_at_later (ops : OperatorTable) (token : String) (rest : List String) (stack : List Float) (index : Nat)
    (e : EvalError) :
    ops.StopsAt (token :: rest) stack (index + 1) e ↔
      ∃ after, ops.step token stack = .ok after ∧ ops.StopsAt rest after index e := by
  constructor
  · rintro ⟨last, reached, here, before, failed⟩
    rw [List.take_succ_cons, run] at before
    cases stepped : ops.step token stack with
    | error first => simp [stepped] at before
    | ok after => exact ⟨after, rfl, last, reached, here, by simpa [stepped] using before, failed⟩
  · rintro ⟨after, stepped, last, reached, here, before, failed⟩
    refine ⟨last, reached, here, ?_, failed⟩
    rw [List.take_succ_cons, run, stepped]
    exact before

theorem run_error_iff (ops : OperatorTable) (tokens : List String) (stack : List Float) (e : EvalError) :
    ops.run tokens stack = .error e ↔ ∃ index, ops.StopsAt tokens stack index e := by
  induction tokens generalizing stack with
  | nil =>
      constructor
      · intro failed
        cases failed
      · rintro ⟨index, token, reached, here, _⟩
        cases here
  | cons token rest ih =>
      cases stepped : ops.step token stack with
      | error first =>
          rw [run, stepped, Except.error.injEq]
          constructor
          · rintro rfl
            exact ⟨0, (stops_at_head ops token rest stack first).mpr stepped⟩
          · rintro ⟨index, stops⟩
            cases index with
            | zero =>
                rw [stops_at_head, stepped] at stops
                exact Except.error.inj stops
            | succ index =>
                obtain ⟨after, passed, _⟩ := (stops_at_later ops token rest stack index e).mp stops
                rw [stepped] at passed
                cases passed
      | ok after =>
          rw [run, stepped]
          constructor
          · intro failed
            obtain ⟨index, stops⟩ := (ih after).mp failed
            exact ⟨index + 1, (stops_at_later ops token rest stack index e).mpr ⟨after, stepped, stops⟩⟩
          · rintro ⟨index, stops⟩
            cases index with
            | zero =>
                rw [stops_at_head, stepped] at stops
                cases stops
            | succ index =>
                obtain ⟨next, passed, later⟩ := (stops_at_later ops token rest stack index e).mp stops
                rw [stepped] at passed
                cases passed
                exact (ih after).mpr ⟨index, later⟩

theorem stops_at_unique (ops : OperatorTable) (tokens : List String) (stack : List Float) (i j : Nat) (e other : EvalError)
    (first : ops.StopsAt tokens stack i e) (second : ops.StopsAt tokens stack j other) : i = j ∧ e = other := by
  induction tokens generalizing stack i j with
  | nil =>
      obtain ⟨token, reached, here, _⟩ := first
      cases here
  | cons token rest ih =>
      cases i with
      | zero =>
          have failed := (stops_at_head ops token rest stack e).mp first
          cases j with
          | zero =>
              rw [stops_at_head, failed] at second
              exact ⟨rfl, Except.error.inj second⟩
          | succ j =>
              obtain ⟨after, passed, _⟩ := (stops_at_later ops token rest stack j other).mp second
              rw [failed] at passed
              cases passed
      | succ i =>
          obtain ⟨after, passed, later⟩ := (stops_at_later ops token rest stack i e).mp first
          cases j with
          | zero =>
              rw [stops_at_head, passed] at second
              cases second
          | succ j =>
              obtain ⟨next, again, last⟩ := (stops_at_later ops token rest stack j other).mp second
              rw [passed] at again
              cases again
              obtain ⟨same, error⟩ := ih after i j later last
              exact ⟨congrArg Nat.succ same, error⟩

end OperatorTable

def EvalError.Rearranged : EvalError → EvalError → Prop
  | .unknownToken a, .unknownToken b => a.toList.Perm b.toList
  | before, after => before = after

theorem EvalError.rearranged_refl (e : EvalError) : e.Rearranged e := by
  cases e with
  | unknownToken token => exact List.Perm.refl _
  | missingOperand token => rfl
  | noResult => rfl
  | leftoverOperands count => rfl

namespace OperatorTable

def Alike (ops : OperatorTable) (a b : String) : Prop :=
  a = b ∨ (ops.role a = .unknown ∧ ops.role b = .unknown ∧ a.toList.Perm b.toList)

theorem step_alike (ops : OperatorTable) (a b : String) (stack : List Float) (alike : ops.Alike a b) :
    (∃ after, a = b ∧ ops.step a stack = .ok after) ∨
      ∃ e other, ops.step a stack = .error e ∧ ops.step b stack = .error other ∧ e.Rearranged other := by
  rcases alike with rfl | ⟨first, second, letters⟩
  · cases stepped : ops.step a stack with
    | ok after => exact Or.inl ⟨after, rfl, rfl⟩
    | error e => exact Or.inr ⟨e, e, rfl, rfl, e.rearranged_refl⟩
  · exact Or.inr ⟨_, _, ops.step_unknown a stack first, ops.step_unknown b stack second, letters⟩

-- An unknown token ends both runs at the same place, so what comes after it does not matter. The
-- induction is on the tokens, from any stack.
theorem run_alike (ops : OperatorTable) (tokens others : List String) (stack : List Float)
    (alike : List.Forall₂ ops.Alike tokens others) :
    (∃ last, tokens = others ∧ ops.run tokens stack = .ok last) ∨
      ∃ e other index, e.Rearranged other ∧ ops.StopsAt tokens stack index e ∧ ops.StopsAt others stack index other := by
  induction alike generalizing stack with
  | nil => exact Or.inl ⟨stack, rfl, rfl⟩
  | @cons token again rest more here later ih =>
      rcases ops.step_alike token again stack here with ⟨after, rfl, stepped⟩ | ⟨e, other, first, second, letters⟩
      · rcases ih after with ⟨last, rfl, ran⟩ | ⟨e, other, index, letters, first, second⟩
        · refine Or.inl ⟨last, rfl, ?_⟩
          rw [run, stepped]
          exact ran
        · exact Or.inr ⟨e, other, index + 1, letters, (ops.stops_at_later _ _ _ _ _).mpr ⟨after, stepped, first⟩,
            (ops.stops_at_later _ _ _ _ _).mpr ⟨after, stepped, second⟩⟩
      · exact Or.inr ⟨e, other, 0, letters, (ops.stops_at_head _ _ _ _).mpr first, (ops.stops_at_head _ _ _ _).mpr second⟩

end OperatorTable

namespace Calculator

theorem eval_of_run (c : Calculator) (p : Postfix) (stack : List Float) (ran : c.operators.run p.tokens [] = .ok stack) :
    c.eval p = c.settle stack := by
  simp only [eval, ran]

theorem eval_of_failure (c : Calculator) (p : Postfix) (e : EvalError) (failed : c.operators.run p.tokens [] = .error e) :
    c.eval p = .error e := by
  simp only [eval, failed]

theorem evaluate_of_flatten (c : Calculator) (expression : String) (p : Postfix) (flat : c.flatten expression = .ok p) :
    c.evaluate expression = (c.eval p).mapError .evaluation := by
  rw [evaluate, flat]

theorem evaluate_brackets_iff (c : Calculator) (expression : String) (e : BracketError) :
    c.evaluate expression = .error (.brackets e) ↔ c.flatten expression = .error e := by
  rw [evaluate]
  cases c.flatten expression with
  | error first => simp
  | ok p => cases result : c.eval p <;> simp [Except.mapError, result]

theorem evaluate_of_stop (c : Calculator) (expression : String) (p : Postfix) (index : Nat) (e : EvalError)
    (flat : c.flatten expression = .ok p) (stops : c.operators.StopsAt p.tokens [] index e) :
    c.evaluate expression = .error (.evaluation e) := by
  have failed := (c.operators.run_error_iff p.tokens [] e).mpr ⟨index, stops⟩
  rw [evaluate_of_flatten c expression p flat, eval_of_failure c p e failed]
  rfl

end Calculator

end ReversePolish
