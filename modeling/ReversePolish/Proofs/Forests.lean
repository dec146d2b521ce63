import Mathlib.Data.List.Basic
import ReversePolish.Proofs.Stopping

set_option autoImplicit false

namespace ReversePolish

-- A tree carries the readings of its tokens, so every tree is one of the table. A numeral is a leaf
-- even where its text is a registered name.
inductive Tree (ops : OperatorTable) where
  | leaf (token : String) (value : Float) (number : Decimal.float? token = some value)
  | unary (token : String) (function : Float → Float) (word : Decimal.float? token = none)
      (known : ops.lookup token = some (.unary function)) (operand : Tree ops)
  | binary (token : String) (function : Float → Float → Float) (word : Decimal.float? token = none)
      (known : ops.lookup token = some (.binary function)) (left right : Tree ops)

namespace Tree

variable {ops : OperatorTable}

def postorder : Tree ops → List String
  | .leaf token _ _ => [token]
  | .unary token _ _ _ operand => operand.postorder ++ [token]
  | .binary token _ _ _ left right => left.postorder ++ right.postorder ++ [token]

def value : Tree ops → Float
  | .leaf _ value _ => value
  | .unary _ function _ _ operand => function operand.value
  | .binary _ function _ _ left right => function left.value right.value

def root : Tree ops → String
  | .leaf token _ _ => token
  | .unary token _ _ _ _ => token
  | .binary token _ _ _ _ _ => token

def operands : Tree ops → List (Tree ops)
  | .leaf _ _ _ => []
  | .unary _ _ _ _ operand => [operand]
  | .binary _ _ _ _ left right => [left, right]

theorem postorder_root (tree : Tree ops) : tree.postorder = tree.operands.flatMap postorder ++ [tree.root] := by
  cases tree with
  | leaf token value number => rfl
  | unary token function word known operand => simp [postorder, operands, root]
  | binary token function word known left right => simp [postorder, operands, root]

theorem eq_of_root (a b : Tree ops) (front back : List (Tree ops)) (root : a.root = b.root)
    (operands : front ++ a.operands = back ++ b.operands) : front = back ∧ a = b := by
  cases a with
  | leaf token value number =>
      cases b with
      | leaf other result numeral =>
          cases root
          rw [number] at numeral
          cases numeral
          simpa [Tree.operands] using operands
      | unary other function word known operand =>
          cases root
          rw [number] at word
          cases word
      | binary other function word known left right =>
          cases root
          rw [number] at word
          cases word
  | unary token function word known operand =>
      cases b with
      | leaf other result numeral =>
          cases root
          rw [word] at numeral
          cases numeral
      | unary other function' word' known' operand' =>
          cases root
          rw [known] at known'
          cases known'
          obtain ⟨same, last⟩ := List.append_inj' operands rfl
          cases last
          exact ⟨same, rfl⟩
      | binary other function' word' known' left right =>
          cases root
          rw [known] at known'
          cases known'
  | binary token function word known left right =>
      cases b with
      | leaf other result numeral =>
          cases root
          rw [word] at numeral
          cases numeral
      | unary other function' word' known' operand =>
          cases root
          rw [known] at known'
          cases known'
      | binary other function' word' known' left' right' =>
          cases root
          rw [known] at known'
          cases known'
          obtain ⟨same, last⟩ := List.append_inj' operands rfl
          cases last
          exact ⟨same, rfl⟩

end Tree

section

variable {ops : OperatorTable}

theorem forest_postorder_last (front : List (Tree ops)) (last : Tree ops) :
    (front ++ [last]).flatMap Tree.postorder = (front ++ last.operands).flatMap Tree.postorder ++ [last.root] := by
  rw [List.flatMap_append, List.flatMap_append, List.flatMap_singleton, Tree.postorder_root, List.append_assoc]

-- Taking the last root away leaves a forest with one token less; the induction is on their number.
theorem forest_unique (a b : List (Tree ops)) (same : a.flatMap Tree.postorder = b.flatMap Tree.postorder) : a = b := by
  cases List.eq_nil_or_concat' a with
  | inl none =>
      cases List.eq_nil_or_concat' b with
      | inl empty => rw [none, empty]
      | inr some =>
          obtain ⟨back, u, rfl⟩ := some
          rw [none, forest_postorder_last] at same
          exact absurd same.symm (List.append_ne_nil_of_right_ne_nil _ (List.cons_ne_nil _ _))
  | inr some =>
      obtain ⟨front, t, last⟩ := some
      cases List.eq_nil_or_concat' b with
      | inl empty =>
          rw [last, empty, forest_postorder_last] at same
          exact absurd same (List.append_ne_nil_of_right_ne_nil _ (List.cons_ne_nil _ _))
      | inr more =>
          obtain ⟨back, u, rfl⟩ := more
          rw [last, forest_postorder_last, forest_postorder_last] at same
          obtain ⟨before, roots⟩ := List.append_inj' same rfl
          have smaller := forest_unique (front ++ t.operands) (back ++ u.operands) before
          obtain ⟨rfl, rfl⟩ := Tree.eq_of_root t u front back (List.singleton_inj.mp roots) smaller
          exact last
termination_by (a.flatMap Tree.postorder).length
decreasing_by
  rw [last, forest_postorder_last, List.length_append]
  exact Nat.lt_succ_self _

theorem tree_run (tree : Tree ops) (stack : List Float) : ops.run tree.postorder stack = .ok (tree.value :: stack) := by
  induction tree generalizing stack with
  | leaf token value number =>
      have role := ops.role_number token value number
      simp only [Tree.postorder, Tree.value, OperatorTable.run, ops.step_number token value stack role]
  | unary token function word known operand ih =>
      have role : ops.role token = .unary function := by simp only [OperatorTable.role, word, known]
      rw [Tree.postorder, OperatorTable.run_append, ih stack]
      simp only [Tree.value, OperatorTable.run, ops.step_unary token function _ _ role]
  | binary token function word known left right leftRun rightRun =>
      have role : ops.role token = .binary function := by simp only [OperatorTable.role, word, known]
      rw [Tree.postorder, OperatorTable.run_append, OperatorTable.run_append, leftRun stack]
      dsimp only
      rw [rightRun (left.value :: stack)]
      simp only [Tree.value, OperatorTable.run, ops.step_binary token function _ _ _ role]

theorem forest_run (trees : List (Tree ops)) (stack : List Float) :
    ops.run (trees.flatMap Tree.postorder) stack = .ok ((trees.map Tree.value).reverse ++ stack) := by
  induction trees generalizing stack with
  | nil => rfl
  | cons tree rest ih =>
      rw [List.flatMap_cons, OperatorTable.run_append, tree_run tree stack]
      dsimp only
      rw [ih (tree.value :: stack), List.map_cons, List.reverse_cons, List.append_assoc]
      rfl

theorem forest_push (tree : Tree ops) (below : List (Tree ops)) :
    (tree :: below).reverse.flatMap Tree.postorder = below.reverse.flatMap Tree.postorder ++ tree.postorder := by
  rw [List.reverse_cons, List.flatMap_append, List.flatMap_singleton]

-- The operand stack is at every moment the values of a stack of trees, the last tree on top.
theorem step_grows (token : String) (below : List (Tree ops)) (after : List Float)
    (stepped : ops.step token (below.map Tree.value) = .ok after) :
    ∃ grown : List (Tree ops), after = grown.map Tree.value ∧
      grown.reverse.flatMap Tree.postorder = below.reverse.flatMap Tree.postorder ++ [token] := by
  unfold OperatorTable.step OperatorTable.role at stepped
  cases number : Decimal.float? token with
  | some value =>
      have pushed : value :: below.map Tree.value = after := by
        simpa [number] using stepped
      exact ⟨.leaf token value number :: below, pushed.symm, forest_push _ below⟩
  | none =>
      cases known : ops.lookup token with
      | none => simp [number, known] at stepped
      | some op =>
          cases op with
          | unary function =>
              cases below with
              | nil => simp [number, known] at stepped
              | cons x rest =>
                  have pushed : function x.value :: rest.map Tree.value = after := by
                    simpa [number, known] using stepped
                  refine ⟨.unary token function number known x :: rest, pushed.symm, ?_⟩
                  rw [forest_push, forest_push, Tree.postorder, List.append_assoc]
          | binary function =>
              rcases below with _ | ⟨right, _ | ⟨left, rest⟩⟩
              · simp [number, known] at stepped
              · simp [number, known] at stepped
              · have pushed : function left.value right.value :: rest.map Tree.value = after := by
                  simpa [number, known] using stepped
                refine ⟨.binary token function number known left right :: rest, pushed.symm, ?_⟩
                rw [forest_push, forest_push, forest_push, Tree.postorder]
                simp only [List.append_assoc]

theorem run_grows (tokens : List String) (below : List (Tree ops)) (last : List Float)
    (ran : ops.run tokens (below.map Tree.value) = .ok last) :
    ∃ grown : List (Tree ops), grown.reverse.flatMap Tree.postorder = below.reverse.flatMap Tree.postorder ++ tokens := by
  induction tokens generalizing below with
  | nil => exact ⟨below, (List.append_nil _).symm⟩
  | cons token rest ih =>
      cases stepped : ops.step token (below.map Tree.value) with
      | error e => simp [OperatorTable.run, stepped] at ran
      | ok after =>
          obtain ⟨next, rfl, here⟩ := step_grows token below after stepped
          obtain ⟨grown, later⟩ := ih next (by simpa [OperatorTable.run, stepped] using ran)
          exact ⟨grown, by rw [later, here, List.append_assoc, List.singleton_append]⟩

theorem step_error_not_leftover (token : String) (stack : List Float) (e : EvalError)
    (failed : ops.step token stack = .error e) (count : Nat) : e ≠ .leftoverOperands count := by
  rintro rfl
  unfold OperatorTable.step at failed
  split at failed
  · cases failed
  · split at failed <;> cases failed
  · split at failed <;> cases failed
  · cases failed

theorem run_error_not_leftover (tokens : List String) (stack : List Float) (e : EvalError)
    (failed : ops.run tokens stack = .error e) (count : Nat) : e ≠ .leftoverOperands count := by
  obtain ⟨index, token, reached, _, _, stepped⟩ := (ops.run_error_iff tokens stack e).mp failed
  exact step_error_not_leftover token reached e stepped count

theorem settle_discard (top : Float) (left : List Float) : (Calculator.mk ops .discard).settle (top :: left) = .ok top := by
  cases left <;> rfl

theorem settle_reject (top : Float) (left : List Float) :
    (Calculator.mk ops .reject).settle (top :: left) =
      if left = [] then .ok top else .error (.leftoverOperands (left.length + 1)) := by
  cases left with
  | nil => rfl
  | cons x below => exact (if_neg (List.cons_ne_nil x below)).symm

end

theorem eval_forests (ops : OperatorTable) (tokens : List String) :
    (∀ a b : List (Tree ops), a.flatMap Tree.postorder = tokens → b.flatMap Tree.postorder = tokens → a = b) ∧
    (∀ (front : List (Tree ops)) (last : Tree ops), (front ++ [last]).flatMap Tree.postorder = tokens →
      (Calculator.mk ops .discard).eval ⟨tokens⟩ = .ok last.value ∧
      (Calculator.mk ops .reject).eval ⟨tokens⟩ =
        if front = [] then .ok last.value else .error (.leftoverOperands (front.length + 1))) ∧
    (tokens = [] ∨ (¬ ∃ trees : List (Tree ops), trees.flatMap Tree.postorder = tokens) →
      ∃ e, (∀ count, e ≠ .leftoverOperands count) ∧ ∀ leftover, (Calculator.mk ops leftover).eval ⟨tokens⟩ = .error e) := by
  refine ⟨fun a b first second => forest_unique a b (first.trans second.symm), ?_, ?_⟩
  · rintro front last rfl
    have ran := forest_run (front ++ [last]) []
    have stack : ((front ++ [last]).map Tree.value).reverse ++ [] = last.value :: (front.map Tree.value).reverse := by simp
    rw [stack] at ran
    constructor
    · rw [Calculator.eval_of_run _ ⟨_⟩ _ ran, settle_discard]
    · rw [Calculator.eval_of_run _ ⟨_⟩ _ ran, settle_reject]
      simp
  · intro refused
    cases ran : ops.run tokens [] with
    | error e => exact ⟨e, run_error_not_leftover tokens [] e ran, fun leftover => Calculator.eval_of_failure _ ⟨tokens⟩ e ran⟩
    | ok stack =>
        obtain ⟨grown, same⟩ := run_grows tokens [] stack ran
        have empty : tokens = [] := refused.resolve_right fun never => never ⟨grown.reverse, same⟩
        subst empty
        exact ⟨.noResult, fun count => EvalError.noConfusion, fun leftover => rfl⟩

theorem eval_forests_pair :
    Calculator.lenient.eval ⟨["7", "8", "2", "-"]⟩ = .ok (8 - 2) ∧
      Calculator.strict.eval ⟨["7", "8", "2", "-"]⟩ = .error (.leftoverOperands 2) := by
  have difference : OperatorTable.standard.lookup "-" = some (.binary fun left right => left - right) := rfl
  exact (eval_forests .standard ["7", "8", "2", "-"]).2.1 [.leaf "7" 7 rfl]
    (.binary "-" _ rfl difference (.leaf "8" 8 rfl) (.leaf "2" 2 rfl)) rfl

end ReversePolish
