import Mathlib.Data.List.Forall2
import ReversePolish.Proofs.Stopping

set_option autoImplicit false

namespace ReversePolish

inductive Kind where
  | number
  | unary
  | binary
  | unknown
  deriving DecidableEq, Repr

def Kind.rise : Kind → Int
  | .number => 1
  | .unary => 0
  | .binary => -1
  | .unknown => 0

def Role.kind : Role → Kind
  | .number _ => .number
  | .unary _ => .unary
  | .binary _ => .binary
  | .unknown => .unknown

namespace OperatorTable

def kind (ops : OperatorTable) (token : String) : Kind := (ops.role token).kind

def height (ops : OperatorTable) : List String → Int
  | [] => 0
  | token :: rest => (ops.kind token).rise + ops.height rest

def objection? (ops : OperatorTable) (height : Int) (token : String) : Option EvalError :=
  match ops.kind token with
  | .number => none
  | .unary => if height = 0 then some (.missingOperand token) else none
  | .binary => if height ≤ 1 then some (.missingOperand token) else none
  | .unknown => some (.unknownToken token)

def objectionAt? (ops : OperatorTable) (tokens : List String) (index : Nat) : Option EvalError :=
  tokens[index]?.bind (ops.objection? (ops.height (tokens.take index)))

def FirstObjection (ops : OperatorTable) (tokens : List String) (index : Nat) (e : EvalError) : Prop :=
  ops.objectionAt? tokens index = some e ∧ ∀ earlier < index, ops.objectionAt? tokens earlier = none

instance (ops : OperatorTable) (tokens : List String) (index : Nat) (e : EvalError) :
    Decidable (ops.FirstObjection tokens index e) :=
  inferInstanceAs (Decidable (_ ∧ ∀ earlier < index, _))

theorem height_counts (ops : OperatorTable) (tokens : List String) :
    ops.height tokens = (tokens.countP fun token => ops.kind token = .number : Int) -
      (tokens.countP fun token => ops.kind token = .binary : Int) := by
  induction tokens with
  | nil => rfl
  | cons token rest ih =>
      rw [height, ih, List.countP_cons, List.countP_cons]
      cases ops.kind token <;> simp [Kind.rise] <;> omega

theorem step_height (ops : OperatorTable) (token : String) (stack : List Float) :
    (ops.step token stack).map (fun after => (after.length : Int)) =
      match ops.objection? stack.length token with
      | some e => .error e
      | none => .ok (stack.length + (ops.kind token).rise) := by
  unfold step objection? kind
  cases ops.role token with
  | number value => rfl
  | unary function =>
      cases stack with
      | nil => rfl
      | cons x below =>
          have filled : ((x :: below).length : Int) ≠ 0 := by
            rw [List.length_cons]
            omega
          simp only [Role.kind, if_neg filled]
          exact congrArg Except.ok (Int.add_zero _).symm
  | binary function =>
      rcases stack with _ | ⟨right, _ | ⟨left, below⟩⟩
      · rfl
      · rfl
      · have several : ¬ ((right :: left :: below).length : Int) ≤ 1 := by
          rw [List.length_cons, List.length_cons]
          omega
        simp only [Role.kind, if_neg several]
        exact congrArg Except.ok (Int.add_sub_cancel _ 1).symm
  | unknown => rfl

theorem step_error_iff (ops : OperatorTable) (token : String) (stack : List Float) (e : EvalError) :
    ops.step token stack = .error e ↔ ops.objection? stack.length token = some e := by
  have outcome := ops.step_height token stack
  cases objected : ops.objection? stack.length token with
  | none =>
      cases stepped : ops.step token stack with
      | error other => simp [stepped, objected, Except.map] at outcome
      | ok after => simp
  | some first =>
      cases stepped : ops.step token stack with
      | error other =>
          rw [stepped, objected] at outcome
          cases outcome
          simp
      | ok after => simp [stepped, objected, Except.map] at outcome

theorem step_ok_height (ops : OperatorTable) (token : String) (stack after : List Float)
    (stepped : ops.step token stack = .ok after) : (after.length : Int) = stack.length + (ops.kind token).rise := by
  have outcome := ops.step_height token stack
  cases objected : ops.objection? stack.length token with
  | none =>
      rw [stepped, objected] at outcome
      exact Except.ok.inj outcome
  | some e => simp [stepped, objected, Except.map] at outcome

theorem rises_above_zero (ops : OperatorTable) (height : Int) (token : String) (reached : 0 ≤ height)
    (passed : ops.objection? height token = none) : 0 < height + (ops.kind token).rise := by
  unfold objection? at passed
  cases kind : ops.kind token with
  | number =>
      rw [Kind.rise]
      omega
  | unary =>
      have filled : height ≠ 0 := by
        intro empty
        simp [kind, empty] at passed
      rw [Kind.rise]
      omega
  | binary =>
      have several : ¬ height ≤ 1 := by
        intro few
        simp [kind, few] at passed
      rw [Kind.rise]
      omega
  | unknown => simp [kind] at passed

theorem step_filled (ops : OperatorTable) (token : String) (stack after : List Float)
    (stepped : ops.step token stack = .ok after) : after ≠ [] := by
  have passed : ops.objection? stack.length token = none := by
    rw [Option.eq_none_iff_forall_ne_some]
    intro e objected
    rw [(ops.step_error_iff token stack e).mpr objected] at stepped
    cases stepped
  have risen := ops.rises_above_zero stack.length token (Int.natCast_nonneg _) passed
  rw [← ops.step_ok_height token stack after stepped] at risen
  apply List.ne_nil_of_length_pos
  omega

theorem run_height (ops : OperatorTable) (tokens : List String) (stack last : List Float)
    (ran : ops.run tokens stack = .ok last) : (last.length : Int) = stack.length + ops.height tokens := by
  induction tokens generalizing stack with
  | nil =>
      cases ran
      exact (Int.add_zero _).symm
  | cons token rest ih =>
      cases stepped : ops.step token stack with
      | error e => simp [run, stepped] at ran
      | ok after =>
          have here := ops.step_ok_height token stack after stepped
          have later := ih after (by simpa only [run, stepped] using ran)
          rw [height, later, here, Int.add_assoc]

theorem level_of_run (ops : OperatorTable) (tokens : List String) (last : List Float)
    (ran : ops.run tokens [] = .ok last) : (last.length : Int) = ops.height tokens := by
  rw [ops.run_height tokens [] last ran]
  exact Int.zero_add _

theorem run_take (ops : OperatorTable) (tokens : List String) (index : Nat) (stack last : List Float)
    (ran : ops.run tokens stack = .ok last) :
    ∃ reached, ops.run (tokens.take index) stack = .ok reached ∧ ops.run (tokens.drop index) reached = .ok last := by
  rw [← List.take_append_drop index tokens, run_append] at ran
  cases before : ops.run (tokens.take index) stack with
  | error e => simp [before] at ran
  | ok reached => exact ⟨reached, rfl, by simpa only [before] using ran⟩

theorem objection_at_of_take (ops : OperatorTable) (tokens : List String) (index size : Nat) (inside : index < size) :
    ops.objectionAt? (tokens.take size) index = ops.objectionAt? tokens index := by
  rw [objectionAt?, objectionAt?, List.getElem?_take_of_lt inside, List.take_take, Nat.min_eq_left (Nat.le_of_lt inside)]

theorem objection_of_stop (ops : OperatorTable) (tokens : List String) (index : Nat) (e : EvalError)
    (stops : ops.StopsAt tokens [] index e) : ops.objectionAt? tokens index = some e := by
  obtain ⟨token, reached, here, ran, failed⟩ := stops
  have level := ops.level_of_run _ reached ran
  rw [objectionAt?, here, Option.bind_some, ← level]
  exact (ops.step_error_iff token reached e).mp failed

theorem stop_of_objection (ops : OperatorTable) (tokens : List String) (index : Nat) (e : EvalError) (reached : List Float)
    (ran : ops.run (tokens.take index) [] = .ok reached) (objected : ops.objectionAt? tokens index = some e) :
    ops.StopsAt tokens [] index e := by
  have level := ops.level_of_run _ reached ran
  rw [objectionAt?, ← level] at objected
  cases here : tokens[index]? with
  | none => simp [here] at objected
  | some token =>
      rw [here, Option.bind_some] at objected
      exact ⟨token, reached, here, ran, (ops.step_error_iff token reached e).mpr objected⟩

theorem no_objection_of_run (ops : OperatorTable) (tokens : List String) (last : List Float)
    (ran : ops.run tokens [] = .ok last) (index : Nat) : ops.objectionAt? tokens index = none := by
  cases objected : ops.objectionAt? tokens index with
  | none => rfl
  | some e =>
      obtain ⟨reached, before, _⟩ := ops.run_take tokens index [] last ran
      have stops := ops.stop_of_objection tokens index e reached before objected
      have failed := (ops.run_error_iff tokens [] e).mpr ⟨index, stops⟩
      rw [ran] at failed
      cases failed

theorem stops_at_iff_first (ops : OperatorTable) (tokens : List String) (index : Nat) (e : EvalError) :
    ops.StopsAt tokens [] index e ↔ ops.FirstObjection tokens index e := by
  constructor
  · intro stops
    refine ⟨ops.objection_of_stop tokens index e stops, ?_⟩
    obtain ⟨_, reached, _, ran, _⟩ := stops
    intro earlier before
    rw [← ops.objection_at_of_take tokens earlier index before]
    exact ops.no_objection_of_run _ reached ran earlier
  · intro first
    cases ran : ops.run (tokens.take index) [] with
    | ok reached => exact ops.stop_of_objection tokens index e reached ran first.1
    | error other =>
        obtain ⟨earlier, stops⟩ := (ops.run_error_iff _ [] other).mp ran
        have objected := ops.objection_of_stop _ earlier other stops
        obtain ⟨token, _, here, _, _⟩ := stops
        have before : earlier < index := by
          have inside := (List.getElem?_eq_some_iff.mp here).1
          rw [List.length_take] at inside
          omega
        rw [ops.objection_at_of_take tokens earlier index before, first.2 earlier before] at objected
        cases objected

theorem run_of_no_objection (ops : OperatorTable) (tokens : List String)
    (none : ∀ index, ops.objectionAt? tokens index = none) :
    ∃ last, ops.run tokens [] = .ok last ∧ (last.length : Int) = ops.height tokens := by
  cases ran : ops.run tokens [] with
  | error e =>
      obtain ⟨index, stops⟩ := (ops.run_error_iff tokens [] e).mp ran
      have objected := ops.objection_of_stop tokens index e stops
      rw [none index] at objected
      cases objected
  | ok last => exact ⟨last, rfl, ops.level_of_run tokens last ran⟩

theorem run_filled (ops : OperatorTable) (tokens : List String) (stack last : List Float) (filled : tokens ≠ [])
    (ran : ops.run tokens stack = .ok last) : last ≠ [] := by
  induction tokens generalizing stack with
  | nil => exact absurd rfl filled
  | cons token rest ih =>
      cases stepped : ops.step token stack with
      | error e => simp [run, stepped] at ran
      | ok after =>
          have later : ops.run rest after = .ok last := by simpa only [run, stepped] using ran
          cases rest with
          | nil =>
              cases later
              exact ops.step_filled token stack last stepped
          | cons next more => exact ih after (List.cons_ne_nil next more) later

def Refuses (ops : OperatorTable) (leftover : Leftover) (tokens : List String) (e : EvalError) : Prop :=
  (∃ index, ops.FirstObjection tokens index e) ∨
  (∀ index, ops.objectionAt? tokens index = none) ∧
    ((tokens = [] ∧ e = .noResult) ∨
      (leftover = .reject ∧ 2 ≤ ops.height tokens ∧ e = .leftoverOperands (ops.height tokens).toNat))

theorem refuses_of_stop (ops : OperatorTable) (leftover : Leftover) (tokens : List String) (index : Nat) (first e : EvalError)
    (stops : ops.StopsAt tokens [] index first) : ops.Refuses leftover tokens e ↔ first = e := by
  constructor
  · intro refused
    rcases refused with ⟨other, objection⟩ | ⟨none, _⟩
    · have again := (ops.stops_at_iff_first tokens other e).mpr objection
      exact (ops.stops_at_unique tokens [] index other first e stops again).2
    · have objected := ops.objection_of_stop tokens index first stops
      rw [none index] at objected
      cases objected
  · intro same
    subst same
    exact Or.inl ⟨index, (ops.stops_at_iff_first tokens index first).mp stops⟩

theorem refuses_of_run (ops : OperatorTable) (leftover : Leftover) (tokens : List String) (last : List Float) (e : EvalError)
    (ran : ops.run tokens [] = .ok last) :
    ops.Refuses leftover tokens e ↔ (last = [] ∧ e = .noResult) ∨
      (leftover = .reject ∧ 2 ≤ last.length ∧ e = .leftoverOperands last.length) := by
  have none := ops.no_objection_of_run tokens last ran
  have never : ¬ ∃ index, ops.FirstObjection tokens index e := by
    intro first
    obtain ⟨index, objected, _⟩ := first
    rw [none index] at objected
    cases objected
  have empty : tokens = [] ↔ last = [] := by
    constructor
    · intro nothing
      subst nothing
      cases ran
      rfl
    · intro nothing
      by_contra filled
      exact ops.run_filled tokens [] last filled ran nothing
  have several : (2 : Int) ≤ last.length ↔ 2 ≤ last.length := by omega
  rw [Refuses, ← ops.level_of_run tokens last ran, empty, several, Int.toNat_natCast]
  simp only [never, none, false_or, implies_true, true_and]

end OperatorTable

namespace Calculator

theorem settle_error_iff (c : Calculator) (stack : List Float) (e : EvalError) :
    c.settle stack = .error e ↔ (stack = [] ∧ e = .noResult) ∨
      (c.leftover = .reject ∧ 2 ≤ stack.length ∧ e = .leftoverOperands stack.length) := by
  rcases stack with _ | ⟨top, _ | ⟨next, below⟩⟩
  · simp [settle, eq_comm]
  · simp [settle]
  · cases policy : c.leftover <;> simp [settle, policy, eq_comm]

theorem eval_error_iff (c : Calculator) (tokens : List String) (e : EvalError) :
    c.eval ⟨tokens⟩ = .error e ↔ c.operators.Refuses c.leftover tokens e := by
  cases ran : c.operators.run tokens [] with
  | error first =>
      obtain ⟨index, stops⟩ := (c.operators.run_error_iff tokens [] first).mp ran
      rw [c.eval_of_failure ⟨tokens⟩ first ran, c.operators.refuses_of_stop c.leftover tokens index first e stops,
        Except.error.injEq]
  | ok stack =>
      rw [c.eval_of_run ⟨tokens⟩ stack ran, c.settle_error_iff, c.operators.refuses_of_run c.leftover tokens stack e ran]

end Calculator

namespace OperatorTable

def SameKind (ops other : OperatorTable) (a b : String) : Prop :=
  ops.kind a = other.kind b ∧ (ops.kind a = .number ∨ a = b)

theorem height_same_kind (ops other : OperatorTable) (tokens others : List String)
    (same : List.Forall₂ (ops.SameKind other) tokens others) : ops.height tokens = other.height others := by
  induction same with
  | nil => rfl
  | cons here _ ih => rw [height, height, here.1, ih]

theorem objection_same_kind (ops other : OperatorTable) (height : Int) (a b : String) (same : ops.SameKind other a b) :
    ops.objection? height a = other.objection? height b := by
  obtain ⟨kinds, number | rfl⟩ := same
  · unfold objection?
    rw [← kinds, number]
  · unfold objection?
    rw [kinds]

theorem objection_at_same_kind (ops other : OperatorTable) (tokens others : List String) (index : Nat)
    (same : List.Forall₂ (ops.SameKind other) tokens others) :
    ops.objectionAt? tokens index = other.objectionAt? others index := by
  obtain ⟨size, pairs⟩ := List.forall₂_iff_get.mp same
  rw [objectionAt?, objectionAt?, ops.height_same_kind other _ _ (List.forall₂_take index same)]
  by_cases inside : index < tokens.length
  · rw [List.getElem?_eq_getElem inside, List.getElem?_eq_getElem (size ▸ inside)]
    exact ops.objection_same_kind other _ _ _ (pairs index inside (size ▸ inside))
  · rw [List.getElem?_eq_none (Nat.not_lt.mp inside), List.getElem?_eq_none (size ▸ Nat.not_lt.mp inside)]
    rfl

theorem refuses_same_kind (ops other : OperatorTable) (leftover : Leftover) (tokens others : List String) (e : EvalError)
    (same : List.Forall₂ (ops.SameKind other) tokens others) :
    ops.Refuses leftover tokens e ↔ other.Refuses leftover others e := by
  have objections := fun index => ops.objection_at_same_kind other tokens others index same
  have empty : tokens = [] ↔ others = [] := by
    rw [← List.length_eq_zero_iff, same.length_eq, List.length_eq_zero_iff]
  simp only [Refuses, FirstObjection, objections, ops.height_same_kind other tokens others same, empty]

end OperatorTable

theorem eval_by_kinds (ops : OperatorTable) (tokens : List String) :
    (∀ index e, ops.StopsAt tokens [] index e ↔ ops.FirstObjection tokens index e) ∧
    ((∀ index, ops.objectionAt? tokens index = none) →
      ∃ last, ops.run tokens [] = .ok last ∧ (last.length : Int) = ops.height tokens ∧
        ops.height tokens = (tokens.countP fun token => ops.kind token = .number : Int) -
          (tokens.countP fun token => ops.kind token = .binary : Int)) ∧
    (∀ leftover e, (Calculator.mk ops leftover).eval ⟨tokens⟩ = .error e ↔
      (∃ index, ops.FirstObjection tokens index e) ∨
      (∀ index, ops.objectionAt? tokens index = none) ∧
        ((tokens = [] ∧ e = .noResult) ∨
          (leftover = .reject ∧ 2 ≤ ops.height tokens ∧ e = .leftoverOperands (ops.height tokens).toNat))) ∧
    ∀ (other : OperatorTable) (others : List String), List.Forall₂ (ops.SameKind other) tokens others →
      ∀ leftover e, (Calculator.mk ops leftover).eval ⟨tokens⟩ = .error e ↔
        (Calculator.mk other leftover).eval ⟨others⟩ = .error e := by
  refine ⟨ops.stops_at_iff_first tokens, ?_, ?_, ?_⟩
  · intro none
    obtain ⟨last, ran, level⟩ := ops.run_of_no_objection tokens none
    exact ⟨last, ran, level, ops.height_counts tokens⟩
  · intro leftover e
    exact (Calculator.mk ops leftover).eval_error_iff tokens e
  · intro other others same leftover e
    rw [Calculator.eval_error_iff, Calculator.eval_error_iff]
    exact ops.refuses_same_kind other leftover tokens others e same

-- `inf` is a numeral here although it is bound, and `x` is never reached.
theorem eval_by_kinds_bound_numeral :
    let ops := (OperatorTable.empty.insert "inf" (.unary Float.abs)).insert "+" (.binary fun left right => left + right)
    let other := OperatorTable.empty.insert "+" (.binary Float.atan2)
    ops.StopsAt ["inf", "2", "+", "+", "x"] [] 3 (.missingOperand "+") ∧
      (Calculator.mk ops .discard).eval ⟨["inf", "2", "+", "+", "x"]⟩ = .error (.missingOperand "+") ∧
      (Calculator.mk other .discard).eval ⟨["7", "nan", "+", "+", "x"]⟩ = .error (.missingOperand "+") ∧
      ops.height ["2", "inf"] = 2 ∧ (Calculator.mk ops .reject).eval ⟨["2", "inf"]⟩ = .error (.leftoverOperands 2) := by
  intro ops other
  have first : ops.FirstObjection ["inf", "2", "+", "+", "x"] 3 (.missingOperand "+") := by decide
  have same : List.Forall₂ (ops.SameKind other) ["inf", "2", "+", "+", "x"] ["7", "nan", "+", "+", "x"] := by
    refine .cons ⟨?_, .inl ?_⟩ (.cons ⟨?_, .inl ?_⟩ (.cons ⟨?_, .inr rfl⟩ (.cons ⟨?_, .inr rfl⟩ (.cons ⟨?_, .inr rfl⟩ .nil)))) <;>
      decide
  obtain ⟨stops, _, errors, kinds⟩ := eval_by_kinds ops ["inf", "2", "+", "+", "x"]
  have failed := (errors .discard _).mpr (Or.inl ⟨3, first⟩)
  have passed := ops.no_objection_of_run ["2", "inf"] [1 / 0, 2] (by decide)
  obtain ⟨_, heights, leftovers, _⟩ := eval_by_kinds ops ["2", "inf"]
  obtain ⟨_, _, _, counted⟩ := heights passed
  have level : ops.height ["2", "inf"] = 2 := counted.trans (by decide)
  refine ⟨(stops 3 _).mpr first, failed, (kinds other _ same .discard _).mp failed, level, ?_⟩
  apply (leftovers .reject _).mpr
  exact Or.inr ⟨passed, Or.inr ⟨rfl, by omega, by rw [level]; rfl⟩⟩

end ReversePolish
