import ReversePolish.Proofs.BracketErrors
import ReversePolish.Proofs.TokenKinds

set_option autoImplicit false

namespace ReversePolish

namespace OperatorTable

theorem records_get (ops : OperatorTable) (tokens : List String) (stack : List Float) (index : Nat) (record : Record) :
    (ops.records tokens stack)[index]? = some record ↔
      ∃ token reached, tokens[index]? = some token ∧ ops.run (tokens.take (index + 1)) stack = .ok reached ∧
        record = .operands token reached.reverse := by
  induction tokens generalizing stack index with
  | nil => simp [records]
  | cons token rest ih =>
      cases stepped : ops.step token stack with
      | error e => simp [records, run, stepped]
      | ok after =>
          cases index with
          | zero => simp [records, run, stepped, eq_comm]
          | succ index =>
              have later := ih after index
              simpa [records, run, stepped] using later

theorem records_of_run (ops : OperatorTable) (tokens : List String) (stack last : List Float)
    (ran : ops.run tokens stack = .ok last) : (ops.records tokens stack).length = tokens.length := by
  induction tokens generalizing stack with
  | nil => rfl
  | cons token rest ih =>
      cases stepped : ops.step token stack with
      | error e => simp [run, stepped] at ran
      | ok after =>
          have later := ih after (by simpa only [run, stepped] using ran)
          simp only [records, stepped, List.length_cons, later]

theorem records_of_stop (ops : OperatorTable) (tokens : List String) (stack : List Float) (index : Nat) (e : EvalError)
    (stops : ops.StopsAt tokens stack index e) : (ops.records tokens stack).length = index := by
  induction tokens generalizing stack index with
  | nil =>
      obtain ⟨token, _, here, _⟩ := stops
      cases here
  | cons token rest ih =>
      cases index with
      | zero =>
          have failed := (ops.stops_at_head token rest stack e).mp stops
          simp only [records, failed, List.length_nil]
      | succ index =>
          obtain ⟨after, stepped, later⟩ := (ops.stops_at_later token rest stack index e).mp stops
          simp only [records, stepped, List.length_cons, ih after index later]

theorem last_record (ops : OperatorTable) (tokens : List String) (stack last : List Float) (filled : tokens ≠ [])
    (ran : ops.run tokens stack = .ok last) :
    ∃ token, (ops.records tokens stack).getLast? = some (.operands token last.reverse) := by
  have some := List.length_pos_of_ne_nil filled
  have size := ops.records_of_run tokens stack last ran
  have inside : tokens.length - 1 < tokens.length := by omega
  have whole : tokens.take (tokens.length - 1 + 1) = tokens := by
    rw [Nat.sub_add_cancel some, List.take_length]
  refine ⟨tokens[tokens.length - 1], ?_⟩
  rw [List.getLast?_eq_getElem?, size]
  apply (ops.records_get tokens stack _ _).mpr
  exact ⟨_, last, List.getElem?_eq_getElem inside, by rw [whole, ran], rfl⟩

structure Traces (ops : OperatorTable) (tokens : List String) (traces : List Record) : Prop where
  shows : ∀ index record, traces[index]? = some record ↔ ∃ token stack, tokens[index]? = some token ∧
    ops.run (tokens.take (index + 1)) [] = .ok stack ∧ record = .operands token stack.reverse
  ends : (∃ last, ops.run tokens [] = .ok last ∧ traces.length = tokens.length) ∨ ∃ e, ops.StopsAt tokens [] traces.length e
  heights : ∀ (index : Nat) token shown, traces[index]? = some (.operands token shown) →
    (shown.length : Int) = ((tokens.take (index + 1)).countP fun token => ops.kind token = .number : Int) -
      ((tokens.take (index + 1)).countP fun token => ops.kind token = .binary : Int)

theorem records_traces (ops : OperatorTable) (tokens : List String) : ops.Traces tokens (ops.records tokens []) where
  shows := ops.records_get tokens []
  ends := by
    cases ran : ops.run tokens [] with
    | ok last => exact Or.inl ⟨last, rfl, ops.records_of_run tokens [] last ran⟩
    | error e =>
        obtain ⟨index, stops⟩ := (ops.run_error_iff tokens [] e).mp ran
        rw [ops.records_of_stop tokens [] index e stops]
        exact Or.inr ⟨e, stops⟩
  heights := by
    intro index token shown here
    obtain ⟨_, stack, _, ran, same⟩ := (ops.records_get tokens [] index _).mp here
    cases same
    rw [List.length_reverse, ops.level_of_run _ stack ran, ops.height_counts]

theorem Traces.levels {ops : OperatorTable} {tokens : List String} {traces : List Record} (traced : ops.Traces tokens traces) :
    traces.map Record.level = List.replicate traces.length .trace := by
  apply List.map_eq_replicate_iff.mpr
  intro record member
  obtain ⟨index, here⟩ := List.getElem?_of_mem member
  obtain ⟨_, _, _, _, same⟩ := (traced.shows index record).mp here
  rw [same]
  rfl

end OperatorTable

namespace Calculator

theorem settle_ok (c : Calculator) (stack : List Float) (value : Float) (settled : c.settle stack = .ok value) :
    ∃ below, stack = value :: below := by
  rcases stack with _ | ⟨top, _ | ⟨next, below⟩⟩
  · cases settled
  · cases settled
    exact ⟨[], rfl⟩
  · cases policy : c.leftover <;> simp only [settle, policy] at settled <;> cases settled
    exact ⟨next :: below, rfl⟩

theorem settle_several (ops : OperatorTable) (stack : List Float) (several : 1 < stack.length) :
    (Calculator.mk ops .reject).settle stack = .error (.leftoverOperands (1 + stack.reverse.dropLast.length)) := by
  have size : 1 + stack.reverse.dropLast.length = stack.length := by
    rw [List.length_dropLast, List.length_reverse]
    omega
  rw [size]
  apply ((Calculator.mk ops .reject).settle_error_iff stack _).mpr
  exact Or.inr ⟨rfl, several, rfl⟩

theorem discarded_reject (ops : OperatorTable) (p : Postfix) (stack : List Float) :
    (Calculator.mk ops .reject).discarded p stack = [] := by
  rcases stack with _ | ⟨top, _ | ⟨next, below⟩⟩ <;> rfl

theorem discarded_several (ops : OperatorTable) (p : Postfix) (stack : List Float) :
    (Calculator.mk ops .discard).discarded p stack =
      if 1 < stack.length then [.discarded stack.reverse.dropLast p] else [] := by
  rcases stack with _ | ⟨top, _ | ⟨next, below⟩⟩
  · rfl
  · rfl
  · rw [if_pos (by simp), List.dropLast_reverse]
    rfl

theorem eval_log_reject (ops : OperatorTable) (p : Postfix) :
    (Calculator.mk ops .reject).evalLog p = ops.records p.tokens [] := by
  rw [evalLog]
  cases ops.run p.tokens [] with
  | error e => exact List.append_nil _
  | ok stack => simp only [discarded_reject, List.append_nil]

theorem eval_log_discard (ops : OperatorTable) (p : Postfix) :
    ∃ info, (Calculator.mk ops .discard).evalLog p = ops.records p.tokens [] ++ info ∧
      (info ≠ [] ↔ ∃ last, ops.run p.tokens [] = .ok last ∧ 1 < last.length) ∧
      ∀ record ∈ info, ∃ token shown, (ops.records p.tokens []).getLast? = some (.operands token shown) ∧
        info = [.discarded shown.dropLast p] ∧
        (Calculator.mk ops .reject).eval p = .error (.leftoverOperands (1 + shown.dropLast.length)) := by
  cases ran : ops.run p.tokens [] with
  | error e =>
      refine ⟨[], ?_, by simp, by simp⟩
      simp only [evalLog, ran]
  | ok stack =>
      by_cases several : 1 < stack.length
      · refine ⟨[.discarded stack.reverse.dropLast p], ?_, by simpa using several, ?_⟩
        · simp only [evalLog, ran, discarded_several, if_pos several]
        · intro record _
          have filled : p.tokens ≠ [] := by
            intro empty
            rw [empty] at ran
            cases ran
            exact absurd several (by decide)
          obtain ⟨token, last⟩ := ops.last_record p.tokens [] stack filled ran
          refine ⟨token, stack.reverse, last, rfl, ?_⟩
          rw [eval_of_run _ p stack ran, settle_several ops stack several]
      · refine ⟨[], ?_, by simpa using several, by simp⟩
        simp only [evalLog, ran, discarded_several, if_neg several]

theorem log_of_flatten (c : Calculator) (expression : String) (p : Postfix) (flat : c.flatten expression = .ok p) :
    c.log expression = .flattened expression p :: c.evalLog p := by
  rw [log, flat]

theorem value_shown (c : Calculator) (expression : String) (p : Postfix) (value : Float) (flat : c.flatten expression = .ok p)
    (valued : c.evaluate expression = .ok value) :
    ∃ token shown, (c.operators.records p.tokens []).getLast? = some (.operands token shown) ∧
      shown.getLast? = some value := by
  rw [c.evaluate_of_flatten expression p flat] at valued
  cases ran : c.operators.run p.tokens [] with
  | error e =>
      rw [c.eval_of_failure p e ran] at valued
      cases valued
  | ok stack =>
      rw [c.eval_of_run p stack ran] at valued
      cases settled : c.settle stack with
      | error e =>
          rw [settled] at valued
          cases valued
      | ok result =>
          rw [settled] at valued
          cases valued
          obtain ⟨below, rfl⟩ := c.settle_ok stack value settled
          have filled : p.tokens ≠ [] := by
            intro empty
            rw [empty] at ran
            cases ran
          obtain ⟨token, last⟩ := c.operators.last_record p.tokens [] _ filled ran
          exact ⟨token, _, last, by simp⟩

end Calculator

theorem log_of_evaluation (ops : OperatorTable) (expression : String) :
    (∀ e, ops.vocabulary.flatten expression = .error e → ∀ leftover, (Calculator.mk ops leftover).log expression = []) ∧
    ∀ p, ops.vocabulary.flatten expression = .ok p → ∃ traces info : List Record, ops.Traces p.tokens traces ∧
      (Calculator.mk ops .discard).log expression = .flattened expression p :: traces ++ info ∧
      (Calculator.mk ops .reject).log expression = .flattened expression p :: traces ∧
      ((Calculator.mk ops .reject).log expression).map Record.level = .debug :: List.replicate traces.length .trace ∧
      (info ≠ [] ↔ ∃ last, ops.run p.tokens [] = .ok last ∧ 1 < last.length) ∧
      (∀ record ∈ info, ∃ token shown, traces.getLast? = some (.operands token shown) ∧
        info = [.discarded shown.dropLast p] ∧ info.map Record.level = [.info] ∧
        (Calculator.mk ops .reject).evaluate expression =
          .error (.evaluation (.leftoverOperands (1 + shown.dropLast.length)))) ∧
      ∀ leftover value, (Calculator.mk ops leftover).evaluate expression = .ok value →
        ∃ token shown, traces.getLast? = some (.operands token shown) ∧ shown.getLast? = some value := by
  constructor
  · intro e failed leftover
    exact ((Calculator.mk ops leftover).log_empty_iff expression).mpr ⟨e, failed⟩
  · intro p flat
    have traced := ops.records_traces p.tokens
    obtain ⟨info, discarding, present, shown⟩ := Calculator.eval_log_discard ops p
    have rejecting : (Calculator.mk ops .reject).log expression = .flattened expression p :: ops.records p.tokens [] := by
      rw [(Calculator.mk ops .reject).log_of_flatten expression p flat, Calculator.eval_log_reject]
    refine ⟨ops.records p.tokens [], info, traced, ?_, rejecting, ?_, present, ?_, ?_⟩
    · rw [(Calculator.mk ops .discard).log_of_flatten expression p flat, discarding]
      rfl
    · rw [rejecting, List.map_cons, traced.levels]
      rfl
    · intro record member
      obtain ⟨token, stack, last, same, refused⟩ := shown record member
      refine ⟨token, stack, last, same, by rw [same]; rfl, ?_⟩
      rw [(Calculator.mk ops .reject).evaluate_of_flatten expression p flat, refused]
      rfl
    · intro leftover value
      exact (Calculator.mk ops leftover).value_shown expression p value flat

-- The sum is the value, the number before it is left over, and without its bracket the expression leaves no record.
theorem log_of_evaluation_leftover :
    let p := Postfix.mk ["7", "1", "2", "+"]
    (∃ traces token shown, traces.getLast? = some (.operands token shown) ∧ shown.getLast? = some 3 ∧
      Calculator.lenient.log "7 (1 2 +)" = .flattened "7 (1 2 +)" p :: traces ++ [.discarded shown.dropLast p] ∧
      Calculator.strict.log "7 (1 2 +)" = .flattened "7 (1 2 +)" p :: traces ∧
      Calculator.strict.evaluate "7 (1 2 +)" = .error (.evaluation (.leftoverOperands (1 + shown.dropLast.length)))) ∧
    Calculator.strict.log "7 (1 2 +" = [] := by
  intro p
  have flat : OperatorTable.standard.vocabulary.flatten "7 (1 2 +)" = .ok p := rfl
  have unclosed : OperatorTable.standard.vocabulary.flatten "7 (1 2 +" = .error .missingClosing := rfl
  have ran : OperatorTable.standard.run p.tokens [] = .ok [3, 7] := by decide +kernel
  have valued : Calculator.lenient.evaluate "7 (1 2 +)" = .ok 3 := by decide +kernel
  obtain ⟨_, records⟩ := log_of_evaluation .standard "7 (1 2 +)"
  obtain ⟨traces, info, _, discarding, rejecting, _, present, shows, top⟩ := records p flat
  obtain ⟨record, member⟩ := List.exists_mem_of_ne_nil info (present.mpr ⟨[3, 7], ran, by decide⟩)
  obtain ⟨token, shown, last, same, _, refused⟩ := shows record member
  obtain ⟨_, stack, again, value⟩ := top .discard 3 valued
  rw [last] at again
  cases again
  rw [same] at discarding
  exact ⟨⟨traces, token, shown, last, value, discarding, rejecting, refused⟩,
    (log_of_evaluation .standard "7 (1 2 +").1 _ unclosed .reject⟩

end ReversePolish
