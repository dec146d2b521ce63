import ReversePolish.Log
import ReversePolish.Proofs.Balance
import ReversePolish.Proofs.FlatText
import ReversePolish.Proofs.Names
import ReversePolish.Proofs.Stopping

set_option autoImplicit false

namespace ReversePolish

theorem depth_brackets (text : List Char) : depth (text.filter Text.isBracket) = depth text := by
  rw [depth, depth, List.count_filter rfl, List.count_filter rfl]

theorem falls_brackets (start : Int) (text : List Char) : Falls start (text.filter Text.isBracket) ↔ Falls start text := by
  constructor
  · rintro ⟨front, begins, below⟩
    obtain ⟨part, within, rfl⟩ := List.prefix_filter_iff.mp begins
    rw [depth_brackets] at below
    exact ⟨part, within, below⟩
  · rintro ⟨front, begins, below⟩
    exact ⟨front.filter Text.isBracket, begins.filter Text.isBracket, by rwa [depth_brackets]⟩

namespace Waiting

def levels (stack : List Waiting) : Nat := stack.count .bracket

theorem levels_outside (stack : List Waiting) : levels (outside stack) = levels stack := by
  induction stack with
  | nil => rfl
  | cons top rest ih =>
      cases top with
      | bracket => rfl
      | char c => simpa [levels, outside] using ih

theorem levels_zero_iff (stack : List Waiting) : levels stack = 0 ↔ outside stack = [] := by
  induction stack with
  | nil => exact ⟨fun _ => rfl, fun _ => rfl⟩
  | cons top rest ih =>
      cases top with
      | bracket => simp [levels, outside]
      | char c => simpa [levels, outside] using ih

theorem outside_of_levels (stack : List Waiting) (opened : 0 < levels stack) :
    ∃ outer, outside stack = .bracket :: outer ∧ levels outer + 1 = levels stack := by
  cases left : outside stack with
  | nil => exact absurd ((levels_zero_iff stack).mpr left) (Nat.ne_of_gt opened)
  | cons top outer =>
      cases top with
      | bracket =>
          have same := levels_outside stack
          rw [left] at same
          exact ⟨outer, rfl, by simpa [levels] using same⟩
      | char c =>
          have closed := held_of_outside stack
          rw [left] at closed
          cases closed

theorem finish_error (stack : List Waiting) (opened : 0 < levels stack) : finish stack = .error .missingClosing := by
  induction stack with
  | nil => cases opened
  | cons top rest ih =>
      cases top with
      | bracket => rfl
      | char c =>
          rw [finish, ih (by simpa [levels] using opened)]
          rfl

end Waiting

def Lexeme.Flat (lexeme : Lexeme) : Prop := ∀ c ∈ lexeme.letters, c ≠ '(' ∧ c ≠ ')'

theorem Vocabulary.lex_flat (v : Vocabulary) (opening : v.Avoids '(') (closing : v.Avoids ')') (text : List Char) :
    ∀ lexeme ∈ v.lex text, lexeme = .opening ∨ lexeme = .closing ∨ lexeme.Flat := by
  intro lexeme member
  obtain ⟨c, rest, _, rfl⟩ := v.mem_lex text lexeme member
  have single : ∀ d : Char, d ≠ '(' → d ≠ ')' → ∀ e ∈ [d], e ≠ '(' ∧ e ≠ ')' := by
    intro d notOpening notClosing e same
    exact List.mem_singleton.mp same ▸ ⟨notOpening, notClosing⟩
  rcases v.lexeme_cases c rest with ⟨blank, read⟩ | ⟨_, read⟩ | ⟨_, read⟩ | ⟨_, word, found, read⟩ | ⟨unbroken, _, _, read⟩ |
    ⟨unbroken, _, _, read⟩ <;> rw [read]
  · obtain ⟨notOpening, notClosing⟩ := Text.blank_apart c blank
    exact Or.inr (Or.inr (single c notOpening notClosing))
  · exact Or.inl rfl
  · exact Or.inr (Or.inl rfl)
  · have known := List.mem_of_find?_eq_some found
    refine Or.inr (Or.inr fun d inside => ⟨?_, ?_⟩)
    · rintro rfl
      exact opening word known inside
    · rintro rfl
      exact closing word known inside
  · obtain ⟨_, notOpening, notClosing⟩ := Text.not_break c unbroken
    exact Or.inr (Or.inr (single c notOpening notClosing))
  · obtain ⟨_, notOpening, notClosing⟩ := Text.not_break c unbroken
    exact Or.inr (Or.inr (single c notOpening notClosing))

namespace Scan

open Waiting

theorem step_flat (s : Scan) (lexeme : Lexeme) (flat : lexeme.Flat) :
    ∃ written after, s.step lexeme = .ok (written, after) ∧ levels after.waiting = levels s.waiting := by
  by_cases inner : lexeme.isInner = true
  · obtain ⟨written, after, stepped, kept⟩ := step_inner s lexeme inner
    refine ⟨written, after, stepped, ?_⟩
    rw [← levels_outside after.waiting, kept, levels_outside]
  · cases lexeme with
    | blank c => exact ⟨_, _, rfl, levels_outside s.waiting⟩
    | opening => exact absurd rfl (flat '(' (List.mem_singleton_self _)).1
    | closing => exact absurd rfl (flat ')' (List.mem_singleton_self _)).2
    | name word => exact absurd rfl inner
    | symbol c => exact absurd rfl inner
    | plain c => exact absurd rfl inner

theorem step_closing (s : Scan) (opened : 0 < levels s.waiting) :
    ∃ written after, s.step .closing = .ok (written, after) ∧ levels after.waiting + 1 = levels s.waiting := by
  obtain ⟨outer, left, count⟩ := outside_of_levels s.waiting opened
  exact ⟨held s.waiting, ⟨outer, false⟩, by simp only [step, left], count⟩

theorem step_unopened (s : Scan) (none : levels s.waiting = 0) : s.step .closing = .error .missingOpening := by
  simp only [step, (levels_zero_iff s.waiting).mp none]

def Counts (s : Scan) (lexemes : List Lexeme) (text : List Char) : Prop :=
  (Falls (levels s.waiting) text → s.run lexemes = .error .missingOpening) ∧
  (¬ Falls (levels s.waiting) text → ∃ written last, s.run lexemes = .ok (written, last) ∧
    (levels last.waiting : Int) = levels s.waiting + depth text)

theorem counts_cons (s after : Scan) (lexeme : Lexeme) (rest : List Lexeme) (text written : List Char)
    (stepped : s.step lexeme = .ok (written, after))
    (falls : Falls (levels s.waiting) (lexeme.letters ++ text) ↔ Falls (levels after.waiting) text)
    (level : (levels after.waiting : Int) = levels s.waiting + depth lexeme.letters) (counts : after.Counts rest text) :
    s.Counts (lexeme :: rest) (lexeme.letters ++ text) := by
  constructor
  · intro below
    have failed := counts.1 (falls.mp below)
    rw [run, stepped]
    dsimp only
    rw [failed]
    rfl
  · intro above
    obtain ⟨more, last, ran, count⟩ := counts.2 fun below => above (falls.mpr below)
    refine ⟨written ++ more, last, (run_cons_ok _ _ _ _ _).mpr ⟨written, after, more, stepped, ran, rfl⟩, ?_⟩
    rw [depth_append]
    omega

-- The induction is on the lexemes, from any state: the brackets on its stack are those open before.
theorem run_counts (s : Scan) (lexemes : List Lexeme)
    (flat : ∀ lexeme ∈ lexemes, lexeme = .opening ∨ lexeme = .closing ∨ lexeme.Flat) :
    s.Counts lexemes (lexemes.flatMap Lexeme.letters) := by
  induction lexemes generalizing s with
  | nil =>
      have never : ¬ Falls (levels s.waiting) [] := not_falls_free _ [] (Int.natCast_nonneg _) (by simp)
      exact ⟨fun below => absurd below never, fun _ => ⟨[], s, rfl, (Int.add_zero _).symm⟩⟩
  | cons lexeme rest ih =>
      have later := fun after : Scan => ih after fun l member => flat l (List.mem_cons_of_mem lexeme member)
      have opened : (0 : Int) ≤ levels s.waiting := Int.natCast_nonneg _
      rw [List.flatMap_cons]
      rcases flat lexeme List.mem_cons_self with rfl | rfl | free
      · have level : (levels (.bracket :: s.waiting) : Int) = levels s.waiting + 1 := by simp [levels]
        refine counts_cons s _ .opening rest _ [] rfl ?_ level (later ⟨.bracket :: s.waiting, false⟩)
        rw [level]
        exact falls_opening _ _ opened
      · by_cases none : levels s.waiting = 0
        · have below : Falls (levels s.waiting) (')' :: rest.flatMap Lexeme.letters) := by
            rw [none]
            exact falls_unopened _
          refine ⟨fun _ => ?_, fun above => absurd below above⟩
          rw [run, step_unopened s none]
        · obtain ⟨written, after, stepped, count⟩ := step_closing s (Nat.pos_of_ne_zero none)
          have level : (levels after.waiting : Int) = levels s.waiting - 1 := by omega
          refine counts_cons s after .closing rest _ written stepped ?_ level (later after)
          rw [level]
          exact falls_closing _ _ (by omega)
      · obtain ⟨written, after, stepped, same⟩ := step_flat s lexeme free
        refine counts_cons s after lexeme rest _ written stepped ?_ ?_ (later after)
        · rw [same]
          exact falls_free _ _ _ opened free
        · rw [same, depth_free _ free, Int.add_zero]

end Scan

def bracketVerdict (text : List Char) : Except BracketError Unit :=
  if Falls 0 text then .error .missingOpening
  else if 0 < depth text then .error .missingClosing
  else .ok ()

theorem verdict_brackets (text : List Char) : bracketVerdict (text.filter Text.isBracket) = bracketVerdict text := by
  simp only [bracketVerdict, falls_brackets, depth_brackets]

theorem verdict_opening_iff (text : List Char) :
    bracketVerdict text = .error .missingOpening ↔ ∃ front, front <+: text ∧ depth front < 0 := by
  have falls : (∃ front, front <+: text ∧ depth front < 0) ↔ Falls 0 text := by simp [Falls]
  rw [falls, bracketVerdict]
  by_cases below : Falls 0 text
  · simp [below]
  · by_cases opened : 0 < depth text <;> simp [below, opened]

theorem verdict_closing_iff (text : List Char) :
    bracketVerdict text = .error .missingClosing ↔ (∀ front, front <+: text → 0 ≤ depth front) ∧ 0 < depth text := by
  have stays : (∀ front, front <+: text → 0 ≤ depth front) ↔ ¬ Falls 0 text := by simp [Falls]
  rw [stays, bracketVerdict]
  by_cases below : Falls 0 text
  · simp [below]
  · by_cases opened : 0 < depth text <;> simp [below, opened]

theorem verdict_ok_iff (text : List Char) : bracketVerdict text = .ok () ↔ Balanced text := by
  have stays : (∀ front ∈ text.inits, 0 ≤ depth front) ↔ ¬ Falls 0 text := by simp [Falls]
  rw [Balanced, stays, bracketVerdict]
  by_cases below : Falls 0 text
  · simp [below]
  · have whole : 0 ≤ depth text := stays.mpr below text (by simp)
    by_cases opened : 0 < depth text
    · have unequal : depth text ≠ 0 := Int.ne_of_gt opened
      simp [below, opened, unequal]
    · have level : depth text = 0 := Int.le_antisymm (Int.not_lt.mp opened) whole
      simp [below, level]

namespace Vocabulary

theorem flat_verdict (v : Vocabulary) (opening : v.Avoids '(') (closing : v.Avoids ')') (text : List Char) :
    (v.flatText text).map (fun _ => ()) = bracketVerdict text := by
  obtain ⟨falls, stays⟩ := Scan.run_counts .start (v.lex text) (v.lex_flat opening closing text)
  rw [lex_letters] at falls stays
  change Falls 0 text → _ at falls
  change ¬ Falls 0 text → _ at stays
  rw [bracketVerdict, flat_complete]
  by_cases below : Falls 0 text
  · rw [if_pos below, falls below]
    rfl
  · obtain ⟨written, last, ran, count⟩ := stays below
    have level : (Waiting.levels last.waiting : Int) = depth text := by
      rw [count]
      exact Int.zero_add _
    rw [if_neg below, ran, Scan.complete]
    by_cases opened : 0 < depth text
    · rw [if_pos opened, Waiting.finish_error last.waiting (by omega)]
      rfl
    · have closed := (Waiting.levels_zero_iff last.waiting).mp (by omega)
      rw [if_neg opened, (Waiting.finish_ok_iff _ _).mpr ⟨closed, rfl⟩]
      rfl

theorem flatten_verdict (v : Vocabulary) (opening : v.Avoids '(') (closing : v.Avoids ')') (expression : String) :
    (v.flatten expression).map (fun _ => ()) = bracketVerdict expression.toList := by
  rw [← v.flat_verdict opening closing, flatten]
  cases v.flatText expression.toList <;> rfl

end Vocabulary

theorem error_iff_map {α : Type} (result : Except BracketError α) (e : BracketError) :
    result = .error e ↔ result.map (fun _ => ()) = .error e := by
  cases result <;> simp [Except.map]

theorem ok_iff_map {α : Type} (result : Except BracketError α) :
    (∃ value, result = .ok value) ↔ result.map (fun _ => ()) = .ok () := by
  cases result <;> simp [Except.map]

namespace Calculator

theorem log_empty_iff (c : Calculator) (expression : String) :
    c.log expression = [] ↔ ∃ e, c.flatten expression = .error e := by
  rw [log]
  cases c.flatten expression <;> simp

end Calculator

-- The brackets alone decide. A bracket error is what the evaluation gives, and no token is evaluated.
theorem flatten_bracket_errors (ops : OperatorTable) (opening : ops.NamesAvoid '(') (closing : ops.NamesAvoid ')')
    (expression : String) :
    let flat := ops.vocabulary.flatten expression
    (flat = .error .missingOpening ↔ ∃ front, front <+: expression.toList ∧ depth front < 0) ∧
    (flat = .error .missingClosing ↔
      (∀ front, front <+: expression.toList → 0 ≤ depth front) ∧ 0 < depth expression.toList) ∧
    ((∃ p, flat = .ok p) ↔ Balanced expression.toList) ∧
    (∀ other : String, other.toList.filter Text.isBracket = expression.toList.filter Text.isBracket →
      (ops.vocabulary.flatten other).map (fun _ => ()) = flat.map fun _ => ()) ∧
    ∀ leftover, (∀ e, (Calculator.mk ops leftover).evaluate expression = .error (.brackets e) ↔ flat = .error e) ∧
      ((Calculator.mk ops leftover).log expression = [] ↔ ∃ e, flat = .error e) := by
  have verdict := ops.vocabulary.flatten_verdict (ops.vocabulary_avoids '(' opening) (ops.vocabulary_avoids ')' closing)
  refine ⟨?_, ?_, ?_, fun other same => ?_, fun leftover => ⟨fun e => ?_, ?_⟩⟩
  · rw [error_iff_map, verdict, verdict_opening_iff]
  · rw [error_iff_map, verdict, verdict_closing_iff]
  · rw [ok_iff_map, verdict, verdict_ok_iff]
  · rw [verdict, verdict, ← verdict_brackets, same, verdict_brackets]
  · exact (Calculator.mk ops leftover).evaluate_brackets_iff expression e
  · exact (Calculator.mk ops leftover).log_empty_iff expression

theorem flatten_bracket_errors_unclosed :
    OperatorTable.standard.vocabulary.flatten "(1 sin)2 ^(3 (" = .error .missingClosing ∧
      Calculator.strict.evaluate "(1 sin)2 ^(3 (" = .error (.brackets .missingClosing) ∧
      Calculator.strict.log "(1 sin)2 ^(3 (" = [] := by
  obtain ⟨_, unclosed, _, _, evaluation⟩ := flatten_bracket_errors .standard (OperatorTable.standard_names_avoid '(' rfl)
    (OperatorTable.standard_names_avoid ')' rfl) "(1 sin)2 ^(3 ("
  have above : ∀ front ∈ "(1 sin)2 ^(3 (".toList.inits, 0 ≤ depth front := by decide +kernel
  have flat := unclosed.mpr ⟨fun front begins => above front ((List.mem_inits _ _).mpr begins), by decide +kernel⟩
  obtain ⟨reported, silent⟩ := evaluation .reject
  exact ⟨flat, (reported _).mpr flat, silent.mpr ⟨_, flat⟩⟩

end ReversePolish
