import ReversePolish.Proofs.Characters
import ReversePolish.Proofs.Numerals
import ReversePolish.Proofs.Stopping
import ReversePolish.Proofs.WordOrder

set_option autoImplicit false

namespace ReversePolish

open Text

namespace OperatorTable

structure SymbolsApart (ops : OperatorTable) : Prop where
  names : ∀ name ∈ ops.bindings.map Binding.name, ∀ c ∈ ops.symbols, c ∈ name.toList → name = String.singleton c
  numerals : ∀ c ∈ ops.symbols, Decimal.isNumeralChar c = false
  breaks : ∀ c, isBreak c = true → ops.NamesAvoid c

theorem standard_names : standard.bindings.map Binding.name = ["*", "+", "-", "/", "^", "cos", "sin", "tan"] := by
  rfl

theorem standard_symbols_apart : standard.SymbolsApart where
  names := by
    rw [standard_names, standard_symbols]
    simp
  numerals := by
    rw [standard_symbols]
    intro c member
    rw [List.mem_singleton.mp member]
    rfl
  breaks := standard_names_avoid

theorem unknown_of_symbol (ops : OperatorTable) (apart : ops.SymbolsApart) (token : String) (c : Char)
    (symbol : c ∈ ops.symbols) (inside : c ∈ token.toList) (several : token ≠ String.singleton c) :
    ops.role token = .unknown := by
  have word : Decimal.float? token = none := by
    cases read : Decimal.float? token with
    | none => rfl
    | some value =>
        have numeral := Decimal.numeral_chars token value read c inside
        rw [apart.numerals c symbol] at numeral
        cases numeral
  have unbound : ops.lookup token = none :=
    Binding.find_none token ops.bindings fun bound => several (apart.names token bound c symbol inside)
  rw [role, word, unbound]

theorem flat_token_alike (ops : OperatorTable) (apart : ops.SymbolsApart) (token again : List Char)
    (unbroken : ∀ c ∈ token, isBreak c = false) (flat : ops.vocabulary.flatText token = .ok again) :
    ops.Alike (String.ofList token) (String.ofList again) := by
  obtain ⟨out, whole, letters⟩ := ops.vocabulary.flat_word token unbroken
  rw [flat] at whole
  cases whole
  by_cases ordinary : ∀ c ∈ token, c ∉ ops.symbols
  · have fixed := ops.vocabulary.flat_in_order token unbroken ordinary
    rw [flat] at fixed
    cases fixed
    exact Or.inl rfl
  · obtain ⟨c, inside, symbol⟩ : ∃ c ∈ token, c ∈ ops.symbols := by simpa using ordinary
    by_cases alone : token = [c]
    · rw [alone, List.perm_singleton] at letters
      exact Or.inl (by rw [alone, letters])
    · have several : again ≠ [c] := fun same => alone (List.perm_singleton.mp (same ▸ letters.symm))
      refine Or.inr ⟨?_, ?_, ?_⟩
      · refine ops.unknown_of_symbol apart _ c symbol (by simpa using inside) fun same => alone ?_
        simpa using congrArg String.toList same
      · refine ops.unknown_of_symbol apart _ c symbol (by simpa using letters.symm.subset inside) fun same => several ?_
        simpa using congrArg String.toList same
      · simpa using letters.symm

end OperatorTable

theorem Vocabulary.flatten_text_words (v : Vocabulary) (avoids : ∀ c, isBreak c = true → v.Avoids c) (expression : String)
    (p : Postfix) (flat : v.flatten expression = .ok p) :
    ∃ q, v.flatten p.text = .ok q ∧
      List.Forall₂ (fun token next => (∀ c ∈ token.toList, isBreak c = false) ∧ v.flatText token.toList = .ok next.toList)
        p.tokens q.tokens := by
  have brackets : ∀ c, isBracket c = true → v.Avoids c := fun c bracket => avoids c (break_of_bracket c bracket)
  have free := v.text_unbracketed brackets expression p flat
  obtain ⟨again, flatAgain, words, _⟩ := flat_grouped v avoids _ (grouped_free _ free)
  rw [spaced_brackets_free _ free, p.text_fields (v.flatten_solid expression p flat), List.forall₂_map_left_iff] at words
  refine ⟨_, (v.flatten_ok_iff _ _).mpr ⟨again, flatAgain, rfl⟩, ?_⟩
  have unbroken : ∀ token ∈ p.tokens, ∀ c ∈ token.toList, isBreak c = false :=
    fun token known c inside => (v.mem_of_token brackets expression token p flat known c inside).2
  rw [List.forall₂_map_right_iff]
  simpa only [String.toList_ofList] using (List.forall₂_and_left _ _).mpr ⟨unbroken, words⟩

theorem flatten_text (ops : OperatorTable) (apart : ops.SymbolsApart) (expression : String) (p : Postfix)
    (flat : ops.vocabulary.flatten expression = .ok p) :
    ∃ q, ops.vocabulary.flatten p.text = .ok q ∧ List.Forall₂ ops.Alike p.tokens q.tokens := by
  have avoids : ∀ c, isBreak c = true → ops.vocabulary.Avoids c := fun c broken => ops.vocabulary_avoids c (apart.breaks c broken)
  obtain ⟨q, again, words⟩ := ops.vocabulary.flatten_text_words avoids expression p flat
  refine ⟨q, again, words.imp ?_⟩
  intro token next both
  simpa only [String.ofList_toList] using ops.flat_token_alike apart token.toList next.toList both.1 both.2

-- Flattening the text of a flat expression changes nothing that the evaluator accepts. An error stays
-- at its token; only the letters of an unknown token can be moved.
theorem evaluate_text (leftover : Leftover) (expression : String) (p : Postfix)
    (flat : (Calculator.mk .standard leftover).flatten expression = .ok p) :
    let c := Calculator.mk .standard leftover
    ∃ q, c.flatten p.text = .ok q ∧
      ((∃ value, c.evaluate expression = .ok value) ↔ ∃ value, c.evaluate p.text = .ok value) ∧
      (∀ value, c.evaluate expression = .ok value → q = p ∧ c.evaluate p.text = .ok value) ∧
      ∀ failure, c.evaluate expression = .error failure →
        ∃ e other, failure = .evaluation e ∧ c.evaluate p.text = .error (.evaluation other) ∧ e.Rearranged other ∧
          ∀ index, c.operators.StopsAt p.tokens [] index e ↔ c.operators.StopsAt q.tokens [] index other := by
  intro c
  obtain ⟨q, again, alike⟩ := flatten_text .standard OperatorTable.standard_symbols_apart expression p flat
  have flatAgain : c.flatten p.text = .ok q := again
  refine ⟨q, flatAgain, ?_⟩
  rcases OperatorTable.standard.run_alike p.tokens q.tokens [] alike with ⟨last, same, _⟩ |
    ⟨e, other, index, letters, first, second⟩
  · obtain rfl : p = q := congrArg Postfix.mk same
    have unchanged : c.evaluate p.text = c.evaluate expression := by
      rw [c.evaluate_of_flatten expression p flat, c.evaluate_of_flatten p.text p flatAgain]
    rw [unchanged]
    refine ⟨Iff.rfl, fun value valued => ⟨rfl, valued⟩, fun failure failed => ?_⟩
    rw [c.evaluate_of_flatten expression p flat] at failed ⊢
    cases result : c.eval p with
    | ok value =>
        rw [result] at failed
        cases failed
    | error e =>
        rw [result] at failed
        cases failed
        exact ⟨e, e, rfl, rfl, e.rearranged_refl, fun index => Iff.rfl⟩
  · rw [c.evaluate_of_stop expression p index e flat first, c.evaluate_of_stop p.text q index other flatAgain second]
    refine ⟨by simp, fun value valued => absurd valued (by simp), fun failure failed => ?_⟩
    cases failed
    refine ⟨e, other, rfl, rfl, letters, fun place => ?_⟩
    constructor
    · intro stops
      obtain ⟨rfl, _⟩ := c.operators.stops_at_unique p.tokens [] place index e e stops first
      exact second
    · intro stops
      obtain ⟨rfl, _⟩ := c.operators.stops_at_unique q.tokens [] place index other other stops second
      exact first

theorem evaluate_text_moved_symbol :
    Calculator.strict.evaluate "(1 2 +) 16^ 3" = .error (.evaluation (.unknownToken "1^6")) ∧
      ∃ other, Calculator.strict.evaluate "1 2 + 1^6 3" = .error (.evaluation other) ∧
        (EvalError.unknownToken "1^6").Rearranged other := by
  have flat : Calculator.strict.flatten "(1 2 +) 16^ 3" = .ok ⟨["1", "2", "+", "1^6", "3"]⟩ := by decide +kernel
  have failed : Calculator.strict.evaluate "(1 2 +) 16^ 3" = .error (.evaluation (.unknownToken "1^6")) := by decide +kernel
  have text : Postfix.text ⟨["1", "2", "+", "1^6", "3"]⟩ = "1 2 + 1^6 3" := by decide +kernel
  obtain ⟨_, _, _, _, errors⟩ := evaluate_text .reject _ _ flat
  obtain ⟨_, other, same, again, letters, _⟩ := errors _ failed
  cases same
  rw [text] at again
  exact ⟨failed, other, again, letters⟩

end ReversePolish
