import ReversePolish.Proofs.Insertions
import ReversePolish.Proofs.SetOff

set_option autoImplicit false

namespace ReversePolish

open Text

def Lexeme.inOrder : List Lexeme → Bool
  | .symbol _ :: .plain _ :: rest => inOrder rest
  | .plain _ :: .symbol _ :: _ => false
  | _ :: rest => inOrder rest
  | [] => true

namespace Scan

theorem complete_gluing (waiting : List Waiting) (lexemes : List Lexeme)
    (other : ∀ c rest, lexemes ≠ .plain c :: rest) :
    complete (Scan.run ⟨waiting, true⟩ lexemes) = complete (Scan.run ⟨waiting, false⟩ lexemes) := by
  cases lexemes with
  | nil => rfl
  | cons lexeme rest =>
      cases lexeme with
      | plain c => exact absurd rfl (other c rest)
      | blank c => rfl
      | opening => rfl
      | closing => rfl
      | name word => rfl
      | symbol c => rfl

theorem complete_waiting (c : Char) (lexemes : List Lexeme) (inner : ∀ lexeme ∈ lexemes, lexeme.isInner = true)
    (other : ∀ d rest, lexemes ≠ .symbol d :: rest) :
    complete (Scan.run ⟨[.char c], false⟩ lexemes) = (complete (Scan.run ⟨[], false⟩ lexemes)).map ([c] ++ ·) := by
  cases lexemes with
  | nil => rfl
  | cons lexeme rest =>
      have here := inner lexeme List.mem_cons_self
      cases lexeme with
      | blank d => cases here
      | opening => cases here
      | closing => cases here
      | symbol d => exact absurd rfl (other d rest)
      | name word =>
          rw [complete_cons _ ⟨[], false⟩ _ _ ([c] ++ word.toList) rfl, complete_cons _ ⟨[], false⟩ _ _ word.toList rfl]
          cases complete (Scan.run ⟨[], false⟩ rest) <;> rfl
      | plain d =>
          rw [complete_cons _ ⟨[.char d], false⟩ _ _ [c] rfl, complete_cons _ ⟨[.char d], false⟩ _ _ [] rfl]
          cases complete (Scan.run ⟨[.char d], false⟩ rest) <;> rfl

theorem complete_glued (c d : Char) (rest : List Lexeme) :
    complete (Scan.start.run (.symbol c :: .plain d :: rest)) = (complete (Scan.start.run rest)).map ([c, d] ++ ·) := by
  rw [complete_cons _ ⟨[], true⟩ _ _ [c] rfl, complete_cons _ ⟨[], false⟩ _ _ [d] rfl]
  change Except.map _ (Except.map _ (complete (Scan.start.run rest))) = _
  cases complete (Scan.start.run rest) <;> rfl

theorem complete_moved (c d : Char) (rest : List Lexeme) :
    complete (Scan.start.run (.plain c :: .symbol d :: rest)) =
      (complete (Scan.run ⟨[.char c], true⟩ rest)).map ([d] ++ ·) := by
  rw [complete_cons _ ⟨[.char c], false⟩ _ _ [] rfl, complete_cons _ ⟨[.char c], true⟩ _ _ [d] rfl]
  cases complete (Scan.run ⟨[.char c], true⟩ rest) <;> rfl

theorem complete_kept (lexeme : Lexeme) (rest : List Lexeme) (inner : ∀ l ∈ lexeme :: rest, l.isInner = true)
    (notGlued : ∀ c d more, lexeme = .symbol c → rest ≠ .plain d :: more)
    (notMoved : ∀ c d more, lexeme = .plain c → rest ≠ .symbol d :: more) :
    complete (Scan.start.run (lexeme :: rest)) = (complete (Scan.start.run rest)).map (lexeme.letters ++ ·) := by
  have here := inner lexeme List.mem_cons_self
  cases lexeme with
  | blank c => cases here
  | opening => cases here
  | closing => cases here
  | name word => exact complete_cons _ ⟨[], false⟩ _ _ word.toList rfl
  | symbol c =>
      rw [complete_cons _ ⟨[], true⟩ _ _ [c] rfl, complete_gluing [] rest fun d more => notGlued c d more rfl]
      rfl
  | plain c =>
      rw [complete_cons _ ⟨[.char c], false⟩ _ _ [] rfl, complete_waiting c rest
        (fun l member => inner l (List.mem_cons_of_mem _ member)) fun d more => notMoved c d more rfl]
      change Except.map _ (Except.map _ (complete (Scan.start.run rest))) = _
      cases complete (Scan.start.run rest) <;> rfl

theorem map_append_ok_iff (front out : List Char) (result : Except BracketError (List Char)) :
    result.map (front ++ ·) = .ok (front ++ out) ↔ result = .ok out := by
  cases result <;> simp [Except.map]

-- The induction follows the places that `inOrder` looks at; between them nothing waits.
theorem complete_in_order (lexemes : List Lexeme) (inner : ∀ lexeme ∈ lexemes, lexeme.isInner = true)
    (apart : ∀ c d, .plain c ∈ lexemes → .symbol d ∈ lexemes → c ≠ d) :
    complete (Scan.start.run lexemes) = .ok (lexemes.flatMap Lexeme.letters) ↔ Lexeme.inOrder lexemes = true := by
  induction lexemes using Lexeme.inOrder.induct with
  | case1 c d rest ih =>
      have later := ih (fun l member => inner l (by simp [member]))
        fun c d plain symbol => apart c d (by simp [plain]) (by simp [symbol])
      rw [complete_glued, Lexeme.inOrder, ← later]
      exact map_append_ok_iff [c, d] _ _
  | case2 c d rest =>
      have different := apart c d (by simp) (by simp)
      rw [complete_moved, Lexeme.inOrder]
      cases complete (Scan.run ⟨[.char c], true⟩ rest) with
      | error e => simp [Except.map]
      | ok out => simp [Except.map, Lexeme.letters, Ne.symm different]
  | case3 lexeme rest notGlued notMoved ih =>
      have later := ih (fun l member => inner l (by simp [member]))
        fun c d plain symbol => apart c d (by simp [plain]) (by simp [symbol])
      rw [complete_kept lexeme rest inner notGlued notMoved, List.flatMap_cons, map_append_ok_iff, later,
        Lexeme.inOrder.eq_3 lexeme rest notGlued notMoved]
  | case4 => exact ⟨fun _ => rfl, fun _ => rfl⟩

end Scan

namespace Vocabulary

theorem flat_word_iff (v : Vocabulary) (word : List Char) (unbroken : ∀ c ∈ word, isBreak c = false) :
    v.flatText word = .ok word ↔ Lexeme.inOrder (v.lex word) = true := by
  have apart : ∀ c d, .plain c ∈ v.lex word → .symbol d ∈ v.lex word → c ≠ d := by
    rintro c d plain symbol rfl
    exact v.mem_lex_plain word c plain (v.mem_lex_symbol word c symbol).2
  have whole := Scan.complete_in_order (v.lex word) (v.lex_unbroken word unbroken) apart
  rwa [v.lex_letters] at whole

theorem in_order_of_later (lexemes : List Lexeme) (ordinary : ∀ c, .symbol c ∉ lexemes.tail) :
    Lexeme.inOrder lexemes = true := by
  induction lexemes using Lexeme.inOrder.induct with
  | case1 c d rest ih => exact ih fun e member => ordinary e (by simp [List.mem_of_mem_tail member])
  | case2 c d rest => exact absurd List.mem_cons_self (ordinary d)
  | case3 lexeme rest notGlued notMoved ih =>
      rw [Lexeme.inOrder.eq_3 lexeme rest notGlued notMoved]
      exact ih fun e member => ordinary e (List.mem_of_mem_tail member)
  | case4 => rfl

theorem lex_in_order (v : Vocabulary) (word : List Char) (ordinary : ∀ c ∈ word.tail, c ∉ v.symbols) :
    Lexeme.inOrder (v.lex word) = true := by
  cases word with
  | nil => rfl
  | cons first rest =>
      rw [lex_cons]
      refine in_order_of_later _ fun c member => ?_
      obtain ⟨inside, symbol⟩ := v.mem_lex_symbol _ c member
      exact ordinary c (List.mem_of_mem_drop inside) symbol

theorem flat_in_order (v : Vocabulary) (word : List Char) (unbroken : ∀ c ∈ word, isBreak c = false)
    (ordinary : ∀ c ∈ word, c ∉ v.symbols) : v.flatText word = .ok word :=
  (v.flat_word_iff word unbroken).mpr (v.lex_in_order word fun c member => ordinary c (List.mem_of_mem_tail member))

theorem flat_words_iff (v : Vocabulary) (avoids : ∀ c, isBreak c = true → v.Avoids c) (text : List Char)
    (free : ∀ c ∈ text, isBracket c = false) :
    ∃ out, v.flatText text = .ok out ∧ (fields out = fields text ↔ ∀ word ∈ fields text, v.flatText word = .ok word) := by
  obtain ⟨out, flat, words, _⟩ := flat_grouped v avoids text (grouped_free text free)
  rw [spaced_brackets_free text free] at words
  refine ⟨out, flat, ?_⟩
  constructor
  · intro same
    rw [same] at words
    exact List.forall₂_same.mp words
  · exact fun fixed => List.right_unique_forall₂' v.flat_functional words (List.forall₂_same.mpr fixed)

theorem flatten_words_iff (v : Vocabulary) (avoids : ∀ c, isBreak c = true → v.Avoids c) (expression : String)
    (free : ∀ c ∈ expression.toList, isBracket c = false) :
    v.flatten expression = .ok ⟨(fields expression.toList).map String.ofList⟩ ↔
      ∀ word ∈ fields expression.toList, Lexeme.inOrder (v.lex word) = true := by
  obtain ⟨out, flat, fixed⟩ := v.flat_words_iff avoids expression.toList free
  have same : v.flatten expression = .ok ⟨(fields expression.toList).map String.ofList⟩ ↔
      fields out = fields expression.toList := by
    have injective : Function.Injective String.ofList := fun a b equal => by simpa using congrArg String.toList equal
    rw [flatten, flat, ← injective.list_map.eq_iff]
    simp [Except.map]
  rw [same, fixed]
  exact forall₂_congr fun word member => v.flat_word_iff word (fields_unbroken _ free word member)

end Vocabulary

namespace OperatorTable

theorem insert_all_names_avoid (start : OperatorTable) (history : List Binding) (c : Char) (avoid : start.NamesAvoid c)
    (names : ∀ b ∈ history, c ∉ b.name.toList) : (start.insertAll history).NamesAvoid c := by
  intro name unary several inside
  obtain ⟨function, bound⟩ := (is_unary_iff _ name).mp unary
  have absent : name ∉ history.reverse.map Binding.name := by
    intro member
    obtain ⟨b, entered, rfl⟩ := List.mem_map.mp member
    exact names b (List.mem_reverse.mp entered) inside
  rw [lookup_insert_all, Binding.latest?, Binding.find_none name _ absent] at bound
  exact avoid name ((start.is_unary_iff name).mpr ⟨function, bound⟩) several inside

theorem empty_names_avoid (c : Char) : empty.NamesAvoid c := by
  intro name unary
  cases unary

end OperatorTable

-- A word without breaks is flattened to itself exactly if it is in order, and so is every word of a text
-- without brackets. A word is in order if no character after its first is a symbol.
theorem flatten_words_in_order (start : OperatorTable) (base : start = .empty ∨ start = .standard) (history : List Binding)
    (names : ∀ b ∈ history, ∀ c ∈ b.name.toList, isBreak c = false) :
    let ops := start.insertAll history
    let v := ops.vocabulary
    (∀ token : String, token ≠ "" → (∀ c ∈ token.toList, isBreak c = false) →
      (v.flatten token = .ok ⟨[token]⟩ ↔ Lexeme.inOrder (v.lex token.toList) = true)) ∧
    (∀ token : String, (∀ c ∈ token.toList.tail, ¬ ops.isUnary (String.singleton c) = true) →
      Lexeme.inOrder (v.lex token.toList) = true) ∧
    ∀ (expression : String) (tokens : List String), (∀ c ∈ expression.toList, isBracket c = false) →
      (fields expression.toList).map String.ofList = tokens →
      (v.flatten expression = .ok ⟨tokens⟩ ↔ ∀ token ∈ tokens, Lexeme.inOrder (v.lex token.toList) = true) ∧
      ((∀ token ∈ tokens, Lexeme.inOrder (v.lex token.toList) = true) → ∀ leftover,
        (Calculator.mk ops leftover).evaluate expression = ((Calculator.mk ops leftover).eval ⟨tokens⟩).mapError .evaluation) := by
  intro ops v
  have avoids : ∀ c, isBreak c = true → v.Avoids c := by
    intro c broken
    refine OperatorTable.vocabulary_avoids _ c (start.insert_all_names_avoid history c ?_ fun b entered inside => ?_)
    · rcases base with rfl | rfl
      · exact OperatorTable.empty_names_avoid c
      · exact OperatorTable.standard_names_avoid c broken
    · rw [names b entered c inside] at broken
      cases broken
  have words : ∀ (expression : String) (tokens : List String), (∀ c ∈ expression.toList, isBracket c = false) →
      (fields expression.toList).map String.ofList = tokens →
      (v.flatten expression = .ok ⟨tokens⟩ ↔ ∀ token ∈ tokens, Lexeme.inOrder (v.lex token.toList) = true) := by
    rintro expression tokens free rfl
    rw [v.flatten_words_iff avoids expression free]
    simp
  refine ⟨fun token filled unbroken => ?_, fun token ordinary => ?_, fun expression tokens free split => ?_⟩
  · rw [words token [token] (fun c inside => not_bracket c (unbroken c inside)) (fields_word token filled unbroken)]
    simp
  · exact v.lex_in_order token.toList fun c inside symbol => ordinary c inside ((OperatorTable.mem_symbols _ c).mp symbol)
  · have whole := words expression tokens free split
    refine ⟨whole, fun fixed leftover => ?_⟩
    exact (Calculator.mk ops leftover).evaluate_of_flatten expression ⟨tokens⟩ (whole.mpr fixed)

theorem unbroken_of_all (word : List Char) (all : (word.all fun c => !isBreak c) = true) :
    ∀ c ∈ word, isBreak c = false := by simpa using all

theorem flatten_words_in_order_glued :
    let ops := OperatorTable.standard.insertAll [⟨"e", .unary Float.exp⟩, ⟨"exe", .binary Float.atan2⟩]
    ops.vocabulary.flatten "exe" = .ok ⟨["exe"]⟩ ∧ ops.vocabulary.flatten " 12  e\t7 exe" = .ok ⟨["12", "e", "7", "exe"]⟩ := by
  intro ops
  have names : ∀ b ∈ ([⟨"e", .unary Float.exp⟩, ⟨"exe", .binary Float.atan2⟩] : List Binding),
      ∀ c ∈ b.name.toList, isBreak c = false := by
    rintro b (_ | ⟨_, _ | ⟨_, impossible⟩⟩)
    · exact unbroken_of_all _ (by decide +kernel)
    · exact unbroken_of_all _ (by decide +kernel)
    · cases impossible
  obtain ⟨single, _, words⟩ := flatten_words_in_order .standard (Or.inr rfl) _ names
  refine ⟨(single "exe" (by decide) (unbroken_of_all _ (by decide +kernel))).mpr (by decide +kernel), ?_⟩
  have free : ∀ c ∈ " 12  e\t7 exe".toList, isBracket c = false := by simp [isBracket]
  exact (words " 12  e\t7 exe" _ free (by decide +kernel)).1.mpr (by decide +kernel)

-- A symbol inside a numeral moves: with `e` as a symbol, the digit before it waits and is written after it.
theorem accepted_token_moved :
    ¬ ∀ (start : OperatorTable) (history : List Binding) (token : String), start = .empty ∨ start = .standard →
      (∀ b ∈ history, b.name ≠ "" ∧ ∀ c ∈ b.name.toList, isBreak c = false) →
      token ≠ "" → (∀ c ∈ token.toList, isBreak c = false) →
      (Decimal.float? token ≠ none ∨ (start.insertAll history).lookup token ≠ none) →
      (start.insertAll history).vocabulary.flatten token = .ok ⟨[token]⟩ := by
  intro unchanged
  have number : Decimal.float? "1e5" = some 100000 := by decide +kernel
  have moved : (OperatorTable.standard.insertAll [⟨"e", .unary Float.exp⟩]).vocabulary.flatten "1e5" = .ok ⟨["e51"]⟩ := by
    decide +kernel
  have names : ∀ b ∈ ([⟨"e", .unary Float.exp⟩] : List Binding), b.name ≠ "" ∧ ∀ c ∈ b.name.toList, isBreak c = false := by
    rintro b (_ | ⟨_, impossible⟩)
    · exact ⟨by decide, unbroken_of_all _ (by decide +kernel)⟩
    · cases impossible
  have same := unchanged .standard [⟨"e", .unary Float.exp⟩] "1e5" (Or.inr rfl) names (by decide)
    (unbroken_of_all _ (by decide +kernel)) (Or.inl (by simp [number]))
  rw [moved] at same
  exact absurd same (by decide)

end ReversePolish
