import ReversePolish.Proofs.Characters

set_option autoImplicit false

namespace ReversePolish

namespace Text

def spacedBlanks (text : List Char) : List Char := text.map fun c => if isBlank c then ' ' else c

theorem starts_blank_spaced_blanks (text : List Char) : startsBlank (spacedBlanks text) = startsBlank text := by
  cases text with
  | nil => rfl
  | cons c rest =>
      by_cases blank : isBlank c = true
      · simp [spacedBlanks, startsBlank, blank, show isBlank ' ' = true from rfl]
      · simp [spacedBlanks, startsBlank, blank]

theorem fields_spaced_blanks (text : List Char) : fields (spacedBlanks text) = fields text := by
  induction text with
  | nil => rfl
  | cons c rest ih =>
      by_cases blank : isBlank c = true
      · have here : spacedBlanks (c :: rest) = ' ' :: spacedBlanks rest := by simp [spacedBlanks, blank]
        rw [here, fields_blank ' ' _ rfl, fields_blank c rest blank, ih]
      · have black := Bool.eq_false_iff.mpr blank
        have here : spacedBlanks (c :: rest) = c :: spacedBlanks rest := by simp [spacedBlanks, blank]
        rw [here, fields_char c _ black, fields_char c rest black, starts_blank_spaced_blanks, ih]

end Text

open Text

def Lexeme.isOrdinary : Lexeme → Bool
  | .blank _ | .name _ | .plain _ => true
  | .opening | .closing | .symbol _ => false

-- The induction is on the lexemes, for any character that waits before them.
theorem Scan.complete_ordinary (lexemes : List Lexeme) (ordinary : ∀ lexeme ∈ lexemes, lexeme.isOrdinary = true)
    (held : Option Char) :
    complete (Scan.run ⟨held.toList.map .char, false⟩ lexemes) = .ok (held.toList ++ lexemes.flatMap Lexeme.shown) := by
  induction lexemes generalizing held with
  | nil => cases held <;> rfl
  | cons lexeme rest ih =>
      have here := ordinary lexeme List.mem_cons_self
      have later := ih fun l member => ordinary l (List.mem_cons_of_mem lexeme member)
      cases lexeme with
      | opening => cases here
      | closing => cases here
      | symbol c => cases here
      | blank c =>
          rw [complete_cons _ _ _ _ _ (step_blank_held held false c), later none]
          simp [Except.map, Lexeme.shown]
      | name word =>
          rw [complete_cons _ _ _ _ _ (step_name_held held false word), later none]
          simp [Except.map, Lexeme.shown]
      | plain c =>
          rw [complete_cons _ _ _ _ _ (step_plain_held held c), later (some c)]
          rfl

namespace Vocabulary

theorem lexeme_ordinary (v : Vocabulary) (c : Char) (rest : List Char) (free : isBracket c = false)
    (symbolless : isBlank c = false → c ∉ v.symbols) :
    (v.lexemeAt c rest).isOrdinary = true ∧
      spacedBlanks (v.lexemeAt c rest).shown = spacedBlanks (v.lexemeAt c rest).letters := by
  rcases v.lexeme_cases c rest with ⟨blank, read⟩ | ⟨opens, _⟩ | ⟨closes, _⟩ | ⟨_, word, _, read⟩ | ⟨unbroken, _, known, _⟩ |
    ⟨_, _, _, read⟩
  · rw [read]
    exact ⟨rfl, by simp [Lexeme.shown, Lexeme.letters, spacedBlanks, blank]⟩
  · rw [opens] at free
    cases free
  · rw [closes] at free
    cases free
  · rw [read]
    exact ⟨rfl, rfl⟩
  · exact absurd known (symbolless (not_break c unbroken).1)
  · rw [read]
    exact ⟨rfl, rfl⟩

theorem flat_ordinary (v : Vocabulary) (text : List Char) (free : ∀ c ∈ text, isBracket c = false)
    (symbolless : ∀ c ∈ text, isBlank c = false → c ∉ v.symbols) :
    ∃ out, v.flatText text = .ok out ∧ fields out = fields text := by
  have lexemes : ∀ lexeme ∈ v.lex text,
      lexeme.isOrdinary = true ∧ spacedBlanks lexeme.shown = spacedBlanks lexeme.letters := by
    intro lexeme member
    obtain ⟨c, rest, suffix, same⟩ := v.mem_lex text lexeme member
    have inside : c ∈ text := suffix.subset List.mem_cons_self
    rw [same]
    exact v.lexeme_ordinary c rest (free c inside) (symbolless c inside)
  have flat := Scan.complete_ordinary (v.lex text) (fun lexeme member => (lexemes lexeme member).1) none
  refine ⟨(v.lex text).flatMap Lexeme.shown, flat, ?_⟩
  have spaced : spacedBlanks ((v.lex text).flatMap Lexeme.shown) = spacedBlanks text := by
    calc spacedBlanks ((v.lex text).flatMap Lexeme.shown)
        = (v.lex text).flatMap fun lexeme => spacedBlanks lexeme.shown := List.map_flatMap
      _ = (v.lex text).flatMap fun lexeme => spacedBlanks lexeme.letters :=
        List.flatMap_congr fun lexeme member => (lexemes lexeme member).2
      _ = spacedBlanks ((v.lex text).flatMap Lexeme.letters) := List.map_flatMap.symm
      _ = spacedBlanks text := by rw [lex_letters]
  rw [← fields_spaced_blanks, spaced, fields_spaced_blanks]

theorem flatten_ordinary (v : Vocabulary) (expression : String) (free : ∀ c ∈ expression.toList, isBracket c = false)
    (symbolless : ∀ c ∈ expression.toList, isBlank c = false → c ∉ v.symbols) :
    v.flatten expression = .ok ⟨(fields expression.toList).map String.ofList⟩ := by
  obtain ⟨out, flat, same⟩ := v.flat_ordinary expression.toList free symbolless
  exact (v.flatten_ok_iff expression _).mpr ⟨out, flat, by rw [same]⟩

-- The blanks in the text of a result are none of the expression, but no symbol is read at a blank.
theorem flatten_ordinary_text (v : Vocabulary) (avoids : ∀ c, isBracket c = true → v.Avoids c) (expression : String)
    (p : Postfix) (symbolless : ∀ c ∈ expression.toList, c ∉ v.symbols) (flat : v.flatten expression = .ok p) :
    v.flatten p.text = .ok p := by
  have ordinary : ∀ c ∈ p.text.toList, isBlank c = false → c ∉ v.symbols := by
    intro c member black
    rcases p.mem_text c member with space | ⟨token, known, inside⟩
    · rw [space] at black
      cases black
    · apply symbolless
      exact (v.mem_of_token avoids expression token p flat known c inside).1
  rw [v.flatten_ordinary p.text (v.text_unbracketed avoids expression p flat) ordinary,
    p.tokens_of_text (v.flatten_solid expression p flat)]

end Vocabulary

theorem flatten_without_symbols (ops : OperatorTable) (opening : ops.NamesAvoid '(') (closing : ops.NamesAvoid ')')
    (expression : String) (symbolless : ∀ c ∈ expression.toList, ¬ ops.isUnary (String.singleton c) = true) :
    ((∀ c ∈ expression.toList, isBracket c = false) →
      ops.vocabulary.flatten expression = .ok ⟨(fields expression.toList).map String.ofList⟩) ∧
    ∀ p, ops.vocabulary.flatten expression = .ok p → ops.vocabulary.flatten p.text = .ok p := by
  have symbols : ∀ c ∈ expression.toList, c ∉ ops.vocabulary.symbols :=
    fun c member symbol => symbolless c member ((ops.mem_symbols c).mp symbol)
  constructor
  · intro free
    exact ops.vocabulary.flatten_ordinary expression free fun c member _ => symbols c member
  · intro p flat
    exact ops.vocabulary.flatten_ordinary_text (ops.avoids_brackets opening closing) expression p symbols flat

theorem flatten_without_symbols_new_names :
    let ops := (OperatorTable.empty.insert "ab" (.unary Float.abs)).insert "to top" (.unary Float.ceil)
    ops.vocabulary.flatten "(a)b (to)\u3000(top)" = .ok ⟨["ab", "to", "top"]⟩ ∧
      ops.vocabulary.flatten "ab to top" = .ok ⟨["ab", "to", "top"]⟩ ∧
      ops.vocabulary.flatten "7ab\u3000to top" = .ok ⟨["7ab", "to", "top"]⟩ := by
  intro ops
  have free := ops.names_avoid_of_all isBracket rfl
  have flat : ops.vocabulary.flatten "(a)b (to)\u3000(top)" = .ok ⟨["ab", "to", "top"]⟩ := rfl
  have text : Postfix.text ⟨["ab", "to", "top"]⟩ = "ab to top" := rfl
  have symbolless : ∀ expression : String, (expression.toList.all fun c => !ops.isUnary (String.singleton c)) = true →
      ∀ c ∈ expression.toList, ¬ ops.isUnary (String.singleton c) = true := by simp
  have again := (flatten_without_symbols ops (free '(' rfl) (free ')' rfl) _ (symbolless _ rfl)).2 _ flat
  rw [text] at again
  have split := (flatten_without_symbols ops (free '(' rfl) (free ')' rfl) "7ab\u3000to top"
    (symbolless _ rfl)).1 (by simp [isBracket])
  exact ⟨flat, again, split⟩

end ReversePolish
