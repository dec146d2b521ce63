import ReversePolish.Proofs.FlatText
import ReversePolish.Proofs.Names

set_option autoImplicit false

namespace ReversePolish

open Text

namespace Postfix

theorem text_letters (p : Postfix) : p.text.toList = [' '].intercalate (p.tokens.map String.toList) :=
  String.toList_intercalate

theorem mem_text (p : Postfix) (c : Char) (member : c ∈ p.text.toList) : c = ' ' ∨ ∃ token ∈ p.tokens, c ∈ token.toList := by
  rw [text_letters] at member
  rcases mem_join c _ member with space | ⟨word, known, inside⟩
  · exact Or.inl space
  · obtain ⟨token, listed, same⟩ := List.mem_map.mp known
    exact Or.inr ⟨token, listed, same ▸ inside⟩

theorem text_fields (p : Postfix) (solid : ∀ token ∈ p.tokens, Solid token.toList) :
    fields p.text.toList = p.tokens.map String.toList := by
  rw [text_letters]
  apply fields_join
  intro word member
  obtain ⟨token, known, same⟩ := List.mem_map.mp member
  exact same ▸ solid token known

theorem tokens_of_text (p : Postfix) (solid : ∀ token ∈ p.tokens, Solid token.toList) :
    (fields p.text.toList).map String.ofList = p.tokens := by
  rw [p.text_fields solid, List.map_map]
  simp

theorem text_injective (p q : Postfix) (solidFirst : ∀ token ∈ p.tokens, Solid token.toList)
    (solidSecond : ∀ token ∈ q.tokens, Solid token.toList) (same : p.text = q.text) : p = q := by
  have tokens : p.tokens = q.tokens := by
    rw [← p.tokens_of_text solidFirst, same, q.tokens_of_text solidSecond]
  exact congrArg Postfix.mk tokens

end Postfix

namespace Vocabulary

theorem shown_unbroken (v : Vocabulary) (avoids : ∀ c, isBracket c = true → v.Avoids c) (c : Char) (rest : List Char) :
    ((v.lexemeAt c rest).shown.filter fun d => !isBlank d) = (v.lexemeAt c rest).letters.filter fun d => !isBreak d := by
  rcases v.lexeme_cases c rest with ⟨blank, read⟩ | ⟨_, read⟩ | ⟨_, read⟩ | ⟨_, word, found, read⟩ | ⟨unbroken, _, _, read⟩ |
    ⟨unbroken, _, _, read⟩ <;> rw [read, Lexeme.shown, Lexeme.letters]
  · have space : isBlank ' ' = true := rfl
    simp [break_of_blank c blank, space]
  · rfl
  · rfl
  · apply List.filter_congr
    intro d inside
    have free : isBracket d = false :=
      Bool.eq_false_iff.mpr fun bracket => avoids d bracket word (List.mem_of_find?_eq_some found) inside
    rw [isBreak, free, Bool.or_false]
  · simp [unbroken, (not_break c unbroken).1]
  · simp [unbroken, (not_break c unbroken).1]

theorem lex_shown_unbroken (v : Vocabulary) (avoids : ∀ c, isBracket c = true → v.Avoids c) (text : List Char) :
    ((v.lex text).flatMap Lexeme.shown).filter (fun c => !isBlank c) = text.filter fun c => !isBreak c := by
  have lexemes : ∀ lexeme ∈ v.lex text,
      (lexeme.shown.filter fun d => !isBlank d) = lexeme.letters.filter fun d => !isBreak d := by
    intro lexeme member
    obtain ⟨c, rest, _, same⟩ := v.mem_lex text lexeme member
    rw [same]
    exact v.shown_unbroken avoids c rest
  calc ((v.lex text).flatMap Lexeme.shown).filter (fun c => !isBlank c)
      = (v.lex text).flatMap fun lexeme => lexeme.shown.filter fun c => !isBlank c := List.filter_flatMap
    _ = (v.lex text).flatMap fun lexeme => lexeme.letters.filter fun c => !isBreak c := List.flatMap_congr lexemes
    _ = ((v.lex text).flatMap Lexeme.letters).filter fun c => !isBreak c := List.filter_flatMap.symm
    _ = text.filter fun c => !isBreak c := by rw [lex_letters]

theorem flat_characters (v : Vocabulary) (avoids : ∀ c, isBracket c = true → v.Avoids c) (text out : List Char)
    (flat : v.flatText text = .ok out) : (fields out).flatten.Perm (text.filter fun c => !isBreak c) := by
  rw [fields_flatten, ← v.lex_shown_unbroken avoids text]
  exact (v.flat_letters text out flat).filter _

theorem flatten_solid (v : Vocabulary) (expression : String) (p : Postfix) (flat : v.flatten expression = .ok p) :
    ∀ token ∈ p.tokens, Solid token.toList := by
  obtain ⟨out, _, same⟩ := (v.flatten_ok_iff expression p).mp flat
  subst same
  intro token member
  obtain ⟨word, known, same⟩ := List.mem_map.mp member
  rw [← same, String.toList_ofList]
  exact fields_are_solid out word known

theorem flatten_characters (v : Vocabulary) (avoids : ∀ c, isBracket c = true → v.Avoids c) (expression : String)
    (p : Postfix) (flat : v.flatten expression = .ok p) :
    (p.tokens.flatMap String.toList).Perm (expression.toList.filter fun c => !isBreak c) := by
  obtain ⟨out, flatOut, same⟩ := (v.flatten_ok_iff expression p).mp flat
  have letters : p.tokens.flatMap String.toList = (fields out).flatten := by
    simp [same, List.flatMap_map, List.flatMap_id']
  rw [letters]
  exact v.flat_characters avoids expression.toList out flatOut

theorem mem_of_token (v : Vocabulary) (avoids : ∀ c, isBracket c = true → v.Avoids c) (expression token : String)
    (p : Postfix) (flat : v.flatten expression = .ok p) (known : token ∈ p.tokens) (c : Char) (inside : c ∈ token.toList) :
    c ∈ expression.toList ∧ isBreak c = false := by
  have present : c ∈ p.tokens.flatMap String.toList := List.mem_flatMap.mpr ⟨token, known, inside⟩
  have kept := List.mem_filter.mp ((v.flatten_characters avoids expression p flat).subset present)
  exact ⟨kept.1, by simpa using kept.2⟩

theorem text_unbracketed (v : Vocabulary) (avoids : ∀ c, isBracket c = true → v.Avoids c) (expression : String)
    (p : Postfix) (flat : v.flatten expression = .ok p) : ∀ c ∈ p.text.toList, isBracket c = false := by
  intro c member
  rcases p.mem_text c member with space | ⟨token, known, inside⟩
  · rw [space]
    rfl
  · exact not_bracket c (v.mem_of_token avoids expression token p flat known c inside).2

end Vocabulary

theorem OperatorTable.avoids_brackets (ops : OperatorTable) (opening : ops.NamesAvoid '(') (closing : ops.NamesAvoid ')')
    (c : Char) (bracket : isBracket c = true) : ops.vocabulary.Avoids c := by
  rcases break_cases c (break_of_bracket c bracket) with blank | same | same
  · rw [not_bracket_of_blank c blank] at bracket
    cases bracket
  · exact same ▸ ops.vocabulary_avoids '(' opening
  · exact same ▸ ops.vocabulary_avoids ')' closing

theorem flatten_keeps_characters (ops : OperatorTable) (opening : ops.NamesAvoid '(') (closing : ops.NamesAvoid ')')
    (expression : String) (p : Postfix) (flat : ops.vocabulary.flatten expression = .ok p) :
    (p.tokens.flatMap String.toList).Perm (expression.toList.filter fun c => !isBlank c && !isBracket c) ∧
    (∀ token ∈ p.tokens, token ≠ "" ∧ ∀ c ∈ token.toList, isBlank c = false ∧ isBracket c = false) ∧
    (fields p.text.toList).map String.ofList = p.tokens ∧
    ∀ (other : OperatorTable) (again : String) (q : Postfix), other.vocabulary.flatten again = .ok q →
      q.text = p.text → q = p := by
  have avoids := ops.avoids_brackets opening closing
  have solid := ops.vocabulary.flatten_solid expression p flat
  refine ⟨?_, ?_, p.tokens_of_text solid, ?_⟩
  · simpa only [isBreak, Bool.not_or] using ops.vocabulary.flatten_characters avoids expression p flat
  · intro token known
    constructor
    · intro empty
      exact (solid token known).1 (by rw [empty]; rfl)
    · intro c inside
      have unbroken := (ops.vocabulary.mem_of_token avoids expression token p flat known c inside).2
      exact ⟨(not_break c unbroken).1, not_bracket c unbroken⟩
  · intro other again q flatAgain same
    exact q.text_injective p (other.vocabulary.flatten_solid again q flatAgain) solid same

theorem flatten_keeps_characters_moved :
    let ops := (OperatorTable.empty.insert "to top" (.unary Float.floor)).insert "^" (.unary Float.sqrt)
    ops.vocabulary.flatten "(7^ to top)(2\u3000+)" = .ok ⟨["^7", "to", "top2", "+"]⟩ ∧
      "^7totop2+".toList.Perm ("(7^ to top)(2\u3000+)".toList.filter fun c => !isBlank c && !isBracket c) ∧
      ∀ (other : OperatorTable) (again : String) (q : Postfix), other.vocabulary.flatten again = .ok q →
        q.text = "^7 to top2 +" → q = ⟨["^7", "to", "top2", "+"]⟩ := by
  intro ops
  have free := ops.names_avoid_of_all isBracket rfl
  have flat : ops.vocabulary.flatten "(7^ to top)(2\u3000+)" = .ok ⟨["^7", "to", "top2", "+"]⟩ := rfl
  obtain ⟨letters, _, _, injective⟩ := flatten_keeps_characters ops (free '(' rfl) (free ')' rfl) _ _ flat
  refine ⟨flat, letters, ?_⟩
  intro other again q flatAgain same
  exact injective other again q flatAgain (same.trans rfl)

end ReversePolish
