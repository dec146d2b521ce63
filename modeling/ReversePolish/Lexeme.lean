import ReversePolish.Text.Blank
import ReversePolish.Vocabulary

set_option autoImplicit false

namespace ReversePolish

inductive Lexeme where
  | blank (c : Char)
  | opening
  | closing
  | name (word : String)
  | symbol (c : Char)
  | plain (c : Char)
  deriving DecidableEq, Repr

def Lexeme.letters : Lexeme → List Char
  | .blank c => [c]
  | .opening => ['(']
  | .closing => [')']
  | .name word => word.toList
  | .symbol c => [c]
  | .plain c => [c]

namespace Vocabulary

-- The lexeme that begins with a character. Blanks and brackets go before names, names before symbols.
def lexemeAt (v : Vocabulary) (c : Char) (rest : List Char) : Lexeme :=
  if Text.isBlank c then .blank c
  else if c = '(' then .opening
  else if c = ')' then .closing
  else match v.name? (c :: rest) with
    | some word => .name word
    | none => if c ∈ v.symbols then .symbol c else .plain c

def lexFrom (v : Vocabulary) : Nat → List Char → List Lexeme
  | _, [] => []
  | 0, c :: rest =>
      let lexeme := v.lexemeAt c rest
      lexeme :: lexFrom v (lexeme.letters.length - 1) rest
  | skip + 1, _ :: rest => lexFrom v skip rest

def lex (v : Vocabulary) (text : List Char) : List Lexeme := v.lexFrom 0 text

theorem name_spelled (v : Vocabulary) (text : List Char) (word : String) (found : v.name? text = some word) :
    word.toList ≠ [] ∧ ∃ rest, text = word.toList ++ rest := by
  have spelled : Text.spells word text = true := List.find?_some (p := (Text.spells · text)) found
  exact (Text.spells_iff word text).mp spelled

theorem lexeme_letters (v : Vocabulary) (c : Char) (rest : List Char) :
    ∃ more, (v.lexemeAt c rest).letters = c :: more ∧ ∃ left, rest = more ++ left := by
  by_cases blank : Text.isBlank c = true
  · exact ⟨[], by simp [lexemeAt, blank, Lexeme.letters], rest, rfl⟩
  · by_cases opens : c = '('
    · exact ⟨[], by simp [lexemeAt, opens, Lexeme.letters, show Text.isBlank '(' = false from rfl], rest, rfl⟩
    · by_cases closes : c = ')'
      · exact ⟨[], by simp [lexemeAt, closes, Lexeme.letters, show Text.isBlank ')' = false from rfl], rest, rfl⟩
      · cases found : v.name? (c :: rest) with
        | some word =>
            obtain ⟨filled, left, same⟩ := name_spelled v _ word found
            cases letters : word.toList with
            | nil => exact absurd letters filled
            | cons first more =>
                rw [letters, List.cons_append, List.cons.injEq] at same
                obtain ⟨head, tail⟩ := same
                subst head
                refine ⟨more, ?_, left, tail⟩
                simp [lexemeAt, blank, opens, closes, found, Lexeme.letters, letters]
        | none =>
            refine ⟨[], ?_, rest, rfl⟩
            by_cases known : c ∈ v.symbols <;>
              simp [lexemeAt, blank, opens, closes, found, known, Lexeme.letters]

theorem lex_from_letters (v : Vocabulary) (skip : Nat) (text : List Char) :
    (v.lexFrom skip text).flatMap Lexeme.letters = text.drop skip := by
  induction text generalizing skip with
  | nil => simp [lexFrom]
  | cons c rest ih =>
      cases skip with
      | succ skip => simpa [lexFrom] using ih skip
      | zero =>
          obtain ⟨more, letters, left, same⟩ := lexeme_letters v c rest
          rw [lexFrom, List.flatMap_cons, ih, letters, same]
          simp

theorem lex_letters (v : Vocabulary) (text : List Char) : (v.lex text).flatMap Lexeme.letters = text :=
  lex_from_letters v 0 text

end Vocabulary

end ReversePolish
