import ReversePolish.Proofs.Lexing
import ReversePolish.Proofs.Places

set_option autoImplicit false

namespace ReversePolish

namespace Cursor

def passed (source : String) : Nat → Cursor
  | 0 => start source
  | place + 1 => on source place

def lexemeFrom (v : Vocabulary) (c : Cursor) (first : Char) : Lexeme × Cursor :=
  if Text.isBlank first then (.blank first, c)
  else if first = '(' then (.opening, c)
  else if first = ')' then (.closing, c)
  else match c.attempts v.names with
    | (some word, after) => (.name word, after)
    | (none, after) => (if first ∈ v.symbols then .symbol first else .plain first, after)

def lexeme? (v : Vocabulary) (c : Cursor) : Option (Lexeme × Cursor) :=
  c.next.current?.map (c.next.lexemeFrom v)

def lexemes (v : Vocabulary) : Nat → Cursor → List Lexeme × Cursor
  | 0, c => ([], c)
  | turns + 1, c => match c.lexeme? v with
    | none => ([], c)
    | some (lexeme, after) => (lexeme :: (lexemes v turns after).1, (lexemes v turns after).2)

theorem place_passed (source : String) (count : Nat) : (passed source count).place + 1 = count := by
  cases count with
  | zero => rfl
  | succ place => rfl

theorem next_passed (source : String) (count : Nat) (first : Char) (rest : List Char)
    (ahead : source.toList.drop count = first :: rest) : (passed source count).next = on source count := by
  cases count with
  | zero => rfl
  | succ place =>
      have some : 0 < (source.toList.drop (place + 1)).length := by
        rw [ahead]
        exact Nat.zero_lt_succ _
      rw [List.length_drop, String.length_toList] at some
      exact next_on source place (by omega)

theorem next_passed_end (source : String) (count : Nat) (ended : source.toList.drop count = []) :
    (passed source count).next.current? = none := by
  rw [next_current]
  cases count with
  | zero =>
      change source.toList.head? = none
      rw [List.drop_zero] at ended
      rw [ended, List.head?_nil]
  | succ place =>
      change ((source.toList.drop place).drop 1).head? = none
      rw [List.drop_drop, ended, List.head?_nil]

theorem current_passed (source : String) (front back : List Char) (split : source.toList = front ++ back) :
    (passed source front.length).current? = front.getLast? := by
  cases size : front.length with
  | zero =>
      rw [List.length_eq_zero_iff.mp size]
      rfl
  | succ place =>
      have inside : place < front.length := by omega
      rw [passed, current_on, split, List.getElem?_append_left inside, List.getLast?_eq_getElem?, size, Nat.add_sub_cancel]

theorem lexeme_from_unbroken (v : Vocabulary) (c : Cursor) (first : Char) (unbroken : Text.isBreak first = false) :
    c.lexemeFrom v first = match c.attempts v.names with
      | (some word, after) => (.name word, after)
      | (none, after) => (if first ∈ v.symbols then .symbol first else .plain first, after) := by
  obtain ⟨black, notOpening, notClosing⟩ := Text.not_break first unbroken
  rw [lexemeFrom, black, if_neg Bool.false_ne_true, if_neg notOpening, if_neg notClosing]

theorem lexeme_from_on (v : Vocabulary) (source : String) (place : Nat) (first : Char) (rest : List Char)
    (ahead : source.toList.drop place = first :: rest) :
    (on source place).lexemeFrom v first =
      (v.lexemeAt first rest, on source (place + ((v.lexemeAt first rest).letters.length - 1))) := by
  have tried := attempts_on source place v.names
  rw [ahead, ← Vocabulary.name?] at tried
  rcases v.lexeme_cases first rest with ⟨blank, read⟩ | ⟨rfl, read⟩ | ⟨rfl, read⟩ | ⟨unbroken, word, found, read⟩ |
    ⟨unbroken, none, known, read⟩ | ⟨unbroken, none, other, read⟩
  · rw [read, lexemeFrom, if_pos blank]
    rfl
  · rw [read]
    rfl
  · rw [read]
    rfl
  · rw [read, lexeme_from_unbroken v _ first unbroken, tried, found, Lexeme.letters, String.length_toList]
  · rw [read, lexeme_from_unbroken v _ first unbroken, tried, none, if_pos known]
    rfl
  · rw [read, lexeme_from_unbroken v _ first unbroken, tried, none, if_neg other]
    rfl

theorem lexeme_passed (v : Vocabulary) (source : String) (count : Nat) (first : Char) (rest : List Char)
    (ahead : source.toList.drop count = first :: rest) :
    (passed source count).lexeme? v =
      some (v.lexemeAt first rest, passed source (count + (v.lexemeAt first rest).letters.length)) := by
  obtain ⟨more, letters, _⟩ := v.lexeme_letters first rest
  have current : (on source count).current? = some first := by
    rw [current_on, ← List.head?_drop, ahead, List.head?_cons]
  rw [lexeme?, next_passed source count first rest ahead, current, Option.map_some, lexeme_from_on v source count first rest ahead,
    letters]
  rfl

-- The induction is on the turns, from a cursor that has passed any front of the text.
theorem lexemes_passed (v : Vocabulary) (source : String) (turns count : Nat) :
    (passed source count).lexemes v turns = ((v.lex (source.toList.drop count)).take turns,
      passed source (count + (((v.lex (source.toList.drop count)).take turns).flatMap Lexeme.letters).length)) := by
  induction turns generalizing count with
  | zero => rfl
  | succ turns ih =>
      cases ahead : source.toList.drop count with
      | nil =>
          rw [lexemes, lexeme?, next_passed_end source count ahead]
          rfl
      | cons first rest =>
          obtain ⟨more, letters, _⟩ := v.lexeme_letters first rest
          have left : rest.drop more.length = source.toList.drop (count + (more.length + 1)) := by
            rw [← List.drop_drop, ahead, List.drop_succ_cons]
          simp only [lexemes, lexeme_passed v source count first rest ahead, Vocabulary.lex_cons, letters, List.length_cons,
            Nat.add_sub_cancel, left, ih, List.take_succ_cons, List.flatMap_cons, List.length_append, Nat.add_assoc]

theorem lexemes_start (v : Vocabulary) (source : String) (turns : Nat) :
    (start source).lexemes v turns = ((v.lex source.toList).take turns,
      passed source (((v.lex source.toList).take turns).flatMap Lexeme.letters).length) := by
  have all := lexemes_passed v source turns 0
  rwa [List.drop_zero, Nat.zero_add] at all

end Cursor

end ReversePolish
