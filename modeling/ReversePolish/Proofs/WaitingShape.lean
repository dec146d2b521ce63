import Mathlib.Data.List.Chain
import ReversePolish.Proofs.FlatText
import ReversePolish.Proofs.Names
import ReversePolish.Proofs.Reading

set_option autoImplicit false

namespace ReversePolish

namespace Waiting

def Parted (stack : List Waiting) : Prop := stack.IsChain fun upper lower => upper = .bracket ∨ lower = .bracket

theorem outside_suffix (stack : List Waiting) : outside stack <:+ stack :=
  ⟨(held stack).map .char, held_outside stack⟩

theorem parted_bracket (stack : List Waiting) (parted : Parted stack) : Parted (.bracket :: stack) :=
  List.IsChain.cons parted fun _ _ => Or.inl rfl

theorem parted_char (c : Char) (stack : List Waiting) (parted : Parted stack) : Parted (.char c :: outside stack) := by
  apply List.IsChain.cons (List.IsChain.suffix parted (outside_suffix stack))
  intro top head
  have closed := held_of_outside stack
  cases left : outside stack with
  | nil =>
      rw [left] at head
      cases head
  | cons first rest =>
      rw [left] at head closed
      cases head
      cases top with
      | bracket => exact Or.inr rfl
      | char d => cases closed

theorem held_of_parted (stack : List Waiting) (parted : Parted stack) : (held stack).length ≤ 1 := by
  cases stack with
  | nil => exact Nat.zero_le 1
  | cons top rest =>
      cases top with
      | bracket => exact Nat.zero_le 1
      | char c =>
          cases rest with
          | nil => exact Nat.le_refl 1
          | cons next lower =>
              cases next with
              | bracket => exact Nat.le_refl 1
              | char d =>
                  have apart := (List.isChain_cons_cons.mp parted).1
                  cases apart with
                  | inl same => cases same
                  | inr same => cases same

end Waiting

theorem shown_account (lexemes : List Lexeme) :
    (lexemes.flatMap Lexeme.shown).length + (lexemes.count .opening + lexemes.count .closing) =
      (lexemes.flatMap Lexeme.letters).length := by
  induction lexemes with
  | nil => rfl
  | cons lexeme rest ih =>
      rw [List.flatMap_cons, List.flatMap_cons, List.length_append, List.length_append, ← ih]
      cases lexeme <;> simp [Lexeme.shown, Lexeme.letters] <;> omega

namespace Scan

open Waiting

theorem step_parted (s after : Scan) (lexeme : Lexeme) (written : List Char) (parted : Parted s.waiting)
    (stepped : s.step lexeme = .ok (written, after)) : Parted after.waiting := by
  have outer : Parted (outside s.waiting) := List.IsChain.suffix parted (outside_suffix s.waiting)
  rcases step_cases s after lexeme written stepped with ⟨c, rfl, rfl, rfl⟩ | ⟨rfl, rfl, rfl⟩ | ⟨below, rfl, found, rfl, rfl⟩ |
    ⟨word, rfl, rfl, rfl⟩ | ⟨c, rfl, rfl, rfl⟩ | ⟨c, rfl, glued, rfl, rfl⟩ | ⟨c, rfl, free, rfl, rfl⟩
  · exact outer
  · exact parted_bracket s.waiting parted
  · rw [found] at outer
    exact List.IsChain.tail outer
  · exact outer
  · exact parted
  · exact parted
  · exact parted_char c s.waiting parted

theorem run_parted (s last : Scan) (lexemes : List Lexeme) (written : List Char) (parted : Parted s.waiting)
    (ran : s.run lexemes = .ok (written, last)) : Parted last.waiting := by
  induction lexemes generalizing s written with
  | nil =>
      cases ran
      exact parted
  | cons lexeme rest ih =>
      obtain ⟨first, after, more, stepped, later, _⟩ := (run_cons_ok s last lexeme rest written).mp ran
      exact ih after more (step_parted s after lexeme first parted stepped) later

theorem step_gluing (s after : Scan) (lexeme : Lexeme) (written : List Char)
    (stepped : s.step lexeme = .ok (written, after)) (gluing : after.gluing = true) :
    ∃ c, lexeme = .symbol c ∧ written = [c] := by
  rcases step_cases s after lexeme written stepped with ⟨c, rfl, rfl, rfl⟩ | ⟨rfl, rfl, rfl⟩ | ⟨below, rfl, found, rfl, rfl⟩ |
    ⟨word, rfl, rfl, rfl⟩ | ⟨c, rfl, rfl, rfl⟩ | ⟨c, rfl, glued, rfl, rfl⟩ | ⟨c, rfl, free, rfl, rfl⟩
  · cases gluing
  · cases gluing
  · cases gluing
  · cases gluing
  · exact ⟨c, rfl, rfl⟩
  · cases gluing
  · cases gluing

theorem run_gluing (s last : Scan) (lexemes : List Lexeme) (written : List Char)
    (ran : s.run lexemes = .ok (written, last)) (gluing : last.gluing = true) :
    (lexemes = [] ∧ s.gluing = true) ∨
      ∃ front before c, lexemes = front ++ [.symbol c] ∧ written = before ++ [c] := by
  induction lexemes generalizing s written with
  | nil =>
      cases ran
      exact Or.inl ⟨rfl, gluing⟩
  | cons lexeme rest ih =>
      obtain ⟨first, after, more, stepped, later, rfl⟩ := (run_cons_ok s last lexeme rest written).mp ran
      cases ih after more later with
      | inl ended =>
          obtain ⟨rfl, glued⟩ := ended
          obtain ⟨c, rfl, rfl⟩ := step_gluing s after lexeme first stepped glued
          cases later
          exact Or.inr ⟨[], [], c, rfl, rfl⟩
      | inr found =>
          obtain ⟨front, before, c, rfl, rfl⟩ := found
          exact Or.inr ⟨lexeme :: front, first ++ before, c, rfl, (List.append_assoc first before [c]).symm⟩

theorem run_account (s last : Scan) (lexemes : List Lexeme) (written : List Char)
    (ran : s.run lexemes = .ok (written, last)) :
    written.length + (letters last.waiting).length + (lexemes.count .opening + lexemes.count .closing) =
      (letters s.waiting).length + (lexemes.flatMap Lexeme.letters).length := by
  have kept := (run_letters s last lexemes written ran).length_eq
  rw [List.length_append, List.length_append] at kept
  rw [kept, Nat.add_assoc, shown_account]

end Scan

open Waiting

theorem Vocabulary.flatten_finish (v : Vocabulary) (expression : String) (p : Postfix)
    (flat : v.flatten expression = .ok p) :
    ∃ written last rest, Scan.start.run (v.lex expression.toList) = .ok (written, last) ∧
      finish last.waiting = .ok rest ∧ rest.length ≤ 1 ∧ p = ⟨(Text.fields (written ++ rest)).map String.ofList⟩ := by
  obtain ⟨out, text, same⟩ := (v.flatten_ok_iff expression p).mp flat
  obtain ⟨written, last, ran, closed, rfl⟩ := (v.flat_ok_iff expression.toList out).mp text
  have parted := Scan.run_parted .start last _ written List.isChain_nil ran
  exact ⟨written, last, held last.waiting, ran, (finish_ok_iff _ _).mpr ⟨closed, rfl⟩, held_of_parted _ parted, same⟩

theorem waiting_shape (ops : OperatorTable) (expression : String) (turns : Nat) (written : List Char) (s : Scan)
    (ran : Scan.start.run ((ops.vocabulary.lex expression.toList).take turns) = .ok (written, s)) :
    let read := (ops.vocabulary.lex expression.toList).take turns
    ∃ cursor, (Cursor.start expression).lexemes ops.vocabulary turns = (read, cursor) ∧
      (s.waiting.IsChain fun upper lower => upper = .bracket ∨ lower = .bracket) ∧
      (held s.waiting).length ≤ 1 ∧
      (∀ outer, .bracket :: outer <:+ s.waiting → (held outer).length ≤ 1) ∧
      (∀ p, ops.vocabulary.flatten expression = .ok p → ∃ whole last rest,
        Scan.start.run (ops.vocabulary.lex expression.toList) = .ok (whole, last) ∧ finish last.waiting = .ok rest ∧
          rest.length ≤ 1 ∧ p = ⟨(Text.fields (whole ++ rest)).map String.ofList⟩) ∧
      (s.gluing = true → ∃ c, ops.isUnary (String.singleton c) = true ∧ read.getLast? = some (.symbol c) ∧
        cursor.current? = some c ∧ written.getLast? = some c) ∧
      (written.length + (letters s.waiting).length + (read.count .opening + read.count .closing) : Int) =
        cursor.place + 1 := by
  intro read
  have parted : Parted s.waiting := Scan.run_parted .start s read written List.isChain_nil ran
  obtain ⟨back, split⟩ := List.take_prefix turns (ops.vocabulary.lex expression.toList)
  have front : expression.toList = read.flatMap Lexeme.letters ++ back.flatMap Lexeme.letters := by
    rw [← List.flatMap_append, split, Vocabulary.lex_letters]
  have walked : (Cursor.start expression).lexemes ops.vocabulary turns =
      (read, Cursor.passed expression (read.flatMap Lexeme.letters).length) :=
    Cursor.lexemes_start ops.vocabulary expression turns
  refine ⟨_, walked, parted, held_of_parted _ parted, ?_,
    ops.vocabulary.flatten_finish expression, ?_, ?_⟩
  · intro outer below
    have whole : Parted (.bracket :: outer) := List.IsChain.suffix parted below
    exact held_of_parted outer (List.IsChain.tail whole)
  · intro gluing
    cases Scan.run_gluing .start s read written ran gluing with
    | inl begun => cases begun.2
    | inr found =>
        obtain ⟨earlier, before, c, ends, rfl⟩ := found
        have known : Lexeme.symbol c ∈ ops.vocabulary.lex expression.toList := by
          apply List.mem_of_mem_take
          change _ ∈ read
          rw [ends]
          exact List.mem_append_right earlier List.mem_cons_self
        have symbol := (ops.vocabulary.mem_lex_symbol expression.toList c known).2
        refine ⟨c, (ops.mem_symbols c).mp symbol, ?_, ?_, List.getLast?_concat⟩
        · rw [ends, List.getLast?_concat]
        · rw [Cursor.current_passed expression _ _ front, ends, List.flatMap_append, List.flatMap_singleton]
          exact List.getLast?_concat
  · rw [Cursor.place_passed]
    have account := Scan.run_account .start s read written ran
    change _ = 0 + (read.flatMap Lexeme.letters).length at account
    omega

theorem waiting_shape_nested :
    let ops := (OperatorTable.empty.insert "a( b" (.unary Float.floor)).insert "^" (.unary Float.sqrt)
    let read := (ops.vocabulary.lex "1(2(a( b^7".toList).take 6
    Scan.start.run read = .ok ("a( b^".toList, ⟨[.bracket, .char '2', .bracket, .char '1'], true⟩) ∧
      ∃ cursor, (Cursor.start "1(2(a( b^7").lexemes ops.vocabulary 6 = (read, cursor) ∧ cursor.current? = some '^' ∧
        cursor.place = 8 := by
  intro ops read
  have ran : Scan.start.run read = .ok ("a( b^".toList, ⟨[.bracket, .char '2', .bracket, .char '1'], true⟩) := rfl
  obtain ⟨cursor, walked, _, _, _, _, glued, account⟩ := waiting_shape ops "1(2(a( b^7" 6 _ _ ran
  obtain ⟨c, _, last, here, _⟩ := glued rfl
  have same : c = '^' := by
    have symbol : read.getLast? = some (.symbol '^') := rfl
    cases symbol.symm.trans last
    rfl
  refine ⟨ran, cursor, walked, same ▸ here, ?_⟩
  have total : (9 : Int) = cursor.place + 1 := account
  omega

end ReversePolish
