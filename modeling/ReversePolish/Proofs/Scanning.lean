import ReversePolish.Brackets
import ReversePolish.Proofs.Lexing

set_option autoImplicit false

namespace ReversePolish

namespace Waiting

theorem held_append (stack below : List Waiting) (closed : held below = []) :
    held (stack ++ below) = held stack := by
  induction stack with
  | nil => exact closed
  | cons top rest ih =>
      cases top with
      | bracket => rfl
      | char c => exact congrArg (c :: ·) ih

theorem outside_append (stack below : List Waiting) (closed : held below = []) :
    outside (stack ++ below) = outside stack ++ below := by
  induction stack with
  | nil =>
      cases below with
      | nil => rfl
      | cons top rest =>
          cases top with
          | bracket => rfl
          | char c => cases closed
  | cons top rest ih =>
      cases top with
      | bracket => rfl
      | char c => exact ih

theorem held_of_outside (stack : List Waiting) : held (outside stack) = [] := by
  induction stack with
  | nil => rfl
  | cons top rest ih =>
      cases top with
      | bracket => rfl
      | char c => exact ih

theorem outside_outside (stack : List Waiting) : outside (outside stack) = outside stack := by
  have split := held_outside (outside stack)
  rwa [held_of_outside, List.map_nil, List.nil_append] at split

theorem finish_ok_iff (stack : List Waiting) (rest : List Char) :
    finish stack = .ok rest ↔ outside stack = [] ∧ held stack = rest := by
  induction stack generalizing rest with
  | nil => simp [finish, outside, held]
  | cons top below ih =>
      cases top with
      | bracket => simp [finish, outside]
      | char c =>
          cases done : finish below with
          | error e =>
              have never : outside below ≠ [] := fun closed => by simpa [done] using (ih (held below)).mpr ⟨closed, rfl⟩
              simp [finish, outside, done, never, Except.map]
          | ok more =>
              obtain ⟨closed, same⟩ := (ih more).mp done
              simp [finish, outside, held, done, closed, same, Except.map]

def letters (stack : List Waiting) : List Char :=
  stack.filterMap fun
    | .bracket => none
    | .char c => some c

theorem letters_split (stack : List Waiting) : letters stack = held stack ++ letters (outside stack) := by
  induction stack with
  | nil => rfl
  | cons top rest ih =>
      cases top with
      | bracket => rfl
      | char c => exact congrArg (c :: ·) ih

end Waiting

def Lexeme.shown : Lexeme → List Char
  | .blank _ => [' ']
  | .opening | .closing => []
  | .name word => word.toList
  | .symbol c | .plain c => [c]

namespace Scan

open Waiting

theorem step_cases (s after : Scan) (lexeme : Lexeme) (written : List Char)
    (stepped : s.step lexeme = .ok (written, after)) :
    (∃ c, lexeme = .blank c ∧ written = held s.waiting ++ [' '] ∧ after = ⟨outside s.waiting, false⟩) ∨
    (lexeme = .opening ∧ written = [] ∧ after = ⟨.bracket :: s.waiting, false⟩) ∨
    (∃ outer, lexeme = .closing ∧ outside s.waiting = .bracket :: outer ∧ written = held s.waiting ∧ after = ⟨outer, false⟩) ∨
    (∃ word, lexeme = .name word ∧ written = held s.waiting ++ word.toList ∧ after = ⟨outside s.waiting, false⟩) ∨
    (∃ c, lexeme = .symbol c ∧ written = [c] ∧ after = ⟨s.waiting, true⟩) ∨
    (∃ c, lexeme = .plain c ∧ s.gluing = true ∧ written = [c] ∧ after = ⟨s.waiting, false⟩) ∨
    (∃ c, lexeme = .plain c ∧ s.gluing = false ∧ written = held s.waiting ∧ after = ⟨.char c :: outside s.waiting, false⟩) := by
  cases lexeme with
  | blank c =>
      cases stepped
      exact Or.inl ⟨c, rfl, rfl, rfl⟩
  | opening =>
      cases stepped
      exact Or.inr (Or.inl ⟨rfl, rfl, rfl⟩)
  | closing =>
      rw [step] at stepped
      split at stepped
      · rename_i outer found
        cases stepped
        exact Or.inr (Or.inr (Or.inl ⟨outer, rfl, found, rfl, rfl⟩))
      · cases stepped
  | name word =>
      cases stepped
      exact Or.inr (Or.inr (Or.inr (Or.inl ⟨word, rfl, rfl, rfl⟩)))
  | symbol c =>
      cases stepped
      exact Or.inr (Or.inr (Or.inr (Or.inr (Or.inl ⟨c, rfl, rfl, rfl⟩))))
  | plain c =>
      rw [step] at stepped
      split at stepped
      · rename_i glued
        cases stepped
        exact Or.inr (Or.inr (Or.inr (Or.inr (Or.inr (Or.inl ⟨c, rfl, glued, rfl, rfl⟩)))))
      · rename_i free
        cases stepped
        exact Or.inr (Or.inr (Or.inr (Or.inr (Or.inr (Or.inr ⟨c, rfl, Bool.eq_false_iff.mpr free, rfl, rfl⟩)))))

-- A level holds back at most one character, and it is written before the next blank, name or plain character.
theorem step_blank_held (held : Option Char) (gluing : Bool) (c : Char) :
    step ⟨held.toList.map .char, gluing⟩ (.blank c) =
      .ok (held.toList ++ [' '], ⟨(none : Option Char).toList.map .char, false⟩) := by
  cases held <;> rfl

theorem step_name_held (held : Option Char) (gluing : Bool) (word : String) :
    step ⟨held.toList.map .char, gluing⟩ (.name word) =
      .ok (held.toList ++ word.toList, ⟨(none : Option Char).toList.map .char, false⟩) := by
  cases held <;> rfl

theorem step_plain_held (held : Option Char) (c : Char) :
    step ⟨held.toList.map .char, false⟩ (.plain c) = .ok (held.toList, ⟨(some c).toList.map .char, false⟩) := by
  cases held <;> rfl

theorem resume_ok_iff (written all : List Char) (last : Scan) (result : Except BracketError (List Char × Scan)) :
    resume written result = .ok (all, last) ↔ ∃ more, result = .ok (more, last) ∧ all = written ++ more := by
  cases result with
  | error e => simp [resume]
  | ok reached =>
      obtain ⟨more, final⟩ := reached
      constructor
      · intro same
        cases same
        exact ⟨more, rfl, rfl⟩
      · rintro ⟨_, same, rfl⟩
        cases same
        rfl

theorem run_cons_ok (s last : Scan) (lexeme : Lexeme) (rest : List Lexeme) (written : List Char) :
    s.run (lexeme :: rest) = .ok (written, last) ↔
      ∃ first after more, s.step lexeme = .ok (first, after) ∧ after.run rest = .ok (more, last) ∧
        written = first ++ more := by
  rw [run]
  cases s.step lexeme with
  | error e => simp
  | ok result =>
      obtain ⟨first, after⟩ := result
      simp only [resume_ok_iff]
      constructor
      · rintro ⟨more, later, same⟩
        exact ⟨first, after, more, rfl, later, same⟩
      · rintro ⟨_, _, more, stepped, later, same⟩
        cases stepped
        exact ⟨more, later, same⟩

def above (s : Scan) (below : List Waiting) : Scan := ⟨s.waiting ++ below, s.gluing⟩

-- A flush stops at the innermost bracket, so what is below a closed stack cannot be seen from above.
theorem step_above (s after : Scan) (lexeme : Lexeme) (written : List Char) (below : List Waiting)
    (closed : held below = []) (stepped : s.step lexeme = .ok (written, after)) :
    (s.above below).step lexeme = .ok (written, after.above below) := by
  have flush := held_append s.waiting below closed
  have left := outside_append s.waiting below closed
  rcases step_cases s after lexeme written stepped with ⟨c, rfl, rfl, rfl⟩ | ⟨rfl, rfl, rfl⟩ | ⟨outer, rfl, found, rfl, rfl⟩ |
    ⟨word, rfl, rfl, rfl⟩ | ⟨c, rfl, rfl, rfl⟩ | ⟨c, rfl, glued, rfl, rfl⟩ | ⟨c, rfl, free, rfl, rfl⟩
  · simp only [step, above, flush, left]
  · rfl
  · simp only [step, above, flush, left, found, List.cons_append]
  · simp only [step, above, flush, left]
  · rfl
  · simp only [step, above, glued, if_true]
  · simp only [step, above, flush, left, free, Bool.false_eq_true, if_false, List.cons_append]

theorem run_above (s last : Scan) (lexemes : List Lexeme) (written : List Char) (below : List Waiting)
    (closed : held below = []) (ran : s.run lexemes = .ok (written, last)) :
    (s.above below).run lexemes = .ok (written, last.above below) := by
  induction lexemes generalizing s written with
  | nil =>
      cases ran
      rfl
  | cons lexeme rest ih =>
      obtain ⟨first, after, more, stepped, later, same⟩ := (run_cons_ok s last lexeme rest written).mp ran
      exact (run_cons_ok _ _ _ _ _).mpr
        ⟨first, after.above below, more, step_above s after lexeme first below closed stepped, ih after more later, same⟩

theorem step_letters (s after : Scan) (lexeme : Lexeme) (written : List Char)
    (stepped : s.step lexeme = .ok (written, after)) :
    (written ++ letters after.waiting).Perm (letters s.waiting ++ lexeme.shown) := by
  have split := letters_split s.waiting
  rcases step_cases s after lexeme written stepped with ⟨c, rfl, rfl, rfl⟩ | ⟨rfl, rfl, rfl⟩ | ⟨outer, rfl, found, rfl, rfl⟩ |
    ⟨word, rfl, rfl, rfl⟩ | ⟨c, rfl, rfl, rfl⟩ | ⟨c, rfl, glued, rfl, rfl⟩ | ⟨c, rfl, free, rfl, rfl⟩
  · rw [split, List.append_assoc, List.append_assoc]
    exact List.Perm.append_left _ List.perm_append_comm
  · rw [Lexeme.shown, List.append_nil]
    exact List.Perm.refl _
  · rw [split, found, Lexeme.shown, List.append_nil]
    exact List.Perm.refl _
  · rw [split, List.append_assoc, List.append_assoc]
    exact List.Perm.append_left _ List.perm_append_comm
  · exact List.perm_append_comm
  · exact List.perm_append_comm
  · rw [split, List.append_assoc]
    have moved : ([c] ++ letters (outside s.waiting)).Perm (letters (outside s.waiting) ++ [c]) := List.perm_append_comm
    exact List.Perm.append_left (held s.waiting) moved

theorem run_letters (s last : Scan) (lexemes : List Lexeme) (written : List Char)
    (ran : s.run lexemes = .ok (written, last)) :
    (written ++ letters last.waiting).Perm (letters s.waiting ++ lexemes.flatMap Lexeme.shown) := by
  induction lexemes generalizing s written with
  | nil =>
      cases ran
      rw [List.flatMap_nil, List.append_nil]
      exact List.Perm.refl _
  | cons lexeme rest ih =>
      obtain ⟨first, after, more, stepped, later, rfl⟩ := (run_cons_ok s last lexeme rest written).mp ran
      calc first ++ more ++ letters last.waiting
          = first ++ (more ++ letters last.waiting) := List.append_assoc _ _ _
        List.Perm _ (first ++ (letters after.waiting ++ rest.flatMap Lexeme.shown)) :=
          List.Perm.append_left first (ih after more later)
        _ = first ++ letters after.waiting ++ rest.flatMap Lexeme.shown := (List.append_assoc _ _ _).symm
        List.Perm _ (letters s.waiting ++ lexeme.shown ++ rest.flatMap Lexeme.shown) :=
          List.Perm.append_right _ (step_letters s after lexeme first stepped)
        _ = letters s.waiting ++ (lexeme :: rest).flatMap Lexeme.shown := by
          rw [List.flatMap_cons, List.append_assoc]

end Scan

end ReversePolish
