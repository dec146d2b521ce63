import ReversePolish.Proofs.Fields
import ReversePolish.Proofs.Scanning

set_option autoImplicit false

namespace ReversePolish

namespace Scan

open Waiting

theorem step_inner (s : Scan) (lexeme : Lexeme) (inner : lexeme.isInner = true) :
    ∃ written after, s.step lexeme = .ok (written, after) ∧ outside after.waiting = outside s.waiting := by
  cases lexeme with
  | blank c => cases inner
  | opening => cases inner
  | closing => cases inner
  | name word => exact ⟨_, _, rfl, outside_outside s.waiting⟩
  | symbol c => exact ⟨_, _, rfl, rfl⟩
  | plain c =>
      by_cases glued : s.gluing = true
      · exact ⟨[c], ⟨s.waiting, false⟩, if_pos glued, rfl⟩
      · exact ⟨_, _, if_neg glued, outside_outside s.waiting⟩

theorem run_inner (s : Scan) (lexemes : List Lexeme) (inner : ∀ lexeme ∈ lexemes, lexeme.isInner = true) :
    ∃ written last, s.run lexemes = .ok (written, last) ∧ outside last.waiting = outside s.waiting := by
  induction lexemes generalizing s with
  | nil => exact ⟨[], s, rfl, rfl⟩
  | cons lexeme rest ih =>
      obtain ⟨first, after, stepped, kept⟩ := step_inner s lexeme (inner lexeme List.mem_cons_self)
      obtain ⟨more, last, ran, same⟩ := ih after fun l member => inner l (List.mem_cons_of_mem lexeme member)
      exact ⟨first ++ more, last, (run_cons_ok _ _ _ _ _).mpr ⟨first, after, more, stepped, ran, rfl⟩, same.trans kept⟩

def complete : Except BracketError (List Char × Scan) → Except BracketError (List Char)
  | .error e => .error e
  | .ok (written, last) => (finish last.waiting).map (written ++ ·)

theorem complete_resume (written : List Char) (result : Except BracketError (List Char × Scan)) :
    complete (resume written result) = (complete result).map (written ++ ·) := by
  cases result with
  | error e => rfl
  | ok reached =>
      obtain ⟨more, last⟩ := reached
      rw [resume, complete, complete]
      cases finish last.waiting with
      | error e => rfl
      | ok rest => exact congrArg Except.ok (List.append_assoc written more rest)

theorem complete_cons (s after : Scan) (lexeme : Lexeme) (rest : List Lexeme) (written : List Char)
    (stepped : s.step lexeme = .ok (written, after)) :
    complete (s.run (lexeme :: rest)) = (complete (after.run rest)).map (written ++ ·) := by
  rw [run, stepped, ← complete_resume]

end Scan

namespace Vocabulary

open Scan Waiting

theorem flat_complete (v : Vocabulary) (text : List Char) : v.flatText text = complete (start.run (v.lex text)) := rfl

theorem flat_ok_iff (v : Vocabulary) (text out : List Char) :
    v.flatText text = .ok out ↔
      ∃ written last, start.run (v.lex text) = .ok (written, last) ∧ outside last.waiting = [] ∧
        out = written ++ held last.waiting := by
  rw [flat_complete]
  cases start.run (v.lex text) with
  | error e => simp [complete]
  | ok reached =>
      obtain ⟨written, last⟩ := reached
      rw [complete]
      constructor
      · intro same
        cases ended : finish last.waiting with
        | error e =>
            rw [ended] at same
            cases same
        | ok rest =>
            rw [ended] at same
            cases same
            obtain ⟨closed, rfl⟩ := (finish_ok_iff _ _).mp ended
            exact ⟨written, last, rfl, closed, rfl⟩
      · rintro ⟨_, _, same, closed, rfl⟩
        cases same
        rw [(finish_ok_iff _ _).mpr ⟨closed, rfl⟩]
        rfl

theorem flatten_ok_iff (v : Vocabulary) (expression : String) (p : Postfix) :
    v.flatten expression = .ok p ↔
      ∃ out, v.flatText expression.toList = .ok out ∧ p = ⟨(Text.fields out).map String.ofList⟩ := by
  rw [flatten]
  cases v.flatText expression.toList with
  | error e => simp [Except.map]
  | ok out => simp [Except.map, eq_comm]

theorem flatten_fields (v : Vocabulary) (expression : String) :
    v.flatten expression = ((v.flatText expression.toList).map Text.fields).map fun words => ⟨words.map String.ofList⟩ := by
  rw [flatten]
  cases v.flatText expression.toList <;> rfl

theorem run_part (v : Vocabulary) (below : List Waiting) (part back out : List Char) (c : Char)
    (blank : Text.isBlank c = true) (avoids : v.Avoids c) (closed : held below = []) (flat : v.flatText part = .ok out) :
    Scan.run ⟨below, false⟩ (v.lex (part ++ c :: back)) = resume (out ++ [' ']) (Scan.run ⟨below, false⟩ (v.lex back)) := by
  obtain ⟨written, last, ran, ended, rfl⟩ := (flat_ok_iff v part out).mp flat
  have inside : Scan.run ⟨below, false⟩ (v.lex part) = .ok (written, last.above below) :=
    run_above start last (v.lex part) written below closed ran
  have flush := held_append last.waiting below closed
  have left := outside_append last.waiting below closed
  rw [ended, List.nil_append] at left
  rw [lex_append v part (c :: back) (apart_cons v c back avoids), lex_blank v c back blank, run_append, inside]
  simp only [run, step, above, left, flush, resume_resume, List.append_assoc]

theorem flat_blank (v : Vocabulary) (front back out : List Char) (c : Char) (blank : Text.isBlank c = true)
    (avoids : v.Avoids c) (flat : v.flatText front = .ok out) :
    v.flatText (front ++ c :: back) = (v.flatText back).map (out ++ [' '] ++ ·) := by
  rw [flat_complete, flat_complete, ← complete_resume]
  exact congrArg complete (run_part v [] front back out c blank avoids rfl flat)

theorem flat_apart (v : Vocabulary) (front back out : List Char) (avoids : ∀ c, Text.isBlank c = true → v.Avoids c)
    (apart : Text.startsBlank back = true) (flat : v.flatText front = .ok out) :
    v.flatText (front ++ back) = (v.flatText back).map (out ++ ·) := by
  cases back with
  | nil =>
      rw [List.append_nil, flat]
      exact congrArg Except.ok (List.append_nil out).symm
  | cons c rest =>
      have blank : Text.isBlank c = true := apart
      have alone := flat_blank v [] rest [] c blank (avoids c blank) rfl
      rw [List.nil_append] at alone
      rw [flat_blank v front rest out c blank (avoids c blank) flat, alone]
      cases v.flatText rest with
      | error e => rfl
      | ok more => exact congrArg Except.ok (List.append_assoc out [' '] more)

-- The scan of a group leaves every stack as it was, and writes what the group alone is flattened to.
theorem run_group (v : Vocabulary) (s : Scan) (inner rest out : List Char) (avoids : v.Avoids ')')
    (flat : v.flatText inner = .ok out) :
    s.run (v.lex ('(' :: inner ++ ')' :: rest)) = resume out (Scan.run ⟨s.waiting, false⟩ (v.lex rest)) := by
  obtain ⟨written, last, ran, closed, rfl⟩ := (flat_ok_iff v inner out).mp flat
  have inside := run_above start last (v.lex inner) written (.bracket :: s.waiting) rfl ran
  have flush := held_append last.waiting (.bracket :: s.waiting) rfl
  have left := outside_append last.waiting (.bracket :: s.waiting) rfl
  rw [closed, List.nil_append] at left
  rw [List.cons_append, lex_opening, lex_append v inner (')' :: rest) (apart_cons v ')' rest avoids), lex_closing]
  change resume [] (Scan.run (start.above (.bracket :: s.waiting)) _) = _
  rw [resume_nil, run_append, inside]
  simp only [run, step, above, left, flush, resume_resume]

theorem flat_group (v : Vocabulary) (inner rest out : List Char) (avoids : v.Avoids ')')
    (flat : v.flatText inner = .ok out) :
    v.flatText ('(' :: inner ++ ')' :: rest) = (v.flatText rest).map (out ++ ·) := by
  rw [flat_complete, run_group v start inner rest out avoids flat, complete_resume]
  rfl

theorem shown_inner (lexemes : List Lexeme) (inner : ∀ lexeme ∈ lexemes, lexeme.isInner = true) :
    lexemes.flatMap Lexeme.shown = lexemes.flatMap Lexeme.letters := by
  induction lexemes with
  | nil => rfl
  | cons lexeme rest ih =>
      have same : lexeme.shown = lexeme.letters := by
        have here := inner lexeme List.mem_cons_self
        cases lexeme <;> first | rfl | cases here
      rw [List.flatMap_cons, List.flatMap_cons, same, ih fun l member => inner l (List.mem_cons_of_mem lexeme member)]

theorem flat_letters (v : Vocabulary) (text out : List Char) (flat : v.flatText text = .ok out) :
    out.Perm ((v.lex text).flatMap Lexeme.shown) := by
  obtain ⟨written, last, ran, closed, rfl⟩ := (flat_ok_iff v text out).mp flat
  have counted := run_letters start last (v.lex text) written ran
  rw [letters_split, closed] at counted
  simpa [letters, start] using counted

theorem flat_word (v : Vocabulary) (word : List Char) (unbroken : ∀ c ∈ word, Text.isBreak c = false) :
    ∃ out, v.flatText word = .ok out ∧ out.Perm word := by
  have inner := lex_unbroken v word unbroken
  obtain ⟨written, last, ran, kept⟩ := run_inner start (v.lex word) inner
  have flat := (flat_ok_iff v word _).mpr ⟨written, last, ran, kept, rfl⟩
  refine ⟨written ++ held last.waiting, flat, ?_⟩
  have counted := flat_letters v word _ flat
  rwa [shown_inner _ inner, lex_letters] at counted

end Vocabulary

end ReversePolish
