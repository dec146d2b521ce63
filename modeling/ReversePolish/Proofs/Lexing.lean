import Mathlib.Data.List.Find
import ReversePolish.Lexeme

set_option autoImplicit false

namespace ReversePolish

namespace Text

def isBracket (c : Char) : Bool := c == '(' || c == ')'

def isBreak (c : Char) : Bool := isBlank c || isBracket c

theorem break_of_blank (c : Char) (blank : isBlank c = true) : isBreak c = true := by
  rw [isBreak, blank, Bool.true_or]

theorem break_of_bracket (c : Char) (bracket : isBracket c = true) : isBreak c = true := by
  rw [isBreak, bracket, Bool.or_true]

theorem break_cases (c : Char) (broken : isBreak c = true) : isBlank c = true ∨ c = '(' ∨ c = ')' := by
  simpa [isBreak, isBracket] using broken

theorem not_break (c : Char) (unbroken : isBreak c = false) : isBlank c = false ∧ c ≠ '(' ∧ c ≠ ')' := by
  simpa [isBreak, isBracket] using unbroken

theorem blank_apart (c : Char) (blank : isBlank c = true) : c ≠ '(' ∧ c ≠ ')' := by
  constructor <;> rintro rfl <;> cases blank

theorem not_bracket_of_blank (c : Char) (blank : isBlank c = true) : isBracket c = false := by
  simpa [isBracket] using blank_apart c blank

theorem not_bracket (c : Char) (unbroken : isBreak c = false) : isBracket c = false :=
  (Bool.or_eq_false_iff.mp unbroken).2

theorem prefix_before (word front back : List Char) (apart : ∀ c ∈ back.head?, c ∉ word) :
    word.isPrefixOf (front ++ back) = word.isPrefixOf front := by
  induction word generalizing front with
  | nil => simp
  | cons c word ih =>
      have later : ∀ d ∈ back.head?, d ∉ word := fun d head inside => apart d head (List.mem_cons_of_mem c inside)
      cases front with
      | cons d front => simp [List.isPrefixOf, ih front later]
      | nil =>
          cases back with
          | nil => rfl
          | cons d back =>
              have different : (c == d) = false := by
                have absent := apart d rfl
                exact beq_eq_false_iff_ne.mpr fun same => absent (same ▸ List.mem_cons_self)
              simp [List.isPrefixOf, different]

end Text

def Lexeme.isInner : Lexeme → Bool
  | .name _ | .symbol _ | .plain _ => true
  | .blank _ | .opening | .closing => false

namespace Vocabulary

def Avoids (v : Vocabulary) (c : Char) : Prop := ∀ word ∈ v.names, c ∉ word.toList

def Apart (v : Vocabulary) (text : List Char) : Prop := ∀ c ∈ text.head?, v.Avoids c

theorem apart_cons (v : Vocabulary) (c : Char) (rest : List Char) (avoids : v.Avoids c) : v.Apart (c :: rest) := by
  intro d head
  cases head
  exact avoids

theorem name_before (v : Vocabulary) (front back : List Char) (apart : v.Apart back) :
    v.name? (front ++ back) = v.name? front := by
  have agree : ∀ word ∈ v.names, Text.spells word (front ++ back) = Text.spells word front := by
    intro word member
    rw [Text.spells, Text.spells, Text.prefix_before _ _ _ fun c head => apart c head word member]
  exact List.find?_congr agree

theorem lexeme_cases (v : Vocabulary) (c : Char) (rest : List Char) :
    (Text.isBlank c = true ∧ v.lexemeAt c rest = .blank c) ∨
    (c = '(' ∧ v.lexemeAt c rest = .opening) ∨
    (c = ')' ∧ v.lexemeAt c rest = .closing) ∨
    (Text.isBreak c = false ∧ ∃ word, v.name? (c :: rest) = some word ∧ v.lexemeAt c rest = .name word) ∨
    (Text.isBreak c = false ∧ v.name? (c :: rest) = none ∧ c ∈ v.symbols ∧ v.lexemeAt c rest = .symbol c) ∨
    (Text.isBreak c = false ∧ v.name? (c :: rest) = none ∧ c ∉ v.symbols ∧ v.lexemeAt c rest = .plain c) := by
  by_cases blank : Text.isBlank c = true
  · exact Or.inl ⟨blank, by rw [lexemeAt, if_pos blank]⟩
  · by_cases opens : c = '('
    · exact Or.inr (Or.inl ⟨opens, by rw [lexemeAt, if_neg blank, if_pos opens]⟩)
    · by_cases closes : c = ')'
      · exact Or.inr (Or.inr (Or.inl ⟨closes, by rw [lexemeAt, if_neg blank, if_neg opens, if_pos closes]⟩))
      · have unbroken : Text.isBreak c = false := by simp [Text.isBreak, Text.isBracket, blank, opens, closes]
        refine Or.inr (Or.inr (Or.inr ?_))
        rw [lexemeAt, if_neg blank, if_neg opens, if_neg closes]
        cases found : v.name? (c :: rest) with
        | some word => exact Or.inl ⟨unbroken, word, rfl, rfl⟩
        | none =>
            by_cases known : c ∈ v.symbols
            · exact Or.inr (Or.inl ⟨unbroken, rfl, known, if_pos known⟩)
            · exact Or.inr (Or.inr ⟨unbroken, rfl, known, if_neg known⟩)

theorem lexeme_before (v : Vocabulary) (c : Char) (front back : List Char) (apart : v.Apart back) :
    v.lexemeAt c (front ++ back) = v.lexemeAt c front := by
  have same := name_before v (c :: front) back apart
  rw [List.cons_append] at same
  simp only [lexemeAt, same]

theorem lex_from_drop (v : Vocabulary) (skip : Nat) (text : List Char) :
    v.lexFrom skip text = v.lex (text.drop skip) := by
  induction text generalizing skip with
  | nil => simp [lex, lexFrom]
  | cons c rest ih =>
      cases skip with
      | zero => rfl
      | succ skip => exact ih skip

theorem lex_cons (v : Vocabulary) (c : Char) (rest : List Char) :
    v.lex (c :: rest) =
      v.lexemeAt c rest :: v.lex (rest.drop ((v.lexemeAt c rest).letters.length - 1)) := by
  rw [← lex_from_drop]
  rfl

theorem lex_single (v : Vocabulary) (c : Char) (rest : List Char) (lexeme : Lexeme)
    (read : v.lexemeAt c rest = lexeme) (one : lexeme.letters = [c]) : v.lex (c :: rest) = lexeme :: v.lex rest := by
  rw [lex_cons, read, one]
  rfl

theorem lex_blank (v : Vocabulary) (c : Char) (rest : List Char) (blank : Text.isBlank c = true) :
    v.lex (c :: rest) = .blank c :: v.lex rest :=
  lex_single v c rest _ (by rw [lexemeAt, if_pos blank]) rfl

theorem lex_opening (v : Vocabulary) (rest : List Char) : v.lex ('(' :: rest) = .opening :: v.lex rest :=
  lex_single v '(' rest _ rfl rfl

theorem lex_closing (v : Vocabulary) (rest : List Char) : v.lex (')' :: rest) = .closing :: v.lex rest :=
  lex_single v ')' rest _ rfl rfl

theorem lexeme_name (v : Vocabulary) (c : Char) (rest : List Char) (word : String) (unbroken : Text.isBreak c = false)
    (found : v.name? (c :: rest) = some word) : v.lexemeAt c rest = .name word := by
  obtain ⟨black, notOpening, notClosing⟩ := Text.not_break c unbroken
  rw [lexemeAt, black, if_neg Bool.false_ne_true, if_neg notOpening, if_neg notClosing, found]

theorem lexeme_other (v : Vocabulary) (c : Char) (rest : List Char) (unbroken : Text.isBreak c = false)
    (none : v.name? (c :: rest) = none) : v.lexemeAt c rest = if c ∈ v.symbols then .symbol c else .plain c := by
  obtain ⟨black, notOpening, notClosing⟩ := Text.not_break c unbroken
  rw [lexemeAt, black, if_neg Bool.false_ne_true, if_neg notOpening, if_neg notClosing, none]

theorem lex_name (v : Vocabulary) (c : Char) (more rest : List Char) (word : String) (letters : word.toList = c :: more)
    (unbroken : Text.isBreak c = false) (found : v.name? (c :: more ++ rest) = some word) :
    v.lex (c :: more ++ rest) = .name word :: v.lex rest := by
  rw [List.cons_append, lex_cons, lexeme_name v c (more ++ rest) word unbroken found, Lexeme.letters, letters,
    List.length_cons, Nat.add_sub_cancel, List.drop_left]

theorem lex_symbol (v : Vocabulary) (c : Char) (rest : List Char) (unbroken : Text.isBreak c = false)
    (none : v.name? (c :: rest) = none) (known : c ∈ v.symbols) : v.lex (c :: rest) = .symbol c :: v.lex rest :=
  lex_single v c rest _ (by rw [lexeme_other v c rest unbroken none, if_pos known]) rfl

theorem lex_plain (v : Vocabulary) (c : Char) (rest : List Char) (unbroken : Text.isBreak c = false)
    (none : v.name? (c :: rest) = none) (other : c ∉ v.symbols) : v.lex (c :: rest) = .plain c :: v.lex rest :=
  lex_single v c rest _ (by rw [lexeme_other v c rest unbroken none, if_neg other]) rfl

theorem lex_from_append (v : Vocabulary) (skip : Nat) (front back : List Char) (inside : skip ≤ front.length)
    (apart : v.Apart back) : v.lexFrom skip (front ++ back) = v.lexFrom skip front ++ v.lex back := by
  induction front generalizing skip with
  | nil =>
      rw [Nat.le_zero.mp inside]
      rfl
  | cons c rest ih =>
      cases skip with
      | succ skip => exact ih skip (Nat.le_of_succ_le_succ inside)
      | zero =>
          obtain ⟨more, letters, left, split⟩ := lexeme_letters v c rest
          have fits : (v.lexemeAt c rest).letters.length - 1 ≤ rest.length := by
            rw [letters, split, List.length_cons, List.length_append]
            omega
          rw [List.cons_append, lexFrom, lexFrom, lexeme_before v c rest back apart, ih _ fits]
          rfl

theorem lex_append (v : Vocabulary) (front back : List Char) (apart : v.Apart back) :
    v.lex (front ++ back) = v.lex front ++ v.lex back :=
  lex_from_append v 0 front back (Nat.zero_le _) apart

theorem mem_lex (v : Vocabulary) (text : List Char) (lexeme : Lexeme) (member : lexeme ∈ v.lex text) :
    ∃ c rest, c :: rest <:+ text ∧ lexeme = v.lexemeAt c rest := by
  suffices general : ∀ skip, lexeme ∈ v.lexFrom skip text → ∃ c rest, c :: rest <:+ text ∧ lexeme = v.lexemeAt c rest from
    general 0 member
  intro skip found
  clear member
  induction text generalizing skip with
  | nil => cases skip <;> exact absurd found List.not_mem_nil
  | cons c rest ih =>
      cases skip with
      | succ skip =>
          obtain ⟨d, more, suffix, read⟩ := ih skip found
          exact ⟨d, more, suffix.trans (List.suffix_cons c rest), read⟩
      | zero =>
          cases List.mem_cons.mp found with
          | inl here => exact ⟨c, rest, List.suffix_rfl, here⟩
          | inr later =>
              obtain ⟨d, more, suffix, read⟩ := ih _ later
              exact ⟨d, more, suffix.trans (List.suffix_cons c rest), read⟩

theorem lex_unbroken (v : Vocabulary) (text : List Char) (unbroken : ∀ c ∈ text, Text.isBreak c = false) :
    ∀ lexeme ∈ v.lex text, lexeme.isInner = true := by
  intro lexeme member
  obtain ⟨c, rest, suffix, read⟩ := mem_lex v text lexeme member
  have whole := unbroken c (suffix.subset List.mem_cons_self)
  obtain ⟨black, notOpening, notClosing⟩ := Text.not_break c whole
  subst read
  rcases lexeme_cases v c rest with ⟨blank, _⟩ | ⟨opens, _⟩ | ⟨closes, _⟩ | ⟨_, word, _, read⟩ | ⟨_, _, _, read⟩ | ⟨_, _, _, read⟩
  · rw [black] at blank
    cases blank
  · exact absurd opens notOpening
  · exact absurd closes notClosing
  all_goals
    rw [read]
    rfl

theorem mem_lex_symbol (v : Vocabulary) (text : List Char) (c : Char) (member : .symbol c ∈ v.lex text) :
    c ∈ text ∧ c ∈ v.symbols := by
  obtain ⟨d, rest, suffix, same⟩ := mem_lex v text _ member
  rcases lexeme_cases v d rest with ⟨_, read⟩ | ⟨_, read⟩ | ⟨_, read⟩ | ⟨_, _, _, read⟩ | ⟨_, _, known, read⟩ | ⟨_, _, _, read⟩ <;>
    rw [read] at same <;> cases same
  exact ⟨suffix.subset List.mem_cons_self, known⟩

theorem mem_lex_plain (v : Vocabulary) (text : List Char) (c : Char) (member : .plain c ∈ v.lex text) : c ∉ v.symbols := by
  obtain ⟨d, rest, _, same⟩ := mem_lex v text _ member
  rcases lexeme_cases v d rest with ⟨_, read⟩ | ⟨_, read⟩ | ⟨_, read⟩ | ⟨_, _, _, read⟩ | ⟨_, _, _, read⟩ | ⟨_, _, other, read⟩ <;>
    rw [read] at same <;> cases same
  exact other

end Vocabulary

end ReversePolish
