import Mathlib
import ReversePolish.Decimal.Numeral

set_option autoImplicit false

namespace ReversePolish.Decimal

def isNumeralChar (c : Char) : Bool := c.isAlphanum || c == '.' || c == '+' || c == '-'

theorem numeral_char_range (c : Char) (numeral : isNumeralChar c = true) : 43 ≤ c.toNat ∧ c.toNat ≤ 122 := by
  simp only [isNumeralChar, Char.isAlphanum, Char.isAlpha, Char.isUpper, Char.isLower, Char.isDigit,
    Bool.or_eq_true, Bool.and_eq_true, decide_eq_true_eq, beq_iff_eq, ge_iff_le, UInt32.le_iff_toNat_le] at numeral
  rcases numeral with (((letter | digit) | rfl) | rfl) | rfl
  · rcases letter with upper | lower
    · exact ⟨Nat.le_trans (by decide) upper.1, Nat.le_trans upper.2 (by decide)⟩
    · exact ⟨Nat.le_trans (by decide) lower.1, Nat.le_trans lower.2 (by decide)⟩
  · exact ⟨Nat.le_trans (by decide) digit.1, Nat.le_trans digit.2 (by decide)⟩
  all_goals decide

theorem numeral_char_alpha (c : Char) (alpha : c.isAlpha = true) : isNumeralChar c = true := by
  simp [isNumeralChar, Char.isAlphanum, alpha]

theorem numeral_char_digit (c : Char) (digit : c.isDigit = true) : isNumeralChar c = true := by
  simp [isNumeralChar, Char.isAlphanum, digit]

theorem alpha_of_lower (text word : List Char) (lower : text.map Char.toLower = word)
    (alpha : ∀ c ∈ word, c.isAlpha = true) : ∀ c ∈ text, c.isAlpha = true := by
  intro c member
  rw [← Char.isAlpha_toLower_eq_isAlpha]
  exact alpha _ (lower ▸ List.mem_map_of_mem member)

theorem read_sign_chars (text : List Char) (good : ∀ c ∈ (readSign text).2, isNumeralChar c = true) :
    ∀ c ∈ text, isNumeralChar c = true := by
  rw [readSign.eq_def] at good
  split at good
  · exact List.forall_mem_cons.mpr ⟨rfl, good⟩
  · exact List.forall_mem_cons.mpr ⟨rfl, good⟩
  · exact good

theorem exponent_chars (text : List Char) (exponent : Int) (read : readExponent? text = some exponent) :
    ∀ c ∈ text, isNumeralChar c = true := by
  cases text with
  | nil => exact fun c member => absurd member List.not_mem_nil
  | cons c rest =>
      rw [readExponent?] at read
      split at read
      rename_i negative digits split
      by_cases good : (c = 'e' ∨ c = 'E') ∧ digits ≠ [] ∧ digits.all Char.isDigit = true
      · have head : isNumeralChar c = true := by
          cases good.1 with
          | inl same => exact same ▸ rfl
          | inr same => exact same ▸ rfl
        have tail : ∀ d ∈ (readSign rest).2, isNumeralChar d = true := by
          rw [split]
          exact fun d member => numeral_char_digit d (List.all_eq_true.mp good.2.2 d member)
        exact List.forall_mem_cons.mpr ⟨head, read_sign_chars rest tail⟩
      · rw [if_neg good] at read
        cases read

theorem chars_after_digits (text : List Char) (good : ∀ c ∈ text.dropWhile Char.isDigit, isNumeralChar c = true) :
    ∀ c ∈ text, isNumeralChar c = true := by
  have split : text.takeWhile Char.isDigit ++ text.dropWhile Char.isDigit = text := List.takeWhile_append_dropWhile
  intro c member
  rw [← split] at member
  cases List.mem_append.mp member with
  | inl digit => exact numeral_char_digit c (List.mem_takeWhile_imp digit)
  | inr later => exact good c later

theorem scaled_chars (text : List Char) (size : Magnitude) (read : readScaled? text = some size) :
    ∀ c ∈ text, isNumeralChar c = true := by
  refine chars_after_digits text ?_
  rw [readScaled?] at read
  split at read
  rename_i fraction left parts
  split at read
  · cases read
  · obtain ⟨exponent, found, _⟩ := Option.map_eq_some_iff.mp read
    have tail := exponent_chars left exponent found
    split at parts
    · rename_i more point
      cases parts
      rw [point]
      exact List.forall_mem_cons.mpr ⟨rfl, chars_after_digits more tail⟩
    · cases parts
      exact tail

theorem magnitude_chars (text : List Char) (size : Magnitude) (read : readMagnitude? text = some size) :
    ∀ c ∈ text, isNumeralChar c = true := by
  have named : ∀ word : List Char, text.map Char.toLower = word → (∀ c ∈ word, c.isAlpha = true) →
      ∀ c ∈ text, isNumeralChar c = true :=
    fun word lower alpha c member => numeral_char_alpha c (alpha_of_lower text word lower alpha c member)
  rw [readMagnitude?] at read
  split at read
  · rename_i infinite
    cases infinite with
    | inl short => exact named _ short (by simp)
    | inr long => exact named _ long (by simp)
  · split at read
    · rename_i undefined
      exact named _ undefined (by simp)
    · exact scaled_chars text size read

theorem numeral_chars (text : String) (value : Float) (read : float? text = some value) :
    ∀ c ∈ text.toList, isNumeralChar c = true := by
  obtain ⟨numeral, found, _⟩ := Option.map_eq_some_iff.mp read
  rw [readNumeral?] at found
  split at found
  rename_i negative rest split
  obtain ⟨size, known, _⟩ := Option.map_eq_some_iff.mp found
  exact read_sign_chars text.toList (by rw [split]; exact magnitude_chars rest size known)

end ReversePolish.Decimal
