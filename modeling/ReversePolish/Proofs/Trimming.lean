import Mathlib.Data.List.DropRight
import ReversePolish.Proofs.FlatText

set_option autoImplicit false

namespace ReversePolish

namespace Waiting

theorem finish_outside (stack : List Waiting) : finish (outside stack) = (finish stack).map fun _ => [] := by
  induction stack with
  | nil => rfl
  | cons top rest ih =>
      cases top with
      | bracket => rfl
      | char c =>
          rw [outside, ih, finish]
          cases finish rest <;> rfl

end Waiting

namespace Vocabulary

open Text Scan

theorem flat_trailing_blank (v : Vocabulary) (front : List Char) (c : Char) (blank : isBlank c = true)
    (avoids : v.Avoids c) : v.flatText (front ++ [c]) = (v.flatText front).map (· ++ [' ']) := by
  rw [flat_complete, flat_complete, lex_append v front [c] (apart_cons v c [] avoids), lex_blank v c [] blank, run_append]
  cases start.run (v.lex front) with
  | error e => rfl
  | ok reached =>
      obtain ⟨written, last⟩ := reached
      have left := Waiting.finish_outside last.waiting
      change complete (resume written (Scan.run last [.blank c])) = _
      rw [complete_resume, complete]
      cases ended : Waiting.finish last.waiting with
      | error e => simp [run, step, resume, complete, left, ended, Except.map]
      | ok rest =>
          obtain ⟨_, rfl⟩ := (Waiting.finish_ok_iff _ rest).mp ended
          simp [run, step, resume, complete, left, ended, Except.map]

theorem fields_trailing_blank (v : Vocabulary) (avoids : ∀ c, isBlank c = true → v.Avoids c) (front : List Char) (c : Char)
    (blank : isBlank c = true) : (v.flatText (front ++ [c])).map fields = (v.flatText front).map fields := by
  rw [v.flat_trailing_blank front c blank (avoids c blank)]
  cases v.flatText front with
  | error e => rfl
  | ok out =>
      have words : fields (out ++ [' ']) = fields out := by
        rw [fields_append out [' '] rfl]
        exact List.append_nil (fields out)
      exact congrArg Except.ok words

theorem fields_leading_blank (v : Vocabulary) (avoids : ∀ c, isBlank c = true → v.Avoids c) (c : Char) (rest : List Char)
    (blank : isBlank c = true) : (v.flatText (c :: rest)).map fields = (v.flatText rest).map fields := by
  have flat := v.flat_blank [] rest [] c blank (avoids c blank) rfl
  rw [List.nil_append] at flat
  rw [flat]
  cases v.flatText rest with
  | error e => rfl
  | ok out => exact congrArg Except.ok (fields_blank ' ' out rfl)

theorem fields_leading_blanks (v : Vocabulary) (avoids : ∀ c, isBlank c = true → v.Avoids c) (gap rest : List Char)
    (blank : ∀ c ∈ gap, isBlank c = true) : (v.flatText (gap ++ rest)).map fields = (v.flatText rest).map fields := by
  induction gap with
  | nil => rfl
  | cons c more ih =>
      rw [List.cons_append, v.fields_leading_blank avoids c _ (blank c List.mem_cons_self)]
      exact ih fun d member => blank d (List.mem_cons_of_mem c member)

theorem fields_left_trimmed (v : Vocabulary) (avoids : ∀ c, isBlank c = true → v.Avoids c) (text : List Char) :
    (v.flatText (text.dropWhile isBlank)).map fields = (v.flatText text).map fields := by
  have whole := v.fields_leading_blanks avoids (text.takeWhile isBlank) (text.dropWhile isBlank)
    fun c member => List.mem_takeWhile_imp member
  rw [List.takeWhile_append_dropWhile] at whole
  exact whole.symm

theorem fields_right_trimmed (v : Vocabulary) (avoids : ∀ c, isBlank c = true → v.Avoids c) (text : List Char) :
    (v.flatText (text.rdropWhile isBlank)).map fields = (v.flatText text).map fields := by
  induction text using List.reverseRecOn with
  | nil => rfl
  | append_singleton front c ih =>
      by_cases blank : isBlank c = true
      · rw [List.rdropWhile_concat_pos isBlank front c blank, ih, v.fields_trailing_blank avoids front c blank]
      · rw [List.rdropWhile_concat_neg isBlank front c blank]

theorem flatten_trimmed (v : Vocabulary) (avoids : ∀ c, isBlank c = true → v.Avoids c) (expression : String) :
    v.flatten (String.ofList (trim expression.toList)) = v.flatten expression := by
  have words : (v.flatText (trim expression.toList)).map fields = (v.flatText expression.toList).map fields :=
    (v.fields_right_trimmed avoids _).trans (v.fields_left_trimmed avoids _)
  rw [flatten_fields, flatten_fields, String.toList_ofList, words]

end Vocabulary

end ReversePolish
