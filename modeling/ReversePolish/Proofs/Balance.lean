import Mathlib.Data.List.Infix

set_option autoImplicit false

namespace ReversePolish

def depth (text : List Char) : Int := (text.count '(' : Int) - text.count ')'

def Balanced (text : List Char) : Prop := (∀ front ∈ text.inits, 0 ≤ depth front) ∧ depth text = 0

instance (text : List Char) : Decidable (Balanced text) :=
  inferInstanceAs (Decidable ((∀ front ∈ text.inits, 0 ≤ depth front) ∧ depth text = 0))

theorem depth_append (front back : List Char) : depth (front ++ back) = depth front + depth back := by
  simp only [depth, List.count_append]
  omega

theorem depth_opening (rest : List Char) : depth ('(' :: rest) = depth rest + 1 := by
  simp [depth]
  omega

theorem depth_closing (rest : List Char) : depth (')' :: rest) = depth rest - 1 := by
  simp [depth]
  omega

theorem depth_char (c : Char) (rest : List Char) (notOpening : c ≠ '(') (notClosing : c ≠ ')') :
    depth (c :: rest) = depth rest := by
  simp [depth, notOpening, notClosing]

theorem depth_free (text : List Char) (free : ∀ c ∈ text, c ≠ '(' ∧ c ≠ ')') : depth text = 0 := by
  induction text with
  | nil => rfl
  | cons c rest ih =>
      obtain ⟨notOpening, notClosing⟩ := free c List.mem_cons_self
      rw [depth_char c rest notOpening notClosing]
      exact ih fun d member => free d (List.mem_cons_of_mem c member)

def Falls (start : Int) (text : List Char) : Prop := ∃ front, front <+: text ∧ start + depth front < 0

instance (start : Int) (text : List Char) : Decidable (Falls start text) :=
  decidable_of_iff (∃ front ∈ text.inits, start + depth front < 0) (by simp only [List.mem_inits, Falls])

theorem falls_append (start : Int) (front back : List Char) (above : ¬ Falls start front) :
    Falls start (front ++ back) ↔ Falls (start + depth front) back := by
  constructor
  · rintro ⟨part, begins, below⟩
    rcases List.prefix_or_prefix_of_prefix begins (List.prefix_append front back) with inside | beyond
    · exact absurd ⟨part, inside, below⟩ above
    · obtain ⟨more, rfl⟩ := beyond
      rw [depth_append] at below
      exact ⟨more, (List.prefix_append_right_inj front).mp begins, by omega⟩
  · rintro ⟨part, begins, below⟩
    refine ⟨front ++ part, (List.prefix_append_right_inj front).mpr begins, ?_⟩
    rw [depth_append]
    omega

theorem not_falls_free (start : Int) (text : List Char) (opened : 0 ≤ start) (free : ∀ c ∈ text, c ≠ '(' ∧ c ≠ ')') :
    ¬ Falls start text := by
  rintro ⟨front, begins, below⟩
  rw [depth_free front fun c member => free c (begins.subset member)] at below
  omega

theorem falls_free (start : Int) (front back : List Char) (opened : 0 ≤ start) (free : ∀ c ∈ front, c ≠ '(' ∧ c ≠ ')') :
    Falls start (front ++ back) ↔ Falls start back := by
  rw [falls_append start front back (not_falls_free start front opened free), depth_free front free, Int.add_zero]

theorem falls_cons (start : Int) (c : Char) (rest : List Char) (opened : 0 ≤ start) (still : 0 ≤ start + depth [c]) :
    Falls start (c :: rest) ↔ Falls (start + depth [c]) rest := by
  have above : ¬ Falls start [c] := by
    rintro ⟨front, begins, below⟩
    rcases List.prefix_cons_iff.mp begins with rfl | ⟨more, rfl, ended⟩
    · have nothing : depth [] = 0 := rfl
      omega
    · rw [List.prefix_nil.mp ended] at below
      omega
  exact falls_append start [c] rest above

theorem falls_opening (start : Int) (rest : List Char) (opened : 0 ≤ start) :
    Falls start ('(' :: rest) ↔ Falls (start + 1) rest :=
  falls_cons start '(' rest opened (Int.le_add_one opened)

theorem falls_closing (start : Int) (rest : List Char) (opened : 0 < start) :
    Falls start (')' :: rest) ↔ Falls (start - 1) rest :=
  falls_cons start ')' rest (Int.le_of_lt opened) (Int.sub_nonneg.mpr opened)

theorem falls_unopened (rest : List Char) : Falls 0 (')' :: rest) := ⟨[')'], ⟨rest, rfl⟩, by decide⟩

theorem balanced_prefix (text front : List Char) (balanced : Balanced text) (begins : front <+: text) : 0 ≤ depth front :=
  balanced.1 front ((List.mem_inits front text).mpr begins)

theorem balanced_of_prefixes (text : List Char) (level : depth text = 0)
    (above : ∀ front, front <+: text → 0 ≤ depth front) : Balanced text :=
  ⟨fun front member => above front ((List.mem_inits front text).mp member), level⟩

theorem balanced_after (front back : List Char) (level : depth front = 0) (balanced : Balanced (front ++ back)) :
    Balanced back := by
  have whole := balanced.2
  rw [depth_append, level] at whole
  refine balanced_of_prefixes back (by omega) fun part begins => ?_
  have reached := balanced_prefix (front ++ back) (front ++ part) balanced ((List.prefix_append_right_inj front).mpr begins)
  rw [depth_append, level] at reached
  omega

theorem balanced_tail (c : Char) (rest : List Char) (notOpening : c ≠ '(') (notClosing : c ≠ ')')
    (balanced : Balanced (c :: rest)) : Balanced rest :=
  balanced_after [c] rest (by rw [depth_char c [] notOpening notClosing]; rfl) balanced

theorem not_balanced_closing (rest : List Char) : ¬ Balanced (')' :: rest) := by
  intro balanced
  have first := balanced_prefix (')' :: rest) [')'] balanced ⟨rest, rfl⟩
  rw [depth_closing] at first
  exact absurd first (by decide)

-- The first place where the depth falls below zero is a closing bracket, and the text before it is
-- balanced. The induction is on the text, from any depth that was reached before it.
theorem first_return (text : List Char) (start : Int) (opened : 0 ≤ start) (falls : start + depth text < 0) :
    ∃ inner outer, text = inner ++ ')' :: outer ∧ start + depth inner = 0 ∧
      ∀ front, front <+: inner → 0 ≤ start + depth front := by
  induction text generalizing start with
  | nil =>
      rw [depth] at falls
      simp at falls
      omega
  | cons c rest ih =>
      have extend : ∀ change : Int, (∀ more, depth (c :: more) = depth more + change) → 0 ≤ start + change →
          ∃ inner outer, c :: rest = inner ++ ')' :: outer ∧ start + depth inner = 0 ∧
            ∀ front, front <+: inner → 0 ≤ start + depth front := by
        intro change moves still
        have whole := moves rest
        obtain ⟨inner, outer, split, level, above⟩ := ih (start + change) still (by omega)
        have here := moves inner
        refine ⟨c :: inner, outer, by rw [split, List.cons_append], by omega, ?_⟩
        intro front begins
        cases front with
        | nil => simpa [depth] using opened
        | cons d more =>
            obtain ⟨rfl, later⟩ := List.cons_prefix_cons.mp begins
            have reached := above more later
            have moved := moves more
            omega
      by_cases opens : c = '('
      · subst opens
        exact extend 1 depth_opening (by omega)
      · by_cases closes : c = ')'
        · subst closes
          by_cases last : start = 0
          · refine ⟨[], rest, rfl, by rw [last]; rfl, fun front begins => ?_⟩
            rw [List.prefix_nil.mp begins, last]
            decide
          · exact extend (-1) (fun more => by rw [depth_closing]; omega) (by omega)
        · exact extend 0 (fun more => by rw [depth_char c more opens closes]; omega) (by omega)

theorem balanced_group (text : List Char) (balanced : Balanced ('(' :: text)) :
    ∃ inner outer, text = inner ++ ')' :: outer ∧ Balanced inner ∧ Balanced outer := by
  have whole := balanced.2
  rw [depth_opening] at whole
  obtain ⟨inner, outer, rfl, level, above⟩ := first_return text 0 (by decide) (by omega)
  have inside : Balanced inner := by
    refine balanced_of_prefixes inner (by omega) fun front begins => ?_
    have reached := above front begins
    omega
  refine ⟨inner, outer, rfl, inside, ?_⟩
  have closed : depth ('(' :: inner ++ [')']) = 0 := by
    rw [List.cons_append, depth_opening, depth_append, depth_closing]
    have nothing : depth [] = 0 := rfl
    omega
  refine balanced_after ('(' :: inner ++ [')']) outer closed ?_
  simpa using balanced

end ReversePolish
