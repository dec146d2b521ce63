import ReversePolish.Text.Blank

set_option autoImplicit false

namespace ReversePolish.Text

def Solid (word : List Char) : Prop :=
  word ≠ [] ∧ ∀ c ∈ word, isBlank c = false

theorem fields_blank (c : Char) (rest : List Char) (blank : isBlank c = true) :
    fields (c :: rest) = fields rest := by
  rw [fields, if_pos blank]

theorem fields_char (c : Char) (rest : List Char) (black : isBlank c = false) :
    fields (c :: rest) = attach c (startsBlank rest) (fields rest) := by
  rw [fields, black, if_neg Bool.false_ne_true]

theorem fields_nil_starts_blank (text : List Char) (empty : fields text = []) : startsBlank text = true := by
  cases text with
  | nil => rfl
  | cons c rest =>
      by_cases blank : isBlank c = true
      · exact blank
      · rw [fields_char c rest (Bool.eq_false_iff.mpr blank)] at empty
        exact absurd empty (attach_ne_nil _ _ _)

theorem attach_append (c : Char) (alone : Bool) (words more : List (List Char))
    (apart : words = [] → alone = true) :
    attach c alone (words ++ more) = attach c alone words ++ more := by
  cases words with
  | cons word rest => cases alone <;> rfl
  | nil =>
      rw [apart rfl]
      cases more <;> rfl

theorem fields_append (front back : List Char) (apart : startsBlank back = true) :
    fields (front ++ back) = fields front ++ fields back := by
  induction front with
  | nil => rfl
  | cons c rest ih =>
      by_cases blank : isBlank c = true
      · rw [List.cons_append, fields_blank c _ blank, fields_blank c _ blank, ih]
      · have black := Bool.eq_false_iff.mpr blank
        have same : startsBlank (rest ++ back) = startsBlank rest := by
          cases rest with
          | nil => exact apart
          | cons d more => rfl
        rw [List.cons_append, fields_char c _ black, fields_char c _ black, ih, same]
        exact attach_append c _ _ _ (fields_nil_starts_blank rest)

theorem fields_solid (word : List Char) (solid : Solid word) : fields word = [word] := by
  obtain ⟨filled, black⟩ := solid
  induction word with
  | nil => exact absurd rfl filled
  | cons c rest ih =>
      rw [fields_char c rest (black c List.mem_cons_self)]
      cases rest with
      | nil => rfl
      | cons d more =>
          have tail : ∀ e ∈ d :: more, isBlank e = false := fun e member => black e (List.mem_cons_of_mem c member)
          rw [ih (List.cons_ne_nil d more) tail, startsBlank, tail d List.mem_cons_self]
          rfl

theorem starts_blank_solid (word rest : List Char) (solid : Solid word) : startsBlank (word ++ rest) = false := by
  obtain ⟨filled, black⟩ := solid
  cases word with
  | nil => exact absurd rfl filled
  | cons c more => exact black c List.mem_cons_self

theorem attach_solid (c : Char) (alone : Bool) (words : List (List Char)) (black : isBlank c = false)
    (solid : ∀ word ∈ words, Solid word) : ∀ word ∈ attach c alone words, Solid word := by
  have single : Solid [c] := ⟨List.cons_ne_nil c [], by simpa using black⟩
  cases words with
  | nil => simpa [attach] using single
  | cons first more =>
      cases alone with
      | true => simpa [attach] using ⟨single, solid first (by simp), fun word member => solid word (by simp [member])⟩
      | false =>
          have joined : Solid (c :: first) :=
            ⟨List.cons_ne_nil c first, by simpa using ⟨black, (solid first (by simp)).2⟩⟩
          simpa [attach] using ⟨joined, fun word member => solid word (by simp [member])⟩

theorem fields_are_solid (text : List Char) : ∀ word ∈ fields text, Solid word := by
  induction text with
  | nil => exact fun word member => absurd member List.not_mem_nil
  | cons c rest ih =>
      by_cases blank : isBlank c = true
      · rwa [fields_blank c rest blank]
      · have black := Bool.eq_false_iff.mpr blank
        rw [fields_char c rest black]
        exact attach_solid c _ _ black ih

theorem attach_flatten (c : Char) (alone : Bool) (words : List (List Char)) :
    (attach c alone words).flatten = c :: words.flatten := by
  cases words with
  | nil => rfl
  | cons word more => cases alone <;> rfl

theorem fields_flatten (text : List Char) : (fields text).flatten = text.filter fun c => !isBlank c := by
  induction text with
  | nil => rfl
  | cons c rest ih =>
      by_cases blank : isBlank c = true
      · rw [fields_blank c rest blank, ih, List.filter_cons_of_neg (by simp [blank])]
      · have black := Bool.eq_false_iff.mpr blank
        rw [fields_char c rest black, attach_flatten, ih, List.filter_cons_of_pos (by simp [black])]

theorem mem_of_field (text word : List Char) (member : word ∈ fields text) : ∀ c ∈ word, c ∈ text := by
  intro c inside
  have present : c ∈ (fields text).flatten := List.mem_flatten.mpr ⟨word, member, inside⟩
  rw [fields_flatten] at present
  exact (List.mem_filter.mp present).1

theorem fields_join (words : List (List Char)) (solid : ∀ word ∈ words, Solid word) :
    fields ([' '].intercalate words) = words := by
  induction words with
  | nil => rfl
  | cons word rest ih =>
      have here := fields_solid word (solid word List.mem_cons_self)
      cases rest with
      | nil => simpa using here
      | cons next more =>
          have apart : startsBlank (' ' :: [' '].intercalate (next :: more)) = true := rfl
          rw [List.intercalate_cons_cons, List.append_assoc, List.singleton_append, fields_append _ _ apart, here,
            fields_blank ' ' _ rfl, ih fun w member => solid w (List.mem_cons_of_mem word member)]
          rfl

theorem mem_join (c : Char) (words : List (List Char)) (member : c ∈ [' '].intercalate words) :
    c = ' ' ∨ ∃ word ∈ words, c ∈ word := by
  induction words with
  | nil => cases member
  | cons word rest ih =>
      cases rest with
      | nil => exact Or.inr ⟨word, List.mem_singleton_self word, by simpa using member⟩
      | cons next more =>
          rw [List.intercalate_cons_cons, List.mem_append, List.mem_append, List.mem_singleton] at member
          rcases member with (here | space) | later
          · exact Or.inr ⟨word, List.mem_cons_self, here⟩
          · exact Or.inl space
          · rcases ih later with space | ⟨other, known, inside⟩
            · exact Or.inl space
            · exact Or.inr ⟨other, List.mem_cons_of_mem word known, inside⟩

end ReversePolish.Text
