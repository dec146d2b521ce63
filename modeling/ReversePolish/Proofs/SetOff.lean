import Mathlib.Data.List.Chain
import Mathlib.Data.List.Forall2
import ReversePolish.Proofs.Balance
import ReversePolish.Proofs.FlatText
import ReversePolish.Proofs.Names
import ReversePolish.Proofs.Stopping

set_option autoImplicit false

namespace ReversePolish

def SetOff (text : List Char) : Prop :=
  text.IsChain fun before after =>
    (after = '(' → Text.isBlank before = true ∨ before = '(') ∧ (before = ')' → Text.isBlank after = true ∨ after = ')')

instance (text : List Char) : Decidable (SetOff text) :=
  inferInstanceAs (Decidable (text.IsChain _))

inductive Grouped : List Char → Prop where
  | done : Grouped []
  | blank (c : Char) (rest : List Char) (blank : Text.isBlank c = true) (next : Grouped rest) : Grouped (c :: rest)
  | word (word rest : List Char) (filled : word ≠ []) (unbroken : ∀ c ∈ word, Text.isBreak c = false)
      (apart : Text.startsBlank rest = true) (next : Grouped rest) : Grouped (word ++ rest)
  | group (inner rest : List Char) (apart : Text.startsBlank rest = true) (inside : Grouped inner)
      (next : Grouped rest) : Grouped ('(' :: inner ++ ')' :: rest)

theorem leading_word (text : List Char) :
    ∃ word rest, text = word ++ rest ∧ (∀ c ∈ word, Text.isBreak c = false) ∧ ∀ c ∈ rest.head?, Text.isBreak c = true := by
  induction text with
  | nil => exact ⟨[], [], rfl, by simp, by simp⟩
  | cons c more ih =>
      by_cases broken : Text.isBreak c = true
      · exact ⟨[], c :: more, rfl, by simp, by simpa using broken⟩
      · obtain ⟨word, rest, split, unbroken, next⟩ := ih
        exact ⟨c :: word, rest, by rw [split, List.cons_append], by simpa [broken] using unbroken, next⟩

theorem starts_blank_of_balanced (rest : List Char) (balanced : Balanced rest)
    (next : ∀ c ∈ rest.head?, Text.isBlank c = true ∨ c = ')') : Text.startsBlank rest = true := by
  cases rest with
  | nil => rfl
  | cons c more =>
      cases next c rfl with
      | inl blank => exact blank
      | inr closes => exact absurd (closes ▸ balanced) (not_balanced_closing more)

theorem word_apart (word rest : List Char) (filled : word ≠ []) (unbroken : ∀ c ∈ word, Text.isBreak c = false)
    (next : ∀ c ∈ rest.head?, Text.isBreak c = true) (balanced : Balanced rest) (setOff : SetOff (word ++ rest)) :
    Text.startsBlank rest = true := by
  have last := Text.not_break _ (unbroken _ (List.getLast_mem filled))
  have pair := (List.isChain_append.mp setOff).2.2 (word.getLast filled) (List.getLast?_eq_some_getLast filled)
  refine starts_blank_of_balanced rest balanced fun c head => ?_
  rcases Text.break_cases c (next c head) with blank | opens | closes
  · exact Or.inl blank
  · cases (pair c head).1 opens with
    | inl blank =>
        rw [last.1] at blank
        cases blank
    | inr opening => exact absurd opening last.2.1
  · exact Or.inr closes

theorem set_off_group (inner outer : List Char) (setOff : SetOff ('(' :: (inner ++ ')' :: outer))) :
    SetOff inner ∧ SetOff outer ∧ ∀ c ∈ outer.head?, Text.isBlank c = true ∨ c = ')' := by
  have inside : SetOff (inner ++ ')' :: outer) := List.IsChain.tail setOff
  have after : SetOff (')' :: outer) := List.IsChain.right_of_append inside
  exact ⟨List.IsChain.left_of_append inside, List.IsChain.tail after,
    fun c head => ((List.isChain_cons.mp after).1 c head).2 rfl⟩

theorem grouped_of_set_off (text : List Char) (balanced : Balanced text) (setOff : SetOff text) : Grouped text := by
  match shape : text with
  | [] => exact .done
  | c :: more =>
      by_cases broken : Text.isBreak c = true
      · rcases Text.break_cases c broken with blank | rfl | rfl
        · obtain ⟨notOpening, notClosing⟩ := Text.blank_apart c blank
          have balancedMore := balanced_tail c more notOpening notClosing balanced
          exact .blank c more blank (grouped_of_set_off more balancedMore setOff.tail)
        · obtain ⟨inner, outer, rfl, balancedInner, balancedOuter⟩ := balanced_group more balanced
          obtain ⟨setOffInner, setOffOuter, next⟩ := set_off_group inner outer setOff
          exact .group inner outer (starts_blank_of_balanced outer balancedOuter next)
            (grouped_of_set_off inner balancedInner setOffInner) (grouped_of_set_off outer balancedOuter setOffOuter)
        · exact absurd balanced (not_balanced_closing more)
      · obtain ⟨word, rest, split, unbroken, next⟩ := leading_word (c :: more)
        have filled : word ≠ [] := by
          intro empty
          rw [empty, List.nil_append] at split
          exact broken (next c (split ▸ rfl))
        have shorter : rest.length < more.length + 1 := by
          have size := congrArg List.length split
          have some := List.length_pos_of_ne_nil filled
          rw [List.length_cons, List.length_append] at size
          omega
        have free : ∀ d ∈ word, d ≠ '(' ∧ d ≠ ')' := fun d member => (Text.not_break d (unbroken d member)).2
        rw [split] at balanced setOff ⊢
        have balancedRest := balanced_after word rest (depth_free word free) balanced
        exact .word word rest filled unbroken (word_apart word rest filled unbroken next balancedRest setOff)
          (grouped_of_set_off rest balancedRest setOff.right_of_append)
termination_by text.length

namespace Text

def withoutBrackets (text : List Char) : List Char := text.filter fun c => !isBracket c

def spacedBrackets (text : List Char) : List Char := text.map fun c => if isBracket c then ' ' else c

theorem without_brackets_char (c : Char) (rest : List Char) (free : isBracket c = false) :
    withoutBrackets (c :: rest) = c :: withoutBrackets rest :=
  List.filter_cons_of_pos (by rw [free]; rfl)

theorem spaced_brackets_char (c : Char) (rest : List Char) (free : isBracket c = false) :
    spacedBrackets (c :: rest) = c :: spacedBrackets rest := by
  rw [spacedBrackets, List.map_cons, free, if_neg Bool.false_ne_true]
  rfl

theorem without_brackets_free (text : List Char) (free : ∀ c ∈ text, isBracket c = false) : withoutBrackets text = text :=
  List.filter_eq_self.mpr fun c member => by rw [free c member]; rfl

theorem spaced_brackets_free (text : List Char) (free : ∀ c ∈ text, isBracket c = false) : spacedBrackets text = text := by
  induction text with
  | nil => rfl
  | cons c rest ih =>
      rw [spaced_brackets_char c rest (free c List.mem_cons_self), ih fun d member => free d (List.mem_cons_of_mem c member)]

theorem without_brackets_are_free (text : List Char) : ∀ c ∈ withoutBrackets text, isBracket c = false := by
  intro c member
  simpa using (List.mem_filter.mp member).2

theorem spaced_brackets_are_free (text : List Char) : ∀ c ∈ spacedBrackets text, isBracket c = false := by
  intro c member
  obtain ⟨d, _, shown⟩ := List.mem_map.mp member
  by_cases bracket : isBracket d = true
  · rw [if_pos bracket] at shown
    exact shown ▸ rfl
  · rw [if_neg bracket] at shown
    exact shown ▸ Bool.eq_false_iff.mpr bracket

theorem without_brackets_append (front back : List Char) :
    withoutBrackets (front ++ back) = withoutBrackets front ++ withoutBrackets back := List.filter_append front back

theorem spaced_brackets_append (front back : List Char) :
    spacedBrackets (front ++ back) = spacedBrackets front ++ spacedBrackets back := List.map_append

theorem without_brackets_group (inner rest : List Char) :
    withoutBrackets ('(' :: inner ++ ')' :: rest) = withoutBrackets inner ++ withoutBrackets rest := by
  rw [List.cons_append, withoutBrackets, List.filter_cons_of_neg (by decide), List.filter_append,
    List.filter_cons_of_neg (by decide)]
  rfl

theorem spaced_brackets_group (inner rest : List Char) :
    spacedBrackets ('(' :: inner ++ ')' :: rest) = ' ' :: spacedBrackets inner ++ ' ' :: spacedBrackets rest := by
  rw [spaced_brackets_append]
  rfl

theorem solid_word (word : List Char) (filled : word ≠ []) (unbroken : ∀ c ∈ word, isBreak c = false) : Solid word :=
  ⟨filled, fun c member => (not_break c (unbroken c member)).1⟩

theorem fields_word (word : String) (filled : word ≠ "") (unbroken : ∀ c ∈ word.toList, isBreak c = false) :
    (fields word.toList).map String.ofList = [word] := by
  have some : word.toList ≠ [] := fun empty => filled (String.toList_inj.mp empty)
  rw [fields_solid _ (solid_word _ some unbroken), List.map_singleton, String.ofList_toList]

theorem fields_unbroken (text : List Char) (free : ∀ c ∈ text, isBracket c = false) :
    ∀ word ∈ fields text, ∀ c ∈ word, isBreak c = false := by
  intro word member c inside
  rw [isBreak, (fields_are_solid text word member).2 c inside, free c (mem_of_field text word member c inside)]
  rfl

end Text

open Text

theorem starts_blank_without (text : List Char) (starts : startsBlank text = true) :
    startsBlank (withoutBrackets text) = true := by
  cases text with
  | nil => rfl
  | cons c rest =>
      rw [without_brackets_char c rest (not_bracket_of_blank c starts)]
      exact starts

theorem starts_blank_spaced (text : List Char) (starts : startsBlank text = true) :
    startsBlank (spacedBrackets text) = true := by
  cases text with
  | nil => rfl
  | cons c rest =>
      rw [spaced_brackets_char c rest (not_bracket_of_blank c starts)]
      exact starts

theorem fields_without_brackets (text : List Char) (grouped : Grouped text) :
    fields (withoutBrackets text) = fields (spacedBrackets text) := by
  induction grouped with
  | done => rfl
  | blank c rest blank next ih =>
      have free := not_bracket_of_blank c blank
      rw [without_brackets_char c rest free, spaced_brackets_char c rest free, fields_blank c _ blank,
        fields_blank c _ blank, ih]
  | word word rest filled unbroken apart next ih =>
      have free : ∀ d ∈ word, isBracket d = false := fun d member => not_bracket d (unbroken d member)
      rw [without_brackets_append, spaced_brackets_append, without_brackets_free word free, spaced_brackets_free word free,
        fields_append _ _ (starts_blank_without rest apart), fields_append _ _ (starts_blank_spaced rest apart), ih]
  | group inner rest apart inside next insideFields ih =>
      have cut : startsBlank (' ' :: spacedBrackets rest) = true := rfl
      rw [without_brackets_group, spaced_brackets_group, List.cons_append, fields_blank ' ' _ rfl,
        fields_append _ _ (starts_blank_without rest apart), fields_append _ _ cut, fields_blank ' ' _ rfl, insideFields, ih]

theorem flat_word_solid (v : Vocabulary) (word : List Char) (filled : word ≠ []) (unbroken : ∀ c ∈ word, isBreak c = false) :
    ∃ out, v.flatText word = .ok out ∧ Solid out := by
  obtain ⟨out, flat, same⟩ := v.flat_word word unbroken
  refine ⟨out, flat, fun empty => ?_, fun c member => (solid_word word filled unbroken).2 c (same.subset member)⟩
  rw [empty] at same
  exact filled same.nil_eq.symm

theorem flat_grouped (v : Vocabulary) (avoids : ∀ c, isBreak c = true → v.Avoids c) (text : List Char)
    (grouped : Grouped text) :
    ∃ out, v.flatText text = .ok out ∧
      List.Forall₂ (fun word piece => v.flatText word = .ok piece) (fields (spacedBrackets text)) (fields out) ∧
      (startsBlank text = true → startsBlank out = true) := by
  have blanks : ∀ c, isBlank c = true → v.Avoids c := fun c blank => avoids c (break_of_blank c blank)
  induction grouped with
  | done => exact ⟨[], rfl, .nil, fun _ => rfl⟩
  | blank c rest blank next ih =>
      obtain ⟨more, flat, words, _⟩ := ih
      have whole := v.flat_blank [] rest [] c blank (blanks c blank) rfl
      rw [flat, List.nil_append] at whole
      refine ⟨' ' :: more, whole, ?_, fun _ => rfl⟩
      rw [spaced_brackets_char c rest (not_bracket_of_blank c blank), fields_blank c _ blank, fields_blank ' ' _ rfl]
      exact words
  | word word rest filled unbroken apart next ih =>
      obtain ⟨more, flat, words, starts⟩ := ih
      obtain ⟨piece, flatWord, solid⟩ := flat_word_solid v word filled unbroken
      have free : ∀ d ∈ word, isBracket d = false := fun d member => not_bracket d (unbroken d member)
      have whole := v.flat_apart word rest piece blanks apart flatWord
      rw [flat] at whole
      refine ⟨piece ++ more, whole, ?_, fun impossible => ?_⟩
      · rw [spaced_brackets_append, spaced_brackets_free word free, fields_append _ _ (starts_blank_spaced rest apart),
          fields_append _ _ (starts apart), fields_solid word (solid_word word filled unbroken), fields_solid piece solid]
        exact .cons flatWord words
      · rw [starts_blank_solid word rest (solid_word word filled unbroken)] at impossible
        cases impossible
  | group inner rest apart inside next insideFlat ih =>
      obtain ⟨innerOut, flatInner, innerWords, _⟩ := insideFlat
      obtain ⟨more, flat, words, starts⟩ := ih
      have whole := v.flat_group inner rest innerOut (avoids ')' rfl) flatInner
      rw [flat] at whole
      have cut : startsBlank (' ' :: spacedBrackets rest) = true := rfl
      refine ⟨innerOut ++ more, whole, ?_, fun impossible => by cases impossible⟩
      rw [spaced_brackets_group, List.cons_append, fields_blank ' ' _ rfl, fields_append _ _ cut, fields_blank ' ' _ rfl,
        fields_append _ _ (starts apart)]
      exact List.rel_append innerWords words

theorem set_off_free (text : List Char) (free : ∀ c ∈ text, isBracket c = false) : SetOff text := by
  induction text with
  | nil => exact .nil
  | cons before rest ih =>
      cases rest with
      | nil => exact .singleton before
      | cons after more =>
          have notClosing : before ≠ ')' := fun same => by cases same ▸ free before (by simp)
          have notOpening : after ≠ '(' := fun same => by cases same ▸ free after (by simp)
          exact .cons_cons ⟨fun same => absurd same notOpening, fun same => absurd same notClosing⟩
            (ih fun c member => free c (List.mem_cons_of_mem before member))

theorem grouped_free (text : List Char) (free : ∀ c ∈ text, isBracket c = false) : Grouped text := by
  have neither : ∀ c ∈ text, c ≠ '(' ∧ c ≠ ')' := fun c member => by simpa [isBracket] using free c member
  have balanced : Balanced text := by
    refine balanced_of_prefixes text (depth_free text neither) fun front begins => ?_
    rw [depth_free front fun c member => neither c (begins.subset member)]
  exact grouped_of_set_off text balanced (set_off_free text free)

theorem Vocabulary.flat_functional (v : Vocabulary) : Relator.RightUnique fun word piece => v.flatText word = .ok piece :=
  fun _ _ _ one two => Except.ok.inj (one.symm.trans two)

theorem flatten_same_words (v : Vocabulary) (avoids : ∀ c, isBreak c = true → v.Avoids c) (expression : String)
    (other : List Char) (p : Postfix) (grouped : Grouped expression.toList) (free : ∀ c ∈ other, isBracket c = false)
    (same : fields other = fields (spacedBrackets expression.toList)) (flat : v.flatten expression = .ok p) :
    v.flatten (String.ofList other) = .ok p := by
  obtain ⟨out, flatOut, rfl⟩ := (v.flatten_ok_iff expression p).mp flat
  obtain ⟨again, flatOther, otherWords, _⟩ := flat_grouped v avoids other (grouped_free other free)
  obtain ⟨first, flatFirst, words, _⟩ := flat_grouped v avoids expression.toList grouped
  rw [flatOut] at flatFirst
  cases flatFirst
  rw [spaced_brackets_free other free, same] at otherWords
  have equal : fields again = fields out := List.right_unique_forall₂' v.flat_functional otherWords words
  exact (v.flatten_ok_iff _ _).mpr ⟨again, by rwa [String.toList_ofList], by rw [equal]⟩

-- Brackets that are set off can be taken away, or become spaces, and nothing changes.
theorem flatten_set_off (ops : OperatorTable) (expression : String)
    (blanks : ∀ c, isBlank c = true → ops.NamesAvoid c) (opening : ops.NamesAvoid '(') (closing : ops.NamesAvoid ')')
    (balanced : Balanced expression.toList) (setOff : SetOff expression.toList) :
    let without := String.ofList (withoutBrackets expression.toList)
    let spaced := String.ofList (spacedBrackets expression.toList)
    (∃ p, ops.vocabulary.flatten expression = .ok p ∧ ops.vocabulary.flatten without = .ok p ∧
      ops.vocabulary.flatten spaced = .ok p) ∧
    ∀ leftover, (Calculator.mk ops leftover).evaluate without = (Calculator.mk ops leftover).evaluate expression ∧
      (Calculator.mk ops leftover).evaluate spaced = (Calculator.mk ops leftover).evaluate expression := by
  intro without spaced
  have avoids := ops.avoids_breaks blanks opening closing
  have grouped := grouped_of_set_off expression.toList balanced setOff
  obtain ⟨out, flat, _, _⟩ := flat_grouped ops.vocabulary avoids expression.toList grouped
  have whole := (ops.vocabulary.flatten_ok_iff expression _).mpr ⟨out, flat, rfl⟩
  have deleted := flatten_same_words ops.vocabulary avoids expression (withoutBrackets expression.toList) _ grouped
    (without_brackets_are_free expression.toList) (fields_without_brackets expression.toList grouped) whole
  have replaced := flatten_same_words ops.vocabulary avoids expression (spacedBrackets expression.toList) _ grouped
    (spaced_brackets_are_free expression.toList) rfl whole
  refine ⟨⟨_, whole, deleted, replaced⟩, fun leftover => ?_⟩
  have first := (Calculator.mk ops leftover).evaluate_of_flatten expression _ whole
  have second := (Calculator.mk ops leftover).evaluate_of_flatten without _ deleted
  have third := (Calculator.mk ops leftover).evaluate_of_flatten spaced _ replaced
  exact ⟨second.trans first.symm, third.trans first.symm⟩

theorem flatten_set_off_nested :
    SetOff "(3.141 (2 3 +) (1.571 sin) *)".toList ∧
      ∃ p, OperatorTable.standard.vocabulary.flatten "(3.141 (2 3 +) (1.571 sin) *)" = .ok p ∧
        OperatorTable.standard.vocabulary.flatten "3.141 2 3 + 1.571 sin *" = .ok p := by
  have balanced : Balanced "(3.141 (2 3 +) (1.571 sin) *)".toList := by decide +kernel
  have setOff : SetOff "(3.141 (2 3 +) (1.571 sin) *)".toList := by decide +kernel
  obtain ⟨⟨p, flat, without, _⟩, _⟩ := flatten_set_off .standard _
    (fun c blank => OperatorTable.standard_names_avoid c (break_of_blank c blank))
    (OperatorTable.standard_names_avoid '(' rfl) (OperatorTable.standard_names_avoid ')' rfl) balanced setOff
  exact ⟨setOff, p, flat, without⟩

end ReversePolish
