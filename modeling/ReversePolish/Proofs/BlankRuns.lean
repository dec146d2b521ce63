import ReversePolish.Proofs.Spacing

set_option autoImplicit false

namespace ReversePolish

namespace Text

theorem fields_leading (gap text : List Char) (blank : ∀ c ∈ gap, isBlank c = true) :
    fields (gap ++ text) = fields text := by
  induction gap with
  | nil => rfl
  | cons c more ih =>
      rw [List.cons_append, fields_blank c _ (blank c List.mem_cons_self)]
      exact ih fun d member => blank d (List.mem_cons_of_mem c member)

theorem fields_gap (front gap back : List Char) (filled : gap ≠ []) (blank : ∀ c ∈ gap, isBlank c = true) :
    fields (front ++ gap ++ back) = fields front ++ fields back := by
  have starts : startsBlank (gap ++ back) = true := by
    cases gap with
    | nil => exact absurd rfl filled
    | cons c more => exact blank c List.mem_cons_self
  rw [List.append_assoc, fields_append front _ starts, fields_leading gap back blank]

theorem fields_trailing (text gap : List Char) (blank : ∀ c ∈ gap, isBlank c = true) :
    fields (text ++ gap) = fields text := by
  cases gap with
  | nil => rw [List.append_nil]
  | cons c more =>
      have split := fields_gap text (c :: more) [] (List.cons_ne_nil c more) blank
      simpa only [List.append_nil, fields] using split

theorem blank_of_no_fields (text : List Char) (none : fields text = []) : ∀ c ∈ text, isBlank c = true := by
  have letters := fields_flatten text
  rw [none, List.flatten_nil] at letters
  intro c member
  by_contra black
  have kept : c ∈ text.filter fun d => !isBlank d := List.mem_filter.mpr ⟨member, by simp [black]⟩
  rw [← letters] at kept
  cases kept

theorem letters_end (text : List Char) : startsBlank (text.dropWhile fun c => !isBlank c) = true := by
  induction text with
  | nil => rfl
  | cons c rest ih =>
      by_cases blank : isBlank c = true
      · rw [List.dropWhile_cons_of_neg (by simp [blank])]
        exact blank
      · rw [List.dropWhile_cons_of_pos (by simp [blank])]
        exact ih

theorem fields_left_stripped (text : List Char) : fields (text.dropWhile isBlank) = fields text := by
  have whole := fields_leading (text.takeWhile isBlank) (text.dropWhile isBlank) fun c member => List.mem_takeWhile_imp member
  rw [List.takeWhile_append_dropWhile] at whole
  exact whole.symm

theorem first_field (text word : List Char) (more : List (List Char)) (split : fields text = word :: more) :
    ∃ gap rest, text = gap ++ word ++ rest ∧ (∀ c ∈ gap, isBlank c = true) ∧ startsBlank rest = true ∧
      fields rest = more := by
  rw [← fields_left_stripped] at split
  have front : text = text.takeWhile isBlank ++ text.dropWhile isBlank := List.takeWhile_append_dropWhile.symm
  cases stripped : text.dropWhile isBlank with
  | nil =>
      rw [stripped] at split
      cases split
  | cons c others =>
      have letters : c :: others = (c :: others.takeWhile fun d => !isBlank d) ++ others.dropWhile fun d => !isBlank d := by
        rw [List.cons_append, List.takeWhile_append_dropWhile]
      have black : isBlank c = false := by
        have head := List.head?_dropWhile_not isBlank text
        rw [stripped] at head
        exact head
      have solid : Solid (c :: others.takeWhile fun d => !isBlank d) := by
        refine ⟨List.cons_ne_nil _ _, ?_⟩
        intro d member
        cases List.mem_cons.mp member with
        | inl here => exact here ▸ black
        | inr inside => simpa using List.mem_takeWhile_imp inside
      rw [stripped, letters, fields_append _ _ (letters_end others), fields_solid _ solid] at split
      cases split
      refine ⟨text.takeWhile isBlank, _, ?_, fun d member => List.mem_takeWhile_imp member, letters_end others, rfl⟩
      rw [List.append_assoc, ← letters, ← stripped, ← front]

end Text

open Text

theorem Scan.run_blanks (s : Scan) (gap : List Char) (filled : gap ≠ []) :
    s.run (gap.map .blank) =
      .ok (Waiting.held s.waiting ++ List.replicate gap.length ' ', ⟨Waiting.outside s.waiting, false⟩) := by
  induction gap generalizing s with
  | nil => exact absurd rfl filled
  | cons c more ih =>
      cases more with
      | nil => simp [run, step, resume]
      | cons d rest =>
          have later := ih ⟨Waiting.outside s.waiting, false⟩ (List.cons_ne_nil d rest)
          rw [List.map_cons, run, step]
          simp only [later, resume, Waiting.held_of_outside, Waiting.outside_outside, List.nil_append, List.length_cons,
            List.replicate_succ, List.append_assoc, List.singleton_append]

namespace Vocabulary

theorem lex_blanks (v : Vocabulary) (gap back : List Char) (blank : ∀ c ∈ gap, isBlank c = true) :
    v.lex (gap ++ back) = gap.map .blank ++ v.lex back := by
  induction gap with
  | nil => rfl
  | cons c more ih =>
      rw [List.cons_append, lex_blank v c _ (blank c List.mem_cons_self),
        ih fun d member => blank d (List.mem_cons_of_mem c member)]
      rfl

theorem fields_flat_gap (v : Vocabulary) (avoids : ∀ c, isBlank c = true → v.Avoids c) (front gap back : List Char)
    (filled : gap ≠ []) (blank : ∀ c ∈ gap, isBlank c = true) :
    (v.flatText (front ++ gap ++ back)).map fields = match Scan.start.run (v.lex front) with
      | .error e => .error e
      | .ok (written, s) =>
          (Scan.complete (Scan.run ⟨Waiting.outside s.waiting, false⟩ (v.lex back))).map fun rest =>
            fields (written ++ Waiting.held s.waiting) ++ fields rest := by
  have apart : v.Apart (gap ++ back) := by
    intro c head
    cases gap with
    | nil => exact absurd rfl filled
    | cons d more =>
        cases head
        exact avoids c (blank c List.mem_cons_self)
  rw [List.append_assoc, flat_complete, lex_append v front _ apart, lex_blanks v gap back blank, Scan.run_append]
  cases Scan.start.run (v.lex front) with
  | error e => rfl
  | ok reached =>
      obtain ⟨written, s⟩ := reached
      simp only [Scan.run_append, s.run_blanks gap filled, Scan.complete_resume]
      cases Scan.complete (Scan.run ⟨Waiting.outside s.waiting, false⟩ (v.lex back)) with
      | error e => rfl
      | ok rest =>
          have spaces : ∀ c ∈ List.replicate gap.length ' ', isBlank c = true :=
            fun c member => (List.eq_of_mem_replicate member) ▸ rfl
          have some : List.replicate gap.length ' ' ≠ [] := by simpa using filled
          have words := fields_gap (written ++ Waiting.held s.waiting) _ rest some spaces
          simpa [Except.map] using words

theorem fields_flat_exchange (v : Vocabulary) (avoids : ∀ c, isBlank c = true → v.Avoids c)
    (front gap other back : List Char) (filled : gap ≠ []) (blank : ∀ c ∈ gap, isBlank c = true)
    (filledOther : other ≠ []) (blankOther : ∀ c ∈ other, isBlank c = true) :
    (v.flatText (front ++ gap ++ back)).map fields = (v.flatText (front ++ other ++ back)).map fields := by
  rw [v.fields_flat_gap avoids front gap back filled blank, v.fields_flat_gap avoids front other back filledOther blankOther]

theorem fields_trailing_blanks (v : Vocabulary) (avoids : ∀ c, isBlank c = true → v.Avoids c) (front gap : List Char)
    (blank : ∀ c ∈ gap, isBlank c = true) : (v.flatText (front ++ gap)).map fields = (v.flatText front).map fields := by
  induction gap generalizing front with
  | nil => rw [List.append_nil]
  | cons c more ih =>
      rw [List.append_cons, ih (front ++ [c]) fun d member => blank d (List.mem_cons_of_mem c member)]
      exact v.fields_trailing_blank avoids front c (blank c List.mem_cons_self)

theorem fields_flat_moved (v : Vocabulary) (avoids : ∀ c, isBlank c = true → v.Avoids c) (front text word : List Char)
    (more : List (List Char)) (starts : startsBlank text = true) (split : fields text = word :: more) :
    ∃ rest, startsBlank rest = true ∧ fields rest = more ∧
      (v.flatText (front ++ text)).map fields = (v.flatText (front ++ [' '] ++ word ++ rest)).map fields := by
  obtain ⟨gap, rest, same, blank, startsRest, later⟩ := first_field text word more split
  have solid := fields_are_solid text word (by rw [split]; exact List.mem_cons_self)
  have filled : gap ≠ [] := by
    intro none
    rw [same, none, List.nil_append, starts_blank_solid word rest solid] at starts
    cases starts
  have exchanged := v.fields_flat_exchange avoids front gap [' '] (word ++ rest) filled blank (by simp) (by simp; rfl)
  refine ⟨rest, startsRest, later, ?_⟩
  rw [same]
  simpa only [List.append_assoc] using exchanged

-- The induction is on the words. Each is moved to the text in front, with a space before it.
theorem fields_flat_words (v : Vocabulary) (avoids : ∀ c, isBlank c = true → v.Avoids c) (words : List (List Char))
    (front first second : List Char) (startsFirst : startsBlank first = true) (startsSecond : startsBlank second = true)
    (wordsFirst : fields first = words) (wordsSecond : fields second = words) :
    (v.flatText (front ++ first)).map fields = (v.flatText (front ++ second)).map fields := by
  induction words generalizing front first second with
  | nil =>
      rw [v.fields_trailing_blanks avoids front first (blank_of_no_fields first wordsFirst),
        v.fields_trailing_blanks avoids front second (blank_of_no_fields second wordsSecond)]
  | cons word more ih =>
      obtain ⟨restFirst, startsOne, laterFirst, sameFirst⟩ :=
        v.fields_flat_moved avoids front first word more startsFirst wordsFirst
      obtain ⟨restSecond, startsTwo, laterSecond, sameSecond⟩ :=
        v.fields_flat_moved avoids front second word more startsSecond wordsSecond
      rw [sameFirst, sameSecond]
      exact ih (front ++ [' '] ++ word) restFirst restSecond startsOne startsTwo laterFirst laterSecond

theorem flatten_words (v : Vocabulary) (avoids : ∀ c, isBlank c = true → v.Avoids c) (first second : String)
    (same : fields first.toList = fields second.toList) : v.flatten first = v.flatten second := by
  have spaced := v.fields_flat_words avoids (fields second.toList) [] (' ' :: first.toList) (' ' :: second.toList) rfl rfl
    ((fields_blank ' ' _ rfl).trans same) (fields_blank ' ' _ rfl)
  rw [List.nil_append, List.nil_append, v.fields_leading_blank avoids ' ' _ rfl, v.fields_leading_blank avoids ' ' _ rfl]
    at spaced
  rw [flatten_fields, flatten_fields, spaced]

end Vocabulary

-- Only where blanks stand matters to an expression, balanced or not. A run of them may become any other run,
-- and at both ends there may be any number of them or none.
theorem flatten_respaced (ops : OperatorTable) (blanks : ∀ c, isBlank c = true → ops.NamesAvoid c) :
    let v := ops.vocabulary
    (∀ first second : String, fields first.toList = fields second.toList → v.flatten first = v.flatten second) ∧
    (∀ front gap other back : String, gap ≠ "" → (∀ c ∈ gap.toList, isBlank c = true) →
      other ≠ "" → (∀ c ∈ other.toList, isBlank c = true) →
      v.flatten (front ++ gap ++ back) = v.flatten (front ++ other ++ back)) ∧
    (∀ before expression after : String, (∀ c ∈ before.toList, isBlank c = true) → (∀ c ∈ after.toList, isBlank c = true) →
      v.flatten (before ++ expression ++ after) = v.flatten expression) ∧
    ∀ expression : String, v.flatten (String.ofList (trim expression.toList)) = v.flatten expression := by
  intro v
  have avoids := fun c blank => ops.vocabulary_avoids c (blanks c blank)
  have some : ∀ gap : String, gap ≠ "" → gap.toList ≠ [] :=
    fun gap filled empty => filled (String.toList_inj.mp empty)
  refine ⟨v.flatten_words avoids, ?_, ?_, v.flatten_trimmed avoids⟩
  · intro front gap other back filled blank filledOther blankOther
    apply v.flatten_words avoids
    simp only [String.toList_append]
    rw [fields_gap _ _ _ (some gap filled) blank, fields_gap _ _ _ (some other filledOther) blankOther]
  · intro before expression after blankBefore blankAfter
    apply v.flatten_words avoids
    simp only [String.toList_append]
    rw [fields_trailing _ _ blankAfter, fields_leading _ _ blankBefore]

theorem flatten_respaced_unclosed :
    let ops := (OperatorTable.empty.insert "f(x" (.unary Float.abs)).insert "^" (.unary Float.sqrt)
    ops.vocabulary.flatten "(16^ f(x )7" = .ok ⟨["1^6", "f(x", "7"]⟩ ∧
      ops.vocabulary.flatten "(16^\t\u3000f(x )7" = .ok ⟨["1^6", "f(x", "7"]⟩ ∧
      ops.vocabulary.flatten "(16^\r\nf(x\u2003)7\n" = .ok ⟨["1^6", "f(x", "7"]⟩ ∧
      ops.vocabulary.flatten "((16^ 2" = .error .missingClosing ∧
      ops.vocabulary.flatten "\n((16^ 2\u00a0\t" = .error .missingClosing := by
  intro ops
  have blanks := ops.names_avoid_of_all isBlank rfl
  have isGap : ∀ gap : String, gap.toList.all isBlank = true → ∀ c ∈ gap.toList, isBlank c = true :=
    fun gap all => List.all_eq_true.mp all
  have flat : ops.vocabulary.flatten "(16^ f(x )7" = .ok ⟨["1^6", "f(x", "7"]⟩ := rfl
  have unclosed : ops.vocabulary.flatten "((16^ 2" = .error .missingClosing := rfl
  obtain ⟨words, gaps, ends, _⟩ := flatten_respaced ops blanks
  have exchanged : ops.vocabulary.flatten "(16^ f(x )7" = ops.vocabulary.flatten "(16^\t\u3000f(x )7" :=
    gaps "(16^" " " "\t\u3000" "f(x )7" (by decide) (isGap _ rfl) (by decide) (isGap _ rfl)
  have several := words "(16^ f(x )7" "(16^\r\nf(x\u2003)7\n" (by decide +kernel)
  have around : ops.vocabulary.flatten "\n((16^ 2\u00a0\t" = ops.vocabulary.flatten "((16^ 2" :=
    ends "\n" "((16^ 2" "\u00a0\t" (isGap _ rfl) (isGap _ rfl)
  exact ⟨flat, exchanged ▸ flat, several ▸ flat, unclosed, around.trans unclosed⟩

end ReversePolish
