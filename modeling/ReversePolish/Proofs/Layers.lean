import ReversePolish.Proofs.Balance
import ReversePolish.Proofs.FlatText
import ReversePolish.Proofs.Names

set_option autoImplicit false

namespace ReversePolish

inductive Layer where
  | done
  | blank (rest : Layer)
  | group (contents rest : Layer)
  | name (word : String) (rest : Layer)
  | symbol (c : Char) (rest : Layer)
  | glued (c : Char) (rest : Layer)
  | plain (c : Char) (rest : Layer)

namespace Layer

-- A plain character is held back until the next blank, name or plain character of its own level, or
-- until the layer ends: groups, symbols and glued characters go before it.
def text : Option Char → Layer → List Char
  | held, .done => held.toList
  | held, .blank rest => held.toList ++ ' ' :: rest.text none
  | held, .group contents rest => contents.text none ++ rest.text held
  | held, .name word rest => held.toList ++ word.toList ++ rest.text none
  | held, .symbol c rest => c :: rest.text held
  | held, .glued c rest => c :: rest.text held
  | held, .plain c rest => held.toList ++ rest.text (some c)

end Layer

-- The layer that a text spells. The flag says that the character before the text is a symbol of the
-- same level.
inductive Reads (ops : OperatorTable) : Bool → List Char → Layer → Prop where
  | done (glue : Bool) : Reads ops glue [] .done
  | blank (glue : Bool) (c : Char) (rest : List Char) (layer : Layer) (blank : Text.isBlank c = true)
      (next : Reads ops false rest layer) : Reads ops glue (c :: rest) (.blank layer)
  | group (glue : Bool) (inner rest : List Char) (contents layer : Layer) (inside : Reads ops false inner contents)
      (next : Reads ops false rest layer) : Reads ops glue ('(' :: inner ++ ')' :: rest) (.group contents layer)
  | name (glue : Bool) (c : Char) (more rest : List Char) (word : String) (layer : Layer)
      (letters : word.toList = c :: more) (unbroken : Text.isBreak c = false)
      (longest : ops.Longest (c :: more ++ rest) word) (next : Reads ops false rest layer) :
      Reads ops glue (c :: more ++ rest) (.name word layer)
  | symbol (glue : Bool) (c : Char) (rest : List Char) (layer : Layer) (unbroken : Text.isBreak c = false)
      (nameless : ∀ name, ¬ ops.Spelled (c :: rest) name) (known : ops.isUnary (String.singleton c) = true)
      (next : Reads ops true rest layer) : Reads ops glue (c :: rest) (.symbol c layer)
  | glued (c : Char) (rest : List Char) (layer : Layer) (unbroken : Text.isBreak c = false)
      (nameless : ∀ name, ¬ ops.Spelled (c :: rest) name) (other : ¬ ops.isUnary (String.singleton c) = true)
      (next : Reads ops false rest layer) : Reads ops true (c :: rest) (.glued c layer)
  | plain (c : Char) (rest : List Char) (layer : Layer) (unbroken : Text.isBreak c = false)
      (nameless : ∀ name, ¬ ops.Spelled (c :: rest) name) (other : ¬ ops.isUnary (String.singleton c) = true)
      (next : Reads ops false rest layer) : Reads ops false (c :: rest) (.plain c layer)

-- The recursion is on the length: a name takes several characters at once, and a group is taken
-- apart at the bracket that closes it.
theorem reads_balanced (ops : OperatorTable) (opening : ops.NamesAvoid '(') (closing : ops.NamesAvoid ')')
    (glue : Bool) (text : List Char) (balanced : Balanced text) : ∃ layer, Reads ops glue text layer := by
  match shape : text with
  | [] => exact ⟨.done, .done glue⟩
  | c :: rest =>
      rcases Vocabulary.lexeme_cases ops.vocabulary c rest with ⟨blank, _⟩ | ⟨rfl, _⟩ | ⟨rfl, _⟩ | ⟨unbroken, word, found, _⟩ |
        ⟨unbroken, absent, known, _⟩ | ⟨unbroken, absent, other, _⟩
      · obtain ⟨notOpening, notClosing⟩ := Text.blank_apart c blank
        obtain ⟨layer, next⟩ := reads_balanced ops opening closing false rest (balanced_tail c rest notOpening notClosing balanced)
        exact ⟨_, .blank glue c rest layer blank next⟩
      · obtain ⟨inner, outer, rfl, insideBalanced, outsideBalanced⟩ := balanced_group rest balanced
        obtain ⟨contents, inside⟩ := reads_balanced ops opening closing false inner insideBalanced
        obtain ⟨layer, next⟩ := reads_balanced ops opening closing false outer outsideBalanced
        exact ⟨_, .group glue inner outer contents layer inside next⟩
      · exact absurd balanced (not_balanced_closing rest)
      · obtain ⟨filled, left, split⟩ := Vocabulary.name_spelled ops.vocabulary (c :: rest) word found
        have longest := OperatorTable.longest_of_name ops (c :: rest) word found
        have free : ∀ d ∈ word.toList, d ≠ '(' ∧ d ≠ ')' := by
          intro d member
          exact ⟨fun same => opening word longest.1.1 longest.1.2.1 (same ▸ member),
            fun same => closing word longest.1.1 longest.1.2.1 (same ▸ member)⟩
        rw [split] at balanced
        have leftBalanced := balanced_after word.toList left (depth_free word.toList free) balanced
        cases letters : word.toList with
        | nil => exact absurd letters filled
        | cons d more =>
            rw [letters, List.cons_append, List.cons.injEq] at split
            obtain ⟨rfl, rfl⟩ := split
            obtain ⟨layer, next⟩ := reads_balanced ops opening closing false left leftBalanced
            exact ⟨_, .name glue c more left word layer letters unbroken longest next⟩
      · obtain ⟨_, notOpening, notClosing⟩ := Text.not_break c unbroken
        obtain ⟨layer, next⟩ := reads_balanced ops opening closing true rest (balanced_tail c rest notOpening notClosing balanced)
        exact ⟨_, .symbol glue c rest layer unbroken ((OperatorTable.name_none_iff ops _).mp absent)
          ((OperatorTable.mem_symbols ops c).mp known) next⟩
      · obtain ⟨_, notOpening, notClosing⟩ := Text.not_break c unbroken
        obtain ⟨layer, next⟩ := reads_balanced ops opening closing false rest (balanced_tail c rest notOpening notClosing balanced)
        have nameless := (OperatorTable.name_none_iff ops _).mp absent
        have plain : ¬ ops.isUnary (String.singleton c) = true := fun unary => other ((OperatorTable.mem_symbols ops c).mpr unary)
        cases glue with
        | true => exact ⟨_, .glued c rest layer unbroken nameless plain next⟩
        | false => exact ⟨_, .plain c rest layer unbroken nameless plain next⟩
termination_by text.length

-- On every level the stack above the bracket is the character that is held back. The induction is
-- on the reading, for any character held before it.
theorem reads_complete (ops : OperatorTable) (closing : ops.NamesAvoid ')') (glue : Bool) (text : List Char)
    (layer : Layer) (reads : Reads ops glue text layer) (held : Option Char) :
    Scan.complete (Scan.run ⟨held.toList.map .char, glue⟩ (ops.vocabulary.lex text)) = .ok (layer.text held) := by
  induction reads generalizing held with
  | done glue => cases held <;> rfl
  | blank glue c rest layer blank next ih =>
      rw [Vocabulary.lex_blank _ c rest blank, Scan.complete_cons _ _ _ _ _ (Scan.step_blank_held held glue c), ih none]
      simp [Layer.text, Except.map]
  | group glue inner rest contents layer inside next insideRun ih =>
      have avoids := ops.vocabulary_avoids ')' closing
      rw [Vocabulary.run_group _ _ inner rest (contents.text none) avoids (insideRun none), Scan.complete_resume, ih held]
      rfl
  | name glue c more rest word layer letters unbroken longest next ih =>
      have found := (ops.name_iff_longest (c :: more ++ rest) word).mpr longest
      rw [Vocabulary.lex_name _ c more rest word letters unbroken found,
        Scan.complete_cons _ _ _ _ _ (Scan.step_name_held held glue word), ih none]
      rfl
  | symbol glue c rest layer unbroken nameless known next ih =>
      have absent := (ops.name_none_iff (c :: rest)).mpr nameless
      have symbol := (ops.mem_symbols c).mpr known
      rw [Vocabulary.lex_symbol _ c rest unbroken absent symbol, Scan.complete_cons _ _ _ _ _ rfl, ih held]
      rfl
  | glued c rest layer unbroken nameless other next ih =>
      have absent := (ops.name_none_iff (c :: rest)).mpr nameless
      have plain : c ∉ ops.symbols := fun symbol => other ((ops.mem_symbols c).mp symbol)
      rw [Vocabulary.lex_plain _ c rest unbroken absent plain, Scan.complete_cons _ _ _ _ _ rfl, ih held]
      rfl
  | plain c rest layer unbroken nameless other next ih =>
      have absent := (ops.name_none_iff (c :: rest)).mpr nameless
      have plain : c ∉ ops.symbols := fun symbol => other ((ops.mem_symbols c).mp symbol)
      rw [Vocabulary.lex_plain _ c rest unbroken absent plain,
        Scan.complete_cons _ _ _ _ _ (Scan.step_plain_held held c), ih (some c)]
      rfl

theorem flatten_layers (ops : OperatorTable) (expression : String) (opening : ops.NamesAvoid '(')
    (closing : ops.NamesAvoid ')') (balanced : Balanced expression.toList) :
    (∃ layer, Reads ops false expression.toList layer) ∧
      ∀ layer, Reads ops false expression.toList layer →
        ops.vocabulary.flatten expression = .ok ⟨(Text.fields (layer.text none)).map String.ofList⟩ := by
  refine ⟨reads_balanced ops opening closing false expression.toList balanced, fun layer reads => ?_⟩
  have flat : ops.vocabulary.flatText expression.toList = .ok (layer.text none) :=
    reads_complete ops closing false expression.toList layer reads none
  exact (ops.vocabulary.flatten_ok_iff expression _).mpr ⟨_, flat, rfl⟩

theorem flatten_layers_nested :
    ∃ layer, Reads .standard false "1(2 ^3)4".toList layer ∧ layer.text none = "2 ^314".toList ∧
      (Text.fields (layer.text none)).map String.ofList = ["2", "^314"] ∧
      OperatorTable.standard.vocabulary.flatten "1(2 ^3)4" = .ok ⟨["2", "^314"]⟩ := by
  have nameless := fun text => (OperatorTable.name_none_iff .standard text).mp
  have contents : Reads .standard false "2 ^3".toList (.plain '2' (.blank (.symbol '^' (.glued '3' .done)))) := by
    refine .plain '2' _ _ rfl (nameless _ (by decide +kernel)) (by decide +kernel) (.blank _ ' ' _ _ rfl ?_)
    refine .symbol _ '^' _ _ rfl (nameless _ (by decide +kernel)) (by decide +kernel) ?_
    exact .glued '3' _ _ rfl (nameless _ (by decide +kernel)) (by decide +kernel) (.done false)
  have after : Reads .standard false "4".toList (.plain '4' .done) :=
    .plain '4' _ _ rfl (nameless _ (by decide +kernel)) (by decide +kernel) (.done false)
  have whole : Reads .standard false "1(2 ^3)4".toList (.plain '1' (.group _ (.plain '4' .done))) :=
    .plain '1' _ _ rfl (nameless _ (by decide +kernel)) (by decide +kernel) (.group false _ _ _ _ contents after)
  have equal := (flatten_layers .standard "1(2 ^3)4" (OperatorTable.standard_names_avoid '(' rfl)
    (OperatorTable.standard_names_avoid ')' rfl) (by decide +kernel)).2 _ whole
  have tokens : (Text.fields ((Layer.plain '1' (.group (.plain '2' (.blank (.symbol '^' (.glued '3' .done))))
      (.plain '4' .done))).text none)).map String.ofList = ["2", "^314"] := by decide +kernel
  rw [tokens] at equal
  exact ⟨_, whole, by decide +kernel, tokens, equal⟩

end ReversePolish
