import ReversePolish.Proofs.Names
import ReversePolish.Proofs.Trimming

set_option autoImplicit false

namespace ReversePolish

open Text

namespace Vocabulary

theorem fields_parted (v : Vocabulary) (front back out : List Char) (c : Char) (blank : isBlank c = true)
    (avoids : v.Avoids c) (flat : v.flatText front = .ok out) :
    (v.flatText (front ++ c :: back)).map fields = ((v.flatText back).map fields).map (fields out ++ ·) := by
  rw [v.flat_blank front back out c blank avoids flat]
  cases v.flatText back with
  | error e => rfl
  | ok rest =>
      have words : fields (out ++ [' '] ++ rest) = fields out ++ fields rest := by
        rw [List.append_assoc, List.singleton_append, fields_append out _ rfl, fields_blank ' ' rest rfl]
      exact congrArg Except.ok words

-- The first blank of the gap ends the part before it, and the others are blanks before the part after it.
theorem fields_joined (v : Vocabulary) (avoids : ∀ c, isBlank c = true → v.Avoids c) (front gap back out : List Char)
    (filled : gap ≠ []) (blank : ∀ c ∈ gap, isBlank c = true) (flat : v.flatText front = .ok out) :
    (v.flatText (front ++ gap ++ back)).map fields = ((v.flatText back).map fields).map (fields out ++ ·) := by
  cases gap with
  | nil => exact absurd rfl filled
  | cons c more =>
      have first := blank c List.mem_cons_self
      rw [List.append_assoc, List.cons_append, v.fields_parted front _ out c first (avoids c first) flat,
        v.fields_leading_blanks avoids more back fun d member => blank d (List.mem_cons_of_mem c member)]

theorem flatten_gap (v : Vocabulary) (avoids : ∀ c, isBlank c = true → v.Avoids c) (front gap back : String) (p : Postfix)
    (filled : gap ≠ "") (blank : ∀ c ∈ gap.toList, isBlank c = true) (flat : v.flatten front = .ok p) :
    v.flatten (front ++ gap ++ back) = (v.flatten back).map fun q => ⟨p.tokens ++ q.tokens⟩ := by
  obtain ⟨out, flatOut, same⟩ := (v.flatten_ok_iff front p).mp flat
  have some : gap.toList ≠ [] := fun empty => filled (String.toList_inj.mp empty)
  rw [flatten_fields, flatten_fields, String.toList_append, String.toList_append,
    v.fields_joined avoids _ _ _ out some blank flatOut, same]
  cases v.flatText back.toList with
  | error e => rfl
  | ok rest => exact congrArg (fun tokens => Except.ok (Postfix.mk tokens)) List.map_append

end Vocabulary

theorem flatten_joined (ops : OperatorTable) (blanks : ∀ c, isBlank c = true → ops.NamesAvoid c) (front gap back : String)
    (p : Postfix) (filled : gap ≠ "") (blank : ∀ c ∈ gap.toList, isBlank c = true)
    (flat : ops.vocabulary.flatten front = .ok p) :
    (∀ q, ops.vocabulary.flatten back = .ok q → ops.vocabulary.flatten (front ++ gap ++ back) = .ok ⟨p.tokens ++ q.tokens⟩) ∧
    ∀ e, ops.vocabulary.flatten back = .error e → ops.vocabulary.flatten (front ++ gap ++ back) = .error e := by
  have avoids := fun c blank => ops.vocabulary_avoids c (blanks c blank)
  have whole := ops.vocabulary.flatten_gap avoids front gap back p filled blank flat
  constructor
  · intro q flatBack
    rw [whole, flatBack]
    rfl
  · intro e failed
    rw [whole, failed]
    rfl

-- A name may have a bracket in it, and the part after the blanks may close what is not open.
theorem flatten_joined_bracket_name :
    let ops := (OperatorTable.empty.insert "f(x" (.unary Float.abs)).insert "^" (.unary Float.sqrt)
    ops.vocabulary.flatten "(16^ f(x)" = .ok ⟨["1^6", "f(x"]⟩ ∧
      ops.vocabulary.flatten "(16^ f(x)\t\u3000(2 )+" = .ok ⟨["1^6", "f(x", "2", "+"]⟩ ∧
      ops.vocabulary.flatten "(16^ f(x)\t\u3000f(x)2" = .error .missingOpening := by
  intro ops
  have blanks := ops.names_avoid_of_all isBlank rfl
  have flat : ops.vocabulary.flatten "(16^ f(x)" = .ok ⟨["1^6", "f(x"]⟩ := rfl
  have gap : ∀ c ∈ "\t\u3000".toList, isBlank c = true := List.all_eq_true.mp rfl
  have closed := (flatten_joined ops blanks "(16^ f(x)" "\t\u3000" "(2 )+" _ (by decide) gap flat).1
  have unopened := (flatten_joined ops blanks "(16^ f(x)" "\t\u3000" "f(x)2" _ (by decide) gap flat).2
  have whole := closed ⟨["2", "+"]⟩ rfl
  have failed := unopened .missingOpening rfl
  exact ⟨flat, whole, failed⟩

end ReversePolish
