import ReversePolish.Proofs.Reflattening
import ReversePolish.Proofs.Shifting

set_option autoImplicit false

namespace ReversePolish

open Text

theorem work_falls (pass : Nat → Postfix) (work : Postfix → Nat)
    (falls : ∀ k, work (pass (k + 1)) < work (pass k) ∨ pass (k + 1) = pass k) (k : Nat)
    (changes : ∀ j < k, pass (j + 1) ≠ pass j) : work (pass k) + k ≤ work (pass 0) := by
  induction k with
  | zero => exact Nat.le_refl _
  | succ k ih =>
      have before := ih fun j less => changes j (Nat.lt_succ_of_lt less)
      cases falls k with
      | inl less => omega
      | inr same => exact absurd same (changes k (Nat.lt_succ_self k))

theorem passes_settle (pass : Nat → Postfix) (work : Postfix → Nat)
    (falls : ∀ k, work (pass (k + 1)) < work (pass k) ∨ pass (k + 1) = pass k)
    (stays : ∀ k, pass (k + 1) = pass k → pass (k + 2) = pass (k + 1)) :
    ∃ count ≤ work (pass 0), (∀ k, pass (k + 1) ≠ pass k ↔ k < count) ∧ ∀ k, count ≤ k → pass k = pass count := by
  have ends : ∃ k, pass (k + 1) = pass k := by
    by_contra never
    have changes : ∀ j, pass (j + 1) ≠ pass j := fun j same => never ⟨j, same⟩
    have work := work_falls pass work falls (work (pass 0) + 1) fun j _ => changes j
    omega
  have changes : ∀ k < Nat.find ends, pass (k + 1) ≠ pass k := fun k less => Nat.find_min ends less
  have still : ∀ k, Nat.find ends ≤ k → pass (k + 1) = pass k :=
    fun k reached => Nat.le_induction (Nat.find_spec ends) (fun j _ same => stays j same) k reached
  refine ⟨Nat.find ends, ?_, ?_, ?_⟩
  · have bound := work_falls pass work falls (Nat.find ends) changes
    omega
  · intro k
    constructor
    · intro changed
      by_contra reached
      exact changed (still k (Nat.not_lt.mp reached))
    · exact changes k
  · exact fun k reached => Nat.le_induction rfl (fun j after same => (still j after).trans same) k reached

def tokenPlaces (symbols : List Char) (tokens : List String) : Nat :=
  (tokens.map fun token => symbolPlaces symbols 0 token.toList).sum

theorem token_places_fall (symbols : List Char) (tokens nexts : List String)
    (shifted : List.Forall₂ (fun token next => Shifted symbols token.toList next.toList) tokens nexts) :
    tokenPlaces symbols nexts < tokenPlaces symbols tokens ∨ nexts = tokens := by
  induction shifted with
  | nil => exact Or.inr rfl
  | @cons token next rest others here _ ih =>
      simp only [tokenPlaces, List.map_cons, List.sum_cons] at ih ⊢
      cases here.places_fall 0 with
      | inl less =>
          cases ih with
          | inl later => exact Or.inl (by omega)
          | inr same => exact Or.inl (by rw [same]; omega)
      | inr same =>
          have kept : next = token := String.toList_inj.mp same
          rw [kept]
          cases ih with
          | inl later => exact Or.inl (by omega)
          | inr rest => exact Or.inr (by rw [rest])

theorem token_places_le (symbols : List Char) (tokens : List String) :
    tokenPlaces symbols tokens ≤ (tokens.flatMap String.toList).length * (tokens.flatMap String.toList).length := by
  induction tokens with
  | nil => exact Nat.le_refl 0
  | cons token rest ih =>
      have here := symbol_places_le symbols 0 token.toList
      rw [Nat.zero_add] at here
      simp only [tokenPlaces, List.map_cons, List.sum_cons, List.flatMap_cons, List.length_append] at ih ⊢
      nlinarith

namespace Vocabulary

theorem flatten_text_repeated (v : Vocabulary) (avoids : ∀ c, isBreak c = true → v.Avoids c) (expression : String)
    (p : Postfix) (flat : v.flatten expression = .ok p) :
    ∃ pass : Nat → Postfix, pass 0 = p ∧ ∀ k, v.flatten (pass k).text = .ok (pass (k + 1)) ∧
      List.Forall₂ (fun token next => token.toList.Perm next.toList ∧ Shifted v.symbols token.toList next.toList)
        (pass k).tokens (pass (k + 1)).tokens := by
  have again : ∀ q : { q : Postfix // ∃ source, v.flatten source = .ok q }, ∃ r : { q : Postfix // ∃ source, v.flatten source = .ok q },
      v.flatten q.1.text = .ok r.1 ∧
      List.Forall₂ (fun token next => token.toList.Perm next.toList ∧ Shifted v.symbols token.toList next.toList)
        q.1.tokens r.1.tokens := by
    intro q
    obtain ⟨q, source, flatSource⟩ := q
    obtain ⟨r, flatText, words⟩ := v.flatten_text_words avoids source q flatSource
    refine ⟨⟨r, q.text, flatText⟩, flatText, words.imp ?_⟩
    intro token next both
    obtain ⟨out, flatToken, letters⟩ := v.flat_word token.toList both.1
    rw [both.2] at flatToken
    cases flatToken
    exact ⟨letters.symm, v.flat_word_shifted token.toList next.toList both.1 both.2⟩
  choose next passed using again
  refine ⟨fun k => (next^[k] ⟨p, expression, flat⟩).1, rfl, ?_⟩
  intro k
  simpa only [Function.iterate_succ_apply'] using passed (next^[k] ⟨p, expression, flat⟩)

end Vocabulary

-- One pass over a token, letter by letter: `origins` is the new token, each letter with the place that it had.
-- A symbol keeps its place or goes one place to the left.
def OperatorTable.Passes (ops : OperatorTable) (token next : String) : Prop :=
  ∃ origins : List (Char × Nat), origins.Perm token.toList.zipIdx ∧ origins.map Prod.fst = next.toList ∧
    ∀ c origin place, ((c, origin), place) ∈ origins.zipIdx → ops.isUnary (String.singleton c) = true →
      place = origin ∨ place + 1 = origin

theorem OperatorTable.passes_of_shifted (ops : OperatorTable) (token next : String)
    (shifted : Shifted ops.vocabulary.symbols token.toList next.toList) : ops.Passes token next := by
  obtain ⟨origins, same, letters, near⟩ := shifted.traced 0
  refine ⟨origins, same, letters, ?_⟩
  intro c origin place member symbol
  exact near c origin place member ((ops.mem_symbols c).mpr symbol)

-- Flattening again never fails, but it can change something. It does so in each of the first passes, of which
-- there are no more than the square of the length, and in no other.
theorem flatten_passes_settle (ops : OperatorTable) (blanks : ∀ c, isBlank c = true → ops.NamesAvoid c)
    (opening : ops.NamesAvoid '(') (closing : ops.NamesAvoid ')') (expression : String) (p : Postfix)
    (flat : ops.vocabulary.flatten expression = .ok p) :
    ∃ pass : Nat → Postfix, pass 0 = p ∧ (∀ k, ops.vocabulary.flatten (pass k).text = .ok (pass (k + 1))) ∧
      (∀ k, List.Forall₂ (fun token next => token.toList.Perm next.toList ∧ ops.Passes token next)
        (pass k).tokens (pass (k + 1)).tokens) ∧
      ∃ count ≤ expression.length * expression.length, (∀ k, pass (k + 1) ≠ pass k ↔ k < count) ∧
        ∀ k, count ≤ k → pass k = pass count := by
  have avoids := ops.avoids_breaks blanks opening closing
  obtain ⟨pass, first, passed⟩ := ops.vocabulary.flatten_text_repeated avoids expression p flat
  have falls : ∀ k, tokenPlaces ops.symbols (pass (k + 1)).tokens < tokenPlaces ops.symbols (pass k).tokens ∨
      pass (k + 1) = pass k := by
    intro k
    have shifted := (passed k).2.imp fun _ _ both => both.2
    exact (token_places_fall ops.symbols _ _ shifted).imp id (congrArg Postfix.mk)
  have stays : ∀ k, pass (k + 1) = pass k → pass (k + 2) = pass (k + 1) := by
    intro k same
    have later := (passed (k + 1)).1
    rw [same, (passed k).1] at later
    exact (Except.ok.inj later).symm
  obtain ⟨count, bound, changes, settled⟩ := passes_settle pass (tokenPlaces ops.symbols ·.tokens) falls stays
  refine ⟨pass, first, fun k => (passed k).1, ?_, count, ?_, changes, settled⟩
  · intro k
    refine (passed k).2.imp ?_
    intro token next both
    exact ⟨both.1, ops.passes_of_shifted token next both.2⟩
  · have letters := (ops.vocabulary.flatten_characters (ops.avoids_brackets opening closing) expression p flat).length_eq
    have size : (p.tokens.flatMap String.toList).length ≤ expression.length := by
      rw [letters, ← String.length_toList]
      exact List.length_filter_le _ _
    rw [first] at bound
    exact (bound.trans (token_places_le _ _)).trans (Nat.mul_le_mul size size)

theorem flatten_passes_settle_thrice :
    let v := OperatorTable.standard.vocabulary
    v.flatten "(1234^) sin" = .ok ⟨["123^4", "sin"]⟩ ∧
      ∃ pass : Nat → Postfix, pass 0 = ⟨["123^4", "sin"]⟩ ∧ (∀ k, v.flatten (pass k).text = .ok (pass (k + 1))) ∧
        pass 1 = ⟨["12^43", "sin"]⟩ ∧ pass 2 = ⟨["1^423", "sin"]⟩ ∧ ∀ k, 3 ≤ k → pass k = ⟨["^4123", "sin"]⟩ := by
  intro v
  have avoid := OperatorTable.standard_names_avoid
  have flat : v.flatten "(1234^) sin" = .ok ⟨["123^4", "sin"]⟩ := by decide +kernel
  obtain ⟨pass, start, again, _, count, _, changes, settled⟩ := flatten_passes_settle .standard
    (fun c blank => avoid c (break_of_blank c blank)) (avoid '(' rfl) (avoid ')' rfl) "(1234^) sin" _ flat
  have next : ∀ k q r, pass k = q → v.flatten q.text = .ok r → pass (k + 1) = r := by
    intro k q r here flatText
    subst here
    exact Except.ok.inj ((again k).symm.trans flatText)
  have first := next 0 _ ⟨["12^43", "sin"]⟩ start (by decide +kernel)
  have second := next 1 _ ⟨["1^423", "sin"]⟩ first (by decide +kernel)
  have third := next 2 _ ⟨["^4123", "sin"]⟩ second (by decide +kernel)
  have fourth := next 3 _ ⟨["^4123", "sin"]⟩ third (by decide +kernel)
  have reached : count ≤ 3 := by
    by_contra before
    exact (changes 3).mpr (Nat.not_le.mp before) (fourth.trans third.symm)
  refine ⟨flat, pass, start, again, first, second, ?_⟩
  intro k after
  rw [settled k (reached.trans after), ← settled 3 reached, third]

end ReversePolish
