import Mathlib.Tactic.Ring
import ReversePolish.Proofs.FlatText

set_option autoImplicit false

namespace ReversePolish

open Text

inductive Shifted (symbols : List Char) : List Char → List Char → Prop where
  | done : Shifted symbols [] []
  | kept (part rest out : List Char) (next : Shifted symbols rest out) : Shifted symbols (part ++ rest) (part ++ out)
  | moved (c lead : Char) (block rest out : List Char) (letter : c ∉ symbols) (symbol : lead ∈ symbols)
      (next : Shifted symbols rest out) : Shifted symbols (c :: lead :: block ++ rest) (lead :: block ++ c :: out)

-- What is written of a text while a letter waits before it: first the block that goes before that letter.
-- Only after a symbol can the block begin with a letter.
def Overtaken (symbols : List Char) (held : Option Char) (gluing : Bool) (text out : List Char) : Prop :=
  ∃ block rest more, text = block ++ rest ∧ out = block ++ held.toList ++ more ∧ Shifted symbols rest more ∧
    (gluing = false → ∀ lead ∈ block.head?, lead ∈ symbols)

namespace Overtaken

variable {symbols : List Char}

theorem finished (held : Option Char) (gluing : Bool) : Overtaken symbols held gluing [] held.toList :=
  ⟨[], [], [], rfl, (List.append_nil _).symm, .done, by simp⟩

theorem written {held : Option Char} {after : Bool} {text out : List Char} (later : Overtaken symbols held after text out)
    (c : Char) (gluing : Bool) (leads : gluing = false → c ∈ symbols) :
    Overtaken symbols held gluing (c :: text) (c :: out) := by
  obtain ⟨block, rest, more, split, whole, shifted, _⟩ := later
  refine ⟨c :: block, rest, more, by rw [split]; rfl, by rw [whole]; rfl, shifted, ?_⟩
  intro free lead head
  cases head
  exact leads free

theorem word {text out : List Char} (later : Overtaken symbols none false text out) (letters : List Char)
    (held : Option Char) (gluing : Bool) :
    Overtaken symbols held gluing (letters ++ text) (held.toList ++ letters ++ out) := by
  obtain ⟨block, rest, more, split, whole, shifted, _⟩ := later
  refine ⟨[], letters ++ block ++ rest, letters ++ block ++ more, ?_, ?_, .kept _ rest more shifted, by simp⟩
  · rw [split, List.nil_append, List.append_assoc]
  · simp [whole]

theorem letter {c : Char} {text out : List Char} (later : Overtaken symbols (some c) false text out)
    (other : c ∉ symbols) (held : Option Char) : Overtaken symbols held false (c :: text) (held.toList ++ out) := by
  obtain ⟨block, rest, more, split, whole, shifted, leads⟩ := later
  have passed : Shifted symbols (c :: block ++ rest) (block ++ c :: more) := by
    cases block with
    | nil => exact .kept [c] rest more shifted
    | cons lead others => exact .moved c lead others rest more other (leads rfl lead rfl) shifted
  refine ⟨[], c :: block ++ rest, block ++ c :: more, by rw [split]; rfl, ?_, passed, by simp⟩
  simp [whole]

end Overtaken

namespace Scan

theorem map_append_eq_ok (front out : List Char) (result : Except BracketError (List Char)) :
    result.map (front ++ ·) = .ok out ↔ ∃ after, result = .ok after ∧ out = front ++ after := by
  cases result <;> simp [Except.map, eq_comm]

theorem complete_overtaken (symbols : List Char) (lexemes : List Lexeme)
    (inner : ∀ lexeme ∈ lexemes, lexeme.isInner = true) (known : ∀ c, .symbol c ∈ lexemes → c ∈ symbols)
    (letters : ∀ c, .plain c ∈ lexemes → c ∉ symbols) (held : Option Char) (gluing : Bool) (out : List Char)
    (ran : complete (run ⟨held.toList.map .char, gluing⟩ lexemes) = .ok out) :
    Overtaken symbols held gluing (lexemes.flatMap Lexeme.letters) out := by
  induction lexemes generalizing held gluing out with
  | nil =>
      have ended : out = held.toList := by
        cases held <;> cases ran <;> rfl
      rw [ended]
      exact Overtaken.finished held gluing
  | cons lexeme rest ih =>
      have here := inner lexeme List.mem_cons_self
      have later := ih (fun l member => inner l (List.mem_cons_of_mem lexeme member))
        (fun c member => known c (List.mem_cons_of_mem lexeme member))
        (fun c member => letters c (List.mem_cons_of_mem lexeme member))
      cases lexeme with
      | blank c => cases here
      | opening => cases here
      | closing => cases here
      | symbol c =>
          rw [complete_cons _ ⟨held.toList.map .char, true⟩ _ _ [c] rfl] at ran
          obtain ⟨after, ended, rfl⟩ := (map_append_eq_ok _ _ _).mp ran
          exact (later held true after ended).written c gluing fun _ => known c List.mem_cons_self
      | name word =>
          rw [complete_cons _ _ _ _ _ (step_name_held held gluing word)] at ran
          obtain ⟨after, ended, rfl⟩ := (map_append_eq_ok _ _ _).mp ran
          exact (later none false after ended).word word.toList held gluing
      | plain c =>
          cases gluing with
          | true =>
              rw [complete_cons _ ⟨held.toList.map .char, false⟩ _ _ [c] rfl] at ran
              obtain ⟨after, ended, rfl⟩ := (map_append_eq_ok _ _ _).mp ran
              exact (later held false after ended).written c true fun impossible => by cases impossible
          | false =>
              rw [complete_cons _ _ _ _ _ (step_plain_held held c)] at ran
              obtain ⟨after, ended, rfl⟩ := (map_append_eq_ok _ _ _).mp ran
              exact (later (some c) false after ended).letter (letters c List.mem_cons_self) held

end Scan

theorem Vocabulary.flat_word_shifted (v : Vocabulary) (word out : List Char) (unbroken : ∀ c ∈ word, isBreak c = false)
    (flat : v.flatText word = .ok out) : Shifted v.symbols word out := by
  have whole := Scan.complete_overtaken v.symbols (v.lex word) (v.lex_unbroken word unbroken)
    (fun c member => (v.mem_lex_symbol word c member).2) (v.mem_lex_plain word) none false out flat
  rw [v.lex_letters] at whole
  obtain ⟨block, rest, more, split, same, shifted, _⟩ := whole
  rw [split, same]
  simpa using Shifted.kept block rest more shifted

-- The letters of `next`, each with the place in `text` that it came from. A symbol stands where it stood, or
-- one place before.
def Traced (symbols : List Char) (start : Nat) (text next : List Char) (origins : List (Char × Nat)) : Prop :=
  origins.Perm (text.zipIdx start) ∧ origins.map Prod.fst = next ∧
    ∀ c origin place, ((c, origin), place) ∈ origins.zipIdx start → c ∈ symbols → place = origin ∨ place + 1 = origin

theorem zip_idx_twice (text : List Char) (first second : Nat) (c : Char) (origin place : Nat)
    (member : ((c, origin), place) ∈ (text.zipIdx first).zipIdx second) : origin + second = place + first := by
  induction text generalizing first second with
  | nil => cases member
  | cons d rest ih =>
      rw [List.zipIdx_cons, List.zipIdx_cons] at member
      cases List.mem_cons.mp member with
      | inl head =>
          cases head
          exact Nat.add_comm _ _
      | inr tail =>
          have later := ih (first + 1) (second + 1) tail
          omega

def symbolPlaces (symbols : List Char) : Nat → List Char → Nat
  | _, [] => 0
  | place, c :: rest => (if c ∈ symbols then place else 0) + symbolPlaces symbols (place + 1) rest

theorem symbol_places_append (symbols : List Char) (place : Nat) (front back : List Char) :
    symbolPlaces symbols place (front ++ back) =
      symbolPlaces symbols place front + symbolPlaces symbols (place + front.length) back := by
  induction front generalizing place with
  | nil => exact (Nat.zero_add _).symm
  | cons c rest ih =>
      have size : place + 1 + rest.length = place + (c :: rest).length := by
        rw [List.length_cons]
        omega
      rw [List.cons_append, symbolPlaces, symbolPlaces, ih, size, Nat.add_assoc]

theorem symbol_places_succ (symbols : List Char) (place : Nat) (text : List Char) :
    symbolPlaces symbols (place + 1) text = symbolPlaces symbols place text + text.countP (· ∈ symbols) := by
  induction text generalizing place with
  | nil => rfl
  | cons c rest ih =>
      rw [symbolPlaces, symbolPlaces, ih, List.countP_cons]
      by_cases symbol : c ∈ symbols
      · simp only [symbol, decide_true, if_true]
        omega
      · simp only [symbol, decide_false, if_false, Bool.false_eq_true]
        omega

theorem symbol_places_le (symbols : List Char) (place : Nat) (text : List Char) :
    symbolPlaces symbols place text ≤ text.length * (place + text.length) := by
  induction text generalizing place with
  | nil => exact Nat.zero_le _
  | cons c rest ih =>
      have later := ih (place + 1)
      have here : (if c ∈ symbols then place else 0) ≤ place := by split <;> omega
      rw [symbolPlaces, List.length_cons]
      have whole : (rest.length + 1) * (place + (rest.length + 1)) =
          rest.length * (place + 1 + rest.length) + (place + rest.length + 1) := by ring
      omega

namespace Shifted

variable {symbols : List Char}

theorem traced {text next : List Char} (shifted : Shifted symbols text next) (start : Nat) :
    ∃ origins, Traced symbols start text next origins := by
  induction shifted generalizing start with
  | done => exact ⟨[], by simp [Traced]⟩
  | kept part rest out _ ih =>
      obtain ⟨origins, same, letters, near⟩ := ih (start + part.length)
      refine ⟨part.zipIdx start ++ origins, ?_, ?_, ?_⟩
      · rw [List.zipIdx_append]
        exact List.Perm.append_left _ same
      · rw [List.map_append, letters, List.zipIdx_map_fst]
      · intro c origin place member symbol
        rw [List.zipIdx_append, List.mem_append, List.length_zipIdx] at member
        cases member with
        | inl here =>
            have stays := zip_idx_twice part start start c origin place here
            omega
        | inr later => exact near c origin place later symbol
  | moved c lead block rest out other _ _ ih =>
      obtain ⟨origins, same, letters, near⟩ := ih (start + (c :: lead :: block).length)
      have before : (c :: lead :: block ++ rest).zipIdx start = (c, start) ::
          ((lead :: block).zipIdx (start + 1) ++ rest.zipIdx (start + (c :: lead :: block).length)) :=
        List.zipIdx_append
      refine ⟨(lead :: block).zipIdx (start + 1) ++ (c, start) :: origins, ?_, ?_, ?_⟩
      · rw [before]
        exact List.perm_middle.trans (List.Perm.cons _ (List.Perm.append_left _ same))
      · rw [List.map_append, List.zipIdx_map_fst, List.map_cons, letters]
      · intro d origin place member symbol
        rw [List.zipIdx_append, List.length_zipIdx, List.mem_append] at member
        cases member with
        | inl inBlock =>
            have moves := zip_idx_twice _ (start + 1) start d origin place inBlock
            omega
        | inr after =>
            rw [List.zipIdx_cons] at after
            cases List.mem_cons.mp after with
            | inl head =>
                cases head
                exact absurd symbol other
            | inr later => exact near d origin place later symbol

-- A word that is not kept has a symbol that moved, so the places of its symbols add up to less.
theorem places_fall {text next : List Char} (shifted : Shifted symbols text next) (start : Nat) :
    symbolPlaces symbols start next < symbolPlaces symbols start text ∨ next = text := by
  induction shifted generalizing start with
  | done => exact Or.inr rfl
  | kept part rest out _ ih =>
      rw [symbol_places_append, symbol_places_append]
      cases ih (start + part.length) with
      | inl less => exact Or.inl (by omega)
      | inr same => exact Or.inr (by rw [same])
  | moved c lead block rest out other symbol _ ih =>
      have passed := symbol_places_succ symbols start (lead :: block)
      have counted : 0 < (lead :: block).countP (· ∈ symbols) := List.countP_pos_iff.mpr ⟨lead, by simp, by simpa using symbol⟩
      have later : symbolPlaces symbols (start + (c :: lead :: block).length) out ≤
          symbolPlaces symbols (start + (c :: lead :: block).length) rest := by
        cases ih (start + (c :: lead :: block).length) with
        | inl less => exact Nat.le_of_lt less
        | inr same => rw [same]
      left
      rw [symbol_places_append, symbol_places_append, symbolPlaces.eq_2 symbols start c (lead :: block),
        symbolPlaces.eq_2 symbols _ c out, if_neg other, if_neg other]
      have size : start + (lead :: block).length + 1 = start + (c :: lead :: block).length := rfl
      rw [size]
      omega

end Shifted

end ReversePolish
