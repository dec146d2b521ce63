import ReversePolish.Proofs.Names
import ReversePolish.Proofs.Walks

set_option autoImplicit false

namespace ReversePolish

theorem longer_of_prefix (short long : String) (begins : short.toList <+: long.toList) (proper : short ≠ long) :
    short.length < long.length := by
  rw [← String.length_toList, ← String.length_toList]
  apply Nat.lt_of_le_of_ne begins.length_le
  intro size
  exact proper (String.toList_inj.mp (begins.eq_of_length size))

namespace OperatorTable

theorem longest_of_spelled (ops : OperatorTable) (text : List Char) (name : String) (spelled : ops.Spelled text name) :
    ∃ word, ops.Longest text word := by
  cases found : ops.vocabulary.name? text with
  | none => exact absurd spelled ((ops.name_none_iff text).mp found name)
  | some word => exact ⟨word, ops.longest_of_name text word found⟩

theorem attempts_on (ops : OperatorTable) (source : String) (place : Nat) :
    (Cursor.on source place).attempts ops.longNames = match ops.vocabulary.name? (source.toList.drop place) with
      | some word => (some word, Cursor.on source (place + (word.length - 1)))
      | none => (none, Cursor.on source place) :=
  Cursor.attempts_on source place ops.longNames

theorem attempts_some_iff (ops : OperatorTable) (source : String) (place : Nat) (word : String) (after : Cursor) :
    (Cursor.on source place).attempts ops.longNames = (some word, after) ↔
      ops.Longest (source.toList.drop place) word ∧ after = Cursor.on source (place + (word.length - 1)) := by
  rw [attempts_on, ← name_iff_longest]
  cases ops.vocabulary.name? (source.toList.drop place) with
  | none => simp
  | some found =>
      constructor
      · intro same
        cases same
        exact ⟨rfl, rfl⟩
      · intro both
        obtain ⟨same, rfl⟩ := both
        cases same
        rfl

theorem attempts_found_iff (ops : OperatorTable) (source : String) (place : Nat) :
    (∃ word after, (Cursor.on source place).attempts ops.longNames = (some word, after)) ↔
      ∃ name, ops.Spelled (source.toList.drop place) name := by
  constructor
  · intro found
    obtain ⟨word, after, read⟩ := found
    exact ⟨word, ((ops.attempts_some_iff source place word after).mp read).1.1⟩
  · intro some
    obtain ⟨name, spelled⟩ := some
    obtain ⟨word, longest⟩ := ops.longest_of_spelled _ name spelled
    exact ⟨word, _, (ops.attempts_some_iff source place word _).mpr ⟨longest, rfl⟩⟩

theorem attempts_none_iff (ops : OperatorTable) (source : String) (place : Nat) (after : Cursor) :
    (Cursor.on source place).attempts ops.longNames = (none, after) ↔
      (∀ name, ¬ ops.Spelled (source.toList.drop place) name) ∧ after = Cursor.on source place := by
  rw [attempts_on, ← name_none_iff]
  cases ops.vocabulary.name? (source.toList.drop place) with
  | none => simp [eq_comm]
  | some found => simp

theorem spelled_end (ops : OperatorTable) (source : String) (place : Nat) (word : String)
    (spelled : ops.Spelled (source.toList.drop place) word) :
    (Cursor.on source (place + (word.length - 1))).current? = word.toList.getLast? ∧
      (Cursor.on source (place + (word.length - 1))).next.current? = source.toList[place + word.length]? := by
  have here := ((ops.spelled_iff _ word).mp spelled).2
  obtain ⟨some, fits⟩ := Cursor.spelled_fits source place word here
  constructor
  · exact Cursor.current_last source place word here
  · rw [Cursor.next_on source _ (by omega), Cursor.current_on]
    have next : place + (word.length - 1) + 1 = place + word.length := by omega
    rw [next]

end OperatorTable

theorem longest_name_read (ops : OperatorTable) (source : String) (moves : List Move) (current : Char)
    (here : (Cursor.walk source moves).current? = some current) :
    let cursor := Cursor.walk source moves
    ∃ place, source.toList[place]? = some current ∧ cursor = Cursor.on source place ∧
      let text := source.toList.drop place
      (∀ word after, cursor.readAny? ops.longNames = some (word, after) ↔ cursor.attempts ops.longNames = (some word, after)) ∧
      (∀ word after, cursor.attempts ops.longNames = (some word, after) ↔
        ops.Longest text word ∧ after = Cursor.on source (place + (word.length - 1))) ∧
      (∀ after, cursor.attempts ops.longNames = (none, after) ↔ (∀ name, ¬ ops.Spelled text name) ∧ after = cursor) ∧
      ((∃ word after, cursor.attempts ops.longNames = (some word, after)) ↔ ∃ name, ops.Spelled text name) ∧
      ((∃ name, ops.Spelled text name) → ∃! word, ops.Longest text word) ∧
      (∀ word after, cursor.attempts ops.longNames = (some word, after) →
        after.current? = word.toList.getLast? ∧ after.next.current? = source.toList[place + word.length]?) ∧
      ∀ short long, ops.Spelled text long → short.toList <+: long.toList → short ≠ long →
        ∀ after, cursor.attempts ops.longNames ≠ (some short, after) := by
  intro cursor
  obtain ⟨place, _, stands, onPlace⟩ := Cursor.stands_current source cursor current (Cursor.walk_stands source moves) here
  refine ⟨place, onPlace, stands, ?_⟩
  rw [stands]
  refine ⟨?_, ops.attempts_some_iff source place, ops.attempts_none_iff source place, ops.attempts_found_iff source place,
    ?_, ?_, ?_⟩
  · intro word after
    rw [Cursor.attempts_read_any]
    cases (Cursor.on source place).readAny? ops.longNames <;> simp [Prod.ext_iff]
  · intro spelled
    obtain ⟨name, spelledName⟩ := spelled
    obtain ⟨word, longest⟩ := ops.longest_of_spelled _ name spelledName
    exact ⟨word, longest, fun other also => ops.longest_unique _ other word also longest⟩
  · intro word after found
    obtain ⟨longest, rfl⟩ := (ops.attempts_some_iff source place word after).mp found
    exact ops.spelled_end source place word longest.1
  · intro short long spelled begins proper after found
    obtain ⟨longest, _⟩ := (ops.attempts_some_iff source place short after).mp found
    have shorter := longer_of_prefix short long begins proper
    exact absurd (longest.2 long spelled) (Nat.not_le.mpr shorter)

theorem longest_name_read_overlapping :
    let ops := (OperatorTable.standard.insert "sinhγ" (.unary Float.abs)).insert "sinh" (.unary Float.sinh)
    let cursor := Cursor.walk "1 sinhx" [.next, .next, .readAny ops.longNames, .next, .read "sinhxyz"]
    cursor.current? = some 's' ∧
      (∃ after, cursor.readAny? ops.longNames = some ("sinh", after) ∧ after.current? = some 'h' ∧
        after.next.current? = some 'x') ∧
      ∀ after, cursor.attempts ops.longNames ≠ (some "sin", after) := by
  intro ops cursor
  have here : cursor.current? = some 's' := by decide +kernel
  obtain ⟨place, _, stands, same, found, _, _, _, ended, shorter⟩ := longest_name_read ops "1 sinhx" _ 's' here
  have second : place = 2 := by
    have position : cursor.position = some 2 := by decide +kernel
    exact Option.some.inj ((congrArg Cursor.position stands).symm.trans position)
  subst second
  have longest : ops.Longest ("1 sinhx".toList.drop 2) "sinh" := (ops.name_iff_longest _ _).mp (by decide +kernel)
  have read := (found "sinh" _).mpr ⟨longest, rfl⟩
  obtain ⟨last, next⟩ := ended "sinh" _ read
  refine ⟨here, ⟨_, (same "sinh" _).mpr read, last, next⟩, ?_⟩
  exact shorter "sin" "sinh" longest.1 (by decide) (by decide)

end ReversePolish
