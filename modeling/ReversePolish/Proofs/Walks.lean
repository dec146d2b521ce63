import ReversePolish.Cursor

set_option autoImplicit false

namespace ReversePolish

inductive Move where
  | next
  | read (word : String)
  | readAny (words : List String)
  deriving DecidableEq, Repr

namespace Cursor

def attempt (c : Cursor) (word : String) : Bool × Cursor :=
  match c.read? word with
  | some after => (true, after)
  | none => (false, c)

-- Each attempt begins where the one before it left the cursor; the first that succeeds is the last.
def attempts (c : Cursor) : List String → Option String × Cursor
  | [] => (none, c)
  | word :: rest => match c.attempt word with
    | (true, after) => (some word, after)
    | (false, after) => after.attempts rest

theorem attempts_read_any (c : Cursor) (words : List String) :
    c.attempts words = match c.readAny? words with
      | some (word, after) => (some word, after)
      | none => (none, c) := by
  induction words with
  | nil => rfl
  | cons word rest ih =>
      rw [attempts, attempt, readAny?, List.findSome?_cons]
      cases c.read? word with
      | some after => rfl
      | none => exact ih

def move (c : Cursor) : Move → Cursor
  | .next => c.next
  | .read word => (c.attempt word).2
  | .readAny words => (c.attempts words).2

def walk (source : String) (moves : List Move) : Cursor := moves.foldl move (start source)

def on (source : String) (place : Nat) : Cursor := ⟨some place, source.toList.drop place⟩

theorem current_on (source : String) (place : Nat) : (on source place).current? = source.toList[place]? :=
  List.head?_drop

theorem next_on (source : String) (place : Nat) (inside : place < source.length) :
    (on source place).next = on source (place + 1) := by
  rw [← String.length_toList] at inside
  rw [on, List.drop_eq_getElem_cons inside]
  rfl

theorem on_end (source : String) : on source source.length = ⟨some source.length, []⟩ := by
  rw [on, ← String.length_toList, List.drop_length]

theorem next_on_end (source : String) : (on source source.length).next = on source source.length := by
  rw [on_end]
  rfl

theorem read_on (source : String) (place : Nat) (word : String) :
    (on source place).read? word =
      if Text.spells word (source.toList.drop place) then some (on source (place + (word.length - 1))) else none := by
  simp only [on, read?, List.drop_drop]

theorem read_any_on (source : String) (place : Nat) (words : List String) :
    (on source place).readAny? words =
      (Text.firstSpelled words (source.toList.drop place)).map fun word => (word, on source (place + (word.length - 1))) := by
  induction words with
  | nil => rfl
  | cons word rest ih =>
      rw [readAny?, List.findSome?_cons, read_on, Text.firstSpelled, List.find?_cons]
      cases Text.spells word (source.toList.drop place) with
      | true => rfl
      | false => exact ih

theorem attempts_on (source : String) (place : Nat) (words : List String) :
    (on source place).attempts words = match Text.firstSpelled words (source.toList.drop place) with
      | some word => (some word, on source (place + (word.length - 1)))
      | none => (none, on source place) := by
  rw [attempts_read_any, read_any_on]
  cases Text.firstSpelled words (source.toList.drop place) <;> rfl

theorem spelled_fits (source : String) (place : Nat) (word : String)
    (spelled : Text.spells word (source.toList.drop place) = true) :
    0 < word.length ∧ place + word.length ≤ source.length := by
  obtain ⟨filled, rest, split⟩ := (Text.spells_iff word _).mp spelled
  have size := congrArg List.length split
  rw [List.length_drop, List.length_append, String.length_toList, String.length_toList] at size
  have some : 0 < word.length := by
    rw [← String.length_toList]
    exact List.length_pos_iff.mpr filled
  omega

theorem current_last (source : String) (place : Nat) (word : String)
    (spelled : Text.spells word (source.toList.drop place) = true) :
    (on source (place + (word.length - 1))).current? = word.toList.getLast? := by
  obtain ⟨_, rest, split⟩ := (Text.spells_iff word _).mp spelled
  have inside : word.toList.length - 1 < word.toList.length := by
    rw [String.length_toList]
    exact Nat.sub_one_lt_of_lt (spelled_fits source place word spelled).1
  rw [current_on, List.getLast?_eq_getElem?, ← List.getElem?_drop, split, ← String.length_toList,
    List.getElem?_append_left inside]

def Stands (source : String) (c : Cursor) : Prop :=
  c = start source ∨ ∃ place ≤ source.length, c = on source place

theorem read_stands (source word : String) (c after : Cursor) (stands : Stands source c)
    (moved : c.read? word = some after) : Stands source after := by
  obtain rfl | ⟨place, _, rfl⟩ := stands
  · cases moved
  · rw [read_on] at moved
    split at moved
    · rename_i spelled
      cases moved
      have fits := spelled_fits source place word spelled
      exact Or.inr ⟨place + (word.length - 1), by omega, rfl⟩
    · cases moved

theorem read_any_stands (source : String) (words : List String) (word : String) (c after : Cursor) (stands : Stands source c)
    (moved : c.readAny? words = some (word, after)) : Stands source after := by
  obtain ⟨tried, _, found⟩ := List.exists_of_findSome?_eq_some moved
  obtain ⟨reached, read, same⟩ := Option.map_eq_some_iff.mp found
  cases same
  exact read_stands source word c after stands read

theorem next_stands (source : String) (c : Cursor) (stands : Stands source c) : Stands source c.next := by
  obtain rfl | ⟨place, bounded, rfl⟩ := stands
  · exact Or.inr ⟨0, Nat.zero_le _, rfl⟩
  · cases Nat.lt_or_eq_of_le bounded with
    | inl inside => exact Or.inr ⟨place + 1, inside, next_on source place inside⟩
    | inr ended =>
        subst ended
        exact Or.inr ⟨source.length, Nat.le_refl _, next_on_end source⟩

theorem move_stands (source : String) (c : Cursor) (m : Move) (stands : Stands source c) : Stands source (c.move m) := by
  cases m with
  | next => exact next_stands source c stands
  | read word =>
      rw [move, attempt]
      cases moved : c.read? word with
      | none => exact stands
      | some after => exact read_stands source word c after stands moved
  | readAny words =>
      rw [move, attempts_read_any]
      cases moved : c.readAny? words with
      | none => exact stands
      | some found => exact read_any_stands source words found.1 c found.2 stands moved

theorem walk_stands (source : String) (moves : List Move) : Stands source (walk source moves) := by
  suffices general : ∀ c, Stands source c → Stands source (moves.foldl move c) from general _ (Or.inl rfl)
  induction moves with
  | nil => exact fun c stands => stands
  | cons m rest ih => exact fun c stands => ih (c.move m) (move_stands source c m stands)

theorem stands_current (source : String) (c : Cursor) (current : Char) (stands : Stands source c)
    (here : c.current? = some current) :
    ∃ place < source.length, c = on source place ∧ source.toList[place]? = some current := by
  obtain rfl | ⟨place, _, rfl⟩ := stands
  · cases here
  · rw [current_on] at here
    have inside := (List.getElem?_eq_some_iff.mp here).1
    rw [String.length_toList] at inside
    exact ⟨place, inside, rfl, here⟩

end Cursor

end ReversePolish
