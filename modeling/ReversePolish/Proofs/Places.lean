import ReversePolish.Proofs.Walks

set_option autoImplicit false

namespace ReversePolish

inductive Call where
  | look
  | move (m : Move)
  deriving DecidableEq, Repr

namespace Cursor

def call (c : Cursor) : Call → Cursor
  | .look => c
  | .move m => c.move m

def calls (c : Cursor) (made : List Call) : Cursor := made.foldl call c

-- Before the first step the place is one less than that of the first character.
def place (c : Cursor) : Int := match c.position with
  | none => -1
  | some place => place

theorem place_start (source : String) : (start source).place = -1 := rfl

theorem place_on (source : String) (place : Nat) : (on source place).place = place := rfl

inductive Drains : Cursor → List Char → Cursor → Prop where
  | ended (c : Cursor) (none : c.next.current? = none) : Drains c [] c.next
  | more (c last : Cursor) (current : Char) (later : List Char) (here : c.next.current? = some current)
      (drains : Drains c.next later last) : Drains c (current :: later) last

theorem calls_append (c : Cursor) (first second : List Call) : c.calls (first ++ second) = (c.calls first).calls second :=
  List.foldl_append

theorem call_stands (source : String) (c : Cursor) (made : Call) (stands : Stands source c) : Stands source (c.call made) := by
  cases made with
  | look => exact stands
  | move m => exact move_stands source c m stands

theorem calls_stand (source : String) (c : Cursor) (made : List Call) (stands : Stands source c) :
    Stands source (c.calls made) := by
  induction made generalizing c with
  | nil => exact stands
  | cons first rest ih => exact ih (c.call first) (call_stands source c first stands)

theorem place_read (c after : Cursor) (word : String) (moved : c.read? word = some after) : c.place ≤ after.place := by
  obtain ⟨position, ahead⟩ := c
  cases position with
  | none => cases moved
  | some place =>
      rw [read?] at moved
      dsimp only at moved
      split at moved
      · cases moved
        exact Int.ofNat_le.mpr (Nat.le_add_right place _)
      · cases moved

theorem place_next (c : Cursor) : c.place ≤ c.next.place := by
  obtain ⟨position, ahead⟩ := c
  cases position with
  | none => simp [Cursor.place, next]
  | some place =>
      cases ahead with
      | nil => exact Int.le_refl _
      | cons current rest => exact Int.ofNat_le.mpr (Nat.le_succ place)

theorem place_attempt (c : Cursor) (word : String) : c.place ≤ (c.attempt word).2.place := by
  rw [attempt]
  cases moved : c.read? word with
  | none => exact Int.le_refl _
  | some after => exact place_read c after word moved

theorem place_attempts (c : Cursor) (words : List String) : c.place ≤ (c.attempts words).2.place := by
  induction words generalizing c with
  | nil => exact Int.le_refl _
  | cons word rest ih =>
      have first := place_attempt c word
      rw [attempts]
      split
      · rename_i after tried
        rwa [tried] at first
      · rename_i after tried
        rw [tried] at first
        exact Int.le_trans first (ih after)

theorem place_call (c : Cursor) (made : Call) : c.place ≤ (c.call made).place := by
  cases made with
  | look => exact Int.le_refl _
  | move m =>
      cases m with
      | next => exact place_next c
      | read word => exact place_attempt c word
      | readAny words => exact place_attempts c words

theorem place_calls (c : Cursor) (made : List Call) : c.place ≤ (c.calls made).place := by
  induction made generalizing c with
  | nil => exact Int.le_refl _
  | cons first rest ih => exact Int.le_trans (place_call c first) (ih (c.call first))

theorem read_ended (place : Nat) (word : String) : (Cursor.mk (some place) []).read? word = none := by
  have unspelled : Text.spells word [] = false := by
    rw [Text.spells]
    cases word.toList <;> rfl
  simp [read?, unspelled]

theorem call_ended (place : Nat) (made : Call) : (Cursor.mk (some place) []).call made = ⟨some place, []⟩ := by
  cases made with
  | look => rfl
  | move m =>
      cases m with
      | next => rfl
      | read word => rw [call, move, attempt, read_ended]
      | readAny words =>
          have none : (Cursor.mk (some place) []).readAny? words = none := by
            apply List.findSome?_eq_none_iff.mpr
            intro word _
            rw [read_ended, Option.map_none]
          rw [call, move, attempts_read_any, none]

theorem calls_ended (place : Nat) (made : List Call) : (Cursor.mk (some place) []).calls made = ⟨some place, []⟩ := by
  induction made with
  | nil => rfl
  | cons first rest ih => rwa [calls, List.foldl_cons, call_ended]

theorem place_bounds (source : String) (c : Cursor) (stands : Stands source c) : -1 ≤ c.place ∧ c.place ≤ source.length := by
  obtain rfl | ⟨place, within, rfl⟩ := stands
  · rw [place_start]
    omega
  · rw [place_on]
    omega

theorem current_place (source : String) (c : Cursor) (stands : Stands source c) :
    c.current? = if c.place < 0 then none else source.toList[c.place.toNat]? := by
  obtain rfl | ⟨place, _, rfl⟩ := stands
  · rfl
  · exact current_on source place

theorem next_place (source : String) (c : Cursor) (stands : Stands source c) :
    c.next.place = min (c.place + 1) source.length := by
  obtain rfl | ⟨place, within, rfl⟩ := stands
  · exact (Int.min_eq_left (Int.natCast_nonneg source.length)).symm
  · cases Nat.lt_or_eq_of_le within with
    | inl inside =>
        rw [next_on source place inside]
        exact (Int.min_eq_left (Int.ofNat_le.mpr inside)).symm
    | inr ended =>
        rw [ended, next_on_end]
        exact (Int.min_eq_right (Int.ofNat_le.mpr (Nat.le_succ source.length))).symm

theorem next_end (c : Cursor) (none : c.rest.1 = []) : c.next = c.rest.2 := by
  obtain ⟨position, ahead⟩ := c
  cases position with
  | none =>
      cases none
      rfl
  | some place =>
      cases ahead with
      | nil => rfl
      | cons current later =>
          cases none
          rfl

theorem rest_place (source : String) (c : Cursor) (stands : Stands source c) :
    c.rest = (source.toList.drop (c.place + 1).toNat, on source source.length) := by
  rw [on_end]
  obtain rfl | ⟨place, within, rfl⟩ := stands
  · rw [← String.length_toList]
    rfl
  · have last : place + (source.toList.drop place).length = source.length := by
      rw [List.length_drop, String.length_toList]
      omega
    change ((source.toList.drop place).drop 1, Cursor.mk (some (place + (source.toList.drop place).length)) []) = _
    rw [List.drop_drop, last]
    rfl

theorem next_current_place (source : String) (c : Cursor) (stands : Stands source c) :
    c.next.current? = source.toList[(c.place + 1).toNat]? := by
  rw [next_current, rest_place source c stands, List.head?_drop]

theorem next_ended (source : String) (c : Cursor) (stands : Stands source c) (none : c.next.current? = none) :
    c.next = ⟨some source.length, []⟩ := by
  rw [next_current] at none
  rw [next_end c (List.head?_eq_none_iff.mp none), rest_place source c stands, on_end]

theorem attempt_on (source : String) (place : Nat) (word : String) :
    (on source place).attempt word =
      if Text.spells word (source.toList.drop place) then (true, on source (place + (word.length - 1)))
      else (false, on source place) := by
  rw [attempt, read_on]
  cases Text.spells word (source.toList.drop place) <;> rfl

theorem attempt_true_iff (source : String) (c : Cursor) (word : String) (stands : Stands source c) :
    (c.attempt word).1 = true ↔ 0 ≤ c.place ∧ word ≠ "" ∧ word.toList <+: source.toList.drop c.place.toNat := by
  obtain rfl | ⟨place, _, rfl⟩ := stands
  · simp [attempt, read?, start, Cursor.place]
  · have filled : word.toList ≠ [] ↔ word ≠ "" := by rw [ne_eq, String.toList_eq_nil_iff]
    rw [place_on, Int.toNat_natCast, ← filled, List.prefix_iff_exists_eq_append, ← Text.spells_iff, attempt_on]
    cases Text.spells word (source.toList.drop place) <;> simp

theorem attempt_accepted (source : String) (c after : Cursor) (word : String) (stands : Stands source c)
    (accepted : c.attempt word = (true, after)) :
    after.place = c.place + word.length - 1 ∧ after.current? = word.toList.getLast? := by
  obtain rfl | ⟨place, _, rfl⟩ := stands
  · cases accepted
  · rw [attempt_on] at accepted
    split at accepted
    · rename_i spelled
      have some : 0 < word.length := (spelled_fits source place word spelled).1
      cases accepted
      refine ⟨?_, current_last source place word spelled⟩
      rw [place_on, place_on]
      omega
    · cases accepted

theorem attempt_refused (c after : Cursor) (word : String) (refused : c.attempt word = (false, after)) : after = c := by
  rw [attempt] at refused
  cases moved : c.read? word with
  | none =>
      rw [moved] at refused
      exact (Prod.mk.inj refused).2.symm
  | some reached =>
      rw [moved] at refused
      cases refused

theorem next_rest_end (c : Cursor) : c.next.rest.2 = c.rest.2 := by
  obtain ⟨position, ahead⟩ := c
  cases position with
  | none => simp [next, rest]
  | some place =>
      cases ahead with
      | nil => rfl
      | cons current later =>
          simp only [next, rest, List.length_cons]
          rw [Nat.add_right_comm, Nat.add_assoc]

theorem drains_rest (c : Cursor) : c.Drains c.rest.1 c.rest.2 := by
  generalize left : c.rest.1 = later
  induction later generalizing c with
  | nil =>
      have none : c.next.current? = none := by
        rw [next_current, left, List.head?_nil]
      rw [← next_end c left]
      exact .ended c none
  | cons current later ih =>
      have here : c.next.current? = some current := by
        rw [next_current, left, List.head?_cons]
      have remains : c.next.rest.1 = later := by
        rw [next_rest, left, List.tail_cons]
      rw [← next_rest_end]
      exact .more c c.next.rest.2 current later here (ih c.next remains)

theorem drains_unique (c first second : Cursor) (some other : List Char) (drains : c.Drains some first)
    (also : c.Drains other second) : some = other ∧ first = second := by
  induction drains generalizing other with
  | ended c none =>
      cases also with
      | ended => exact ⟨rfl, rfl⟩
      | more _ _ current later here =>
          rw [none] at here
          cases here
  | more c last current later here _ ih =>
      cases also with
      | ended _ none =>
          rw [none] at here
          cases here
      | more _ _ found rest there drains =>
          obtain ⟨same, ends⟩ := ih rest drains
          have equal := Option.some.inj (here.symm.trans there)
          exact ⟨by rw [equal, same], ends⟩

theorem drains_iff (c last : Cursor) (later : List Char) : c.Drains later last ↔ c.rest = (later, last) := by
  apply Iff.intro
  · intro drains
    obtain ⟨same, ends⟩ := drains_unique c c.rest.2 last c.rest.1 later (drains_rest c) drains
    exact Prod.ext same ends
  · intro same
    have drains := drains_rest c
    rwa [same] at drains

end Cursor

theorem cursor_places (source : String) (made : List Call) :
    let c := (Cursor.start source).calls made
    (-1 ≤ c.place ∧ c.place ≤ source.length) ∧
    (∀ more, c.place ≤ ((Cursor.start source).calls (made ++ more)).place) ∧
    c.current? = (if c.place < 0 then none else source.toList[c.place.toNat]?) ∧
    c.next.place = min (c.place + 1) source.length ∧
    c.next.current? = source.toList[(c.place + 1).toNat]? ∧
    (c.next.current? = none → ∀ more, c.next.calls more = c.next ∧ (c.next.calls more).next.current? = none) ∧
    (∀ word, (c.attempt word).1 = true ↔
      0 ≤ c.place ∧ word ≠ "" ∧ word.toList <+: source.toList.drop c.place.toNat) ∧
    (∀ word after, c.attempt word = (true, after) →
      after.place = c.place + word.length - 1 ∧ after.current? = word.toList.getLast?) ∧
    (∀ word after, c.attempt word = (false, after) → after = c) ∧
    ∀ later last, c.Drains later last ↔
      later = source.toList.drop (c.place + 1).toNat ∧ last = Cursor.on source source.length := by
  intro c
  have stands : Cursor.Stands source c := Cursor.calls_stand source _ made (Or.inl rfl)
  refine ⟨c.place_bounds source stands, ?_, c.current_place source stands, c.next_place source stands,
    c.next_current_place source stands, ?_, fun word => c.attempt_true_iff source word stands,
    fun word after => c.attempt_accepted source after word stands, fun word after => c.attempt_refused after word, ?_⟩
  · intro more
    rw [Cursor.calls_append]
    exact c.place_calls more
  · intro none more
    rw [c.next_ended source stands none, Cursor.calls_ended]
    exact ⟨rfl, rfl⟩
  · intro later last
    rw [Cursor.drains_iff, c.rest_place source stands, Prod.mk.injEq, eq_comm, @eq_comm _ last]

theorem cursor_places_partial_word :
    let c := (Cursor.start "1 sinh").calls
      [.move .next, .look, .move (.readAny ["1x", "1 "]), .move .next, .move (.read "sinhx")]
    c.place = 2 ∧ (c.attempt "sinhx").2 = c ∧
      (∃ after, c.attempt "sinh" = (true, after) ∧ after.place = 5 ∧ after.current? = some 'h') ∧
      c.Drains ['i', 'n', 'h'] (Cursor.on "1 sinh" 6) := by
  intro c
  obtain ⟨_, _, _, _, _, _, _, accepted, refused, drained⟩ := cursor_places "1 sinh"
    [.move .next, .look, .move (.readAny ["1x", "1 "]), .move .next, .move (.read "sinhx")]
  have failed : c.attempt "sinhx" = (false, (c.attempt "sinhx").2) := rfl
  have read : c.attempt "sinh" = (true, (c.attempt "sinh").2) := rfl
  exact ⟨rfl, refused "sinhx" _ failed, ⟨_, read, accepted "sinh" _ read⟩, (drained _ _).mpr ⟨rfl, rfl⟩⟩

end ReversePolish
