import Mathlib.Data.List.Basic
import ReversePolish.OperatorTable
import ReversePolish.Proofs.Lexing

set_option autoImplicit false

namespace ReversePolish

namespace Binding

theorem find_none (name : String) (bindings : List Binding) (absent : name ∉ bindings.map Binding.name) :
    find? name bindings = none := by
  induction bindings with
  | nil => rfl
  | cons b rest ih =>
      rw [List.map_cons, List.mem_cons, not_or] at absent
      rw [find?, if_neg absent.1]
      exact ih absent.2

theorem find_eq_some_iff (name : String) (op : Operator) (bindings : List Binding) (ordered : Ascending bindings) :
    find? name bindings = some op ↔ ⟨name, op⟩ ∈ bindings := by
  induction bindings with
  | nil => simp [find?]
  | cons b rest ih =>
      have above := (List.pairwise_cons.mp ordered).1
      have tail := (List.pairwise_cons.mp ordered).2
      by_cases same : name = b.name
      · subst same
        rw [find?, if_pos rfl, List.mem_cons, Option.some.injEq]
        constructor
        · rintro rfl
          exact Or.inl rfl
        · rintro (here | later)
          · rw [← here]
          · exact absurd (above _ later) (String.lt_irrefl _)
      · rw [find?, if_neg same, ih tail, List.mem_cons]
        constructor
        · exact Or.inr
        · rintro (here | later)
          · exact absurd (congrArg Binding.name here) same
          · exact later

end Binding

namespace OperatorTable

theorem mem_unary_names (ops : OperatorTable) (name : String) :
    name ∈ ops.unaryNames ↔ ops.isUnary name = true := by
  have found : ∀ op, ops.lookup name = some op ↔ ⟨name, op⟩ ∈ ops.bindings :=
    fun op => Binding.find_eq_some_iff name op ops.bindings ops.ascending
  rw [unaryNames, Binding.unaryNames, List.mem_filterMap]
  constructor
  · rintro ⟨⟨bound, op⟩, member, shown⟩
    cases op with
    | binary function => cases shown
    | unary function =>
        cases shown
        simp [isUnary, (found _).mpr member]
  · intro unary
    cases known : ops.lookup name with
    | none => simp [isUnary, known] at unary
    | some op =>
        cases op with
        | binary function => simp [isUnary, known] at unary
        | unary function => exact ⟨⟨name, .unary function⟩, (found _).mp known, rfl⟩

end OperatorTable

theorem mem_place_name (name other : String) (names : List String) :
    other ∈ placeName name names ↔ other = name ∨ other ∈ names := by
  induction names with
  | nil => simp [placeName]
  | cons first rest ih =>
      by_cases before : precedes name first = true
      · simp [placeName, before]
      · simp [placeName, before, ih, or_left_comm]

theorem mem_place_names (name : String) (names : List String) : name ∈ names.foldr placeName [] ↔ name ∈ names := by
  induction names with
  | nil => exact Iff.rfl
  | cons first rest ih => rw [List.foldr_cons, mem_place_name, ih, List.mem_cons]

def LongerFirst (a b : String) : Prop := b.length < a.length ∨ (a.length = b.length ∧ a < b)

theorem precedes_iff (a b : String) : precedes a b = true ↔ LongerFirst a b := by
  simp [precedes, LongerFirst]

theorem longer_first_trans (a b c : String) (first : LongerFirst a b) (second : LongerFirst b c) : LongerFirst a c := by
  rcases first with longer | ⟨size, less⟩
  · rcases second with also | ⟨same, _⟩
    · exact Or.inl (Nat.lt_trans also longer)
    · exact Or.inl (same ▸ longer)
  · rcases second with longer | ⟨same, also⟩
    · exact Or.inl (size ▸ longer)
    · exact Or.inr ⟨size.trans same, String.lt_trans less also⟩

theorem longer_first_asymm (a b : String) (first : LongerFirst a b) : ¬ LongerFirst b a := by
  rintro (shorter | ⟨size, more⟩)
  · rcases first with longer | ⟨same, _⟩ <;> omega
  · rcases first with longer | ⟨_, less⟩
    · omega
    · exact String.lt_asymm less more

theorem longer_first_total (a b : String) (different : a ≠ b) (notFirst : ¬ LongerFirst a b) : LongerFirst b a := by
  rw [LongerFirst, not_or, not_and] at notFirst
  by_cases size : a.length = b.length
  · have below := String.not_lt.mp (notFirst.2 size)
    exact Or.inr ⟨size.symm, String.not_le.mp fun notBelow => different (String.le_antisymm notBelow below)⟩
  · exact Or.inl (by omega)

theorem place_name_ordered (name : String) (names : List String) (fresh : name ∉ names)
    (ordered : names.Pairwise LongerFirst) : (placeName name names).Pairwise LongerFirst := by
  induction names with
  | nil => exact List.pairwise_singleton _ _
  | cons first rest ih =>
      have below := (List.pairwise_cons.mp ordered).1
      have tail := (List.pairwise_cons.mp ordered).2
      rw [List.mem_cons, not_or] at fresh
      by_cases before : precedes name first = true
      · have here := (precedes_iff name first).mp before
        rw [placeName, if_pos before]
        refine List.pairwise_cons.mpr ⟨fun other member => ?_, ordered⟩
        cases List.mem_cons.mp member with
        | inl head => exact head ▸ here
        | inr later => exact longer_first_trans name first other here (below other later)
      · have after := longer_first_total name first fresh.1 fun here => before ((precedes_iff name first).mpr here)
        rw [placeName, if_neg before]
        refine List.pairwise_cons.mpr ⟨fun other member => ?_, ih fresh.2 tail⟩
        cases (mem_place_name name other rest).mp member with
        | inl placed => exact placed ▸ after
        | inr later => exact below other later

theorem place_names_ordered (names : List String) (apart : names.Nodup) :
    (names.foldr placeName []).Pairwise LongerFirst := by
  induction names with
  | nil => exact List.Pairwise.nil
  | cons first rest ih =>
      obtain ⟨fresh, tail⟩ := List.nodup_cons.mp apart
      have absent : first ∉ rest.foldr placeName [] := fun member => fresh ((mem_place_names first rest).mp member)
      exact place_name_ordered first _ absent (ih tail)

theorem longer_first_nodup (names : List String) (ordered : names.Pairwise LongerFirst) : names.Nodup := by
  refine ordered.imp fun {a b} first same => ?_
  subst same
  exact longer_first_asymm a a first first

theorem eq_of_ordered (first second : List String) (orderedFirst : first.Pairwise LongerFirst)
    (orderedSecond : second.Pairwise LongerFirst) (members : ∀ name, name ∈ first ↔ name ∈ second) : first = second := by
  have shuffled := (List.perm_ext_iff_of_nodup (longer_first_nodup first orderedFirst)
    (longer_first_nodup second orderedSecond)).mpr members
  exact shuffled.eq_of_pairwise (fun a b _ _ before after => absurd after (longer_first_asymm a b before))
    orderedFirst orderedSecond

namespace OperatorTable

theorem unary_names_nodup (ops : OperatorTable) : ops.unaryNames.Nodup := by
  have ascending : ops.unaryNames.Pairwise (· < ·) := by
    refine List.Pairwise.filterMap _ (fun a b less x first y second => ?_) ops.ascending
    obtain ⟨_, op⟩ := a
    obtain ⟨_, other⟩ := b
    cases op <;> cases first
    cases other <;> cases second
    exact less
  exact ascending.imp fun {a b} less same => absurd same (String.ne_of_lt less)

theorem mem_long_names (ops : OperatorTable) (name : String) :
    name ∈ ops.longNames ↔ ops.isUnary name = true ∧ 1 < name.length := by
  rw [ops.inStep, Binding.longNames, mem_place_names, List.mem_filter, ← unaryNames, mem_unary_names, decide_eq_true_eq]

theorem long_names_ordered (ops : OperatorTable) : ops.longNames.Pairwise LongerFirst := by
  rw [ops.inStep]
  exact place_names_ordered _ (ops.unary_names_nodup.filter _)

theorem long_names_longest_first (ops : OperatorTable) :
    ops.longNames.Pairwise fun a b => b.length ≤ a.length := by
  refine ops.long_names_ordered.imp fun {a b} before => ?_
  rcases before with longer | ⟨size, _⟩ <;> omega

theorem mem_symbols (ops : OperatorTable) (c : Char) :
    c ∈ ops.symbols ↔ ops.isUnary (String.singleton c) = true := by
  rw [symbols, List.mem_filterMap, ← mem_unary_names]
  constructor
  · rintro ⟨name, member, shown⟩
    split at shown
    · rename_i d single
      cases shown
      have same : name = String.singleton c := String.toList_inj.mp (by rw [single, String.toList_singleton])
      exact same ▸ member
    · cases shown
  · intro member
    exact ⟨String.singleton c, member, by simp⟩

def Spelled (ops : OperatorTable) (text : List Char) (name : String) : Prop :=
  ops.isUnary name = true ∧ 1 < name.length ∧ name.toList <+: text

def Longest (ops : OperatorTable) (text : List Char) (name : String) : Prop :=
  ops.Spelled text name ∧ ∀ other, ops.Spelled text other → other.length ≤ name.length

theorem spelled_iff (ops : OperatorTable) (text : List Char) (name : String) :
    ops.Spelled text name ↔ name ∈ ops.longNames ∧ Text.spells name text = true := by
  rw [Spelled, mem_long_names, Text.spells_iff]
  constructor
  · rintro ⟨unary, several, rest, split⟩
    have filled : name.toList ≠ [] := by
      intro empty
      rw [← String.length_toList, empty] at several
      exact absurd several (by decide)
    exact ⟨⟨unary, several⟩, filled, rest, split.symm⟩
  · rintro ⟨⟨unary, several⟩, _, rest, split⟩
    exact ⟨unary, several, rest, split.symm⟩

theorem longest_unique (ops : OperatorTable) (text : List Char) (a b : String) (first : ops.Longest text a)
    (second : ops.Longest text b) : a = b := by
  have size : a.toList.length = b.toList.length := by
    rw [String.length_toList, String.length_toList]
    exact Nat.le_antisymm (second.2 a first.1) (first.2 b second.1)
  have within := List.prefix_of_prefix_length_le first.1.2.2 second.1.2.2 (Nat.le_of_eq size)
  exact String.toList_inj.mp (within.eq_of_length size)

theorem longest_of_name (ops : OperatorTable) (text : List Char) (name : String)
    (found : ops.vocabulary.name? text = some name) : ops.Longest text name := by
  obtain ⟨spelled, before, after, split, earlier⟩ := List.find?_eq_some_iff_append.mp found
  have names : ops.longNames = before ++ name :: after := split
  have here : ops.Spelled text name := (spelled_iff ops text name).mpr ⟨by simp [names], spelled⟩
  refine ⟨here, fun other otherSpelled => ?_⟩
  obtain ⟨member, begins⟩ := (spelled_iff ops text other).mp otherSpelled
  have ordered := long_names_longest_first ops
  rw [names] at member ordered
  rcases List.mem_append.mp member with passed | later
  · exact absurd begins (by simpa using earlier other passed)
  · cases List.mem_cons.mp later with
    | inl same => exact Nat.le_of_eq (congrArg String.length same)
    | inr shorter => exact (List.pairwise_cons.mp (List.pairwise_append.mp ordered).2.1).1 other shorter

theorem name_none_iff (ops : OperatorTable) (text : List Char) :
    ops.vocabulary.name? text = none ↔ ∀ name, ¬ ops.Spelled text name := by
  rw [Vocabulary.name?, Text.firstSpelled, List.find?_eq_none]
  constructor
  · intro never name spelled
    obtain ⟨member, begins⟩ := (spelled_iff ops text name).mp spelled
    exact never name member begins
  · intro never name member begins
    exact never name ((spelled_iff ops text name).mpr ⟨member, begins⟩)

theorem name_iff_longest (ops : OperatorTable) (text : List Char) (name : String) :
    ops.vocabulary.name? text = some name ↔ ops.Longest text name := by
  constructor
  · exact longest_of_name ops text name
  · intro longest
    cases found : ops.vocabulary.name? text with
    | none => exact absurd longest.1 ((name_none_iff ops text).mp found name)
    | some first => rw [longest_unique ops text first name (longest_of_name ops text first found) longest]

def NamesAvoid (ops : OperatorTable) (c : Char) : Prop :=
  ∀ name, ops.isUnary name = true → 1 < name.length → c ∉ name.toList

theorem vocabulary_avoids (ops : OperatorTable) (c : Char) (avoid : ops.NamesAvoid c) : ops.vocabulary.Avoids c := by
  intro word member
  obtain ⟨unary, several⟩ := (mem_long_names ops word).mp member
  exact avoid word unary several

theorem avoids_breaks (ops : OperatorTable) (blanks : ∀ c, Text.isBlank c = true → ops.NamesAvoid c)
    (opening : ops.NamesAvoid '(') (closing : ops.NamesAvoid ')') (c : Char) (broken : Text.isBreak c = true) :
    ops.vocabulary.Avoids c := by
  rcases Text.break_cases c broken with blank | rfl | rfl
  · exact ops.vocabulary_avoids c (blanks c blank)
  · exact ops.vocabulary_avoids '(' opening
  · exact ops.vocabulary_avoids ')' closing

theorem names_avoid_of_all (ops : OperatorTable) (avoided : Char → Bool)
    (free : (ops.longNames.all fun name => name.toList.all fun d => !avoided d) = true) (c : Char)
    (here : avoided c = true) : ops.NamesAvoid c := by
  intro name unary several inside
  have known := (mem_long_names ops name).mpr ⟨unary, several⟩
  have apart := List.all_eq_true.mp (List.all_eq_true.mp free name known) c inside
  rw [here] at apart
  cases apart

theorem standard_names_avoid (c : Char) (broken : Text.isBreak c = true) : standard.NamesAvoid c := by
  refine standard.names_avoid_of_all Text.isBreak ?_ c broken
  rw [standard_long_names]
  rfl

end OperatorTable

end ReversePolish
