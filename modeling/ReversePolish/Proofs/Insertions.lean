import ReversePolish.Calculator
import ReversePolish.Proofs.Names

set_option autoImplicit false

namespace ReversePolish

namespace Binding

theorem find_append (name : String) (first second : List Binding) :
    find? name (first ++ second) = (find? name first).or (find? name second) := by
  induction first with
  | nil => rfl
  | cons b rest ih =>
      by_cases same : name = b.name
      · simp [find?, same]
      · simpa [find?, same] using ih

theorem find_place (fresh : Binding) (bindings : List Binding) (name : String) :
    find? name (place fresh bindings).2 = if name = fresh.name then some fresh.operator else find? name bindings := by
  induction bindings with
  | nil => rfl
  | cons b rest ih =>
      by_cases same : fresh.name = b.name
      · by_cases asked : name = b.name
        · simp [place, find?, same, asked]
        · simp [place, find?, same, asked]
      · by_cases less : fresh.name < b.name
        · rw [place, if_neg same, if_pos less, find?]
        · have later : find? name (place fresh (b :: rest)).2 = find? name (b :: (place fresh rest).2) := by
            rw [place, if_neg same, if_neg less]
          rw [later, find?, find?, ih]
          by_cases asked : name = b.name
          · have other : ¬ name = fresh.name := fun placed => same (placed.symm.trans asked)
            rw [if_pos asked, if_neg other, if_pos asked]
          · rw [if_neg asked, if_neg asked]

-- Names are ascending, so the place of a name shows whether it is bound.
theorem place_before (fresh : Binding) (bindings : List Binding) (ordered : Ascending bindings) :
    (place fresh bindings).1 = find? fresh.name bindings := by
  induction bindings with
  | nil => rfl
  | cons b rest ih =>
      have above := (List.pairwise_cons.mp ordered).1
      have tail := (List.pairwise_cons.mp ordered).2
      by_cases same : fresh.name = b.name
      · rw [place, if_pos same, find?, if_pos same]
      · by_cases less : fresh.name < b.name
        · have absent : fresh.name ∉ rest.map Binding.name := by
            intro member
            obtain ⟨entry, inside, named⟩ := List.mem_map.mp member
            exact String.lt_asymm less (named ▸ above entry inside)
          rw [place, if_neg same, if_pos less, find?, if_neg same, find_none fresh.name rest absent]
        · rw [place, if_neg same, if_neg less, find?, if_neg same]
          exact ih tail

theorem ascending_nodup (bindings : List Binding) (ordered : Ascending bindings) : bindings.Nodup :=
  ordered.imp fun less same => String.ne_of_lt less (congrArg Binding.name same)

theorem eq_of_find (first second : List Binding) (orderedFirst : Ascending first) (orderedSecond : Ascending second)
    (same : ∀ name, find? name first = find? name second) : first = second := by
  have members : ∀ entry, entry ∈ first ↔ entry ∈ second := by
    intro entry
    rw [← find_eq_some_iff entry.name entry.operator first orderedFirst,
      ← find_eq_some_iff entry.name entry.operator second orderedSecond, same entry.name]
  have shuffled := (List.perm_ext_iff_of_nodup (ascending_nodup first orderedFirst)
    (ascending_nodup second orderedSecond)).mpr members
  exact shuffled.eq_of_pairwise (fun a b _ _ less more => absurd more (String.lt_asymm less)) orderedFirst orderedSecond

def latest? (name : String) (history : List Binding) : Option Operator := find? name history.reverse

theorem latest_cons (name : String) (first : Binding) (later : List Binding) :
    latest? name (first :: later) = (latest? name later).or (if name = first.name then some first.operator else none) := by
  rw [latest?, List.reverse_cons, find_append]
  rfl

end Binding

namespace OperatorTable

theorem eq_of_lookup (first second : OperatorTable) (same : ∀ name, first.lookup name = second.lookup name) :
    first = second := by
  have bindings := Binding.eq_of_find first.bindings second.bindings first.ascending second.ascending same
  have names : first.longNames = second.longNames := by rw [first.inStep, second.inStep, bindings]
  cases first
  cases bindings
  cases names
  rfl

theorem is_unary_iff (ops : OperatorTable) (name : String) :
    ops.isUnary name = true ↔ ∃ function, ops.lookup name = some (.unary function) := by
  rw [isUnary]
  cases ops.lookup name with
  | none => simp
  | some op => cases op <;> simp

theorem lookup_insert (ops : OperatorTable) (name : String) (op : Operator) (asked : String) :
    (ops.insert name op).lookup asked = if asked = name then some op else ops.lookup asked :=
  Binding.find_place ⟨name, op⟩ ops.bindings asked

theorem replace_before (ops : OperatorTable) (name : String) (op : Operator) :
    (ops.replace name op).1 = ops.lookup name :=
  Binding.place_before ⟨name, op⟩ ops.bindings ops.ascending

def insertAll (ops : OperatorTable) (history : List Binding) : OperatorTable :=
  history.foldl (fun reached b => reached.insert b.name b.operator) ops

theorem lookup_insert_all (ops : OperatorTable) (history : List Binding) (name : String) :
    (ops.insertAll history).lookup name = (Binding.latest? name history).or (ops.lookup name) := by
  induction history generalizing ops with
  | nil => rfl
  | cons first later ih =>
      have next : ops.insertAll (first :: later) = (ops.insert first.name first.operator).insertAll later := rfl
      rw [next, ih, lookup_insert, Binding.latest_cons, Option.or_assoc]
      by_cases here : name = first.name
      · rw [if_pos here, if_pos here]
        rfl
      · rw [if_neg here, if_neg here]
        rfl

end OperatorTable

-- A history of insertions counts only by what it binds every name to at last. The names that are tried
-- are in one order, however the table lists them.
theorem insertions_last_binding (start : OperatorTable) (history : List Binding) :
    let ops := start.insertAll history
    (∀ name, ops.lookup name = (Binding.latest? name history).or (start.lookup name)) ∧
    (∀ name op, (ops.replace name op).1 = ops.lookup name ∧ (ops.insert name op).lookup name = some op ∧
      ∀ other, other ≠ name → (ops.insert name op).lookup other = ops.lookup other) ∧
    (∀ names, names = ops.longNames ↔ names.Nodup ∧ names.Pairwise LongerFirst ∧
      ∀ name, name ∈ names ↔ 1 < name.length ∧ ∃ function, ops.lookup name = some (.unary function)) ∧
    (∀ listed : List String, listed.Perm ops.unaryNames →
      (listed.filter fun name => 1 < name.length).foldr placeName [] = ops.longNames) ∧
    ∀ (base : OperatorTable) (other : List Binding),
      (∀ name, (Binding.latest? name history).or (start.lookup name) = (Binding.latest? name other).or (base.lookup name)) →
      let again := base.insertAll other
      ops.longNames = again.longNames ∧ (∀ expression, ops.vocabulary.flatten expression = again.vocabulary.flatten expression) ∧
        ∀ leftover, (∀ p, (Calculator.mk ops leftover).eval p = (Calculator.mk again leftover).eval p) ∧
          ∀ expression, (Calculator.mk ops leftover).evaluate expression = (Calculator.mk again leftover).evaluate expression := by
  intro ops
  have bound := start.lookup_insert_all history
  refine ⟨bound, fun name op => ?_, fun names => ?_, fun listed shuffled => ?_, fun base other same => ?_⟩
  · refine ⟨ops.replace_before name op, ?_, fun other different => ?_⟩
    · rw [ops.lookup_insert, if_pos rfl]
    · rw [ops.lookup_insert, if_neg different]
  · have members : ∀ name, name ∈ ops.longNames ↔ 1 < name.length ∧ ∃ function, ops.lookup name = some (.unary function) := by
      intro name
      rw [ops.mem_long_names, ops.is_unary_iff, and_comm]
    constructor
    · rintro rfl
      exact ⟨longer_first_nodup _ ops.long_names_ordered, ops.long_names_ordered, members⟩
    · rintro ⟨_, ordered, listed⟩
      exact eq_of_ordered names _ ordered ops.long_names_ordered fun name => (listed name).trans (members name).symm
  · have apart : listed.Nodup := shuffled.nodup_iff.mpr ops.unary_names_nodup
    refine eq_of_ordered _ _ (place_names_ordered _ (apart.filter _)) ops.long_names_ordered fun name => ?_
    rw [mem_place_names, List.mem_filter, shuffled.mem_iff, ops.inStep, Binding.longNames, mem_place_names, List.mem_filter]
    rfl
  · have equal : ops = base.insertAll other := by
      refine OperatorTable.eq_of_lookup _ _ fun name => ?_
      rw [bound, same, base.lookup_insert_all]
    intro again
    rw [show again = ops from equal.symm]
    exact ⟨rfl, fun expression => rfl, fun leftover => ⟨fun p => rfl, fun expression => rfl⟩⟩

theorem insertions_last_binding_reordered :
    let first : List Binding := [⟨"sinh", .unary Float.sinh⟩, ⟨"γδ", .unary Float.abs⟩, ⟨"sin", .binary Float.atan2⟩]
    let second : List Binding :=
      [⟨"sin", .binary Float.atan2⟩, ⟨"γδ", .binary Float.atan2⟩, ⟨"γδ", .unary Float.abs⟩, ⟨"sinh", .unary Float.sinh⟩]
    let ops := OperatorTable.standard.insertAll first
    let again := OperatorTable.standard.insertAll second
    ops.longNames = ["sinh", "cos", "tan", "γδ"] ∧ ops.longNames = again.longNames ∧
      ∀ expression, ops.vocabulary.flatten expression = again.vocabulary.flatten expression := by
  intro first second ops again
  have listed : ops.longNames = ["sinh", "cos", "tan", "γδ"] := by decide +kernel
  have same : ∀ name, (Binding.latest? name first).or (OperatorTable.standard.lookup name) =
      (Binding.latest? name second).or (OperatorTable.standard.lookup name) := by
    intro name
    simp only [first, second, Binding.latest?, List.reverse_cons, List.reverse_nil, List.nil_append, List.cons_append,
      Binding.find?]
    grind
  obtain ⟨names, flat, _⟩ := (insertions_last_binding .standard first).2.2.2.2 .standard second same
  exact ⟨listed, names, flat⟩

end ReversePolish
