import ReversePolish.Operator
import ReversePolish.Vocabulary

set_option autoImplicit false

namespace ReversePolish

structure Binding where
  name : String
  operator : Operator

def Ascending (bindings : List Binding) : Prop :=
  bindings.Pairwise fun earlier later => earlier.name < later.name

namespace Binding

def find? (name : String) : List Binding → Option Operator
  | [] => none
  | b :: rest => if name = b.name then some b.operator else find? name rest

-- Binds a name in its place; also gives what the name was bound to before.
def place (fresh : Binding) : List Binding → Option Operator × List Binding
  | [] => (none, [fresh])
  | b :: rest =>
      if fresh.name = b.name then (some b.operator, fresh :: rest)
      else if fresh.name < b.name then (none, fresh :: b :: rest)
      else
        let (before, placed) := place fresh rest
        (before, b :: placed)

theorem mem_place (fresh entry : Binding) (bindings : List Binding) (member : entry ∈ (place fresh bindings).2) :
    entry = fresh ∨ entry ∈ bindings := by
  induction bindings with
  | nil => exact Or.inl (List.mem_singleton.mp member)
  | cons b rest ih =>
      by_cases same : fresh.name = b.name
      · rw [place, if_pos same] at member
        exact (List.mem_cons.mp member).imp id (List.mem_cons_of_mem _)
      · by_cases less : fresh.name < b.name
        · rw [place, if_neg same, if_pos less] at member
          exact List.mem_cons.mp member
        · rw [place, if_neg same, if_neg less] at member
          cases List.mem_cons.mp member with
          | inl head => exact Or.inr (head ▸ List.mem_cons_self)
          | inr tail => exact (ih tail).imp id (List.mem_cons_of_mem _)

theorem place_ascending (fresh : Binding) (bindings : List Binding) (ordered : Ascending bindings) :
    Ascending (place fresh bindings).2 := by
  induction bindings with
  | nil => exact List.pairwise_singleton _ _
  | cons b rest ih =>
      have above := (List.pairwise_cons.mp ordered).1
      have tail := (List.pairwise_cons.mp ordered).2
      by_cases same : fresh.name = b.name
      · rw [place, if_pos same]
        exact List.pairwise_cons.mpr ⟨fun entry member => same ▸ above entry member, tail⟩
      · by_cases less : fresh.name < b.name
        · rw [place, if_neg same, if_pos less]
          refine List.pairwise_cons.mpr ⟨fun entry member => ?_, ordered⟩
          cases List.mem_cons.mp member with
          | inl head => exact head ▸ less
          | inr later => exact String.lt_trans less (above entry later)
        · rw [place, if_neg same, if_neg less]
          refine List.pairwise_cons.mpr ⟨fun entry member => ?_, ih tail⟩
          cases mem_place fresh entry rest member with
          | inl placed =>
              subst placed
              exact String.not_le.mp fun notAbove => same (String.le_antisymm notAbove less)
          | inr later => exact above entry later

end Binding

def precedes (a b : String) : Bool :=
  b.length < a.length || (a.length == b.length && a < b)

def placeName (name : String) : List String → List String
  | [] => [name]
  | other :: rest =>
      if precedes name other then name :: other :: rest else other :: placeName name rest

namespace Binding

def unaryNames (bindings : List Binding) : List String :=
  bindings.filterMap fun b => match b.operator with
    | .unary _ => some b.name
    | .binary _ => none

def longNames (bindings : List Binding) : List String :=
  ((unaryNames bindings).filter fun name => 1 < name.length).foldr placeName []

end Binding

-- The bindings are ascending, so equal maps are equal tables. The unary names of several characters are
-- kept beside them, in the order in which they are tried.
structure OperatorTable where
  bindings : List Binding
  ascending : Ascending bindings
  longNames : List String
  inStep : longNames = Binding.longNames bindings

namespace OperatorTable

def empty : OperatorTable := ⟨[], List.Pairwise.nil, [], rfl⟩

def lookup (ops : OperatorTable) (name : String) : Option Operator := Binding.find? name ops.bindings

def replace (ops : OperatorTable) (name : String) (op : Operator) : Option Operator × OperatorTable :=
  let placed := Binding.place ⟨name, op⟩ ops.bindings
  (placed.1,
    { bindings := placed.2
      ascending := Binding.place_ascending _ _ ops.ascending
      longNames := Binding.longNames placed.2
      inStep := rfl })

def insert (ops : OperatorTable) (name : String) (op : Operator) : OperatorTable := (ops.replace name op).2

def isUnary (ops : OperatorTable) (name : String) : Bool :=
  match ops.lookup name with
  | some (.unary _) => true
  | _ => false

def isBinary (ops : OperatorTable) (name : String) : Bool :=
  match ops.lookup name with
  | some (.binary _) => true
  | _ => false

def standard : OperatorTable :=
  empty
    |>.insert "+" (.binary fun left right => left + right)
    |>.insert "-" (.binary fun left right => left - right)
    |>.insert "*" (.binary fun left right => left * right)
    |>.insert "/" (.binary fun left right => left / right)
    |>.insert "sin" (.unary Float.sin)
    |>.insert "cos" (.unary Float.cos)
    |>.insert "tan" (.unary Float.tan)
    |>.insert "^" (.unary Float.sqrt)

def unaryNames (ops : OperatorTable) : List String := Binding.unaryNames ops.bindings

def symbols (ops : OperatorTable) : List Char :=
  ops.unaryNames.filterMap fun name => match name.toList with
    | [c] => some c
    | _ => none

def vocabulary (ops : OperatorTable) : Vocabulary := ⟨ops.longNames, ops.symbols⟩

theorem standard_long_names : standard.longNames = ["cos", "sin", "tan"] := by decide +kernel

theorem standard_symbols : standard.symbols = ['^'] := by decide +kernel

end OperatorTable

end ReversePolish
