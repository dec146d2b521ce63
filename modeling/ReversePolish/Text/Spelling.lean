set_option autoImplicit false

namespace ReversePolish.Text

-- A word is spelled where its characters begin the text; the empty word is spelled nowhere.
def spells (word : String) (text : List Char) : Bool :=
  !word.toList.isEmpty && word.toList.isPrefixOf text

def firstSpelled (words : List String) (text : List Char) : Option String :=
  words.find? (spells · text)

theorem spells_iff (word : String) (text : List Char) :
    spells word text = true ↔ word.toList ≠ [] ∧ ∃ rest, text = word.toList ++ rest := by
  simp only [spells, Bool.and_eq_true, Bool.not_eq_true', List.isEmpty_eq_false_iff, ne_eq,
    List.isPrefixOf_iff_prefix]
  constructor
  · intro ⟨filled, rest, same⟩
    exact ⟨filled, rest, same.symm⟩
  · intro ⟨filled, rest, same⟩
    exact ⟨filled, rest, same.symm⟩

end ReversePolish.Text
