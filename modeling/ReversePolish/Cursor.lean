import ReversePolish.Text.Spelling

set_option autoImplicit false

namespace ReversePolish

-- `ahead` begins with the current character. Before the first step there is no position.
structure Cursor where
  position : Option Nat
  ahead : List Char
  deriving DecidableEq, Repr

namespace Cursor

def start (source : String) : Cursor := ⟨none, source.toList⟩

def current? (c : Cursor) : Option Char := c.position.bind fun _ => c.ahead.head?

def next (c : Cursor) : Cursor :=
  match c.position, c.ahead with
  | none, ahead => ⟨some 0, ahead⟩
  | some place, [] => ⟨some place, []⟩
  | some place, _ :: rest => ⟨some (place + 1), rest⟩

-- Moves onto the last character of a word that is spelled at the current one.
def read? (c : Cursor) (word : String) : Option Cursor :=
  match c.position with
  | none => none
  | some place =>
      if Text.spells word c.ahead then
        some ⟨some (place + (word.length - 1)), c.ahead.drop (word.length - 1)⟩
      else none

def readAny? (c : Cursor) (words : List String) : Option (String × Cursor) :=
  words.findSome? fun word => (c.read? word).map (word, ·)

def rest (c : Cursor) : List Char × Cursor :=
  match c.position with
  | none => (c.ahead, ⟨some c.ahead.length, []⟩)
  | some place => (c.ahead.drop 1, ⟨some (place + c.ahead.length), []⟩)

theorem next_current (c : Cursor) : c.next.current? = c.rest.1.head? := by
  obtain ⟨position, ahead⟩ := c
  cases position with
  | none => rfl
  | some place => cases ahead <;> rfl

theorem next_rest (c : Cursor) : c.next.rest.1 = c.rest.1.tail := by
  obtain ⟨position, ahead⟩ := c
  cases position with
  | none => simp [next, rest]
  | some place => cases ahead <;> simp [next, rest]

end Cursor

end ReversePolish
