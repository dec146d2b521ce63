set_option autoImplicit false

namespace ReversePolish.Text

-- The characters with the Unicode property `White_Space`.
def isBlank (c : Char) : Bool :=
  let n := c.toNat
  (0x9 ≤ n && n ≤ 0xd) || n == 0x20 || n == 0x85 || n == 0xa0 || n == 0x1680 ||
    (0x2000 ≤ n && n ≤ 0x200a) || n == 0x2028 || n == 0x2029 || n == 0x202f || n == 0x205f || n == 0x3000

def startsBlank : List Char → Bool
  | [] => true
  | c :: _ => isBlank c

def attach (c : Char) (alone : Bool) : List (List Char) → List (List Char)
  | [] => [[c]]
  | word :: more => if alone then [c] :: word :: more else (c :: word) :: more

-- The fields of a text: its longest runs of characters that are not blank.
def fields : List Char → List (List Char)
  | [] => []
  | c :: rest => if isBlank c then fields rest else attach c (startsBlank rest) (fields rest)

def trim (text : List Char) : List Char :=
  ((text.dropWhile isBlank).reverse.dropWhile isBlank).reverse

theorem attach_ne_nil (c : Char) (alone : Bool) (words : List (List Char)) : attach c alone words ≠ [] := by
  cases words with
  | nil => exact List.cons_ne_nil _ _
  | cons word more => cases alone <;> exact List.cons_ne_nil _ _

end ReversePolish.Text
