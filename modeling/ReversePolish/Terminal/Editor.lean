import ReversePolish.Session
import ReversePolish.Terminal.Cluster

set_option autoImplicit false

namespace ReversePolish.Terminal

def backspace : Char := '\x08'

def byteLength : List Char → Nat
  | [] => 0
  | c :: rest => c.utf8Size + byteLength rest

-- A text written backwards, without its last bytes; `none` if they end inside a character.
def dropBytes? : List Char → Nat → Option (List Char)
  | text, 0 => some text
  | [], _ + 1 => none
  | c :: rest, count + 1 =>
      if c.utf8Size ≤ count + 1 then dropBytes? rest (count + 1 - c.utf8Size) else none

-- What stands on a line, its last character first, and what a backspace takes back, the next first.
-- The bytes of a cluster are counted modulo 256.
structure Typing where
  text : List Char
  sizes : List UInt8
  deriving DecidableEq, Repr

namespace Typing

def start : Typing := ⟨[], []⟩

def write (typing : Typing) (cluster : List Char) : Typing :=
  ⟨cluster.reverse ++ typing.text, (byteLength cluster).toUInt8 :: typing.sizes⟩

def takeBack? (typing : Typing) : Option Typing :=
  match typing.sizes with
  | [] => some typing
  | size :: sizes => (dropBytes? typing.text size.toNat).map (⟨·, sizes⟩)

def type? (typing : Typing) (cluster : List Char) : Option Typing :=
  if cluster = [backspace] then typing.takeBack? else some (typing.write cluster)

end Typing

def typed? (line : List Char) : Option (List Char) :=
  ((clusters line).foldlM Typing.type? .start).map fun typing => typing.text.reverse

-- The lines that are left of an input; `none` is a line on which the editor breaks down.
def edited (input : String) : List (Option String) :=
  (Text.linesOf input).map fun line => (typed? line.toList).map String.ofList

def readings : List (Option String) → List Reading
  | some text :: rest => .line text :: readings rest
  | _ => []

-- A line that is no escaped entry stands for itself, and so does every line below no header.
def recover : List String → List String
  | [] => []
  | first :: below =>
      if first = History.header then
        below.map fun line => ((History.unescape? line.toList).map String.ofList).getD line
      else first :: below

def editor : LineEditor := ⟨fun input => readings (edited input), recover⟩

def breaksDown (c : Calculator) (input : String) : Bool :=
  (edited input).any Option.isNone &&
    ((Session.start .empty).run c (editor.readings input)).2.stage = .reading

end ReversePolish.Terminal
