import ReversePolish.Text.Lines

set_option autoImplicit false

namespace ReversePolish

-- What an attempt to read a line comes to: a line, the end of the input or an interrupt, or a problem.
inductive Reading where
  | line (text : String)
  | ended
  | failed (problem : String)
  deriving DecidableEq, Repr

-- The prompt is given its line editor: what the attempts to read come to until an input is used up, and the
-- entries that it finds in the lines of a file to which no history was saved.
structure LineEditor where
  readings : String → List Reading
  recover : List String → List String

namespace LineEditor

def ByLines (editor : LineEditor) (input : String) : Prop :=
  editor.readings input = (Text.linesOf input).map .line

def RecoversPlain (editor : LineEditor) : Prop :=
  ∀ lines, (∀ line ∈ lines, '\r' ∉ line.toList) → ∀ entry ∈ editor.recover lines, '\r' ∉ entry.toList

def plain : LineEditor := ⟨fun input => (Text.linesOf input).map .line, id⟩

theorem plain_by_lines (input : String) : plain.ByLines input := rfl

theorem plain_recovers : plain.RecoversPlain := fun _ free => free

end LineEditor

end ReversePolish
