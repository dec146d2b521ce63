import ReversePolish.Terminal.ClusterBreak

set_option autoImplicit false

namespace ReversePolish.Terminal

namespace ClusterBreak

def isControl : ClusterBreak → Bool
  | .cr => true
  | .lf => true
  | .control => true
  | _ => false

def follows : ClusterBreak → Bool
  | .extend => true
  | .linker => true
  | .nonJoiner => true
  | .joiner => true
  | .spacing => true
  | _ => false

def inSyllable : ClusterBreak → ClusterBreak → Bool
  | .leading, .leading => true
  | .leading, .vowel => true
  | .leading, .lv => true
  | .leading, .lvt => true
  | .lv, .vowel => true
  | .lv, .trailing => true
  | .vowel, .vowel => true
  | .vowel, .trailing => true
  | .lvt, .trailing => true
  | .trailing, .trailing => true
  | _, _ => false

end ClusterBreak

-- The sequence that a text ends with, where the next character may belong to it.
inductive Sequence where
  | none
  -- A regional indicator without its partner.
  | halfFlag
  -- A pictograph and what extends it.
  | picture
  | joinedPicture
  | consonant
  -- A consonant and what extends it, a linker with it.
  | linkedConsonant
  deriving DecidableEq, Repr

def Sequence.after : Sequence → ClusterBreak → Sequence
  | .halfFlag, .regional => .none
  | _, .regional => .halfFlag
  | _, .pictographic => .picture
  | .picture, .extend => .picture
  | .picture, .linker => .picture
  | .picture, .nonJoiner => .picture
  | .picture, .joiner => .joinedPicture
  | _, .consonant => .consonant
  | .consonant, .extend => .consonant
  | .consonant, .joiner => .consonant
  | .consonant, .linker => .linkedConsonant
  | .linkedConsonant, .extend => .linkedConsonant
  | .linkedConsonant, .joiner => .linkedConsonant
  | .linkedConsonant, .linker => .linkedConsonant
  | _, _ => .none

def Sequence.admits : Sequence → ClusterBreak → Bool
  | .halfFlag, .regional => true
  | .joinedPicture, .pictographic => true
  | .linkedConsonant, .consonant => true
  | _, _ => false

def joins (last : ClusterBreak) (sequence : Sequence) (next : ClusterBreak) : Bool :=
  if last.isControl || next.isControl then last == .cr && next == .lf
  else next.follows || last == .prepend || last.inSyllable next || sequence.admits next

-- What is left of a cluster after its last character read, and the clusters that come after it.
def clustersAfter (last : ClusterBreak) (sequence : Sequence) : List Char → List Char × List (List Char)
  | [] => ([], [])
  | c :: rest =>
      let next := ClusterBreak.of c
      let (more, others) := clustersAfter next (sequence.after next) rest
      if joins last sequence next then (c :: more, others) else ([], (c :: more) :: others)

def clusters : List Char → List (List Char)
  | [] => []
  | c :: rest =>
      let first := ClusterBreak.of c
      let (more, others) := clustersAfter first (Sequence.none.after first) rest
      (c :: more) :: others

end ReversePolish.Terminal
